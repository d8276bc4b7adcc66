import SourceUpgrade.Floating.Decimal
import SourceUpgrade.Json.Value
import SourceUpgrade.Text.Digit

namespace SourceUpgrade.Json

/-!
# Reading JSON texts

The strict format: nothing but the four blanks around values, no marks after the last item, no raw
control characters in strings and no half of a surrogate pair on its own. Containers nest at most
`nestingLimit` deep. An integer of 64 bits is kept exactly, any other number becomes a 64-bit float.
-/

/-- What keeps a text from being a JSON value. -/
inductive Fault where
  | unexpected
  | badString
  | badNumber
  | tooLarge
  | tooDeep
  | trailing
deriving Repr, DecidableEq

/-- The deepest nesting of containers that is read. -/
def nestingLimit : Nat := 127

/-- The blanks between the parts of a text. -/
def isBlank (c : Char) : Bool :=
  c == ' ' || c == '\n' || c == '\t' || c == '\r'

/-- Drop the blanks at the front. -/
def skipBlanks (text : List Char) : List Char :=
  text.dropWhile isBlank

/-! ## Strings -/

/-- The number that four hexadecimal digits at the front stand for, and the text after them. -/
def hexUnit? : List Char → Option (Nat × List Char)
  | a :: b :: c :: d :: rest => do
      let a ← Text.hexDigit? a
      let b ← Text.hexDigit? b
      let c ← Text.hexDigit? c
      let d ← Text.hexDigit? d
      return (((a * 16 + b) * 16 + c) * 16 + d, rest)
  | _ => none

/-- The character that a unit escape stands for, read after its letter; pairs are put together. -/
def unitEscape? (text : List Char) : Option (Char × List Char) := do
  let (unit, rest) ← hexUnit? text
  if 0xD800 ≤ unit ∧ unit ≤ 0xDBFF then
    match rest with
    | '\\' :: 'u' :: low =>
        let (second, rest) ← hexUnit? low
        if 0xDC00 ≤ second ∧ second ≤ 0xDFFF then
          return (Char.ofNat ((unit - 0xD800) * 0x400 + (second - 0xDC00) + 0x10000), rest)
        else
          none
    | _ => none
  else if 0xDC00 ≤ unit ∧ unit ≤ 0xDFFF then
    none
  else
    return (Char.ofNat unit, rest)

/-- The character that a letter stands for after a backslash. -/
def letterEscape? (c : Char) : Option Char :=
  match c with
  | '"' => some '"'
  | '\\' => some '\\'
  | '/' => some '/'
  | 'b' => some '\x08'
  | 'f' => some '\x0c'
  | 'n' => some '\n'
  | 'r' => some '\r'
  | 't' => some '\t'
  | _ => none

/-- The next character of a string, and the text after it. -/
def stringChar? : List Char → Option (Char × List Char)
  | [] => none
  | '\\' :: 'u' :: rest => unitEscape? rest
  | '\\' :: c :: rest => (letterEscape? c).map fun meant => (meant, rest)
  | ['\\'] => none
  | c :: rest => if c.toNat < 0x20 then none else some (c, rest)

/-- Read a string up to its closing quote, its opening one read; fuel bounds the characters. -/
def readString : Nat → List Char → Except Fault (List Char × List Char)
  | 0, _ => .error .badString
  | fuel + 1, text =>
      match text with
      | '"' :: rest => .ok ([], rest)
      | _ =>
          match stringChar? text with
          | none => .error .badString
          | some (c, rest) => do
              let (cs, rest) ← readString fuel rest
              return (c :: cs, rest)

/-! ## Numbers -/

/-- The largest significand that is kept while digits are read. -/
def significandLimit : Nat := 0xFFFFFFFFFFFFFFFF

/-- Digits taken into a significand, and how many were taken and how many found no room. -/
structure Digits where
  significand : Nat
  taken : Nat
  dropped : Nat
deriving Repr, DecidableEq

/-- Take digits into a significand until one finds no room; it and all after it are dropped. -/
def takeDigits : Nat → Nat → List Char → Digits
  | significand, taken, [] => ⟨significand, taken, 0⟩
  | significand, taken, digit :: rest =>
      let grown := 10 * significand + (digit.toNat - 0x30)
      if significandLimit < grown then ⟨significand, taken, rest.length + 1⟩
      else takeDigits grown (taken + 1) rest

/-- An exponent that has been read: its sign and its digits. -/
structure Exponent where
  negative : Bool
  digits : List Char
deriving Repr, DecidableEq

/-- The parts of a number as it is written. -/
structure Numeral where
  negative : Bool
  whole : List Char
  fraction : Option (List Char)
  exponent : Option Exponent
deriving Repr, DecidableEq

/-- Cut the decimal digits off the front. -/
def spanDigits (text : List Char) : List Char × List Char :=
  (text.takeWhile Char.isDigit, text.dropWhile Char.isDigit)

/-- Read the digits before the point: a zero alone, or digits that start with no zero. -/
def readWhole (text : List Char) : Except Fault (List Char × List Char) :=
  let (digits, rest) := spanDigits text
  match digits with
  | [] => .error .badNumber
  | '0' :: _ :: _ => .error .badNumber
  | _ => .ok (digits, rest)

/-- Read the digits after a point, if there is one. -/
def readFraction (text : List Char) : Except Fault (Option (List Char) × List Char) :=
  match text with
  | '.' :: rest =>
      let (digits, rest) := spanDigits rest
      if digits.isEmpty then .error .badNumber else .ok (some digits, rest)
  | _ => .ok (none, text)

/-- Read an exponent, if there is one. -/
def readExponent (text : List Char) : Except Fault (Option Exponent × List Char) :=
  match text with
  | [] => .ok (none, [])
  | mark :: rest =>
      if mark == 'e' || mark == 'E' then
        let (negative, rest) :=
          match rest with
          | '-' :: rest => (true, rest)
          | '+' :: rest => (false, rest)
          | _ => (false, rest)
        let (digits, rest) := spanDigits rest
        if digits.isEmpty then .error .badNumber else .ok (some ⟨negative, digits⟩, rest)
      else
        .ok (none, text)

/-- Read the parts of a number, its sign read. -/
def readNumeral (negative : Bool) (text : List Char) : Except Fault (Numeral × List Char) := do
  let (whole, rest) ← readWhole text
  let (fraction, rest) ← readFraction rest
  let (exponent, rest) ← readExponent rest
  return (⟨negative, whole, fraction, exponent⟩, rest)

/-- The largest size of an exponent that is computed with. -/
def exponentLimit : Nat := 0x7FFFFFFF

/-- The float with a significand and a power of ten; too large a one is refused. -/
def floatNumber (negative : Bool) (significand : Nat) (exponent : Int) : Except Fault Number :=
  match Floating.ofDecimal? negative significand exponent with
  | none => .error .tooLarge
  | some number => .ok (.float number)

/-- The value of a numeral with a fraction or an exponent, from the digits of its whole part. -/
def Numeral.floatValue (numeral : Numeral) (whole : Digits) : Except Fault Number :=
  let digits := takeDigits whole.significand 0 (numeral.fraction.getD [])
  let shift : Int := (whole.dropped : Int) - (digits.taken : Int)
  match numeral.exponent with
  | none => floatNumber numeral.negative digits.significand shift
  | some exponent =>
      let size := Text.valueIn 10 exponent.digits
      if exponentLimit < size then
        if digits.significand ≠ 0 ∧ !exponent.negative then .error .tooLarge
        else floatNumber numeral.negative 0 0
      else
        floatNumber numeral.negative digits.significand
          (if exponent.negative then shift - size else shift + size)

/-- The value of a numeral. -/
def Numeral.value (numeral : Numeral) : Except Fault Number :=
  let whole := takeDigits 0 0 numeral.whole
  if numeral.fraction.isNone && numeral.exponent.isNone then
    if whole.dropped ≠ 0 then
      floatNumber numeral.negative whole.significand whole.dropped
    else if !numeral.negative then
      .ok (.integer whole.significand)
    else if whole.significand ≠ 0 ∧ whole.significand ≤ 0x8000000000000000 then
      .ok (.integer (-(whole.significand : Int)))
    else
      floatNumber true whole.significand 0
  else
    numeral.floatValue whole

/-- Read a number. -/
def readNumber (text : List Char) : Except Fault (Number × List Char) := do
  let (numeral, rest) ←
    match text with
    | '-' :: rest => readNumeral true rest
    | _ => readNumeral false text
  return (← numeral.value, rest)

/-! ## Values -/

/-- The text after a word at the front. -/
def dropWord? (word text : List Char) : Option (List Char) :=
  if word.isPrefixOf text then some (text.drop word.length) else none

/-- Read a value that is no container and no string. -/
def readScalar (text : List Char) : Except Fault (Value × List Char) :=
  match dropWord? "null".toList text with
  | some rest => .ok (.null, rest)
  | none =>
      match dropWord? "true".toList text with
      | some rest => .ok (.bool true, rest)
      | none =>
          match dropWord? "false".toList text with
          | some rest => .ok (.bool false, rest)
          | none => do
              let (number, rest) ← readNumber text
              return (.number number, rest)

/-- Read a colon between a key and its value. -/
def readColon (text : List Char) : Except Fault (List Char) :=
  match skipBlanks text with
  | ':' :: rest => .ok rest
  | _ => .error .unexpected

/-- Read a key and the colon after it, blanks at the front read. -/
def readKey (text : List Char) : Except Fault (String × List Char) :=
  match text with
  | '"' :: rest => do
      let (key, rest) ← readString (rest.length + 1) rest
      let rest ← readColon rest
      return (String.ofList key, rest)
  | _ => .error .unexpected

mutual

/-- Read a value with blanks before it; fuel bounds the steps, `depth` the nesting still allowed. -/
def readValue : Nat → Nat → List Char → Except Fault (Value × List Char)
  | 0, _, _ => .error .unexpected
  | fuel + 1, depth, text =>
      match skipBlanks text with
      | '"' :: rest => do
          let (cs, rest) ← readString (rest.length + 1) rest
          return (.string (String.ofList cs), rest)
      | '[' :: rest =>
          if depth = 0 then .error .tooDeep
          else
            match skipBlanks rest with
            | ']' :: rest => .ok (.array [], rest)
            | rest => do
                let (items, rest) ← readItems fuel (depth - 1) rest
                return (.array items, rest)
      | '\x7b' :: rest =>
          if depth = 0 then .error .tooDeep
          else
            match skipBlanks rest with
            | '\x7d' :: rest => .ok (.object [], rest)
            | rest => do
                let (fields, rest) ← readFields fuel (depth - 1) rest
                return (.record fields, rest)
      | rest => readScalar rest

/-- Read the items of an array up to its closing bracket. -/
def readItems : Nat → Nat → List Char → Except Fault (List Value × List Char)
  | 0, _, _ => .error .unexpected
  | fuel + 1, depth, text => do
      let (item, rest) ← readValue fuel depth text
      match skipBlanks rest with
      | ']' :: rest => return ([item], rest)
      | ',' :: rest =>
          let (items, rest) ← readItems fuel depth rest
          return (item :: items, rest)
      | _ => throw .unexpected

/-- Read the fields of an object up to its closing brace, in the order in which they stand. -/
def readFields : Nat → Nat → List Char → Except Fault (List (String × Value) × List Char)
  | 0, _, _ => .error .unexpected
  | fuel + 1, depth, text => do
      let (key, rest) ← readKey (skipBlanks text)
      let (value, rest) ← readValue fuel depth rest
      match skipBlanks rest with
      | '\x7d' :: rest => return ([(key, value)], rest)
      | ',' :: rest =>
          let (fields, rest) ← readFields fuel depth rest
          return ((key, value) :: fields, rest)
      | _ => throw .unexpected

end

/-- Read a text that is one JSON value with nothing but blanks around it. -/
def read (text : String) : Except Fault Value := do
  let cs := text.toList
  let (value, rest) ← readValue (2 * cs.length + 2) nestingLimit cs
  if (skipBlanks rest).isEmpty then
    return value
  else
    throw .trailing

end SourceUpgrade.Json
