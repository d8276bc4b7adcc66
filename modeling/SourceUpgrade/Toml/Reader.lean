import SourceUpgrade.Text.Digit

namespace SourceUpgrade.Toml

/-!
# Plain TOML documents

Documents of the TOML format without tables: every line gives a simple key a value, which is a text,
an integer, a flag or a list of texts. A document with anything else in it is refused as a whole,
and so is one that gives a key twice.
-/

/-- A value of a plain document. -/
inductive Value where
  | text (value : String)
  | integer (value : Int)
  | flag (value : Bool)
  | texts (values : List String)
deriving Repr, DecidableEq

/-- The entries of a document in order. -/
abbrev Entries : Type := List (String × Value)

/-! ## Space -/

/-- A blank within a line. -/
def isBlank (c : Char) : Bool :=
  c == ' ' || c == '\t'

/-- A character that texts and comments may contain: no control character but the tab. -/
def isPlain (c : Char) : Bool :=
  c == '\t' || (0x20 ≤ c.toNat && c.toNat != 0x7F)

/-- Drop the blanks at the front. -/
def skipBlanks (text : List Char) : List Char :=
  text.dropWhile isBlank

/-- The text after a line end at the front. -/
def newline? : List Char → Option (List Char)
  | '\n' :: rest => some rest
  | '\r' :: '\n' :: rest => some rest
  | _ => none

/-- Drop blanks and line ends at the front. -/
def skipLines : List Char → List Char
  | ' ' :: rest => skipLines rest
  | '\t' :: rest => skipLines rest
  | '\n' :: rest => skipLines rest
  | '\r' :: '\n' :: rest => skipLines rest
  | text => text

/-- Drop a comment at the front, up to its line end. -/
def skipComment : List Char → List Char
  | '#' :: rest => rest.dropWhile isPlain
  | text => text

/-- The text after the end of a line on which nothing but blanks and a comment is left. -/
def lineEnd? (text : List Char) : Option (List Char) :=
  match skipComment (skipBlanks text) with
  | [] => some []
  | rest => newline? rest

/-- Drop blanks, line ends and comments at the front, which may begin within a comment. -/
def skipSpace : Bool → List Char → List Char
  | _, [] => []
  | _, '\n' :: rest => skipSpace false rest
  | _, '\r' :: '\n' :: rest => skipSpace false rest
  | true, c :: rest => if isPlain c then skipSpace true rest else c :: rest
  | false, c :: rest =>
      if c == '#' then skipSpace true rest
      else if isBlank c then skipSpace false rest
      else c :: rest

/-! ## Texts -/

/-- The character that hexadecimal digits of a given count name, and the text after them. -/
def codePoint? (count : Nat) (text : List Char) : Option (Char × List Char) :=
  let digits := text.take count
  if digits.length = count ∧ digits.all Text.isHexDigit then
    (Text.scalar? (Text.valueIn 16 digits)).map fun c => (c, text.drop count)
  else
    none

/-- The character that an escape stands for, read after its backslash, and the text after it. -/
def escape? : List Char → Option (Char × List Char)
  | '"' :: rest => some ('"', rest)
  | '\\' :: rest => some ('\\', rest)
  | 'b' :: rest => some ('\x08', rest)
  | 'f' :: rest => some ('\x0c', rest)
  | 'n' :: rest => some ('\n', rest)
  | 'r' :: rest => some ('\r', rest)
  | 't' :: rest => some ('\t', rest)
  | 'u' :: rest => codePoint? 4 rest
  | 'U' :: rest => codePoint? 8 rest
  | _ => none

/-- Whether backslashes have a meaning within this kind of quotes. -/
def hasEscapes (quote : Char) : Bool :=
  quote == '"'

/-- Put a character in front of what has been read. -/
def withChar (c : Char) (read : List Char × List Char) : List Char × List Char :=
  (c :: read.1, read.2)

/-- Read a text on one line up to its closing quote; fuel bounds the characters. -/
def readShort (quote : Char) : Nat → List Char → Option (List Char × List Char)
  | 0, _ => none
  | _ + 1, [] => none
  | fuel + 1, c :: rest =>
      if c == quote then
        some ([], rest)
      else if c == '\\' && hasEscapes quote then do
        let (meant, rest) ← escape? rest
        return withChar meant (← readShort quote fuel rest)
      else if isPlain c then
        (readShort quote fuel rest).map (withChar c)
      else
        none

/--
Read a text on any number of lines up to its three closing quotes; fuel bounds the characters.

One or two quotes just before the closing ones belong to the text. A backslash at the end of a line
stands for nothing, and neither does any space after it.
-/
def readLong (quote : Char) : Nat → List Char → Option (List Char × List Char)
  | 0, _ => none
  | fuel + 1, text =>
      let quotes := (text.takeWhile (· == quote)).length
      if 3 ≤ quotes then
        let kept := min quotes 5 - 3
        some (List.replicate kept quote, text.drop (kept + 3))
      else
        match text with
        | [] => none
        | '\n' :: rest => (readLong quote fuel rest).map (withChar '\n')
        | '\r' :: '\n' :: rest => (readLong quote fuel rest).map (withChar '\n')
        | c :: rest =>
            if c == '\\' && hasEscapes quote then
              match newline? (skipBlanks rest) with
              | some rest => readLong quote fuel (skipLines rest)
              | none => do
                  let (meant, rest) ← escape? rest
                  return withChar meant (← readLong quote fuel rest)
            else if isPlain c then
              (readLong quote fuel rest).map (withChar c)
            else
              none

/-- Read a text of either form; a line end just after three opening quotes is no part of it. -/
def readText (text : List Char) : Option (String × List Char) := do
  match text with
  | quote :: rest =>
      if quote == '"' || quote == '\'' then
        let fuel := text.length
        let (cs, rest) ←
          if [quote, quote].isPrefixOf rest then
            let body := rest.drop 2
            readLong quote fuel ((newline? body).getD body)
          else
            readShort quote fuel rest
        return (String.ofList cs, rest)
      else
        none
  | [] => none

/-! ## Integers -/

/-- The digits at the front, single underscores between them left out, and the text after them. -/
def moreDigits (isDigit : Char → Bool) : List Char → Option (List Char × List Char)
  | [] => some ([], [])
  | ['_'] => none
  | '_' :: c :: rest =>
      if isDigit c then (moreDigits isDigit rest).map (withChar c) else none
  | c :: rest =>
      if isDigit c then (moreDigits isDigit rest).map (withChar c) else some ([], c :: rest)

/-- Read digits of a base, at least one. -/
def readDigits (base : Nat) (text : List Char) : Option (Nat × List Char) :=
  let isDigit := fun c => (Text.hexDigit? c).any (· < base)
  match text with
  | c :: rest =>
      if isDigit c then
        (moreDigits isDigit rest).map fun read => (Text.valueIn base (c :: read.1), read.2)
      else
        none
  | [] => none

/-- Read a decimal number, whose first digit is a zero only if it is the last one. -/
def readDecimal : List Char → Option (Nat × List Char)
  | '0' :: rest => some (0, rest)
  | text => readDigits 10 text

/-- Read an integer of any size: decimal with or without a sign, or in a base that it names. -/
def readNumeral : List Char → Option (Int × List Char)
  | '0' :: 'x' :: rest => (readDigits 16 rest).map fun read => (read.1, read.2)
  | '0' :: 'o' :: rest => (readDigits 8 rest).map fun read => (read.1, read.2)
  | '0' :: 'b' :: rest => (readDigits 2 rest).map fun read => (read.1, read.2)
  | '-' :: rest => (readDecimal rest).map fun read => (-(read.1 : Int), read.2)
  | '+' :: rest => (readDecimal rest).map fun read => (read.1, read.2)
  | text => (readDecimal text).map fun read => (read.1, read.2)

/-- The first number that is too large for an integer of 64 bits with a sign. -/
def integerLimit : Int := 0x8000000000000000

/-- Read an integer of 64 bits. -/
def readInteger (text : List Char) : Option (Int × List Char) := do
  let (value, rest) ← readNumeral text
  if -integerLimit ≤ value ∧ value < integerLimit then return (value, rest) else none

/-! ## Values and documents -/

/-- Read texts up to the closing bracket of their list, a comma between them; fuel bounds them. -/
def readTexts : Nat → List Char → Option (List String × List Char)
  | 0, _ => none
  | fuel + 1, text =>
      match skipSpace false text with
      | ']' :: rest => some ([], rest)
      | text => do
          let (value, rest) ← readText text
          match skipSpace false rest with
          | ']' :: rest => return ([value], rest)
          | ',' :: rest =>
              let (values, rest) ← readTexts fuel rest
              return (value :: values, rest)
          | _ => none

/-- The text after a word at the front. -/
def dropWord? (word text : List Char) : Option (List Char) :=
  if word.isPrefixOf text then some (text.drop word.length) else none

/-- Read a value. -/
def readValue (text : List Char) : Option (Value × List Char) :=
  match text with
  | '[' :: rest => (readTexts text.length rest).map fun read => (.texts read.1, read.2)
  | '"' :: _ => (readText text).map fun read => (.text read.1, read.2)
  | '\'' :: _ => (readText text).map fun read => (.text read.1, read.2)
  | 't' :: _ => (dropWord? "true".toList text).map fun rest => (.flag true, rest)
  | 'f' :: _ => (dropWord? "false".toList text).map fun rest => (.flag false, rest)
  | _ => (readInteger text).map fun read => (.integer read.1, read.2)

/-- A character of a key without quotes. -/
def isKeyChar (c : Char) : Bool :=
  c.isAlphanum || c == '_' || c == '-'

/-- Read a key, with or without quotes. -/
def readKey (text : List Char) : Option (String × List Char) :=
  match text with
  | '"' :: rest => (readShort '"' text.length rest).map fun read => (String.ofList read.1, read.2)
  | '\'' :: rest => (readShort '\'' text.length rest).map fun read => (String.ofList read.1, read.2)
  | _ =>
      let key := text.takeWhile isKeyChar
      if key.isEmpty then none else some (String.ofList key, text.dropWhile isKeyChar)

/-- Read a line with a key and a value. -/
def readEntry (text : List Char) : Option ((String × Value) × List Char) := do
  let (key, rest) ← readKey text
  match skipBlanks rest with
  | '=' :: rest =>
      let (value, rest) ← readValue (skipBlanks rest)
      let rest ← lineEnd? rest
      return ((key, value), rest)
  | _ => none

/-- Read lines up to the end, given the entries so far, the last one first; fuel bounds the lines. -/
def readLines : Nat → Entries → List Char → Option Entries
  | 0, _, _ => none
  | fuel + 1, found, text =>
      match skipBlanks text with
      | [] => some found.reverse
      | text =>
          match lineEnd? text with
          | some rest => readLines fuel found rest
          | none => do
              let (entry, rest) ← readEntry text
              if (found.lookup entry.1).isSome then none
              else readLines fuel (entry :: found) rest

/-- Drop a byte order mark at the front. -/
def skipMark : List Char → List Char
  | '\uFEFF' :: rest => rest
  | text => text

/-- Read a document. -/
def read (text : String) : Option Entries :=
  let text := skipMark text.toList
  readLines (text.length + 1) [] text

end SourceUpgrade.Toml
