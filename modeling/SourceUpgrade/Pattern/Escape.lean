import SourceUpgrade.Pattern.Flags
import SourceUpgrade.Unicode.CaseFold
import SourceUpgrade.Unicode.Query

namespace SourceUpgrade.Pattern

/-!
# Escapes

What a backslash introduces: a character written by its code or by a letter, a class of characters
with a name, or a condition on the position. Every reader takes the text after what has been read
so far and gives back the text that it leaves.
-/

/-- One readable unit of a pattern text. -/
inductive Atom where
  /-- A character, and whether it was written as two hexadecimal digits. -/
  | literal (c : Char) (asByte : Bool)
  | set (chars : CharSet)
  | look (condition : Look)
deriving Repr, DecidableEq

/-- The text after its first character, layout left out; a text that ends there is a fault. -/
def advance
    (extended : Bool)
    (fault : Fault)
    (text : List Char) :
    Except Fault (Char × List Char) :=
  match skipLayout extended (text.drop 1) with
  | [] => .error fault
  | c :: rest => .ok (c, c :: rest)

/-- Read a fixed count of hexadecimal digits from a text that starts with the first of them. -/
def readFixedHex
    (extended : Bool) :
    Nat → List Char → List Char → Except Fault (List Char × List Char)
  | 0, digits, text => .ok (digits.reverse, text)
  | _ + 1, _, [] => .error .badEscape
  | count + 1, digits, c :: rest =>
      if Text.isHexDigit c then
        readFixedHex extended count (c :: digits) (skipLayout extended rest)
      else
        .error .badEscape

/-- Read hexadecimal digits up to a closing brace, layout left out; fuel bounds the steps. -/
def readBracedHex
    (extended : Bool) :
    Nat → List Char → List Char → Except Fault (List Char × List Char)
  | 0, _, _ => .error .badEscape
  | fuel + 1, digits, text =>
      match text with
      | [] => .error .badEscape
      | c :: rest =>
          if c == '\x7d' then .ok (digits.reverse, skipLayout extended rest)
          else if Text.isHexDigit c then
            readBracedHex extended fuel (c :: digits) (skipLayout extended rest)
          else .error .badEscape

/-- Read the character that hexadecimal digits name, from the letter that announces them. -/
def readHex
    (extended : Bool)
    (letter : Char)
    (text : List Char) :
    Except Fault (Atom × List Char) := do
  let (first, opened) ← advance extended .badEscape text
  let (digits, rest) ←
    if first == '\x7b' then
      readBracedHex extended opened.length [] (skipLayout extended (opened.drop 1))
    else
      let count := if letter == 'x' then 2 else if letter == 'u' then 4 else 8
      readFixedHex extended count [] opened
  if digits.isEmpty then
    throw .badEscape
  match Text.scalar? (Text.valueIn 16 digits) with
  | none => throw .badEscape
  | some c => return (.literal c (letter == 'x' && first != '\x7b'), rest)

/-- Read the characters up to a closing brace, layout left out; fuel bounds the steps. -/
def readBracedName
    (extended : Bool) :
    Nat → List Char → List Char → Except Fault (List Char × List Char)
  | 0, _, _ => .error .badEscape
  | fuel + 1, name, text =>
      match text with
      | [] => .error .badEscape
      | c :: rest =>
          if c == '\x7d' then .ok (name.reverse, rest)
          else readBracedName extended fuel (c :: name) (skipLayout extended rest)

/-- Cut a list at the first occurrence of a part, which belongs to neither side. -/
def cutAt?
    (part : List Char) :
    List Char → Option (List Char × List Char)
  | [] => none
  | c :: rest =>
      if part.isPrefixOf (c :: rest) then
        some ([], (c :: rest).drop part.length)
      else
        (cutAt? part rest).map fun cut => (c :: cut.1, cut.2)

/-- What a braced class name asks for, and whether it asks for the opposite. -/
def readQuery
    (name : List Char) :
    Unicode.Query × Bool :=
  match cutAt? ['!', '='] name with
  | some cut => (.valued (String.ofList cut.1) (String.ofList cut.2), true)
  | none =>
      match cutAt? [':'] name <|> cutAt? ['='] name with
      | some cut => (.valued (String.ofList cut.1) (String.ofList cut.2), false)
      | none => (.named (String.ofList name), false)

/-- Close a set under the case folding that the modes ask for. -/
def foldSet
    (flags : Flags)
    (set : CharSet) :
    CharSet :=
  if flags.ignoreCase then
    if flags.unicode then Unicode.foldClosure set else Unicode.asciiFoldClosure set
  else
    set

/-- The opposite of a set; bytes have none that is text. -/
def negateSet
    (flags : Flags)
    (negated : Bool)
    (set : CharSet) :
    Except Fault CharSet :=
  if negated then
    if flags.unicode then .ok set.complement else .error .notText
  else
    .ok set

/-- Read a class by its Unicode name, from the letter that announces it. -/
def readNamedClass
    (flags : Flags)
    (letter : Char)
    (text : List Char) :
    Except Fault (Atom × List Char) := do
  let (first, opened) ← advance flags.extended .badEscape text
  let ((query, opposite), rest) ←
    if first == '\x7b' then
      let (name, rest) ←
        readBracedName flags.extended opened.length []
          (skipLayout flags.extended (opened.drop 1))
      pure (readQuery name, rest)
    else if first == '\\' then
      throw .badEscape
    else
      pure ((Unicode.Query.named (String.singleton first), false),
        skipLayout flags.extended (opened.drop 1))
  if !flags.unicode then
    throw .notText
  match query.find? with
  | none => throw .unknownClass
  | some set =>
      let negated := (letter == 'P') != opposite
      let chosen ← negateSet flags negated (foldSet flags set)
      return (.set chosen, rest)

/-- The white space that a class escape stands for. -/
def blankSet (flags : Flags) : CharSet :=
  if flags.unicode then CharSet.ofRanges Text.blankRanges
  else CharSet.ofRanges [(9, 13), (0x20, 0x20)]

/-- The digits that a class escape stands for. -/
def digitSet (flags : Flags) : CharSet :=
  if flags.unicode then Unicode.digitSet else CharSet.interval '0' '9'

/-- The word characters below 128. -/
def asciiWordSet : CharSet :=
  CharSet.ofRanges [(0x30, 0x39), (0x41, 0x5A), (0x5F, 0x5F), (0x61, 0x7A)]

/-- The word characters that a class escape stands for. -/
def wordSet (flags : Flags) : CharSet :=
  if flags.unicode then Unicode.wordSet else asciiWordSet

/-- The class that a single letter stands for; a capital asks for the opposite. -/
def letterClass?
    (flags : Flags)
    (letter : Char) :
    Option (Except Fault CharSet) :=
  match letter with
  | 'd' => some (.ok (digitSet flags))
  | 's' => some (.ok (blankSet flags))
  | 'w' => some (.ok (wordSet flags))
  | 'D' => some (negateSet flags true (digitSet flags))
  | 'S' => some (negateSet flags true (blankSet flags))
  | 'W' => some (negateSet flags true (wordSet flags))
  | _ => none

/-- The characters with a meaning of their own in some place of a pattern text. -/
def isMeta (c : Char) : Bool :=
  "\\.+*?()|[]\x7b\x7d^$#&-~".toList.contains c

/-- Whether a backslash makes a character stand for itself. -/
def isEscapable (c : Char) : Bool :=
  isMeta c || (c.toNat < 0x80 && !c.isAlphanum && c != '<' && c != '>')

/-- The character that a letter stands for after a backslash. -/
def letterChar? (letter : Char) : Option Char :=
  match letter with
  | 'a' => some '\x07'
  | 'f' => some '\x0c'
  | 't' => some '\t'
  | 'n' => some '\n'
  | 'r' => some '\r'
  | 'v' => some '\x0b'
  | _ => none

/-- Whether a character may occur in the name of a special word boundary. -/
def isBoundaryNameChar (c : Char) : Bool :=
  c.isAlpha || c == '-'

/-- Read the name of a special word boundary up to its brace; fuel bounds the steps. -/
def readBoundaryName
    (extended : Bool) :
    Nat → List Char → List Char → Except Fault (List Char × List Char)
  | 0, _, _ => .error .badEscape
  | fuel + 1, name, text =>
      match text with
      | [] => .error .badEscape
      | c :: rest =>
          if c == '\x7d' then .ok (name.reverse, rest)
          else if isBoundaryNameChar c then
            readBoundaryName extended fuel (c :: name) (skipLayout extended rest)
          else .error .badEscape

/-- The condition that a special word boundary names. -/
def namedBoundary?
    (words : WordClass)
    (name : String) :
    Option Look :=
  match name with
  | "start" => some (.wordStart words)
  | "end" => some (.wordEnd words)
  | "start-half" => some (.wordStartHalf words)
  | "end-half" => some (.wordEndHalf words)
  | _ => none

/--
Read a word boundary, whose letter has been read.

A brace after it opens a name, unless its first character belongs to no name: then it is the count
of a repetition and is left unread.
-/
def readBoundary
    (flags : Flags)
    (text : List Char) :
    Except Fault (Atom × List Char) :=
  match text with
  | '\x7b' :: _ => do
      let (first, inner) ← advance flags.extended .badEscape text
      if isBoundaryNameChar first then
        let (name, rest) ← readBoundaryName flags.extended inner.length [] inner
        match namedBoundary? flags.words (String.ofList name) with
        | none => throw .badEscape
        | some look => return (.look look, rest)
      else
        return (.look (.boundary flags.words), text)
  | _ => .ok (.look (.boundary flags.words), text)

/-- Read an escape from the character after its backslash. -/
def readEscape
    (flags : Flags)
    (text : List Char) :
    Except Fault (Atom × List Char) :=
  match text with
  | [] => .error .badEscape
  | c :: rest =>
      if c.isDigit then .error .badEscape
      else if c == 'x' || c == 'u' || c == 'U' then readHex flags.extended c text
      else if c == 'p' || c == 'P' then readNamedClass flags c text
      else
        match letterClass? flags c with
        | some set => set.map fun chars => (.set chars, rest)
        | none =>
            if isEscapable c then .ok (.literal c false, rest)
            else
              match letterChar? c with
              | some special => .ok (.literal special false, rest)
              | none =>
                  match c with
                  | 'A' => .ok (.look .textStart, rest)
                  | 'z' => .ok (.look .textEnd, rest)
                  | 'b' => readBoundary flags rest
                  | 'B' => .ok (.look (.noBoundary flags.words), rest)
                  | '<' => .ok (.look (.wordStart flags.words), rest)
                  | '>' => .ok (.look (.wordEnd flags.words), rest)
                  | _ => .error .badEscape

end SourceUpgrade.Pattern
