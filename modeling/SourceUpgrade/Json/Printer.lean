import SourceUpgrade.Floating.Shortest
import SourceUpgrade.Json.Value

namespace SourceUpgrade.Json

/-!
# Writing JSON texts

Values are written with one item a line, indented by two blanks a level, and a blank after each
colon; an empty container is a pair of brackets. Strings escape quotes, backslashes and control
characters and nothing else.
-/

/-- Floats have a plain point when their leading digit stands between 10⁻⁵ and 10¹⁵. -/
def floatLayout : Floating.Layout where
  leastPlain := -5
  greatestPlain := 15

/-- The lower-case hexadecimal digit of a number below sixteen. -/
def hexDigit (value : Nat) : Char :=
  if value < 10 then Char.ofNat (0x30 + value) else Char.ofNat (0x61 + value - 10)

/-- How a character is written within a string. -/
def escapeChar (c : Char) : List Char :=
  match c with
  | '"' => ['\\', '"']
  | '\\' => ['\\', '\\']
  | '\x08' => ['\\', 'b']
  | '\x0c' => ['\\', 'f']
  | '\n' => ['\\', 'n']
  | '\r' => ['\\', 'r']
  | '\t' => ['\\', 't']
  | c =>
      if c.toNat < 0x20 then
        ['\\', 'u', '0', '0', hexDigit (c.toNat / 16), hexDigit (c.toNat % 16)]
      else
        [c]

/-- The written form of a string. -/
def writeString (text : String) : List Char :=
  '"' :: text.toList.flatMap escapeChar ++ ['"']

/-- The decimal digits of a natural number. -/
def writeNat (value : Nat) : List Char :=
  Nat.toDigits 10 value

/-- The written form of a number. -/
def Number.write : Number → List Char
  | .integer value => if value < 0 then '-' :: writeNat value.natAbs else writeNat value.natAbs
  | .float value => floatLayout.write value

/-- A line end and the indentation of a level. -/
def newline (level : Nat) : List Char :=
  '\n' :: List.replicate (2 * level) ' '

mutual

/-- The written form of a value whose line is indented to a level. -/
def Value.write (level : Nat) : Value → List Char
  | .null => "null".toList
  | .bool true => "true".toList
  | .bool false => "false".toList
  | .number value => value.write
  | .string value => writeString value
  | .array [] => ['[', ']']
  | .array (item :: items) =>
      '[' :: newline (level + 1) ++ item.write (level + 1) ++
        writeItems (level + 1) items ++ newline level ++ [']']
  | .object [] => ['\x7b', '\x7d']
  | .object ((key, value) :: fields) =>
      '\x7b' :: newline (level + 1) ++ writeString key ++ [':', ' '] ++ value.write (level + 1) ++
        writeFields (level + 1) fields ++ newline level ++ ['\x7d']

/-- The written form of the items after the first one. -/
def writeItems (level : Nat) : List Value → List Char
  | [] => []
  | item :: items => ',' :: newline level ++ item.write level ++ writeItems level items

/-- The written form of the fields after the first one. -/
def writeFields (level : Nat) : List (String × Value) → List Char
  | [] => []
  | (key, value) :: fields =>
      ',' :: newline level ++ writeString key ++ [':', ' '] ++ value.write level ++
        writeFields level fields

end

/-- The text of a value. -/
def Value.pretty (value : Value) : String :=
  String.ofList (value.write 0)

end SourceUpgrade.Json
