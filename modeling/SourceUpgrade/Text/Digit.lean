namespace SourceUpgrade.Text

/-!
# Digits

Numbers in base ten and sixteen, and the characters that numbers name.
-/

/-- The value of a hexadecimal digit in either case. -/
def hexDigit? (c : Char) : Option Nat :=
  if '0' ≤ c ∧ c ≤ '9' then some (c.toNat - 0x30)
  else if 'a' ≤ c ∧ c ≤ 'f' then some (c.toNat - 0x61 + 10)
  else if 'A' ≤ c ∧ c ≤ 'F' then some (c.toNat - 0x41 + 10)
  else none

/-- Whether a character is a hexadecimal digit. -/
def isHexDigit (c : Char) : Bool :=
  (hexDigit? c).isSome

/-- The number that digits stand for in a base; a character that is no digit counts as zero. -/
def valueIn (base : Nat) (digits : List Char) : Nat :=
  digits.foldl (fun value digit => base * value + (hexDigit? digit).getD 0) 0

/-- The decimal digits of a number. -/
def decimal (value : Nat) : String :=
  String.ofList (Nat.toDigits 10 value)

/-- The greatest code point. -/
def lastCodePoint : Nat := 0x10FFFF

/-- The character with a code, which is no surrogate and not too large. -/
def scalar? (code : Nat) : Option Char :=
  if code < 0xD800 || (0xDFFF < code && code ≤ lastCodePoint) then
    some (Char.ofNat code)
  else
    none

end SourceUpgrade.Text
