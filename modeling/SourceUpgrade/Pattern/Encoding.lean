import SourceUpgrade.Unicode.CharSet

namespace SourceUpgrade.Pattern

/-!
# Characters as bytes

The UTF-8 forms of scalar values, and sets of characters as sequences of byte ranges: a character
belongs to the set exactly if its bytes lie one by one in the ranges of a sequence.
-/

/-- An inclusive range of bytes. -/
abbrev ByteRange : Type := Nat × Nat

/-- The inclusive ranges of bytes in one place of a sequence after the other. -/
abbrev ByteRanges : Type := List ByteRange

/-- How many bytes the UTF-8 form of a scalar value takes. -/
def utf8Length (code : Nat) : Nat :=
  if code < 0x80 then 1 else if code < 0x800 then 2 else if code < 0x10000 then 3 else 4

/-- The UTF-8 form of a scalar value. -/
def utf8Bytes (code : Nat) : List Nat :=
  match utf8Length code with
  | 1 => [code]
  | 2 => [0xC0 + code / 64, 0x80 + code % 64]
  | 3 => [0xE0 + code / 4096, 0x80 + code / 64 % 64, 0x80 + code % 64]
  | _ => [0xF0 + code / 262144, 0x80 + code / 4096 % 64, 0x80 + code / 64 % 64, 0x80 + code % 64]

/-- Cut a range of scalar values where the length of their UTF-8 forms changes. -/
def splitByLength (range : Nat × Nat) : List (Nat × Nat) :=
  [(0, 0x7F), (0x80, 0x7FF), (0x800, 0xFFFF), (0x10000, 0x10FFFF)].filterMap fun lengthRange =>
    let low := max range.1 lengthRange.1
    let high := min range.2 lengthRange.2
    if low ≤ high then some (low, high) else none

/--
Cut a range whose UTF-8 forms have one length into ranges in which every byte varies freely.

`place` is the continuation byte to be looked at, counted from the last one. Every cut shortens the
range to what a byte more can vary, so `fuel` of a few dozen steps is enough.
-/
def splitByBytes : Nat → Nat → Nat × Nat → List (Nat × Nat)
  | 0, _, range => [range]
  | fuel + 1, place, range =>
      if 4 ≤ place then [range]
      else
        let block := Nat.pow 64 place
        if range.1 / block == range.2 / block then splitByBytes fuel (place + 1) range
        else if range.1 % block != 0 then
          let cut := (range.1 / block + 1) * block
          splitByBytes fuel 1 (range.1, cut - 1) ++ splitByBytes fuel 1 (cut, range.2)
        else if range.2 % block != block - 1 then
          let cut := range.2 / block * block
          splitByBytes fuel 1 (range.1, cut - 1) ++ splitByBytes fuel 1 (cut, range.2)
        else splitByBytes fuel (place + 1) range

/-- The sequences of byte ranges that make up a set, in ascending order. -/
def byteSequences (set : CharSet) : List ByteRanges :=
  set.ranges.toList.flatMap fun range =>
    (splitByLength range).flatMap fun part =>
      if part.2 < 0x80 then [[part]]
      else (splitByBytes 32 1 part).map fun piece =>
        (utf8Bytes piece.1).zip (utf8Bytes piece.2)

end SourceUpgrade.Pattern
