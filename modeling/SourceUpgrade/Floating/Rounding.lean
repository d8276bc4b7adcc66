namespace SourceUpgrade.Floating

/-!
# Rounding to binary floating point

A finite floating-point number is a sign and a pair of integers that stand for
`significand * 2 ^ exponent`. Everything is computed with natural numbers: a fraction is rounded to
the nearest number of a format, and a tie goes to the even significand.
-/

/-- A binary format: how many bits a significand has and which exponents occur. -/
structure Format where
  precision : Nat
  minExponent : Int
  maxExponent : Int
deriving Repr, DecidableEq

/-- The 64-bit format. -/
def Format.double : Format where
  precision := 53
  minExponent := -1074
  maxExponent := 971

/-- The 32-bit format. -/
def Format.single : Format where
  precision := 24
  minExponent := -149
  maxExponent := 104

/-- A power of two. -/
def twoTo (exponent : Nat) : Nat :=
  Nat.pow 2 exponent

/-- A power of ten. -/
def tenTo (exponent : Nat) : Nat :=
  Nat.pow 10 exponent

/-- A magnitude: the number `significand * 2 ^ exponent`. -/
structure Magnitude where
  significand : Nat
  exponent : Int
deriving Repr, DecidableEq

namespace Magnitude

/-- The numerator of a magnitude as a fraction. -/
def numerator (magnitude : Magnitude) : Nat :=
  magnitude.significand * twoTo magnitude.exponent.toNat

/-- The denominator of a magnitude as a fraction. -/
def denominator (magnitude : Magnitude) : Nat :=
  twoTo (-magnitude.exponent).toNat

end Magnitude

/-- The quotient of two numbers rounded to the nearest integer, a tie to the even one. -/
def divideToEven (numerator denominator : Nat) : Nat :=
  let quotient := numerator / denominator
  let remainder := numerator % denominator
  if 2 * remainder < denominator then quotient
  else if denominator < 2 * remainder then quotient + 1
  else if quotient % 2 == 0 then quotient else quotient + 1

/-- A fraction divided by a power of two. -/
def scaleDown (numerator denominator : Nat) (exponent : Int) : Nat × Nat :=
  (numerator * twoTo (-exponent).toNat, denominator * twoTo exponent.toNat)

/--
The exponent at which a positive fraction has its leading bit in the highest place of a significand,
or the least exponent of the format if that is larger.
-/
def leadingExponent (format : Format) (numerator denominator : Nat) : Int :=
  let estimate : Int :=
    (Nat.log2 numerator : Int) - (Nat.log2 denominator : Int) - (format.precision : Int)
  let fits := fun (exponent : Int) =>
    let scaled := scaleDown numerator denominator exponent
    scaled.1 / scaled.2 < twoTo format.precision
  let exponent := if fits estimate then estimate else estimate + 1
  max exponent format.minExponent

/-- The number of a format nearest to a fraction; nothing if it is beyond the largest one. -/
def round? (format : Format) (numerator denominator : Nat) : Option Magnitude :=
  if numerator = 0 then
    some ⟨0, format.minExponent⟩
  else
    let exponent := leadingExponent format numerator denominator
    let scaled := scaleDown numerator denominator exponent
    let significand := divideToEven scaled.1 scaled.2
    let rounded : Magnitude :=
      if significand = twoTo format.precision then ⟨significand / 2, exponent + 1⟩
      else ⟨significand, exponent⟩
    if format.maxExponent < rounded.exponent then none else some rounded

/-- A finite floating-point number. -/
structure Number where
  negative : Bool
  magnitude : Magnitude
deriving Repr, DecidableEq

/-- The leading bit of a significand of 24 bits, which is left out of the bits of a number. -/
def leadingBit : Nat := 0x800000

/-- The bits of a 32-bit number: sign, biased exponent and trailing significand. -/
def singleBits (negative : Bool) (magnitude : Option Magnitude) : Nat :=
  let sign := if negative then 0x80000000 else 0
  match magnitude with
  | none => sign + 0x7F800000
  | some magnitude =>
      if magnitude.significand < leadingBit then sign + magnitude.significand
      else
        sign + (magnitude.exponent + 150).toNat * leadingBit + (magnitude.significand - leadingBit)

/-- Round a number to 32 bits and give its bits; too large a number becomes an infinity. -/
def Number.toSingleBits (number : Number) : Nat :=
  singleBits number.negative
    (round? .single number.magnitude.numerator number.magnitude.denominator)

/-- Round an integer to 32 bits and give its bits. -/
def singleBitsOfInt (value : Int) : Nat :=
  singleBits (value < 0) (round? .single value.natAbs 1)

end SourceUpgrade.Floating
