import SourceUpgrade.Floating.Rounding

namespace SourceUpgrade.Floating

/-!
# Reading decimal numbers

A decimal number is read in several roundings: its digits are rounded to a 64-bit number, and that is
multiplied with or divided by a power of ten that has itself been rounded. So the result can differ
from the nearest number in its last place.
-/

/-- The largest power of ten that is used at once. -/
def largestPower : Nat := 308

/-- A power of ten rounded to 64 bits. -/
def roundedPower (exponent : Nat) : Magnitude :=
  (round? .double (tenTo exponent) 1).getD ⟨0, 0⟩

/-- The rounded product of two magnitudes. -/
def multiply? (left right : Magnitude) : Option Magnitude :=
  round? .double (left.numerator * right.numerator) (left.denominator * right.denominator)

/-- The rounded quotient of two magnitudes; a quotient never grows beyond the format here. -/
def divide (left right : Magnitude) : Magnitude :=
  (round? .double (left.numerator * right.denominator) (left.denominator * right.numerator)).getD
    ⟨0, 0⟩

/--
Scale a magnitude by a power of ten; nothing if the result is too large.

Small powers are applied in steps of `largestPower`; a magnitude that is zero stays so, which it is
after three steps at the latest.
-/
def scaleByTen? : Nat → Magnitude → Int → Option Magnitude
  | 0, magnitude, _ => some magnitude
  | fuel + 1, magnitude, exponent =>
      if exponent.natAbs ≤ largestPower then
        if 0 ≤ exponent then multiply? magnitude (roundedPower exponent.natAbs)
        else some (divide magnitude (roundedPower exponent.natAbs))
      else if magnitude.significand = 0 then
        some magnitude
      else if 0 ≤ exponent then
        none
      else
        scaleByTen? fuel (divide magnitude (roundedPower largestPower))
          (exponent + largestPower)

/-- The number with the given digits and power of ten; nothing if it is too large. -/
def ofDecimal? (negative : Bool) (digits : Nat) (exponent : Int) : Option Number :=
  ((round? .double digits 1).bind fun magnitude => scaleByTen? 4 magnitude exponent).map
    fun magnitude => ⟨negative, magnitude⟩

end SourceUpgrade.Floating
