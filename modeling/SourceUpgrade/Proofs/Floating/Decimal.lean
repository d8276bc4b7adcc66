import SourceUpgrade.Floating.Decimal
import SourceUpgrade.Proofs.Floating.Rounding

namespace SourceUpgrade.Floating

/-!
# Decimal numbers that can be read

A decimal number is read in several roundings, each of which may add a little. Only numbers next to
the largest one can become too large by that, and numbers with a negative power of ten never do.
-/

/-- An integer of 64 bits is not too large. -/
theorem exists_round?_word
    {digits : Nat}
    (word : digits < 2 ^ 64) :
    ∃ magnitude, round? .double digits 1 = some magnitude := by
  refine Option.isSome_iff_exists.mp (isSome_round? one_pos ?_)
  have small : digits < tooLarge := word.trans (by decide +kernel)
  rw [Nat.cast_one, div_one]
  exact Nat.cast_lt.mpr small

/-! ## Negative powers of ten -/

/-- Scaling down by a power of ten always has a result. -/
theorem isSome_scaleByTen?_of_neg
    (fuel : Nat)
    (magnitude : Magnitude)
    {exponent : Int}
    (negative : exponent < 0) :
    (scaleByTen? fuel magnitude exponent).isSome := by
  induction fuel generalizing magnitude exponent with
  | zero =>
      rfl
  | succ fuel inductionHypothesis =>
      rw [scaleByTen?, if_neg (not_le.mpr negative), if_neg (not_le.mpr negative)]
      split
      · rfl
      · rename_i large
        split
        · rfl
        · refine inductionHypothesis _ ?_
          unfold largestPower at large ⊢
          omega

/-- A decimal number with a negative power of ten can be read. -/
theorem isSome_ofDecimal?_of_neg
    (negative : Bool)
    {digits : Nat}
    (word : digits < 2 ^ 64)
    {exponent : Int}
    (down : exponent < 0) :
    (ofDecimal? negative digits exponent).isSome := by
  obtain ⟨magnitude, rounded⟩ := exists_round?_word word
  rw [ofDecimal?, rounded, Option.bind_some, Option.isSome_map]
  exact isSome_scaleByTen?_of_neg 4 magnitude down

/-! ## Other powers of ten -/

/-- A product that is not too large has a result. -/
theorem isSome_multiply?
    {left right : Magnitude}
    (small : left.value * right.value < tooLarge) :
    (multiply? left right).isSome := by
  refine isSome_round? (Nat.mul_pos left.denominator_pos right.denominator_pos) ?_
  rw [Nat.cast_mul, Nat.cast_mul, mul_div_mul_comm, left.numerator_div_denominator,
    right.numerator_div_denominator]
  exact small

/-- Zero can be read with any power of ten. -/
theorem isSome_ofDecimal?_zero
    (negative : Bool)
    (exponent : Nat) :
    (ofDecimal? negative 0 exponent).isSome := by
  have rounded : round? .double 0 1 = some ⟨0, -1074⟩ := rfl
  rw [ofDecimal?, rounded, Option.bind_some, Option.isSome_map, scaleByTen?,
    if_pos (Int.natCast_nonneg _)]
  split
  · refine isSome_multiply? ?_
    rw [Magnitude.value, Nat.cast_zero, zero_mul, zero_mul]
    exact_mod_cast tooLarge_pos
  · rfl

/-- A power of ten within the format is rounded to little more than itself. -/
theorem roundedPower_value_le
    {exponent : Nat}
    (within : exponent ≤ largestPower) :
    (roundedPower exponent).value ≤ 10 ^ exponent * (1 + 1 / 2 ^ 53) := by
  have isPower : ((tenTo exponent : Nat) : ℚ) / (1 : Nat) = 10 ^ exponent := by
    simp [tenTo]
  have small : ((tenTo exponent : Nat) : ℚ) / (1 : Nat) < tooLarge := by
    have power : tenTo exponent < tooLarge :=
      (Nat.pow_le_pow_right (by decide) within).trans_lt (by decide +kernel)
    rw [Nat.cast_one, div_one]
    exact Nat.cast_lt.mpr power
  obtain ⟨magnitude, rounded⟩ := Option.isSome_iff_exists.mp (isSome_round? one_pos small)
  have atLeastOne : (1 : ℚ) ≤ ((tenTo exponent : Nat) : ℚ) / (1 : Nat) := by
    rw [isPower]
    exact one_le_pow₀ (by norm_num)
  have bound := value_le_of_round? one_pos atLeastOne rounded
  rw [isPower] at bound
  rw [roundedPower, rounded]
  exact bound

/-- What two roundings can make of a number up to this one is not too large. -/
def largestProduct : Nat :=
  17976931348623154 * 10 ^ 292

theorem mul_le_largestProduct
    {digits : Nat}
    (room : digits ≤ 17976931348623154) :
    digits * 10 ^ 292 ≤ largestProduct :=
  Nat.mul_le_mul_right _ room

theorem largestProduct_lt :
    (largestProduct : ℚ) * ((1 + 1 / 2 ^ 53) * (1 + 1 / 2 ^ 53)) < tooLarge := by
  have scaled :
      largestProduct * ((2 ^ 53 + 1) * (2 ^ 53 + 1)) < tooLarge * (2 ^ 53 * 2 ^ 53) := by
    decide +kernel
  have castScaled :
      ((largestProduct * ((2 ^ 53 + 1) * (2 ^ 53 + 1)) : Nat) : ℚ) <
        ((tooLarge * (2 ^ 53 * 2 ^ 53) : Nat) : ℚ) :=
    Nat.cast_lt.mpr scaled
  simp only [Nat.cast_mul, Nat.cast_add, Nat.cast_pow, Nat.cast_ofNat, Nat.cast_one] at castScaled
  have parts :
      (largestProduct : ℚ) * ((1 + 1 / 2 ^ 53) * (1 + 1 / 2 ^ 53)) =
        largestProduct * ((2 ^ 53 + 1) * (2 ^ 53 + 1)) / (2 ^ 53 * 2 ^ 53) := by
    ring
  rw [parts, div_lt_iff₀ (by positivity)]
  exact castScaled

/-- A positive decimal number that leaves room for two roundings can be read. -/
theorem isSome_ofDecimal?_of_le
    (negative : Bool)
    {digits exponent : Nat}
    (positive : 0 < digits)
    (word : digits < 2 ^ 64)
    (bound : digits * 10 ^ exponent ≤ largestProduct) :
    (ofDecimal? negative digits exponent).isSome := by
  have within : exponent ≤ largestPower := by
    by_contra large
    have power : 10 ^ (largestPower + 1) ≤ digits * 10 ^ exponent := by
      calc
        10 ^ (largestPower + 1) ≤ 10 ^ exponent := by
          gcongr
          · norm_num
          · exact Nat.succ_le_of_lt (not_le.mp large)
        _ ≤ digits * 10 ^ exponent := Nat.le_mul_of_pos_left _ positive
    have less : largestProduct < 10 ^ (largestPower + 1) := by decide +kernel
    exact absurd (less.trans_le (power.trans bound)) (lt_irrefl _)
  obtain ⟨magnitude, rounded⟩ := exists_round?_word word
  have isDigits : (digits : ℚ) / (1 : Nat) = digits := by
    simp
  have atLeastOne : (1 : ℚ) ≤ digits := by exact_mod_cast positive
  have magnitudeBound := value_le_of_round? one_pos (isDigits.symm ▸ atLeastOne) rounded
  rw [isDigits] at magnitudeBound
  have powerBound := roundedPower_value_le within
  have small : magnitude.value * (roundedPower exponent).value < tooLarge := by
    have castBound : (digits : ℚ) * 10 ^ exponent ≤ largestProduct := by exact_mod_cast bound
    calc
      magnitude.value * (roundedPower exponent).value
          ≤ (digits * (1 + 1 / 2 ^ 53)) * (10 ^ exponent * (1 + 1 / 2 ^ 53)) := by
            gcongr
            exact (roundedPower exponent).value_nonneg
      _ = digits * 10 ^ exponent * ((1 + 1 / 2 ^ 53) * (1 + 1 / 2 ^ 53)) := by ring
      _ ≤ largestProduct * ((1 + 1 / 2 ^ 53) * (1 + 1 / 2 ^ 53)) := by gcongr
      _ < tooLarge := largestProduct_lt
  rw [ofDecimal?, rounded, Option.bind_some, Option.isSome_map, scaleByTen?, Int.natAbs_natCast,
    if_pos within, if_pos (Int.natCast_nonneg _)]
  exact isSome_multiply? small

/-- The three decimals of 17 digits between these and the largest number can be read. -/
theorem isSome_ofDecimal?_next_to_largest
    (negative : Bool)
    {digits : Nat}
    (least : 17976931348623155 ≤ digits)
    (greatest : digits ≤ 17976931348623157) :
    (ofDecimal? negative digits 292).isSome := by
  obtain rfl | rfl | rfl :
      digits = 17976931348623155 ∨ digits = 17976931348623156 ∨ digits = 17976931348623157 := by
    omega
  all_goals
    revert negative
    decide +kernel

end SourceUpgrade.Floating
