import Mathlib.Algebra.Order.Field.Power
import Mathlib.Data.Rat.Cast.Order
import Mathlib.Tactic.FieldSimp
import Mathlib.Tactic.Linarith
import Mathlib.Tactic.NormNum
import Mathlib.Tactic.Positivity
import Mathlib.Tactic.Ring
import SourceUpgrade.Floating.Rounding

namespace SourceUpgrade.Floating

/-!
# Rounding as an operation on rational numbers

A fraction is rounded at the power of two at which its leading bit has the highest place of a
significand. What rounding adds to a fraction of at least one is at most its `2 ^ 53`-th part, and
it has a result unless the fraction comes as close to `2 ^ 1024` as half a unit in the last place.
-/

/-! ## Fractions -/

/-- A power with an integer as exponent, split into the two natural powers of which it is made. -/
theorem pow_toNat_div
    {base : Nat}
    (positive : 0 < base)
    (exponent : Int) :
    ((base ^ exponent.toNat : Nat) : ℚ) / ((base ^ (-exponent).toNat : Nat) : ℚ) =
      (base : ℚ) ^ exponent := by
  have notZero : (base : ℚ) ≠ 0 := by exact_mod_cast positive.ne'
  obtain ⟨size, rfl | rfl⟩ := exponent.eq_nat_or_neg
  · simp
  · simp

theorem twoTo_toNat_div (exponent : Int) :
    (twoTo exponent.toNat : ℚ) / (twoTo (-exponent).toNat : ℚ) = 2 ^ exponent :=
  pow_toNat_div (by decide) exponent

theorem tenTo_toNat_div (exponent : Int) :
    (tenTo exponent.toNat : ℚ) / (tenTo (-exponent).toNat : ℚ) = 10 ^ exponent :=
  pow_toNat_div (by decide) exponent

theorem twoTo_pos (exponent : Nat) : 0 < twoTo exponent :=
  Nat.pow_pos (by decide)

theorem tenTo_pos (exponent : Nat) : 0 < tenTo exponent :=
  Nat.pow_pos (by decide)

namespace Magnitude

/-- The rational number that a magnitude is. -/
def value (magnitude : Magnitude) : ℚ :=
  magnitude.significand * 2 ^ magnitude.exponent

theorem value_nonneg (magnitude : Magnitude) : 0 ≤ magnitude.value := by
  unfold value
  positivity

theorem denominator_pos (magnitude : Magnitude) : 0 < magnitude.denominator :=
  twoTo_pos _

/-- A magnitude is its fraction. -/
theorem numerator_div_denominator (magnitude : Magnitude) :
    (magnitude.numerator : ℚ) / magnitude.denominator = magnitude.value := by
  rw [numerator, denominator, Nat.cast_mul, mul_div_assoc, twoTo_toNat_div, value]

end Magnitude

/-! ## To the nearest integer -/

section

variable {numerator denominator : Nat}

/-- Rounding to an integer adds at most a half. -/
theorem divideToEven_le (positive : 0 < denominator) :
    (divideToEven numerator denominator : ℚ) ≤ numerator / denominator + 1 / 2 := by
  have bound : 2 * (denominator * divideToEven numerator denominator) ≤
      2 * numerator + denominator := by
    have parts := Nat.div_add_mod numerator denominator
    have small := Nat.mod_lt numerator positive
    unfold divideToEven
    dsimp only
    split
    · omega
    · split
      · rw [Nat.mul_succ]
        omega
      · split
        · omega
        · rw [Nat.mul_succ]
          omega
  have castPositive : (0 : ℚ) < denominator := by exact_mod_cast positive
  have castBound :
      2 * ((denominator : ℚ) * divideToEven numerator denominator) ≤
        2 * numerator + denominator := by
    exact_mod_cast bound
  rw [div_add_div _ _ castPositive.ne' two_ne_zero, le_div_iff₀ (by positivity)]
  linarith

/-! ## At the leading bit -/

/-- A fraction scaled down by a power of two. -/
theorem scaleDown_div
    (numerator denominator : Nat)
    (exponent : Int) :
    ((scaleDown numerator denominator exponent).1 : ℚ) /
        (scaleDown numerator denominator exponent).2 =
      numerator / denominator / 2 ^ exponent := by
  have inverse := twoTo_toNat_div (-exponent)
  rw [neg_neg] at inverse
  rw [scaleDown]
  simp only [Nat.cast_mul]
  rw [mul_div_mul_comm, inverse, zpow_neg, ← div_eq_mul_inv]

theorem scaleDown_snd_pos
    (numerator : Nat)
    (positive : 0 < denominator)
    (exponent : Int) :
    0 < (scaleDown numerator denominator exponent).2 :=
  Nat.mul_pos positive (twoTo_pos _)

/-- A number lies between two powers of two, told by its binary logarithm. -/
theorem log2_bounds
    {value : Nat}
    (positive : 0 < value) :
    (2 : ℚ) ^ (Nat.log2 value : Int) ≤ value ∧ (value : ℚ) < 2 ^ ((Nat.log2 value : Int) + 1) := by
  constructor
  · rw [zpow_natCast]
    exact_mod_cast Nat.log2_self_le positive.ne'
  · have above : value < 2 ^ (Nat.log2 value + 1) := Nat.lt_log2_self
    have cast : (value : ℚ) < 2 ^ (Nat.log2 value + 1) := by exact_mod_cast above
    exact_mod_cast cast

/-- A fraction lies between the powers of two that the logarithms of its parts tell. -/
theorem div_bounds
    (positive : 0 < numerator)
    (positiveToo : 0 < denominator) :
    (2 : ℚ) ^ ((Nat.log2 numerator : Int) - Nat.log2 denominator - 1) ≤ numerator / denominator ∧
      (numerator / denominator : ℚ) <
        2 ^ ((Nat.log2 numerator : Int) - Nat.log2 denominator + 1) := by
  obtain ⟨least, greatest⟩ := log2_bounds positive
  obtain ⟨leastToo, greatestToo⟩ := log2_bounds positiveToo
  have castPositive : (0 : ℚ) < denominator := by exact_mod_cast positiveToo
  constructor
  · rw [le_div_iff₀ castPositive]
    calc
      (2 : ℚ) ^ ((Nat.log2 numerator : Int) - Nat.log2 denominator - 1) * denominator
          ≤ 2 ^ ((Nat.log2 numerator : Int) - Nat.log2 denominator - 1) *
              2 ^ ((Nat.log2 denominator : Int) + 1) := by gcongr
      _ = 2 ^ (Nat.log2 numerator : Int) := by
          rw [← zpow_add₀ two_ne_zero]
          congr 1
          ring
      _ ≤ numerator := least
  · rw [div_lt_iff₀ castPositive]
    calc
      (numerator : ℚ) < 2 ^ ((Nat.log2 numerator : Int) + 1) := greatest
      _ = 2 ^ ((Nat.log2 numerator : Int) - Nat.log2 denominator + 1) *
            2 ^ (Nat.log2 denominator : Int) := by
          rw [← zpow_add₀ two_ne_zero]
          congr 1
          ring
      _ ≤ 2 ^ ((Nat.log2 numerator : Int) - Nat.log2 denominator + 1) * denominator := by gcongr

/-- A fraction scaled down fits into a number of bits exactly if it is less than that power. -/
theorem scaleDown_fits_iff
    (numerator : Nat)
    (positive : 0 < denominator)
    (exponent : Int)
    (bits : Nat) :
    (scaleDown numerator denominator exponent).1 / (scaleDown numerator denominator exponent).2 <
        twoTo bits ↔
      (numerator / denominator : ℚ) < 2 ^ (exponent + bits) := by
  have scaledPositive := scaleDown_snd_pos numerator positive exponent
  have castPositive : (0 : ℚ) < (scaleDown numerator denominator exponent).2 := by
    exact_mod_cast scaledPositive
  rw [Nat.div_lt_iff_lt_mul scaledPositive, zpow_add₀ two_ne_zero, zpow_natCast,
    mul_comm ((2 : ℚ) ^ exponent), ← div_lt_iff₀ (by positivity), ← scaleDown_div,
    div_lt_iff₀ castPositive]
  rw [show (2 : ℚ) ^ bits = (twoTo bits : ℚ) by simp [twoTo]]
  exact_mod_cast Iff.rfl

/-- The exponent chosen puts the leading bit in the highest place, or is the least there is. -/
theorem exists_leadingExponent
    (format : Format)
    (positive : 0 < numerator)
    (positiveToo : 0 < denominator) :
    ∃ exponent : Int,
      leadingExponent format numerator denominator = max exponent format.minExponent ∧
        (2 : ℚ) ^ (exponent + format.precision - 1) ≤ numerator / denominator ∧
        (numerator / denominator : ℚ) < 2 ^ (exponent + format.precision) := by
  obtain ⟨least, greatest⟩ := div_bounds positive positiveToo
  have fits := scaleDown_fits_iff numerator positiveToo
    ((Nat.log2 numerator : Int) - Nat.log2 denominator - format.precision) format.precision
  have shifted (exponent bits : Int) : exponent + 1 + bits - 1 = exponent + bits := by ring
  have cancelled (exponent bits : Int) : exponent - bits + bits = exponent := by ring
  unfold leadingExponent
  dsimp only
  split
  · rename_i small
    refine ⟨_, rfl, ?_, fits.mp small⟩
    rwa [cancelled]
  · rename_i large
    refine ⟨_, rfl, ?_, ?_⟩
    · rw [shifted]
      exact not_lt.mp (mt fits.mpr large)
    · rwa [add_right_comm, cancelled]

end

/-! ## To 64 bits -/

section

variable {numerator denominator : Nat}

/-- The exponent of the 64-bit number that a fraction is rounded to, before a carry. -/
def roundedExponent (numerator denominator : Nat) : Int :=
  leadingExponent .double numerator denominator

/-- The significand of the 64-bit number that a fraction is rounded to, before a carry. -/
def roundedSignificand (numerator denominator : Nat) : Nat :=
  let scaled := scaleDown numerator denominator (roundedExponent numerator denominator)
  divideToEven scaled.1 scaled.2

theorem roundedSignificand_le
    (numerator : Nat)
    (positive : 0 < denominator) :
    (roundedSignificand numerator denominator : ℚ) ≤
      numerator / denominator / 2 ^ roundedExponent numerator denominator + 1 / 2 := by
  rw [← scaleDown_div]
  exact divideToEven_le (scaleDown_snd_pos numerator positive _)

/-- A positive fraction is rounded to its significand, a carry taken into the exponent. -/
theorem round?_of_pos (positive : 0 < numerator) :
    round? .double numerator denominator =
      let rounded : Magnitude :=
        if roundedSignificand numerator denominator = 2 ^ 53 then
          ⟨2 ^ 52, roundedExponent numerator denominator + 1⟩
        else ⟨roundedSignificand numerator denominator, roundedExponent numerator denominator⟩
      if 971 < rounded.exponent then none else some rounded := by
  have carried :
      (if roundedSignificand numerator denominator = 2 ^ 53 then
          (⟨roundedSignificand numerator denominator / 2,
            roundedExponent numerator denominator + 1⟩ : Magnitude)
        else ⟨roundedSignificand numerator denominator, roundedExponent numerator denominator⟩) =
        if roundedSignificand numerator denominator = 2 ^ 53 then
          ⟨2 ^ 52, roundedExponent numerator denominator + 1⟩
        else
          ⟨roundedSignificand numerator denominator, roundedExponent numerator denominator⟩ := by
    split
    · rename_i full
      rw [full]
      norm_num
    · rfl
  rw [← carried, round?, if_neg positive.ne']
  rfl

/-- A result is the significand at the exponent, and the exponent has room. -/
theorem value_of_round?
    {magnitude : Magnitude}
    (positive : 0 < numerator)
    (rounded : round? .double numerator denominator = some magnitude) :
    magnitude.value =
        roundedSignificand numerator denominator * 2 ^ roundedExponent numerator denominator ∧
      roundedExponent numerator denominator ≤ 971 := by
  rw [round?_of_pos positive] at rounded
  dsimp only at rounded
  by_cases full : roundedSignificand numerator denominator = 2 ^ 53
  · rw [if_pos full] at rounded
    dsimp only at rounded
    split at rounded
    · cases rounded
    · obtain rfl := Option.some.inj rounded
      refine ⟨?_, by omega⟩
      rw [Magnitude.value, full, zpow_add_one₀ two_ne_zero]
      push_cast
      ring
  · rw [if_neg full] at rounded
    dsimp only at rounded
    split at rounded
    · cases rounded
    · obtain rfl := Option.some.inj rounded
      exact ⟨rfl, by omega⟩

/-- There is a result if the exponent has room, also for a carry. -/
theorem isSome_round?_of_room
    (positive : 0 < numerator)
    (room : roundedExponent numerator denominator ≤ 971)
    (carry :
      roundedSignificand numerator denominator = 2 ^ 53 →
        roundedExponent numerator denominator ≠ 971) :
    (round? .double numerator denominator).isSome := by
  rw [round?_of_pos positive]
  dsimp only
  by_cases full : roundedSignificand numerator denominator = 2 ^ 53
  · have less := carry full
    rw [if_pos full, if_neg (by dsimp only; omega)]
    rfl
  · rw [if_neg full, if_neg (by dsimp only; omega)]
    rfl

/-- The least number that is too large: `2 ^ 54 - 1` halves of the last place. -/
def tooLarge : Nat :=
  18014398509481983 * 2 ^ 970

theorem tooLarge_pos : 0 < tooLarge := by
  unfold tooLarge
  positivity

theorem tooLarge_cast : (tooLarge : ℚ) = 18014398509481983 * 2 ^ 970 := by
  simp only [tooLarge, Nat.cast_mul, Nat.cast_pow, Nat.cast_ofNat]

theorem tooLarge_lt : (tooLarge : ℚ) < 2 ^ (1024 : Int) := by
  have power : (2 : ℚ) ^ (1024 : Int) = 2 ^ 54 * 2 ^ 970 := by
    rw [← pow_add]
    exact zpow_natCast 2 1024
  rw [power, tooLarge_cast]
  gcongr
  norm_num

theorem tooLarge_div : (tooLarge : ℚ) / 2 ^ (971 : Int) = 2 ^ 53 - 1 / 2 := by
  have power : (2 : ℚ) ^ (971 : Int) = 2 ^ 970 * 2 := by
    rw [← pow_succ]
    exact zpow_natCast 2 971
  rw [power, tooLarge_cast, mul_comm, mul_div_mul_left _ _ (by positivity)]
  norm_num

/-- The exponent of a fraction, unless it is the least one. -/
theorem exists_roundedExponent
    (positive : 0 < numerator)
    (positiveToo : 0 < denominator) :
    ∃ exponent : Int,
      roundedExponent numerator denominator = max exponent (-1074) ∧
        (2 : ℚ) ^ (exponent + 52) ≤ numerator / denominator ∧
        (numerator / denominator : ℚ) < 2 ^ (exponent + 53) := by
  obtain ⟨exponent, same, least, greatest⟩ :=
    exists_leadingExponent .double positive positiveToo
  refine ⟨exponent, same, ?_, greatest⟩
  have shifted : exponent + ((53 : Nat) : Int) - 1 = exponent + 52 := by omega
  rw [← shifted]
  exact least

/-- A fraction that is not too large has a result. -/
theorem isSome_round?
    (positive : 0 < denominator)
    (small : (numerator / denominator : ℚ) < tooLarge) :
    (round? .double numerator denominator).isSome := by
  rcases numerator.eq_zero_or_pos with rfl | positiveToo
  · rfl
  · obtain ⟨exponent, same, least, -⟩ := exists_roundedExponent positiveToo positive
    have below : exponent < 972 := by
      have power : (2 : ℚ) ^ (exponent + 52) < 2 ^ (1024 : Int) :=
        (least.trans_lt small).trans tooLarge_lt
      have less := (zpow_lt_zpow_iff_right₀ one_lt_two).mp power
      omega
    refine isSome_round?_of_room positiveToo (by omega) ?_
    intro full greatest
    have bound := roundedSignificand_le numerator positive
    rw [full, greatest] at bound
    have scaled : (numerator / denominator : ℚ) / 2 ^ (971 : Int) < tooLarge / 2 ^ (971 : Int) := by
      gcongr
    rw [tooLarge_div] at scaled
    generalize (numerator / denominator : ℚ) / 2 ^ (971 : Int) = quotient at bound scaled
    push_cast at bound
    linarith

/-- A fraction with a result is less than `2 ^ 1024`. -/
theorem lt_of_round?
    {magnitude : Magnitude}
    (positive : 0 < denominator)
    (rounded : round? .double numerator denominator = some magnitude) :
    (numerator / denominator : ℚ) < 2 ^ 1024 := by
  rcases numerator.eq_zero_or_pos with rfl | positiveToo
  · norm_num
  · obtain ⟨exponent, same, -, greatest⟩ := exists_roundedExponent positiveToo positive
    obtain ⟨-, room⟩ := value_of_round? positiveToo rounded
    calc
      (numerator / denominator : ℚ) < 2 ^ (exponent + 53) := greatest
      _ ≤ 2 ^ (1024 : Int) := zpow_le_zpow_right₀ one_le_two (by omega)
      _ = 2 ^ 1024 := zpow_natCast 2 1024

/-- Rounding adds at most the `2 ^ 53`-th part to a fraction of at least one. -/
theorem value_le_of_round?
    {magnitude : Magnitude}
    (positive : 0 < denominator)
    (atLeastOne : (1 : ℚ) ≤ numerator / denominator)
    (rounded : round? .double numerator denominator = some magnitude) :
    magnitude.value ≤ numerator / denominator * (1 + 1 / 2 ^ 53) := by
  have positiveToo : 0 < numerator := by
    rcases numerator.eq_zero_or_pos with rfl | positiveToo
    · norm_num at atLeastOne
    · exact positiveToo
  obtain ⟨exponent, same, least, greatest⟩ := exists_roundedExponent positiveToo positive
  have normal : -53 < exponent := by
    have power : (2 : ℚ) ^ (0 : Int) < 2 ^ (exponent + 53) := by
      rw [zpow_zero]
      exact atLeastOne.trans_lt greatest
    have less := (zpow_lt_zpow_iff_right₀ one_lt_two).mp power
    omega
  have isExponent : roundedExponent numerator denominator = exponent := by omega
  have unit : (0 : ℚ) < 2 ^ exponent := by positivity
  have bound := roundedSignificand_le numerator positive
  rw [(value_of_round? positiveToo rounded).1]
  rw [isExponent] at bound ⊢
  have shifted : (2 : ℚ) ^ (exponent + 52) = 2 ^ exponent * 2 ^ 52 := by
    rw [zpow_add₀ two_ne_zero]
    norm_num
  rw [shifted] at least
  calc
    (roundedSignificand numerator denominator : ℚ) * 2 ^ exponent
        ≤ (numerator / denominator / 2 ^ exponent + 1 / 2) * 2 ^ exponent := by gcongr
    _ = numerator / denominator + 2 ^ exponent * 2 ^ 52 * (1 / 2 ^ 53) := by
        field_simp
    _ ≤ numerator / denominator + numerator / denominator * (1 / 2 ^ 53) := by gcongr
    _ = numerator / denominator * (1 + 1 / 2 ^ 53) := by ring

end

end SourceUpgrade.Floating
