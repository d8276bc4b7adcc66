import SourceUpgrade.Floating.Shortest
import SourceUpgrade.Proofs.Floating.Decimal

namespace SourceUpgrade.Floating

/-!
# Shortest decimals can be read

A shortest decimal has at most 17 digits and reads back as a number, so it is not too large. Reading
it rounds more than once, and all the same it is never refused: what two roundings could carry
beyond the largest number stands next to it, and of those few decimals the ones that are refused are
not the nearest to it.
-/

namespace DecimalForm

/-- The rational number that a decimal is. -/
def value (form : DecimalForm) : ℚ :=
  form.digits * 10 ^ form.exponent

theorem denominator_pos (form : DecimalForm) : 0 < form.denominator :=
  tenTo_pos _

/-- A decimal is its fraction. -/
theorem numerator_div_denominator (form : DecimalForm) :
    (form.numerator : ℚ) / form.denominator = form.value := by
  rw [numerator, denominator, Nat.cast_mul, mul_div_assoc, tenTo_toNat_div, value]

/-- A decimal that reads back as a number is not too large. -/
theorem value_lt_of_readsBack
    {form : DecimalForm}
    {magnitude : Magnitude}
    (readsBack : form.readsBack magnitude = true) :
    form.value < 2 ^ 1024 := by
  rw [← form.numerator_div_denominator]
  exact lt_of_round? form.denominator_pos (beq_iff_eq.mp readsBack)

/-- Zero does not read back as a positive number. -/
theorem digits_ne_zero_of_readsBack
    {form : DecimalForm}
    {magnitude : Magnitude}
    (positive : magnitude.significand ≠ 0)
    (readsBack : form.readsBack magnitude = true) :
    form.digits ≠ 0 := by
  intro none
  have zero : round? .double form.numerator form.denominator = some ⟨0, -1074⟩ := by
    rw [numerator, none, Nat.zero_mul]
    rfl
  rw [beq_iff_eq.mp readsBack] at zero
  obtain rfl := Option.some.inj zero
  exact positive rfl

/-- Trimming takes zeros from the end of the digits into the exponent. -/
theorem exists_trimmed
    (fuel : Nat)
    (form : DecimalForm) :
    ∃ zeros : Nat,
      form.digits = (form.trimmed fuel).digits * 10 ^ zeros ∧
        (form.trimmed fuel).exponent = form.exponent + zeros := by
  induction fuel generalizing form with
  | zero =>
      exact ⟨0, by simp [trimmed]⟩
  | succ fuel inductionHypothesis =>
      rw [trimmed]
      split
      · rename_i ends
        obtain ⟨zeros, digits, exponent⟩ :=
          inductionHypothesis ⟨form.digits / 10, form.exponent + 1⟩
        dsimp only at digits exponent
        refine ⟨zeros + 1, ?_, ?_⟩
        · have whole : form.digits = form.digits / 10 * 10 := by omega
          rw [pow_succ, ← mul_assoc, ← digits]
          exact whole
        · rw [exponent]
          push_cast
          ring
      · exact ⟨0, by simp⟩

end DecimalForm

/-! ## Digits on a grid -/

/-- A number lies between two powers of ten, told by how many digits it has. -/
theorem digitCount_bounds
    {value : Nat}
    (positive : 0 < value) :
    (10 : ℚ) ^ ((digitCount value : Int) - 1) ≤ value ∧ (value : ℚ) < 10 ^ (digitCount value : Int) := by
  have some : 0 < digitCount value := Nat.length_toDigits_pos
  obtain ⟨count, isCount⟩ := Nat.exists_eq_succ_of_ne_zero some.ne'
  have above : value < 10 ^ digitCount value :=
    (Nat.length_toDigits_le_iff (by decide) some).mp le_rfl
  have below : 10 ^ count ≤ value := by
    rcases count.eq_zero_or_pos with rfl | many
    · exact positive
    · refine not_lt.mp (mt (Nat.length_toDigits_le_iff (by decide) many).mpr ?_)
      change ¬ digitCount value ≤ count
      omega
  constructor
  · have shifted : (digitCount value : Int) - 1 = count := by omega
    rw [shifted, zpow_natCast]
    exact_mod_cast below
  · rw [zpow_natCast]
    exact_mod_cast above

section

variable {numerator denominator : Nat}

/-- A fraction lies below the power of ten that the numbers of digits of its parts tell. -/
theorem lt_of_digitCount
    (positive : 0 < numerator)
    (positiveToo : 0 < denominator) :
    (numerator / denominator : ℚ) <
      10 ^ ((digitCount numerator : Int) - digitCount denominator + 1) := by
  obtain ⟨-, greatest⟩ := digitCount_bounds positive
  obtain ⟨least, -⟩ := digitCount_bounds positiveToo
  have castPositive : (0 : ℚ) < denominator := by exact_mod_cast positiveToo
  rw [div_lt_iff₀ castPositive]
  calc
    (numerator : ℚ) < 10 ^ (digitCount numerator : Int) := greatest
    _ = 10 ^ ((digitCount numerator : Int) - digitCount denominator + 1) *
          10 ^ ((digitCount denominator : Int) - 1) := by
        rw [← zpow_add₀ (by norm_num)]
        congr 1
        ring
    _ ≤ 10 ^ ((digitCount numerator : Int) - digitCount denominator + 1) * denominator := by gcongr

/-- A fraction is less than the power of ten after that of its leading digit. -/
theorem lt_of_leadingDecimal
    (positive : 0 < numerator)
    (positiveToo : 0 < denominator) :
    (numerator / denominator : ℚ) < 10 ^ (leadingDecimal numerator denominator + 1) := by
  have below := lt_of_digitCount positive positiveToo
  unfold leadingDecimal
  dsimp only
  split
  · exact below
  · rename_i less
    rw [sub_add_cancel]
    have castPositive : (0 : ℚ) < denominator := by exact_mod_cast positiveToo
    have scalePositive :
        (0 : ℚ) <
          tenTo (-((digitCount numerator : Int) - (digitCount denominator : Int))).toNat := by
      exact_mod_cast tenTo_pos _
    rw [← tenTo_toNat_div, div_lt_div_iff₀ castPositive scalePositive,
      mul_comm ((tenTo _ : Nat) : ℚ)]
    exact_mod_cast not_le.mp less

end

/-- The digits below a number on a grid are fewer than the number's power of ten has. -/
theorem floor_lt_of_value_lt
    {magnitude : Magnitude}
    {leading : Int}
    {count : Nat}
    (below : magnitude.value < 10 ^ (leading + 1)) :
    magnitude.numerator * tenTo (-(leading - (count : Int) + 1)).toNat /
        (magnitude.denominator * tenTo (leading - (count : Int) + 1).toNat) <
      10 ^ count := by
  rw [Nat.div_lt_iff_lt_mul (Nat.mul_pos magnitude.denominator_pos (tenTo_pos _))]
  generalize isExponent : leading - (count : Int) + 1 = exponent
  have parts : leading + 1 = count + exponent := by omega
  have denominatorPositive : (0 : ℚ) < magnitude.denominator := by
    exact_mod_cast magnitude.denominator_pos
  have scalePositive : (0 : ℚ) < tenTo (-exponent).toNat := by
    exact_mod_cast tenTo_pos _
  rw [← magnitude.numerator_div_denominator, parts, zpow_add₀ (by norm_num), zpow_natCast,
    ← tenTo_toNat_div, div_lt_iff₀ denominatorPositive] at below
  have scaled :
      (magnitude.numerator : ℚ) * tenTo (-exponent).toNat <
        10 ^ count * (magnitude.denominator * tenTo exponent.toNat) := by
    calc
      (magnitude.numerator : ℚ) * tenTo (-exponent).toNat
          < 10 ^ count * (tenTo exponent.toNat / tenTo (-exponent).toNat) *
              magnitude.denominator * tenTo (-exponent).toNat := by gcongr
      _ = 10 ^ count * (magnitude.denominator * tenTo exponent.toNat) := by
          field_simp
  exact_mod_cast scaled

/-- Digits on a grid are as many as were asked for, and stand where they were asked for. -/
theorem digits_of_onGrid?
    {magnitude : Magnitude}
    {leading : Int}
    {count : Nat}
    {form : DecimalForm}
    (below : magnitude.value < 10 ^ (leading + 1))
    (found : onGrid? magnitude leading count = some form) :
    form.digits ≤ 10 ^ count ∧
      form.exponent = leading - count + 1 ∧
      form.readsBack magnitude = true := by
  have scaled :
      magnitude.numerator * tenTo (-(leading - (count : Int) + 1)).toNat /
          (magnitude.denominator * tenTo (leading - (count : Int) + 1).toNat) <
        10 ^ count :=
    floor_lt_of_value_lt below
  unfold onGrid? at found
  dsimp only at found
  split at found
  · cases found
  · rename_i reads _
    obtain rfl := Option.some.inj found
    exact ⟨scaled.le, rfl, reads⟩
  · rename_i _ reads
    obtain rfl := Option.some.inj found
    exact ⟨scaled, rfl, reads⟩
  · rename_i reads readsToo
    split at found
    · obtain rfl := Option.some.inj found
      exact ⟨scaled.le, rfl, reads⟩
    · split at found
      · obtain rfl := Option.some.inj found
        exact ⟨scaled, rfl, readsToo⟩
      · split at found
        · obtain rfl := Option.some.inj found
          exact ⟨scaled.le, rfl, reads⟩
        · obtain rfl := Option.some.inj found
          exact ⟨scaled, rfl, readsToo⟩

/-! ## Shortest decimals -/

/-- A shortest decimal is a decimal on the grid with its zeros trimmed, or there is none. -/
theorem shortest_cases (magnitude : Magnitude) :
    shortest magnitude = ⟨0, 0⟩ ∨
      ∃ count form zeros,
        count ≤ 17 ∧
          onGrid? magnitude (leadingDecimal magnitude.numerator magnitude.denominator) count =
            some form ∧
          form.digits = (shortest magnitude).digits * 10 ^ zeros ∧
          (shortest magnitude).exponent = form.exponent + (zeros : Nat) := by
  unfold shortest
  dsimp only
  cases found :
      ((List.range 17).map (· + 1)).findSome?
        (onGrid? magnitude (leadingDecimal magnitude.numerator magnitude.denominator)) with
  | none =>
      exact .inl rfl
  | some form =>
      obtain ⟨count, member, onGrid⟩ := List.exists_of_findSome?_eq_some found
      obtain ⟨zeros, digits, exponent⟩ := form.exists_trimmed 20
      refine .inr ⟨count, form, zeros, ?_, onGrid, digits, exponent⟩
      obtain ⟨index, inRange, rfl⟩ := List.mem_map.mp member
      exact List.mem_range.mp inRange

/-- The largest number as a magnitude. -/
def largest : Magnitude :=
  ⟨9007199254740991, 971⟩

/-- The decimal of 17 digits after that for the largest number is too large. -/
theorem afterNext_not_readsBack (magnitude : Magnitude) :
    ¬ DecimalForm.readsBack ⟨17976931348623159, 292⟩ magnitude = true := by
  have tooLarge :
      round? .double (DecimalForm.numerator ⟨17976931348623159, 292⟩)
          (DecimalForm.denominator ⟨17976931348623159, 292⟩) =
        none := by
    decide +kernel
  rw [DecimalForm.readsBack, tooLarge]
  exact Bool.false_ne_true

/-- The decimal next to that for the largest number reads back as it, but is not the nearest one. -/
theorem next_not_onGrid
    {magnitude : Magnitude}
    {count : Nat}
    (onGrid :
      onGrid? magnitude (leadingDecimal magnitude.numerator magnitude.denominator) count =
        some ⟨17976931348623158, 292⟩)
    (position : 292 = leadingDecimal magnitude.numerator magnitude.denominator - (count : Int) + 1)
    (readsBack : DecimalForm.readsBack ⟨17976931348623158, 292⟩ magnitude = true) :
    False := by
  have readsLargest :
      round? .double (DecimalForm.numerator ⟨17976931348623158, 292⟩)
          (DecimalForm.denominator ⟨17976931348623158, 292⟩) =
        some largest := by
    decide +kernel
  have isLargest : largest = magnitude :=
    Option.some.inj (readsLargest.symm.trans (beq_iff_eq.mp readsBack))
  subst isLargest
  have leads : leadingDecimal largest.numerator largest.denominator = 308 := by decide +kernel
  rw [leads] at onGrid position
  obtain rfl : count = 17 := by omega
  have nearest : onGrid? largest 308 17 = some ⟨17976931348623157, 292⟩ := by decide +kernel
  rw [nearest] at onGrid
  exact absurd onGrid (by decide)

/-- What a shortest decimal is, as far as it matters for reading it. -/
structure DecimalForm.Readable (form : DecimalForm) : Prop where
  digits_le : form.digits ≤ 10 ^ 17
  eq_of_digits_eq_zero : form.digits = 0 → form = ⟨0, 0⟩
  value_lt : form.value < 2 ^ 1024
  ne_next : form ≠ ⟨17976931348623158, 292⟩
  ne_afterNext : form ≠ ⟨17976931348623159, 292⟩

/-- Shortest decimals of positive numbers are readable. -/
theorem readable_shortest
    {magnitude : Magnitude}
    (positive : magnitude.significand ≠ 0) :
    (shortest magnitude).Readable := by
  rcases shortest_cases magnitude with none | ⟨count, form, zeros, few, onGrid, digits, exponent⟩
  · rw [none]
    exact ⟨by decide, fun _ => rfl, by simp [DecimalForm.value], by decide, by decide⟩
  · have numeratorPositive : 0 < magnitude.numerator :=
      Nat.mul_pos (Nat.pos_of_ne_zero positive) (twoTo_pos _)
    have below := lt_of_leadingDecimal numeratorPositive magnitude.denominator_pos
    rw [magnitude.numerator_div_denominator] at below
    obtain ⟨digitsBound, position, readsBack⟩ := digits_of_onGrid? below onGrid
    have fewDigits : form.digits ≤ 10 ^ 17 :=
      digitsBound.trans (Nat.pow_le_pow_right (by decide) few)
    have sameValue : (shortest magnitude).value = form.value := by
      rw [DecimalForm.value, DecimalForm.value, digits, exponent, zpow_add₀ (by norm_num),
        zpow_natCast]
      push_cast
      ring
    -- A decimal that has 17 digits already is on the grid as it is.
    have untrimmed (many : 10 ^ 16 < (shortest magnitude).digits) : shortest magnitude = form := by
      have noZeros : zeros = 0 := by
        by_contra someZeros
        have tenfold : (shortest magnitude).digits * 10 ≤ form.digits := by
          rw [digits]
          exact Nat.mul_le_mul_left _ (Nat.le_self_pow someZeros 10)
        omega
      subst noZeros
      rw [pow_zero, mul_one] at digits
      rw [Nat.cast_zero, add_zero] at exponent
      cases form
      simp only at digits exponent
      rw [digits, ← exponent]
    refine ⟨?_, ?_, ?_, ?_, ?_⟩
    · exact (Nat.le_mul_of_pos_right _ (Nat.pow_pos (by decide))).trans (digits ▸ fewDigits)
    · intro none
      rw [none, Nat.zero_mul] at digits
      exact absurd digits (DecimalForm.digits_ne_zero_of_readsBack positive readsBack)
    · rw [sameValue]
      exact DecimalForm.value_lt_of_readsBack readsBack
    · intro next
      rw [← untrimmed (by rw [next]; decide), next] at onGrid position readsBack
      exact next_not_onGrid onGrid position readsBack
    · intro afterNext
      rw [← untrimmed (by rw [afterNext]; decide), afterNext] at readsBack
      exact absurd readsBack (afterNext_not_readsBack magnitude)

/-- A readable decimal without fraction leaves room for two roundings or stands next to the end. -/
theorem DecimalForm.Readable.cases
    {digits exponent : Nat}
    (readable : Readable ⟨digits, exponent⟩) :
    digits * 10 ^ exponent ≤ largestProduct ∨
      exponent = 292 ∧ 17976931348623155 ≤ digits ∧ digits ≤ 17976931348623157 := by
  have powerPositive : 0 < 10 ^ 292 := by positivity
  have small : digits * 10 ^ exponent < 17976931348623160 * 10 ^ 292 := by
    have cast : ((digits * 10 ^ exponent : Nat) : ℚ) < ((2 ^ 1024 : Nat) : ℚ) := by
      have bound := readable.value_lt
      rw [value, zpow_natCast] at bound
      rw [Nat.cast_mul, Nat.cast_pow, Nat.cast_pow, Nat.cast_ofNat, Nat.cast_ofNat]
      exact bound
    exact (Nat.cast_lt.mp cast).trans (by decide +kernel)
  rcases lt_trichotomy exponent 292 with less | rfl | greater
  · left
    calc
      digits * 10 ^ exponent ≤ 10 ^ 17 * 10 ^ 291 :=
        Nat.mul_le_mul readable.digits_le (Nat.pow_le_pow_right (by decide) (by omega))
      _ ≤ largestProduct := by decide +kernel
  · have bound : digits < 17976931348623160 := (Nat.mul_lt_mul_right powerPositive).mp small
    by_cases room : digits ≤ 17976931348623154
    · exact .inl (mul_le_largestProduct room)
    · right
      have notNext : digits ≠ 17976931348623158 := by
        rintro rfl
        exact readable.ne_next rfl
      have notAfterNext : digits ≠ 17976931348623159 := by
        rintro rfl
        exact readable.ne_afterNext rfl
      exact ⟨rfl, by omega, by omega⟩
  · left
    -- A further power of ten makes a multiple of ten, which cannot come as close to the end.
    obtain ⟨further, rfl⟩ := Nat.exists_eq_add_of_lt greater
    have parts :
        digits * 10 ^ (292 + further + 1) = digits * 10 ^ further * 10 * 10 ^ 292 := by
      rw [pow_succ, pow_add, ← mul_assoc, ← mul_assoc, mul_right_comm digits,
        mul_right_comm (digits * 10 ^ further)]
    rw [parts] at small ⊢
    have bound : digits * 10 ^ further * 10 < 17976931348623160 :=
      (Nat.mul_lt_mul_right powerPositive).mp small
    exact mul_le_largestProduct (by omega)

/-- The shortest decimal for a positive number can be read. -/
theorem isSome_ofDecimal?_shortest
    (negative : Bool)
    {magnitude : Magnitude}
    (positive : magnitude.significand ≠ 0) :
    (ofDecimal? negative (shortest magnitude).digits (shortest magnitude).exponent).isSome := by
  have readable := readable_shortest positive
  have word : (shortest magnitude).digits < 2 ^ 64 := readable.digits_le.trans_lt (by decide)
  generalize shortest magnitude = form at readable word
  obtain ⟨digits, exponent⟩ := form
  rcases lt_or_ge exponent 0 with down | up
  · exact isSome_ofDecimal?_of_neg negative word down
  · obtain ⟨size, rfl⟩ := Int.eq_ofNat_of_zero_le up
    rcases digits.eq_zero_or_pos with rfl | someDigits
    · exact isSome_ofDecimal?_zero negative size
    · rcases readable.cases with bound | ⟨rfl, least, greatest⟩
      · exact isSome_ofDecimal?_of_le negative someDigits word bound
      · exact isSome_ofDecimal?_next_to_largest negative least greatest

end SourceUpgrade.Floating
