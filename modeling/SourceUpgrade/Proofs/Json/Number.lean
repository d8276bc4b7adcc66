import SourceUpgrade.Proofs.Floating.Shortest
import SourceUpgrade.Proofs.Json.Numeral

namespace SourceUpgrade.Json

/-!
# Numbers that are read again

An integer of 64 bits is read as it was written. A float is written as a well-formed numeral with a
fraction or an exponent, in one of three layouts, and such a numeral stands for a float again: no
float is written that the reader refuses. It may be another float, since the reader rounds more than
once; `Number.reread` is the number that is read.
-/

open Floating (DecimalForm ofDecimal?)

/-! ## Digits -/

/-- Digits have the same number whether they are read in base ten or taken one by one. -/
theorem valueIn_ten
    {digits : List Char}
    (allDigits : ∀ c ∈ digits, c.isDigit) :
    Text.valueIn 10 digits = Nat.ofDigitChars 10 digits 0 := by
  have step :
      ∀ first, digits.foldl (fun value digit => 10 * value + (Text.hexDigit? digit).getD 0) first =
        Nat.ofDigitChars 10 digits first := by
    induction digits with
    | nil =>
        exact fun _ => rfl
    | cons digit digits inductionHypothesis =>
        intro first
        have between := allDigits digit List.mem_cons_self
        have isHexDigit : Text.hexDigit? digit = some (digit.toNat - 0x30) := by
          rw [Text.hexDigit?, if_pos]
          simpa [Char.isDigit, Char.le_def] using between
        rw [List.foldl_cons, Nat.ofDigitChars_cons, isHexDigit]
        exact inductionHypothesis (fun c member => allDigits c (List.mem_cons_of_mem _ member)) _
  exact step 0

/-- The digits of a number stand for it, also with zeros in front. -/
theorem ofDigitChars_zeros_append
    (zeros value : Nat) :
    Nat.ofDigitChars 10 (List.replicate zeros '0' ++ writeNat value) 0 = value := by
  rw [Nat.ofDigitChars_append, Nat.ofDigitChars_replicate_zero, Nat.mul_zero]
  exact Nat.ofDigitChars_ten_toDigits

/-- Zeros after the digits of a number multiply it. -/
theorem ofDigitChars_append_zeros
    (value zeros : Nat) :
    Nat.ofDigitChars 10 (writeNat value ++ List.replicate zeros '0') 0 = 10 ^ zeros * value := by
  rw [Nat.ofDigitChars_append, Nat.ofDigitChars_replicate_zero]
  exact congrArg _ Nat.ofDigitChars_ten_toDigits

/-! ## Numerals of floats -/

theorem exists_floatNumber
    {negative : Bool}
    {digits : Nat}
    {exponent : Int}
    (isSome : (ofDecimal? negative digits exponent).isSome) :
    ∃ value, floatNumber negative digits exponent = .ok (.float value) := by
  obtain ⟨value, found⟩ := Option.isSome_iff_exists.mp isSome
  exact ⟨value, by rw [floatNumber, found]⟩

namespace Numeral

/-- The digits of a numeral before and after its point. -/
def digits (numeral : Numeral) : List Char :=
  numeral.whole ++ numeral.fraction.getD []

/-- Whether a numeral stands for a float. -/
def IsFloat (numeral : Numeral) : Prop :=
  ∃ value, numeral.value = .ok (.float value)

/-- All digits of a numeral are taken if they have room. -/
theorem takeDigits_fraction
    {numeral : Numeral}
    (room : Nat.ofDigitChars 10 numeral.digits 0 ≤ significandLimit) :
    takeDigits 0 0 numeral.whole =
        ⟨Nat.ofDigitChars 10 numeral.whole 0, numeral.whole.length, 0⟩ ∧
      takeDigits (Nat.ofDigitChars 10 numeral.whole 0) 0 (numeral.fraction.getD []) =
        ⟨Nat.ofDigitChars 10 numeral.digits 0, (numeral.fraction.getD []).length, 0⟩ := by
  have roomAll := room
  rw [digits, Nat.ofDigitChars_append] at room
  constructor
  · rw [takeDigits_eq ((le_ofDigitChars _ _).trans room), Nat.zero_add]
  · rw [takeDigits_eq room, Nat.zero_add, digits, Nat.ofDigitChars_append]

/-- A numeral with a fraction and no exponent stands for a float if its digits have room. -/
theorem isFloat_of_fraction
    {numeral : Numeral}
    {fraction : List Char}
    (hasFraction : numeral.fraction = some fraction)
    (nonempty : fraction ≠ [])
    (noExponent : numeral.exponent = none)
    (room : Nat.ofDigitChars 10 numeral.digits 0 ≤ significandLimit) :
    numeral.IsFloat := by
  obtain ⟨taken, takenLater⟩ := takeDigits_fraction room
  have below : -(fraction.length : Int) < 0 := by
    have := List.length_pos_iff.mpr nonempty
    omega
  have word : Nat.ofDigitChars 10 numeral.digits 0 < 2 ^ 64 := by
    unfold significandLimit at room
    omega
  obtain ⟨value, computed⟩ :=
    exists_floatNumber (Floating.isSome_ofDecimal?_of_neg numeral.negative word below)
  rw [hasFraction, Option.getD_some] at takenLater
  refine ⟨value, ?_⟩
  simpa [Numeral.value, floatValue, taken, takenLater, hasFraction, noExponent] using computed

/-- A numeral with an exponent stands for a float if the decimal that it denotes can be read. -/
theorem isFloat_of_exponent
    {numeral : Numeral}
    {exponent : Int}
    (hasExponent : numeral.exponent = some ⟨exponent < 0, writeNat exponent.natAbs⟩)
    (notHuge : exponent ≤ exponentLimit)
    (room : Nat.ofDigitChars 10 numeral.digits 0 ≤ significandLimit)
    (isSome :
      (ofDecimal? numeral.negative (Nat.ofDigitChars 10 numeral.digits 0)
        (exponent - (numeral.fraction.getD []).length)).isSome) :
    numeral.IsFloat := by
  obtain ⟨taken, takenLater⟩ := takeDigits_fraction room
  have size : Text.valueIn 10 (writeNat exponent.natAbs) = exponent.natAbs :=
    (valueIn_ten fun _ => isDigit_of_mem_writeNat).trans Nat.ofDigitChars_ten_toDigits
  unfold IsFloat
  by_cases huge : exponentLimit < exponent.natAbs
  · have negative : exponent < 0 := by omega
    obtain ⟨value, computed⟩ :=
      exists_floatNumber (Floating.isSome_ofDecimal?_zero numeral.negative 0)
    refine ⟨value, ?_⟩
    simpa [Numeral.value, floatValue, taken, takenLater, hasExponent, size, huge, negative]
      using computed
  · obtain ⟨value, computed⟩ := exists_floatNumber isSome
    refine ⟨value, ?_⟩
    have shifted :
        (if exponent < 0 then
            (0 : Int) - (numeral.fraction.getD []).length - exponent.natAbs
          else 0 - (numeral.fraction.getD []).length + exponent.natAbs) =
          exponent - (numeral.fraction.getD []).length := by
      split <;> omega
    rw [← shifted] at computed
    simpa [Numeral.value, floatValue, taken, takenLater, hasExponent, size, huge] using computed

end Numeral

/-! ## Layouts -/

/-- A numeral for a float, with a sign and the text after it. -/
structure Numeral.Shows
    (numeral : Numeral)
    (negative : Bool)
    (text : List Char) :
    Prop where
  wellFormed : numeral.WellFormed
  write_eq : numeral.write = (if negative then ['-'] else []) ++ text
  isFloat : numeral.IsFloat

/-- Digits with a point among them are a numeral for a float if they have room. -/
theorem Numeral.shows_fraction
    (negative : Bool)
    {whole fraction : List Char}
    (wholeDigits : AreDigits whole)
    (noZeroInFront : whole.length = 1 ∨ whole.head? ≠ some '0')
    (fractionDigits : AreDigits fraction)
    (room : Nat.ofDigitChars 10 (whole ++ fraction) 0 ≤ significandLimit) :
    Shows ⟨negative, whole, some fraction, none⟩ negative (whole ++ '.' :: fraction) where
  wellFormed := by
    refine ⟨wholeDigits, noZeroInFront, ?_, by simp⟩
    intro digits same
    obtain rfl := Option.some.inj same
    exact fractionDigits
  write_eq := by
    simp [write, writeFraction, writeExponent]
  isFloat := isFloat_of_fraction rfl fractionDigits.1 rfl room

theorem Numeral.areDigits_zero : AreDigits ['0'] :=
  ⟨List.cons_ne_nil _ _, List.forall_mem_singleton.mpr rfl⟩

theorem isDigit_of_mem_replicate
    {count : Nat}
    {c : Char}
    (member : c ∈ List.replicate count '0') :
    c.isDigit := by
  rw [List.eq_of_mem_replicate member]
  rfl

/-- Zero is a numeral for a float. -/
theorem Numeral.shows_zero (negative : Bool) :
    Shows ⟨negative, ['0'], some ['0'], none⟩ negative ['0', '.', '0'] :=
  shows_fraction negative areDigits_zero (.inl rfl) areDigits_zero (by decide)

variable {negative : Bool} {digits : Nat} {leading : Int}

/-- Digits that begin behind the point are written as a numeral. -/
theorem exists_shows_behind
    (room : digits ≤ significandLimit)
    (least : -5 ≤ leading)
    (behind : leading < 0) :
    ∃ numeral : Numeral, numeral.Shows negative (floatLayout.place (writeNat digits) leading) := by
  have plain : floatLayout.leastPlain ≤ leading ∧ leading ≤ floatLayout.greatestPlain :=
    ⟨least, (show leading ≤ 15 by omega)⟩
  rw [Floating.Layout.place, if_pos plain, if_pos behind]
  show ∃ numeral : Numeral, numeral.Shows negative
    (['0'] ++ '.' :: (List.replicate (-leading - 1).toNat '0' ++ writeNat digits))
  refine ⟨_, Numeral.shows_fraction negative Numeral.areDigits_zero (.inl rfl) ?_ ?_⟩
  · refine ⟨by simp [(areDigits_writeNat digits).1], ?_⟩
    intro c member
    rcases List.mem_append.mp member with zero | digit
    · exact isDigit_of_mem_replicate zero
    · exact isDigit_of_mem_writeNat digit
  · have zeros :
        ['0'] ++ List.replicate (-leading - 1).toNat '0' =
          List.replicate ((-leading - 1).toNat + 1) '0' := rfl
    rw [← List.append_assoc, zeros]
    exact (ofDigitChars_zeros_append _ digits).trans_le room

/-- Digits that end before the point are written as a numeral, with zeros up to it. -/
theorem exists_shows_before
    (positive : 0 < digits)
    (before : (writeNat digits).length ≤ leading.toNat + 1)
    (notBehind : 0 ≤ leading)
    (greatest : leading ≤ 15) :
    ∃ numeral : Numeral, numeral.Shows negative (floatLayout.place (writeNat digits) leading) := by
  have plain : floatLayout.leastPlain ≤ leading ∧ leading ≤ floatLayout.greatestPlain :=
    ⟨(show -5 ≤ leading by omega), greatest⟩
  obtain ⟨zeros, isWhole⟩ := Nat.exists_eq_add_of_le before
  have missing : leading.toNat + 1 - (writeNat digits).length = zeros := by omega
  have padded :
      (writeNat digits ++ List.replicate zeros '0').length = leading.toNat + 1 := by
    rw [List.length_append, List.length_replicate, isWhole]
  rw [Floating.Layout.place, if_pos plain, if_neg (Int.not_lt.mpr notBehind)]
  dsimp only
  rw [missing, List.drop_of_length_le padded.le, List.take_of_length_le padded.le, List.isEmpty_nil,
    if_pos rfl, ← List.append_cons]
  refine ⟨_, Numeral.shows_fraction negative ?_ (.inr ?_) Numeral.areDigits_zero ?_⟩
  · refine ⟨by simp [(areDigits_writeNat digits).1], ?_⟩
    intro c member
    rcases List.mem_append.mp member with digit | zero
    · exact isDigit_of_mem_writeNat digit
    · exact isDigit_of_mem_replicate zero
  · rw [List.head?_append_of_ne_nil _ (areDigits_writeNat digits).1]
    exact head?_writeNat_ne_zero positive
  · rw [List.append_assoc, ← List.replicate_succ', ofDigitChars_append_zeros]
    have few : digits < 10 ^ (writeNat digits).length :=
      (Nat.length_toDigits_le_iff (by decide) Nat.length_toDigits_pos).mp le_rfl
    calc
      10 ^ (zeros + 1) * digits ≤ 10 ^ (zeros + 1) * 10 ^ (writeNat digits).length :=
        Nat.mul_le_mul_left _ few.le
      _ = 10 ^ (zeros + 1 + (writeNat digits).length) := (Nat.pow_add ..).symm
      _ ≤ 10 ^ 17 := Nat.pow_le_pow_right (by decide) (by omega)
      _ ≤ significandLimit := by decide

/-- Digits with the point among them are written as a numeral. -/
theorem exists_shows_around
    (positive : 0 < digits)
    (room : digits ≤ significandLimit)
    (around : leading.toNat + 1 < (writeNat digits).length)
    (notBehind : 0 ≤ leading)
    (greatest : leading ≤ 15) :
    ∃ numeral : Numeral, numeral.Shows negative (floatLayout.place (writeNat digits) leading) := by
  have plain : floatLayout.leastPlain ≤ leading ∧ leading ≤ floatLayout.greatestPlain :=
    ⟨(show -5 ≤ leading by omega), greatest⟩
  have noZeros : leading.toNat + 1 - (writeNat digits).length = 0 := by omega
  have someBehind : (writeNat digits).drop (leading.toNat + 1) ≠ [] := by
    simpa using around
  rw [Floating.Layout.place, if_pos plain, if_neg (Int.not_lt.mpr notBehind)]
  dsimp only
  rw [noZeros, List.replicate_zero, List.append_nil, if_neg (by rwa [List.isEmpty_iff]),
    ← List.append_cons]
  refine ⟨_, Numeral.shows_fraction negative ?_ (.inr ?_) ?_ ?_⟩
  · refine ⟨by simp [(areDigits_writeNat digits).1], ?_⟩
    exact fun c member => isDigit_of_mem_writeNat (List.mem_of_mem_take member)
  · rw [List.head?_take, if_neg (Nat.succ_ne_zero _)]
    exact head?_writeNat_ne_zero positive
  · exact ⟨someBehind, fun c member => isDigit_of_mem_writeNat (List.mem_of_mem_drop member)⟩
  · rw [List.take_append_drop]
    exact Nat.ofDigitChars_ten_toDigits.trans_le room

/-- Digits far from the point are written as a numeral with an exponent. -/
theorem exists_shows_scientific
    {exponent : Int}
    (far : ¬ (-5 ≤ leading ∧ leading ≤ 15))
    (position : leading = exponent + (writeNat digits).length - 1)
    (notHuge : leading ≤ exponentLimit)
    (room : digits ≤ significandLimit)
    (isSome : (ofDecimal? negative digits exponent).isSome) :
    ∃ numeral : Numeral, numeral.Shows negative (floatLayout.place (writeNat digits) leading) := by
  obtain ⟨first, rest, parts⟩ := List.exists_cons_of_ne_nil (areDigits_writeNat digits).1
  have allDigits : ∀ c ∈ first :: rest, c.isDigit :=
    fun c member => isDigit_of_mem_writeNat (parts ▸ member)
  have stands : Nat.ofDigitChars 10 (first :: rest) 0 = digits := by
    rw [← parts]
    exact Nat.ofDigitChars_ten_toDigits
  have shift : leading - rest.length = exponent := by
    rw [parts, List.length_cons] at position
    omega
  have fraction : (if rest = [] then none else some rest).getD [] = rest := by
    split
    · exact Eq.symm ‹_›
    · rfl
  have allTaken :
      Numeral.digits ⟨negative, [first], if rest = [] then none else some rest,
        some ⟨leading < 0, writeNat leading.natAbs⟩⟩ = first :: rest := by
    rw [Numeral.digits, fraction]
    rfl
  refine ⟨⟨negative, [first], if rest = [] then none else some rest,
    some ⟨leading < 0, writeNat leading.natAbs⟩⟩, ?_, ?_, ?_⟩
  · refine ⟨⟨by simp, by simpa using allDigits first⟩, .inl rfl, ?_, ?_⟩
    · intro held same
      dsimp only at same
      split at same
      · cases same
      · obtain rfl := Option.some.inj same
        exact ⟨‹_›, fun c member => allDigits c (List.mem_cons_of_mem _ member)⟩
    · intro held same
      obtain rfl := Option.some.inj same
      exact areDigits_writeNat _
  · have notPlain : ¬ (floatLayout.leastPlain ≤ leading ∧ leading ≤ floatLayout.greatestPlain) := far
    rw [Floating.Layout.place, if_neg notPlain, parts]
    cases rest with
    | nil =>
        simp [Numeral.write, Numeral.writeFraction, Numeral.writeExponent,
          Floating.withPointAfterFirst, writeNat]
    | cons second rest =>
        simp [Numeral.write, Numeral.writeFraction, Numeral.writeExponent,
          Floating.withPointAfterFirst, writeNat]
  · refine Numeral.isFloat_of_exponent rfl notHuge ?_ ?_
    · rw [allTaken, stands]
      exact room
    · rw [allTaken, stands, fraction, shift]
      exact isSome

/-- The leading digit of a readable decimal stands where an exponent can tell. -/
theorem leading_le_exponentLimit
    {form : DecimalForm}
    (readable : form.Readable)
    (positive : 0 < form.digits) :
    form.exponent + (writeNat form.digits).length - 1 ≤ exponentLimit := by
  have small : form.exponent < 1024 := by
    by_contra large
    have power : (2 : ℚ) ^ 1024 ≤ form.value := by
      calc
        (2 : ℚ) ^ 1024 ≤ 10 ^ 1024 := by gcongr; norm_num
        _ = 10 ^ (1024 : Int) := (zpow_natCast _ _).symm
        _ ≤ 10 ^ form.exponent := zpow_le_zpow_right₀ (by norm_num) (by omega)
        _ ≤ form.digits * 10 ^ form.exponent := by
            refine le_mul_of_one_le_left (by positivity) ?_
            exact_mod_cast positive
    exact absurd readable.value_lt (not_lt.mpr power)
  have few : (writeNat form.digits).length ≤ 18 := by
    refine (Nat.length_toDigits_le_iff (by decide) (by decide)).mpr ?_
    exact readable.digits_le.trans_lt (by decide)
  unfold exponentLimit
  omega

/-- A float is written as a well-formed numeral for a float. -/
theorem exists_shows_float (value : Floating.Number) :
    ∃ numeral : Numeral, numeral.WellFormed ∧ numeral.write = (Number.float value).write ∧
      numeral.IsFloat := by
  suffices ∃ text, (Number.float value).write = (if value.negative then ['-'] else []) ++ text ∧
      ∃ numeral : Numeral, numeral.Shows value.negative text by
    obtain ⟨text, written, numeral, shows⟩ := this
    exact ⟨numeral, shows.wellFormed, shows.write_eq.trans written.symm, shows.isFloat⟩
  by_cases zero : value.magnitude.significand = 0
  · refine ⟨['0', '.', '0'], ?_, ⟨_, Numeral.shows_zero _⟩⟩
    rw [Number.write, Floating.Layout.write, if_pos zero]
  · have isSome := Floating.isSome_ofDecimal?_shortest value.negative zero
    have readable := Floating.readable_shortest zero
    refine ⟨_, by rw [Number.write, Floating.Layout.write, if_neg zero], ?_⟩
    generalize Floating.shortest value.magnitude = form at readable isSome
    show ∃ numeral : Numeral, numeral.Shows value.negative
      (floatLayout.place (writeNat form.digits)
        (form.exponent + ((writeNat form.digits).length : Int) - 1))
    rcases form.digits.eq_zero_or_pos with none | positive
    · rw [readable.eq_of_digits_eq_zero none]
      exact ⟨_, Numeral.shows_zero _⟩
    · have room : form.digits ≤ significandLimit := readable.digits_le.trans (by decide)
      have notHuge := leading_le_exponentLimit readable positive
      generalize position : form.exponent + ((writeNat form.digits).length : Int) - 1 = leading
        at notHuge
      by_cases far : ¬ (-5 ≤ leading ∧ leading ≤ 15)
      · exact exists_shows_scientific far position.symm notHuge room isSome
      · obtain ⟨least, greatest⟩ := not_not.mp far
        by_cases behind : leading < 0
        · exact exists_shows_behind room least behind
        · have notBehind : 0 ≤ leading := Int.not_lt.mp behind
          by_cases before : (writeNat form.digits).length ≤ leading.toNat + 1
          · exact exists_shows_before positive before notBehind greatest
          · exact exists_shows_around positive room (Nat.not_le.mp before) notBehind greatest

/-! ## Numbers -/

/-- The number that is read from the written form of a number, if there is one. -/
def Number.reread (number : Number) : Number :=
  match readNumber number.write with
  | .ok (read, _) => read
  | .error _ => number

/-- An integer, and no float. -/
def Number.IsInteger : Number → Prop
  | .integer _ => True
  | .float _ => False

namespace Number.InRange

variable {number : Number}

/-- A number is written as a well-formed numeral that stands for a number. -/
theorem exists_numeral
    (inRange : number.InRange) :
    ∃ numeral : Numeral, numeral.WellFormed ∧ numeral.write = number.write ∧
      ∃ read, numeral.value = .ok read := by
  cases number with
  | integer value =>
      exact ⟨integerNumeral value, wellFormed_integerNumeral value, write_integerNumeral value,
        .integer value, value_integerNumeral inRange⟩
  | float value =>
      obtain ⟨numeral, wellFormed, written, read, isFloat⟩ := exists_shows_float value
      exact ⟨numeral, wellFormed, written, .float read, isFloat⟩

/-- A number is written with a digit or a sign in front. -/
theorem write_head
    (inRange : number.InRange) :
    ∃ c chars, number.write = c :: chars ∧ (c.isDigit ∨ c = '-') := by
  obtain ⟨numeral, wellFormed, written, _⟩ := inRange.exists_numeral
  rw [← written]
  exact numeral.write_head wellFormed

/-- The written form of a number is read up to its end. -/
theorem readNumber_write
    (inRange : number.InRange)
    {rest : List Char}
    (stops : Stops rest) :
    readNumber (number.write ++ rest) = .ok (number.reread, rest) := by
  obtain ⟨numeral, wellFormed, written, read, value⟩ := inRange.exists_numeral
  have reads {after : List Char} (stops : Stops after) :
      readNumber (number.write ++ after) = .ok (read, after) := by
    rw [← written, Numeral.readNumber_write wellFormed stops, value]
    rfl
  have readsAlone : readNumber number.write = .ok (read, []) := by
    simpa using reads stops_nil
  rw [reads stops, Number.reread, readsAlone]

/-- An integer is read as it was written. -/
theorem reread_eq
    (inRange : number.InRange)
    (isInteger : number.IsInteger) :
    number.reread = number := by
  cases number with
  | float value =>
      exact isInteger.elim
  | integer value =>
      have read := Numeral.readNumber_write (wellFormed_integerNumeral value) stops_nil
      rw [List.append_nil, write_integerNumeral, value_integerNumeral inRange] at read
      rw [Number.reread, read]
      rfl

end Number.InRange

end SourceUpgrade.Json
