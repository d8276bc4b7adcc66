import SourceUpgrade.Json.Printer
import SourceUpgrade.Json.Reader
import SourceUpgrade.Proofs.Outcome
import SourceUpgrade.Proofs.Span

namespace SourceUpgrade.Json

/-!
# Numbers that are read as they were written

A number is written as a numeral: digits, perhaps a fraction and perhaps an exponent. A well-formed
numeral is read back when the text ends behind it, or a comma or a line end follows. An integer of
64 bits is the value of its numeral.
-/

/-! ## Digits -/

/-- The text ends here, or a comma or a line end follows. -/
def Stops (rest : List Char) : Prop :=
  ∀ c ∈ rest.head?, c = ',' ∨ c = '\n'

theorem stops_nil : Stops [] := by
  intro c next
  cases next

theorem Stops.not_numeral
    {rest : List Char}
    (stops : Stops rest)
    {c : Char}
    (next : c ∈ rest.head?) :
    c.isDigit = false ∧ c ≠ '.' ∧ c ≠ 'e' ∧ c ≠ 'E' := by
  rcases stops c next with rfl | rfl <;> decide

/-- No digit stands at the front. -/
def NoDigit (rest : List Char) : Prop :=
  ∀ c ∈ rest.head?, c.isDigit = false

theorem Stops.noDigit
    {rest : List Char}
    (stops : Stops rest) :
    NoDigit rest :=
  fun _ next => (stops.not_numeral next).1

theorem noDigit_cons
    {c : Char}
    (isOther : c.isDigit = false)
    (rest : List Char) :
    NoDigit (c :: rest) := by
  intro other next
  obtain rfl : c = other := Option.some.inj next
  exact isOther

theorem spanDigits_append
    {digits rest : List Char}
    (allDigits : ∀ c ∈ digits, c.isDigit)
    (noDigit : NoDigit rest) :
    spanDigits (digits ++ rest) = (digits, rest) := by
  rw [spanDigits, takeWhile_append_of_stop allDigits noDigit,
    dropWhile_append_of_stop allDigits noDigit]

theorem isDigit_of_mem_writeNat
    {value : Nat}
    {c : Char}
    (member : c ∈ writeNat value) :
    c.isDigit :=
  Nat.isDigit_of_mem_toDigits (by decide) (by decide) member

/-- A number is written with no zero in front, unless it is zero. -/
theorem head?_writeNat_ne_zero
    {value : Nat}
    (positive : 0 < value) :
    (writeNat value).head? ≠ some '0' := by
  induction value using Nat.strongRecOn with
  | ind value inductionHypothesis =>
      rw [writeNat, Nat.toDigits_eq_if (by decide)]
      split
      · rename_i small
        have nonzeroDigit :
            ∀ digit < 10, 0 < digit → [Nat.digitChar digit].head? ≠ some '0' := by decide
        exact nonzeroDigit value small positive
      · rename_i large
        have nonempty : Nat.toDigits 10 (value / 10) ≠ [] := Nat.toDigits_ne_nil
        rw [List.head?_append, List.head?_eq_some_head nonempty, Option.some_or,
          ← List.head?_eq_some_head nonempty]
        exact inductionHypothesis (value / 10) (by omega) (by omega)

/-! ## Numerals -/

namespace Numeral

/-- The written form of a fraction, if there is one. -/
def writeFraction : Option (List Char) → List Char
  | none => []
  | some digits => '.' :: digits

/-- The written form of an exponent, if there is one; its sign is always written. -/
def writeExponent : Option Exponent → List Char
  | none => []
  | some exponent => 'e' :: (if exponent.negative then '-' else '+') :: exponent.digits

/-- The written form of a numeral. -/
def write (numeral : Numeral) : List Char :=
  (if numeral.negative then ['-'] else []) ++
    (numeral.whole ++ (writeFraction numeral.fraction ++ writeExponent numeral.exponent))

/-- Whether some characters are digits and at least one. -/
def AreDigits (digits : List Char) : Prop :=
  digits ≠ [] ∧ ∀ c ∈ digits, c.isDigit

/-- Whether the parts of a numeral are digits, the whole part with no zero in front of others. -/
structure WellFormed (numeral : Numeral) : Prop where
  whole : AreDigits numeral.whole
  noZeroInFront : numeral.whole.length = 1 ∨ numeral.whole.head? ≠ some '0'
  fraction : ∀ digits ∈ numeral.fraction, AreDigits digits
  exponent : ∀ exponent ∈ numeral.exponent, AreDigits exponent.digits

theorem noDigit_writeExponent
    (exponent : Option Exponent)
    {rest : List Char}
    (noDigit : NoDigit rest) :
    NoDigit (writeExponent exponent ++ rest) := by
  cases exponent with
  | none =>
      exact noDigit
  | some exponent =>
      exact noDigit_cons (by decide) _

theorem noDigit_writeFraction
    (fraction : Option (List Char))
    {rest : List Char}
    (noDigit : NoDigit rest) :
    NoDigit (writeFraction fraction ++ rest) := by
  cases fraction with
  | none =>
      exact noDigit
  | some digits =>
      exact noDigit_cons (by decide) _

/-- The digits of a whole part are read up to what is no digit. -/
theorem readWhole_append
    {whole rest : List Char}
    (digits : AreDigits whole)
    (noZeroInFront : whole.length = 1 ∨ whole.head? ≠ some '0')
    (noDigit : NoDigit rest) :
    readWhole (whole ++ rest) = .ok (whole, rest) := by
  rw [readWhole, spanDigits_append digits.2 noDigit]
  dsimp only
  split
  · exact absurd rfl digits.1
  · rcases noZeroInFront with single | noZero
    · simp at single
    · exact absurd rfl noZero
  · rfl

/-- A fraction is read back, also if there is none. -/
theorem readFraction_append
    {fraction : Option (List Char)}
    (digits : ∀ held ∈ fraction, AreDigits held)
    {rest : List Char}
    (noDigit : NoDigit rest)
    (noPoint : ∀ after, rest ≠ '.' :: after) :
    readFraction (writeFraction fraction ++ rest) = .ok (fraction, rest) := by
  cases fraction with
  | none =>
      unfold readFraction writeFraction
      split
      · rename_i point
        exact absurd point (noPoint _)
      · rfl
  | some held =>
      obtain ⟨some, allDigits⟩ := digits held rfl
      rw [writeFraction, List.cons_append, readFraction, spanDigits_append allDigits noDigit]
      simp [some]

/-- An exponent is read back, also if there is none. -/
theorem readExponent_append
    {exponent : Option Exponent}
    (digits : ∀ held ∈ exponent, AreDigits held.digits)
    {rest : List Char}
    (stops : Stops rest) :
    readExponent (writeExponent exponent ++ rest) = .ok (exponent, rest) := by
  cases exponent with
  | none =>
      cases rest with
      | nil =>
          rfl
      | cons c rest =>
          obtain ⟨_, _, notSmall, notLarge⟩ := stops.not_numeral (c := c) rfl
          simp [readExponent, writeExponent, notSmall, notLarge]
  | some held =>
      obtain ⟨negative, held⟩ := held
      obtain ⟨some, allDigits⟩ := digits _ rfl
      have cut : spanDigits (held ++ rest) = (held, rest) :=
        spanDigits_append allDigits stops.noDigit
      cases negative with
      | false =>
          simp [writeExponent, readExponent, cut, some]
      | true =>
          simp [writeExponent, readExponent, cut, some]

/-- A well-formed numeral is read back, its sign read. -/
theorem readNumeral_append
    {numeral : Numeral}
    (wellFormed : numeral.WellFormed)
    {rest : List Char}
    (stops : Stops rest) :
    readNumeral numeral.negative
        (numeral.whole ++
          (writeFraction numeral.fraction ++ (writeExponent numeral.exponent ++ rest))) =
      .ok (numeral, rest) := by
  have noDigit : NoDigit (writeExponent numeral.exponent ++ rest) :=
    noDigit_writeExponent numeral.exponent stops.noDigit
  have noPoint : ∀ after, writeExponent numeral.exponent ++ rest ≠ '.' :: after := by
    intro after same
    cases held : numeral.exponent with
    | none =>
        rw [held] at same
        exact absurd rfl (stops.not_numeral (c := '.') (by rw [show rest = _ from same]; rfl)).2.1
    | some exponent =>
        rw [held] at same
        exact absurd (List.cons.inj same).1 (by decide)
  rw [readNumeral]
  refine (bind_of_ok (readWhole_append wellFormed.whole wellFormed.noZeroInFront
    (noDigit_writeFraction numeral.fraction noDigit))).trans ?_
  refine (bind_of_ok (readFraction_append wellFormed.fraction noDigit noPoint)).trans ?_
  exact bind_of_ok (readExponent_append wellFormed.exponent stops)

/-- A well-formed numeral begins with a digit or a sign. -/
theorem write_head
    {numeral : Numeral}
    (wellFormed : numeral.WellFormed) :
    ∃ c chars, numeral.write = c :: chars ∧ (c.isDigit ∨ c = '-') := by
  obtain ⟨digit, digits, parts⟩ := List.exists_cons_of_ne_nil wellFormed.whole.1
  have isDigit : digit.isDigit := wellFormed.whole.2 digit (parts ▸ List.mem_cons_self)
  unfold write
  cases numeral.negative with
  | false =>
      rw [parts]
      exact ⟨digit, _, rfl, .inl isDigit⟩
  | true =>
      exact ⟨'-', _, rfl, .inr rfl⟩

/-- A well-formed numeral is read back as the number that it stands for. -/
theorem readNumber_write
    {numeral : Numeral}
    (wellFormed : numeral.WellFormed)
    {rest : List Char}
    (stops : Stops rest) :
    readNumber (numeral.write ++ rest) = numeral.value.map fun number => (number, rest) := by
  have read := readNumeral_append wellFormed stops
  have text :
      numeral.write ++ rest =
        (if numeral.negative then ['-'] else []) ++
          (numeral.whole ++
            (writeFraction numeral.fraction ++ (writeExponent numeral.exponent ++ rest))) := by
    simp [write]
  have valued :
      (do return (← numeral.value, rest)) = numeral.value.map fun number => (number, rest) := by
    cases numeral.value <;> rfl
  rw [text, ← valued]
  cases sign : numeral.negative with
  | true =>
      rw [sign] at read
      exact bind_of_ok read
  | false =>
      rw [sign] at read
      obtain ⟨digit, digits, parts⟩ := List.exists_cons_of_ne_nil wellFormed.whole.1
      have isDigit : digit.isDigit := wellFormed.whole.2 digit (parts ▸ List.mem_cons_self)
      have noSign : digit ≠ '-' := by
        rintro rfl
        exact absurd isDigit (by decide)
      rw [parts, List.cons_append] at read ⊢
      rw [if_neg Bool.false_ne_true, List.nil_append, readNumber]
      · exact bind_of_ok read
      · intro after same
        exact noSign (List.cons.inj same).1

end Numeral

/-! ## Values -/

theorem le_ofDigitChars
    (digits : List Char)
    (first : Nat) :
    first ≤ Nat.ofDigitChars 10 digits first := by
  induction digits generalizing first with
  | nil =>
      exact Nat.le_refl _
  | cons digit digits inductionHypothesis =>
      rw [Nat.ofDigitChars_cons]
      exact Nat.le_trans (by omega) (inductionHypothesis _)

/-- All digits are taken if the number they make up has room. -/
theorem takeDigits_eq
    {digits : List Char}
    {first : Nat}
    (room : Nat.ofDigitChars 10 digits first ≤ significandLimit)
    (taken : Nat) :
    takeDigits first taken digits =
      ⟨Nat.ofDigitChars 10 digits first, taken + digits.length, 0⟩ := by
  induction digits generalizing first taken with
  | nil =>
      rfl
  | cons digit digits inductionHypothesis =>
      rw [Nat.ofDigitChars_cons] at room
      have fits : ¬ significandLimit < 10 * first + (digit.toNat - 0x30) :=
        Nat.not_lt.mpr (Nat.le_trans (le_ofDigitChars digits _) room)
      rw [takeDigits, if_neg fits]
      refine (inductionHypothesis room (taken + 1)).trans ?_
      rw [Nat.ofDigitChars_cons, List.length_cons]
      congr 1
      omega

/-- A number that is written is taken into the significand if it has room. -/
theorem takeDigits_writeNat
    {value : Nat}
    (room : value ≤ significandLimit) :
    takeDigits 0 0 (writeNat value) = ⟨value, (writeNat value).length, 0⟩ := by
  have same : Nat.ofDigitChars 10 (writeNat value) 0 = value := Nat.ofDigitChars_ten_toDigits
  rw [takeDigits_eq (by rw [same]; exact room), same, Nat.zero_add]

theorem areDigits_writeNat (value : Nat) : Numeral.AreDigits (writeNat value) :=
  ⟨Nat.toDigits_ne_nil, fun _ => isDigit_of_mem_writeNat⟩

/-- A written number has no zero in front of other digits. -/
theorem noZeroInFront_writeNat (value : Nat) :
    (writeNat value).length = 1 ∨ (writeNat value).head? ≠ some '0' := by
  rcases value.eq_zero_or_pos with rfl | positive
  · exact .inl rfl
  · exact .inr (head?_writeNat_ne_zero positive)

/-- The numeral that an integer is written as. -/
def integerNumeral (value : Int) : Numeral where
  negative := value < 0
  whole := writeNat value.natAbs
  fraction := none
  exponent := none

theorem wellFormed_integerNumeral (value : Int) : (integerNumeral value).WellFormed where
  whole := areDigits_writeNat _
  noZeroInFront := noZeroInFront_writeNat _
  fraction := by simp [integerNumeral]
  exponent := by simp [integerNumeral]

theorem write_integerNumeral (value : Int) :
    (integerNumeral value).write = (Number.integer value).write := by
  by_cases negative : value < 0
  · simp [integerNumeral, Numeral.write, Numeral.writeFraction, Numeral.writeExponent,
      Number.write, negative]
  · simp [integerNumeral, Numeral.write, Numeral.writeFraction, Numeral.writeExponent,
      Number.write, negative]

/-- An integer of 64 bits, with or without sign, or a float. -/
def Number.InRange : Number → Prop
  | .integer value => -0x8000000000000000 ≤ value ∧ value ≤ 0xFFFFFFFFFFFFFFFF
  | .float _ => True

/-- The numeral of an integer of 64 bits stands for the integer. -/
theorem value_integerNumeral
    {value : Int}
    (inRange : (Number.integer value).InRange) :
    (integerNumeral value).value = .ok (.integer value) := by
  obtain ⟨least, greatest⟩ := inRange
  have room : value.natAbs ≤ significandLimit := by
    unfold significandLimit
    omega
  by_cases negative : value < 0
  · have size : (value.natAbs : Int) = -value := by omega
    have bound : value.natAbs ≠ 0 ∧ value.natAbs ≤ 0x8000000000000000 := by omega
    simp [integerNumeral, Numeral.value, takeDigits_writeNat room, negative, bound.1, bound.2, size]
  · have size : (value.natAbs : Int) = value := by omega
    simp [integerNumeral, Numeral.value, takeDigits_writeNat room, negative, size]

end SourceUpgrade.Json
