import Mathlib.Data.List.Forall2
import SourceUpgrade.Unicode.Lowercase

namespace SourceUpgrade.Unicode

/-!
# Lower case of texts and of their parts

The lower-case form of a part of a text depends on what stands around it, by its capital sigmas and
by nothing else. `IsOpen` says of a capital sigma in a text that it does so depend: what stands
before it or after it in the text does not decide whether it is the end of a word.
-/

/-! ## Upper and lower case of ASCII letters -/

/-- A character is another one, or its upper-case or lower-case form if it is an ASCII letter. -/
def Recased (c d : Char) : Prop :=
  d = c ∨ d = c.toUpper ∨ d = c.toLower

theorem toNat_lt_of_isAlpha
    {c : Char}
    (letter : c.isAlpha) :
    c.toNat < 0x80 := by
  delta Char.isAlpha Char.isUpper Char.isLower at letter
  simp only [Bool.or_eq_true, Bool.and_eq_true, decide_eq_true_eq, ge_iff_le,
    UInt32.le_iff_toNat_le] at letter
  have bounds : 'Z'.val.toNat = 90 ∧ 'z'.val.toNat = 122 := by decide
  rw [Char.toNat]
  omega

theorem Recased.eq_of_not_isAlpha
    {c d : Char}
    (recased : Recased c d)
    (noLetter : ¬ c.isAlpha) :
    d = c := by
  delta Char.isAlpha Char.isUpper Char.isLower at noLetter
  simp only [Bool.or_eq_true, Bool.and_eq_true, decide_eq_true_eq, not_or] at noLetter
  rcases recased with rfl | rfl | rfl
  · rfl
  · exact dif_neg noLetter.2
  · exact dif_neg noLetter.1

/-- All forms of an ASCII letter are letters with one lower-case form. -/
theorem Recased.of_isAlpha
    {c d : Char}
    (recased : Recased c d)
    (letter : c.isAlpha) :
    d.isAlpha ∧ d.toLower = c.toLower := by
  have table : ∀ code : Fin 0x80,
      let c := Char.ofNat code
      c.isAlpha →
        (c.toUpper.isAlpha ∧ c.toUpper.toLower = c.toLower) ∧
          c.toLower.isAlpha ∧ c.toLower.toLower = c.toLower := by
    decide +kernel
  have entry := table ⟨c.toNat, toNat_lt_of_isAlpha letter⟩
  rw [Char.ofNat_toNat] at entry
  obtain ⟨ofUpper, ofLower⟩ := entry letter
  rcases recased with rfl | rfl | rfl
  · exact ⟨letter, rfl⟩
  · exact ofUpper
  · exact ofLower

/-- What the lower-case form of an ASCII letter tells of it holds of all forms. -/
theorem Recased.apply_eq
    {α : Type}
    {c d : Char}
    (recased : Recased c d)
    (f told : Char → α)
    (letters : ∀ c, c.isAlpha → f c = told c.toLower) :
    f d = f c := by
  by_cases letter : c.isAlpha
  · obtain ⟨otherLetter, sameLower⟩ := recased.of_isAlpha letter
    rw [letters d otherLetter, letters c letter, sameLower]
  · rw [recased.eq_of_not_isAlpha letter]

theorem Recased.toLower_eq
    {c d : Char}
    (recased : Recased c d) :
    d.toLower = c.toLower :=
  recased.apply_eq Char.toLower id fun _ _ => rfl

theorem recased_toLower (c : Char) : Recased c c.toLower :=
  .inr (.inr rfl)

/-- An ASCII letter has case, is not passed over, and has one character as lower-case form. -/
theorem of_isAlpha
    {c : Char}
    (letter : c.isAlpha) :
    isCased c = true ∧ isCaseIgnorable c = false ∧ c ≠ 'Σ' ∧ lowerChar c = [c.toLower] := by
  have ascii := toNat_lt_of_isAlpha letter
  refine ⟨?_, ?_, ?_, ?_⟩
  · rw [isCased, if_pos ascii, letter]
  · have differs (d : Char) (noLetter : d.isAlpha = false) : (c == d) = false := by
      rw [beq_eq_false_iff_ne]
      rintro rfl
      rw [noLetter] at letter
      cases letter
    rw [isCaseIgnorable, if_pos ascii]
    simp [differs]
  · rintro rfl
    exact absurd letter (by decide)
  · rw [lowerChar, if_pos ascii]

@[simp]
theorem isCased_toLower (c : Char) : isCased c.toLower = isCased c :=
  (recased_toLower c).apply_eq isCased (fun _ => true) fun _ letter => (of_isAlpha letter).1

@[simp]
theorem isCaseIgnorable_toLower (c : Char) : isCaseIgnorable c.toLower = isCaseIgnorable c :=
  (recased_toLower c).apply_eq isCaseIgnorable (fun _ => false) fun _ letter =>
    (of_isAlpha letter).2.1

@[simp]
theorem lowerChar_toLower (c : Char) : lowerChar c.toLower = lowerChar c :=
  (recased_toLower c).apply_eq lowerChar (fun lowered => [lowered]) fun _ letter =>
    (of_isAlpha letter).2.2.2

@[simp]
theorem toLower_eq_sigma_iff (c : Char) : c.toLower = 'Σ' ↔ c = 'Σ' :=
  iff_of_eq <|
    (recased_toLower c).apply_eq (· = 'Σ') (fun _ => False) fun _ letter =>
      eq_false (of_isAlpha letter).2.2.1

/-- What is passed over leaves the question to what comes next. -/
theorem meetsCased_cons
    (c : Char)
    (rest : List Char) :
    meetsCased (c :: rest) = if isCaseIgnorable c then meetsCased rest else isCased c := by
  by_cases passedOver : isCaseIgnorable c
  · simp [meetsCased, passedOver]
  · simp [meetsCased, passedOver]

@[simp]
theorem meetsCased_map_toLower (cs : List Char) :
    meetsCased (cs.map Char.toLower) = meetsCased cs := by
  induction cs with
  | nil =>
      rfl
  | cons c rest inductionHypothesis =>
      rw [List.map_cons, meetsCased_cons, meetsCased_cons, inductionHypothesis,
        isCaseIgnorable_toLower, isCased_toLower]

/-- The lower-case form of a text does not depend on the case of its ASCII letters. -/
theorem lower_map_toLower (text : List Char) :
    lower (text.map Char.toLower) = lower text := by
  suffices anywhere : ∀ before,
      lowerFrom (before.map Char.toLower) (text.map Char.toLower) = lowerFrom before text from
    anywhere []
  induction text with
  | nil =>
      intro before
      rfl
  | cons c rest inductionHypothesis =>
      intro before
      have tail := inductionHypothesis (c :: before)
      rw [List.map_cons] at tail
      simp only [List.map_cons, lowerFrom, tail, lowerSigma, meetsCased_map_toLower, beq_iff_eq,
        toLower_eq_sigma_iff, lowerChar_toLower]

theorem lower_eq_of_recased
    {text shown : List Char}
    (recased : List.Forall₂ Recased text shown) :
    lower shown = lower text := by
  have sameLetters : shown.map Char.toLower = text.map Char.toLower := by
    induction recased with
    | nil =>
        rfl
    | cons head _ inductionHypothesis =>
        rw [List.map_cons, List.map_cons, head.toLower_eq, inductionHypothesis]
  rw [← lower_map_toLower shown, sameLetters, lower_map_toLower]

/-! ## Parts of a text -/

/-- The lower-case form of a text between what stands before it, nearest first, and after it. -/
def lowerWithin (before after : List Char) : List Char → List Char
  | [] => []
  | c :: rest =>
      (if c == 'Σ' then [lowerSigma before (rest ++ after)] else lowerChar c) ++
        lowerWithin (c :: before) after rest

/-- The lower-case form of a text is that of its parts, each between the others. -/
theorem lowerFrom_append
    (before text after : List Char) :
    lowerFrom before (text ++ after) =
      lowerWithin before after text ++ lowerFrom (text.reverse ++ before) after := by
  induction text generalizing before with
  | nil =>
      rfl
  | cons c rest inductionHypothesis =>
      simp [lowerFrom, lowerWithin, inductionHypothesis]

theorem lowerWithin_nil
    (before text : List Char) :
    lowerWithin before [] text = lowerFrom before text := by
  simpa [lowerFrom] using (lowerFrom_append before text []).symm

/-- A part of a text has its lower-case form, between the others, in that of the text. -/
theorem lower_eq_append
    (before text after : List Char) :
    lower (before ++ text ++ after) =
      lowerWithin [] (text ++ after) before ++ lowerWithin before.reverse after text ++
        lowerFrom (text.reverse ++ before.reverse) after := by
  rw [lower, List.append_assoc, lowerFrom_append, lowerFrom_append, List.append_nil,
    List.append_assoc]

theorem lowerWithin_append
    (before text rest after : List Char) :
    lowerWithin before after (text ++ rest) =
      lowerWithin before (rest ++ after) text ++
        lowerWithin (text.reverse ++ before) after rest := by
  induction text generalizing before with
  | nil =>
      rfl
  | cons c tail inductionHypothesis =>
      simp [lowerWithin, inductionHypothesis]

/-- Only the capital sigmas of a text can tell where it stands. -/
theorem lowerWithin_congr
    {text before after before' after' : List Char}
    (same :
      ∀ head tail, text = head ++ 'Σ' :: tail →
        lowerSigma (head.reverse ++ before) (tail ++ after) =
          lowerSigma (head.reverse ++ before') (tail ++ after')) :
    lowerWithin before after text = lowerWithin before' after' text := by
  induction text generalizing before before' with
  | nil =>
      rfl
  | cons c rest inductionHypothesis =>
      have sameRest :
          lowerWithin (c :: before) after rest = lowerWithin (c :: before') after' rest := by
        refine inductionHypothesis fun head tail split => ?_
        simpa [split] using same (c :: head) tail (by rw [split, List.cons_append])
      rw [lowerWithin, lowerWithin, sameRest]
      split
      · rename_i isSigma
        have here := same [] rest (by rw [beq_iff_eq.mp isSigma, List.nil_append])
        rw [List.reverse_nil, List.nil_append, List.nil_append] at here
        rw [here]
      · rfl

/-! ## Open capital sigmas -/

/-- What is passed over as a whole leaves the question to what comes next; all else settles it. -/
theorem meetsCased_append
    (cs more : List Char) :
    meetsCased (cs ++ more) =
      if cs.all isCaseIgnorable then meetsCased more else meetsCased cs := by
  induction cs with
  | nil =>
      rfl
  | cons c rest inductionHypothesis =>
      rw [List.cons_append, meetsCased_cons, meetsCased_cons, inductionHypothesis, List.all_cons]
      cases isCaseIgnorable c <;> simp

theorem meetsCased_of_all
    {cs : List Char}
    (passedOver : cs.all isCaseIgnorable) :
    meetsCased cs = false := by
  have none := meetsCased_append cs []
  rwa [List.append_nil, if_pos passedOver] at none

/--
Whether a capital sigma with this before it and that after it in a text depends on what is around
the text: nothing in the text says what it follows, or it follows a letter and nothing in the text
says what it is followed by.
-/
def IsOpen (head tail : List Char) : Prop :=
  head.all isCaseIgnorable = true ∧ meetsCased tail = false ∨
    meetsCased head.reverse = true ∧ tail.all isCaseIgnorable = true

/-- A capital sigma that is not open has one lower-case form, whatever is around the text. -/
theorem lowerSigma_eq_of_not_isOpen
    {head tail : List Char}
    (closed : ¬ IsOpen head tail)
    (before after : List Char) :
    lowerSigma (head.reverse ++ before) (tail ++ after) = lowerSigma head.reverse tail := by
  rw [lowerSigma, lowerSigma, meetsCased_append, meetsCased_append, List.all_reverse]
  cases headPassed : head.all isCaseIgnorable with
  | false =>
      cases follows : meetsCased head.reverse with
      | false =>
          simp
      | true =>
          have tailSettles : tail.all isCaseIgnorable = false :=
            Bool.eq_false_iff.mpr fun tailPassed => closed (Or.inr ⟨follows, tailPassed⟩)
          simp [tailSettles]
  | true =>
      have followed : meetsCased tail = true :=
        Bool.not_eq_false _ ▸ fun notFollowed => closed (Or.inl ⟨headPassed, notFollowed⟩)
      have tailSettles : tail.all isCaseIgnorable = false := by
        refine Bool.eq_false_iff.mpr fun tailPassed => ?_
        rw [meetsCased_of_all tailPassed] at followed
        cases followed
      have nothingBefore : meetsCased head.reverse = false :=
        meetsCased_of_all (by rwa [List.all_reverse])
      simp [followed, tailSettles, nothingBefore]

/-- Whether a text has an open capital sigma. -/
def HasOpenSigma (text : List Char) : Prop :=
  ∃ head tail, text = head ++ 'Σ' :: tail ∧ IsOpen head tail

/-! ## What an open capital sigma costs -/

section

variable {form : Char} {before after before' after' : List Char}

/-- One of the forms of the capital sigma is not rarer where each keeps it that has it. -/
theorem count_lowerWithin_le
    {text : List Char}
    (kept :
      ∀ head tail, text = head ++ 'Σ' :: tail →
        lowerSigma (head.reverse ++ before) (tail ++ after) = form →
          lowerSigma (head.reverse ++ before') (tail ++ after') = form) :
    (lowerWithin before after text).count form ≤ (lowerWithin before' after' text).count form := by
  induction text generalizing before before' with
  | nil =>
      exact Nat.le_refl _
  | cons c rest inductionHypothesis =>
      have restLe :
          (lowerWithin (c :: before) after rest).count form ≤
            (lowerWithin (c :: before') after' rest).count form := by
        refine inductionHypothesis fun head tail split => ?_
        simpa [split] using kept (c :: head) tail (by rw [split, List.cons_append])
      rw [lowerWithin, lowerWithin, List.count_append, List.count_append]
      refine Nat.add_le_add ?_ restLe
      split
      · rename_i isSigma
        have here := kept [] rest (by rw [beq_iff_eq.mp isSigma, List.nil_append])
        rw [List.reverse_nil, List.nil_append, List.nil_append] at here
        by_cases formed : lowerSigma before (rest ++ after) = form
        · exact Nat.le_of_eq (by rw [formed, here formed])
        · simp [formed]
      · exact Nat.le_refl _

/-- It is more frequent where, besides, a capital sigma gains it. -/
theorem count_lowerWithin_lt
    {head tail : List Char}
    (kept :
      ∀ head' tail', head ++ 'Σ' :: tail = head' ++ 'Σ' :: tail' →
        lowerSigma (head'.reverse ++ before) (tail' ++ after) = form →
          lowerSigma (head'.reverse ++ before') (tail' ++ after') = form)
    (notBefore : lowerSigma (head.reverse ++ before) (tail ++ after) ≠ form)
    (gained : lowerSigma (head.reverse ++ before') (tail ++ after') = form) :
    (lowerWithin before after (head ++ 'Σ' :: tail)).count form <
      (lowerWithin before' after' (head ++ 'Σ' :: tail)).count form := by
  have headLe :
      (lowerWithin before ('Σ' :: tail ++ after) head).count form ≤
        (lowerWithin before' ('Σ' :: tail ++ after') head).count form := by
    refine count_lowerWithin_le fun head' tail' split => ?_
    simpa using kept head' (tail' ++ 'Σ' :: tail) (by rw [split]; simp)
  have tailLe :
      (lowerWithin ('Σ' :: (head.reverse ++ before)) after tail).count form ≤
        (lowerWithin ('Σ' :: (head.reverse ++ before')) after' tail).count form := by
    refine count_lowerWithin_le fun head' tail' split => ?_
    simpa using kept (head ++ 'Σ' :: head') tail' (by rw [split]; simp)
  rw [lowerWithin_append, lowerWithin_append, lowerWithin, lowerWithin]
  simp only [beq_self_eq_true, if_true, List.count_append, gained]
  rw [List.count_singleton_self, List.count_singleton, if_neg (by simpa using notBefore)]
  omega

end

theorem lowerSigma_eq_final_iff
    {before after : List Char} :
    lowerSigma before after = 'ς' ↔ meetsCased before = true ∧ meetsCased after = false := by
  rw [lowerSigma]
  cases meetsCased before <;> cases meetsCased after <;> simp

theorem lowerSigma_eq_medial_iff
    {before after : List Char} :
    lowerSigma before after = 'σ' ↔ ¬ (meetsCased before = true ∧ meetsCased after = false) := by
  rw [lowerSigma]
  cases meetsCased before <;> cases meetsCased after <;> simp

theorem meetsCased_append_of_meetsCased
    {cs : List Char}
    (met : meetsCased cs = true)
    (more : List Char) :
    meetsCased (cs ++ more) = true := by
  rw [meetsCased_append]
  split
  · rename_i passedOver
    rw [meetsCased_of_all passedOver] at met
    cases met
  · exact met

/-- A letter before a text leaves fewer medial sigmas if there is an open one behind no letter. -/
theorem count_medial_lt
    {head tail : List Char}
    (headPassed : head.all isCaseIgnorable = true)
    (notFollowed : meetsCased tail = false) :
    (lowerWithin ['a'] [] (head ++ 'Σ' :: tail)).count 'σ' <
      (lowerWithin [] [] (head ++ 'Σ' :: tail)).count 'σ' := by
  have meetsLetter : meetsCased ['a'] = true := rfl
  refine count_lowerWithin_lt ?kept ?final ?medial
  case kept =>
    intro head' tail' _ medial
    rw [lowerSigma_eq_medial_iff] at medial ⊢
    rintro ⟨follows, notFollowed'⟩
    rw [List.append_nil] at follows
    exact medial ⟨meetsCased_append_of_meetsCased follows _, notFollowed'⟩
  case final =>
    have final : lowerSigma (head.reverse ++ ['a']) (tail ++ []) = 'ς' := by
      rw [lowerSigma_eq_final_iff, meetsCased_append, List.all_reverse, if_pos headPassed,
        List.append_nil]
      exact ⟨meetsLetter, notFollowed⟩
    rw [final]
    decide
  case medial =>
    rw [lowerSigma_eq_medial_iff, List.append_nil,
      meetsCased_of_all (by rwa [List.all_reverse])]
    exact fun both => Bool.false_ne_true both.1

/-- With a letter after it a text has fewer final sigmas if it has an open one behind a letter. -/
theorem count_final_lt
    {head tail : List Char}
    (follows : meetsCased head.reverse = true)
    (tailPassed : tail.all isCaseIgnorable = true) :
    (lowerWithin [] ['a'] (head ++ 'Σ' :: tail)).count 'ς' <
      (lowerWithin [] [] (head ++ 'Σ' :: tail)).count 'ς' := by
  have meetsLetter : meetsCased ['a'] = true := rfl
  refine count_lowerWithin_lt ?kept ?medial ?final
  case kept =>
    intro head' tail' _ final
    rw [lowerSigma_eq_final_iff] at final ⊢
    refine ⟨final.1, ?_⟩
    rw [List.append_nil]
    refine Bool.eq_false_iff.mpr fun followed => ?_
    exact Bool.false_ne_true (final.2.symm.trans (meetsCased_append_of_meetsCased followed _))
  case medial =>
    have medial : lowerSigma (head.reverse ++ []) (tail ++ ['a']) = 'σ' := by
      rw [lowerSigma_eq_medial_iff, meetsCased_append tail, if_pos tailPassed, meetsLetter]
      exact fun both => Bool.false_ne_true both.2.symm
    rw [medial]
    decide
  case final =>
    rw [lowerSigma_eq_final_iff, List.append_nil, List.append_nil]
    exact ⟨follows, meetsCased_of_all tailPassed⟩

/--
Around a text with an open capital sigma there can be such letters that the lower-case form of the
text does not occur in that of the whole.
-/
theorem exists_not_infix_of_hasOpenSigma
    {text : List Char}
    (isOpen : HasOpenSigma text) :
    ∃ before after, ¬ lower text <:+: lower (before ++ text ++ after) := by
  have whole : lower text = lowerWithin [] [] text := (lowerWithin_nil [] text).symm
  obtain ⟨head, tail, rfl, ⟨headPassed, notFollowed⟩ | ⟨follows, tailPassed⟩⟩ := isOpen
  · have fewer := count_medial_lt headPassed notFollowed
    refine ⟨['a'], [], fun occurs => absurd (occurs.count_le 'σ') (Nat.not_le.mpr ?_)⟩
    have letterFirst (text : List Char) :
        lower (['a'] ++ text ++ []) = ['a'] ++ lowerWithin ['a'] [] text := by
      rw [List.append_nil, lowerWithin_nil]
      rfl
    rwa [whole, letterFirst, List.count_append, List.count_singleton, if_neg (by decide),
      Nat.zero_add]
  · have fewer := count_final_lt follows tailPassed
    refine ⟨[], ['a'], fun occurs => absurd (occurs.count_le 'ς') (Nat.not_le.mpr ?_)⟩
    have letterLast (text : List Char) :
        lower ([] ++ text ++ ['a']) = lowerWithin [] ['a'] text ++ ['a'] := by
      rw [List.nil_append, lower, lowerFrom_append]
      rfl
    rwa [whole, letterLast, List.count_append, List.count_singleton, if_neg (by decide),
      Nat.add_zero]

end SourceUpgrade.Unicode
