import SourceUpgrade.Rule.Phrase

namespace SourceUpgrade

/-!
# Slots

A phrase read character by character. Two lists of slots clash when no text begins with both; this
is checked by reading them side by side. From clashes alone follows where a phrase cannot be found:
inside what another phrase has read, and across the place where that begins.
-/

/-- The characters that fit into a slot. -/
inductive CharClass where
  /-- These characters. -/
  | among (chars : List Char)
  /-- The blanks. -/
  | blank
deriving Repr, DecidableEq

namespace CharClass

/-- Whether a character belongs to a class. -/
def accepts : CharClass → Char → Bool
  | .among chars, c => chars.contains c
  | .blank, c => Text.isBlank c

/-- Whether a class has only blanks. -/
def onlyBlank : CharClass → Bool
  | .among chars => chars.all Text.isBlank
  | .blank => true

/-- Whether a class has no blanks. -/
def noBlank : CharClass → Bool
  | .among chars => chars.all fun c => !Text.isBlank c
  | .blank => false

/-- Whether two classes have no character in common. -/
def disjoint : CharClass → CharClass → Bool
  | .among chars, other => chars.all fun c => !other.accepts c
  | .blank, other => other.noBlank

/-- The characters of a class with only blanks are blank. -/
theorem isBlank_of_onlyBlank
    {charClass : CharClass}
    (onlyBlank : charClass.onlyBlank = true)
    {c : Char}
    (accepted : charClass.accepts c = true) :
    Text.isBlank c = true := by
  cases charClass with
  | among chars =>
      exact List.all_eq_true.mp onlyBlank c (List.contains_iff_mem.mp accepted)
  | blank =>
      exact accepted

/-- The characters of a class without blanks are not blank. -/
theorem not_isBlank_of_noBlank
    {charClass : CharClass}
    (noBlank : charClass.noBlank = true)
    {c : Char}
    (accepted : charClass.accepts c = true) :
    Text.isBlank c = false := by
  cases charClass with
  | among chars =>
      have notBlank := List.all_eq_true.mp noBlank c (List.contains_iff_mem.mp accepted)
      simpa using notBlank
  | blank =>
      exact absurd noBlank Bool.false_ne_true

/-- No character belongs to both of two disjoint classes. -/
theorem not_accepts_of_disjoint
    {first second : CharClass}
    (disjoint : first.disjoint second = true)
    {c : Char}
    (accepted : first.accepts c = true) :
    second.accepts c = false := by
  cases first with
  | among chars =>
      have notAccepted := List.all_eq_true.mp disjoint c (List.contains_iff_mem.mp accepted)
      simpa using notAccepted
  | blank =>
      cases acceptedToo : second.accepts c with
      | false =>
          rfl
      | true =>
          have notBlank : Text.isBlank c = false :=
            not_isBlank_of_noBlank disjoint acceptedToo
          exact absurd (accepted.symm.trans notBlank) Bool.true_eq_false.mp

end CharClass

/-- What a phrase expects at one place. -/
inductive Slot where
  /-- One character of a class. -/
  | one (charClass : CharClass)
  /-- Any number of blanks. -/
  | blanks
  /-- This character, if it is there. -/
  | maybe (mark : Char)
deriving Repr, DecidableEq

namespace Slot

/-- The text after a slot at its begin. -/
def drop? : Slot → List Char → Option (List Char)
  | .one _, [] => none
  | .one charClass, c :: rest => if charClass.accepts c then some rest else none
  | .blanks, text => some (text.dropWhile Text.isBlank)
  | .maybe _, [] => some []
  | .maybe mark, c :: rest => if c = mark then some rest else some (c :: rest)

/-- The text after slots at its begin. -/
def dropAll? : List Slot → List Char → Option (List Char)
  | [], text => some text
  | slot :: slots, text => (slot.drop? text).bind (dropAll? slots)

/-- Slots are read one list after the other. -/
theorem dropAll?_append
    (first second : List Slot)
    (text : List Char) :
    dropAll? (first ++ second) text = (dropAll? first text).bind (dropAll? second) := by
  induction first generalizing text with
  | nil =>
      rfl
  | cons slot slots inductionHypothesis =>
      simp only [List.cons_append, dropAll?, Option.bind_assoc]
      congr 1
      funext rest
      exact inductionHypothesis rest

/-- A slot for one character is read when the text begins with such a character. -/
theorem dropAll?_one_iff
    {charClass : CharClass}
    {slots : List Slot}
    {text after : List Char} :
    dropAll? (.one charClass :: slots) text = some after ↔
      ∃ c rest,
        text = c :: rest ∧ charClass.accepts c = true ∧ dropAll? slots rest = some after := by
  cases text with
  | nil =>
      simp [dropAll?, drop?]
  | cons c rest =>
      constructor
      · intro read
        by_cases accepted : charClass.accepts c = true
        · refine ⟨c, rest, rfl, accepted, ?_⟩
          simpa [dropAll?, drop?, accepted] using read
        · simp [dropAll?, drop?, accepted] at read
      · rintro ⟨_, _, ⟨rfl, rfl⟩, accepted, read⟩
        simpa [dropAll?, drop?, accepted] using read

/-- Blanks in front of a slot for blanks do not matter. -/
theorem dropAll?_blanks_cons
    {slots : List Slot}
    {c : Char}
    {rest : List Char}
    (blank : Text.isBlank c = true) :
    dropAll? (.blanks :: slots) (c :: rest) = dropAll? (.blanks :: slots) rest := by
  simp [dropAll?, drop?, List.dropWhile_cons_of_pos blank]

/-- Where the text begins with no blank, a slot for blanks does not matter. -/
theorem dropAll?_blanks_of_not_isBlank
    {slots : List Slot}
    {c : Char}
    {rest : List Char}
    (notBlank : Text.isBlank c = false) :
    dropAll? (.blanks :: slots) (c :: rest) = dropAll? slots (c :: rest) := by
  have same : (c :: rest).dropWhile Text.isBlank = c :: rest :=
    List.dropWhile_cons_of_neg (by simp [notBlank])
  simp [dropAll?, drop?, same]

/-- One slot for blanks is as good as two. -/
theorem dropAll?_blanks_blanks
    (slots : List Slot)
    (text : List Char) :
    dropAll? (.blanks :: .blanks :: slots) text = dropAll? (.blanks :: slots) text := by
  induction text with
  | nil =>
      rfl
  | cons c rest inductionHypothesis =>
      cases blank : Text.isBlank c with
      | true =>
          rw [dropAll?_blanks_cons blank, dropAll?_blanks_cons blank]
          exact inductionHypothesis
      | false =>
          rw [dropAll?_blanks_of_not_isBlank blank]

/-! ## Clashes -/

/-- Whether two lists of slots are seen not to begin the same text. -/
def clash : List Slot → List Slot → Bool
  | .one first :: slots, .one second :: others =>
      first.disjoint second || clash slots others
  | .one first :: slots, .blanks :: others =>
      if first.onlyBlank then
        clash slots (.blanks :: others)
      else
        first.noBlank && clash (.one first :: slots) others
  | .blanks :: slots, .one second :: others =>
      if second.onlyBlank then
        clash (.blanks :: slots) others
      else
        second.noBlank && clash slots (.one second :: others)
  | .blanks :: slots, .blanks :: others => clash (.blanks :: slots) others
  | _, _ => false
termination_by slots others => slots.length + others.length

/-- No text begins with both of two lists of slots that clash. -/
theorem not_both_of_clash
    {slots others : List Slot}
    (clashing : clash slots others = true)
    {text after afterToo : List Char}
    (read : dropAll? slots text = some after)
    (readToo : dropAll? others text = some afterToo) :
    False := by
  fun_induction clash slots others generalizing text with
  | case1 first slots second others inductionHypothesis =>
      obtain ⟨c, rest, rfl, accepted, restRead⟩ := dropAll?_one_iff.mp read
      obtain ⟨_, _, ⟨rfl, rfl⟩, acceptedToo, restReadToo⟩ := dropAll?_one_iff.mp readToo
      rcases Bool.or_eq_true_iff.mp clashing with disjoint | later
      · have notAccepted := CharClass.not_accepts_of_disjoint disjoint accepted
        exact absurd (acceptedToo.symm.trans notAccepted) Bool.true_eq_false.mp
      · exact inductionHypothesis later restRead restReadToo
  | case2 first slots others onlyBlank inductionHypothesis =>
      obtain ⟨c, rest, rfl, accepted, restRead⟩ := dropAll?_one_iff.mp read
      have blank := CharClass.isBlank_of_onlyBlank onlyBlank accepted
      rw [dropAll?_blanks_cons blank] at readToo
      exact inductionHypothesis clashing restRead readToo
  | case3 first slots others _ inductionHypothesis =>
      obtain ⟨noBlank, later⟩ := Bool.and_eq_true_iff.mp clashing
      obtain ⟨c, rest, rfl, accepted, _⟩ := dropAll?_one_iff.mp read
      have notBlank := CharClass.not_isBlank_of_noBlank noBlank accepted
      rw [dropAll?_blanks_of_not_isBlank notBlank] at readToo
      exact inductionHypothesis later read readToo
  | case4 slots second others onlyBlank inductionHypothesis =>
      obtain ⟨c, rest, rfl, accepted, restReadToo⟩ := dropAll?_one_iff.mp readToo
      have blank := CharClass.isBlank_of_onlyBlank onlyBlank accepted
      rw [dropAll?_blanks_cons blank] at read
      exact inductionHypothesis clashing read restReadToo
  | case5 slots second others _ inductionHypothesis =>
      obtain ⟨noBlank, later⟩ := Bool.and_eq_true_iff.mp clashing
      obtain ⟨c, rest, rfl, accepted, _⟩ := dropAll?_one_iff.mp readToo
      have notBlank := CharClass.not_isBlank_of_noBlank noBlank accepted
      rw [dropAll?_blanks_of_not_isBlank notBlank] at read
      exact inductionHypothesis later read readToo
  | case6 slots others inductionHypothesis =>
      rw [← dropAll?_blanks_blanks] at read
      exact inductionHypothesis clashing read readToo
  | case7 =>
      exact absurd clashing Bool.false_ne_true

/-- A list of slots does not begin a text that one it clashes with begins. -/
theorem dropAll?_eq_none_of_clash
    {slots others : List Slot}
    (clashing : clash slots others = true)
    {text after : List Char}
    (read : dropAll? others text = some after) :
    dropAll? slots text = none := by
  cases readToo : dropAll? slots text with
  | none =>
      rfl
  | some _ =>
      exact (not_both_of_clash clashing readToo read).elim

/-! ## Across the begin of another phrase -/

/-- What the text must begin with for a slot to read more of it. -/
def forced : Slot → List Slot → List Slot
  | .one charClass, slots => .one charClass :: slots
  | .blanks, _ => [.one .blank]
  | .maybe mark, _ => [.one (.among [mark])]

/-- Whether slots that have begun earlier are seen not to read on where other slots begin. -/
def stopsAt : List Slot → List Slot → Bool
  | [], _ => true
  | slot :: slots, others => clash (slot.forced slots) others && stopsAt slots others

/-- Dropping blanks stops at a text that does not begin with one. -/
theorem dropWhile_append_of_not_forced
    {before text : List Char}
    (notForced : dropAll? [.one .blank] text = none) :
    (before ++ text).dropWhile Text.isBlank = before.dropWhile Text.isBlank ++ text := by
  have stays : text.dropWhile Text.isBlank = text := by
    cases text with
    | nil =>
        rfl
    | cons c rest =>
        refine List.dropWhile_cons_of_neg ?_
        intro blank
        simp [dropAll?, drop?, CharClass.accepts, blank] at notForced
  rw [List.dropWhile_append]
  split
  · rename_i allBlank
    rw [List.isEmpty_iff.mp allBlank, stays, List.nil_append]
  · rfl

/-- A mark is not read from a text that does not begin with it. -/
theorem drop?_maybe_of_not_forced
    {mark : Char}
    {text : List Char}
    (notForced : dropAll? [.one (.among [mark])] text = none) :
    (maybe mark).drop? text = some text := by
  cases text with
  | nil =>
      rfl
  | cons c rest =>
      have differs : c ≠ mark := by
        rintro rfl
        simp [dropAll?, drop?, CharClass.accepts] at notForced
      simp [drop?, differs]

/-- Slots that stop at a text read the same with and without this text behind. -/
theorem dropAll?_append_of_stopsAt
    {slots others : List Slot}
    (stops : stopsAt slots others = true)
    {text after : List Char}
    (read : dropAll? others text = some after)
    (before : List Char) :
    dropAll? slots (before ++ text) = (dropAll? slots before).map (· ++ text) := by
  induction slots generalizing before with
  | nil =>
      rfl
  | cons slot slots inductionHypothesis =>
      obtain ⟨clashing, later⟩ := Bool.and_eq_true_iff.mp stops
      have notForced : dropAll? (slot.forced slots) text = none :=
        dropAll?_eq_none_of_clash clashing read
      cases slot with
      | one charClass =>
          cases before with
          | nil =>
              exact notForced
          | cons c rest =>
              by_cases accepted : charClass.accepts c = true
              · simpa [dropAll?, drop?, accepted] using inductionHypothesis later rest
              · simp [dropAll?, drop?, accepted]
      | blanks =>
          simp only [dropAll?, drop?, Option.bind_some]
          rw [dropWhile_append_of_not_forced notForced]
          exact inductionHypothesis later (before.dropWhile Text.isBlank)
      | maybe mark =>
          cases before with
          | nil =>
              simp only [dropAll?, List.nil_append, drop?_maybe_of_not_forced notForced]
              exact inductionHypothesis later []
          | cons c rest =>
              by_cases same : c = mark
              · simpa [dropAll?, drop?, same] using inductionHypothesis later rest
              · simpa [dropAll?, drop?, same] using inductionHypothesis later (c :: rest)

/-! ## Inside what another phrase has read -/

/-- What the text begins with when a slot has read some of it and other slots follow. -/
def begun : Slot → List Slot → List Slot
  | .one charClass, slots => .one charClass :: slots
  | .blanks, slots => .one .blank :: .blanks :: slots
  | .maybe mark, slots => .one (.among [mark]) :: slots

/-- Whether slots are seen not to begin inside of what other slots read. -/
def missesIn (slots : List Slot) : List Slot → Bool
  | [] => true
  | other :: others => clash slots (other.begun others) && missesIn slots others

/-- Slots begin at no character of a text, when another text follows. -/
def Silent (slots : List Slot) : List Char → List Char → Prop
  | [], _ => True
  | c :: text, rest => dropAll? slots (c :: text ++ rest) = none ∧ Silent slots text rest

/-- One more character is silent in front when slots that are clashed with read from there on. -/
theorem silent_cons
    {slots others : List Slot}
    (clashing : clash slots others = true)
    {c : Char}
    {text rest : List Char}
    (read : dropAll? others (c :: text) = some rest)
    (inText : ∃ part, text = part ++ rest ∧ Silent slots part rest) :
    ∃ part, c :: text = part ++ rest ∧ Silent slots part rest := by
  obtain ⟨part, rfl, silent⟩ := inText
  exact ⟨c :: part, rfl, dropAll?_eq_none_of_clash clashing read, silent⟩

/-- Slots that miss in others begin nowhere in what these read. -/
theorem silent_of_missesIn
    {slots others : List Slot}
    (misses : missesIn slots others = true)
    {text rest : List Char}
    (read : dropAll? others text = some rest) :
    ∃ part, text = part ++ rest ∧ Silent slots part rest := by
  induction others generalizing text with
  | nil =>
      cases read
      exact ⟨[], rfl, trivial⟩
  | cons other others inductionHypothesis =>
      obtain ⟨clashing, later⟩ := Bool.and_eq_true_iff.mp misses
      cases other with
      | one charClass =>
          obtain ⟨c, tail, rfl, _, tailRead⟩ := dropAll?_one_iff.mp read
          exact silent_cons clashing read (inductionHypothesis later tailRead)
      | blanks =>
          induction text with
          | nil =>
              exact inductionHypothesis later read
          | cons c tail blanksHypothesis =>
              cases blank : Text.isBlank c with
              | true =>
                  have tailRead := dropAll?_blanks_cons blank ▸ read
                  have headRead :
                      dropAll? (begun .blanks others) (c :: tail) = some rest :=
                    dropAll?_one_iff.mpr ⟨c, tail, rfl, blank, tailRead⟩
                  exact silent_cons clashing headRead (blanksHypothesis tailRead)
              | false =>
                  rw [dropAll?_blanks_of_not_isBlank blank] at read
                  exact inductionHypothesis later read
      | maybe mark =>
          cases text with
          | nil =>
              exact inductionHypothesis later read
          | cons c tail =>
              by_cases same : c = mark
              · have tailRead : dropAll? others tail = some rest := by
                  simpa [dropAll?, drop?, same] using read
                have headRead :
                    dropAll? (begun (.maybe mark) others) (c :: tail) = some rest :=
                  dropAll?_one_iff.mpr
                    ⟨c, tail, rfl, by simp [CharClass.accepts, same], tailRead⟩
                exact silent_cons clashing headRead (inductionHypothesis later tailRead)
              · refine inductionHypothesis later ?_
                simpa [dropAll?, drop?, same] using read

/-! ## Progress -/

/-- What a slot leaves is no longer than the text. -/
theorem length_le_of_drop?
    {slot : Slot}
    {text after : List Char}
    (read : slot.drop? text = some after) :
    after.length ≤ text.length := by
  cases slot with
  | one charClass =>
      cases text with
      | nil =>
          cases read
      | cons c rest =>
          obtain ⟨_, rfl⟩ : charClass.accepts c = true ∧ rest = after := by
            simpa [drop?] using read
          exact Nat.le_succ _
  | blanks =>
      cases read
      exact (List.dropWhile_sublist Text.isBlank).length_le
  | maybe mark =>
      cases text with
      | nil =>
          cases read
          exact Nat.le_refl _
      | cons c rest =>
          by_cases same : c = mark
          · obtain rfl : rest = after := by
              simpa [drop?, same] using read
            exact Nat.le_succ _
          · obtain rfl : c :: rest = after := by
              simpa [drop?, same] using read
            exact Nat.le_refl _

/-- What slots leave is no longer than the text. -/
theorem length_le_of_dropAll?
    {slots : List Slot}
    {text after : List Char}
    (read : dropAll? slots text = some after) :
    after.length ≤ text.length := by
  induction slots generalizing text with
  | nil =>
      cases read
      exact Nat.le_refl _
  | cons slot slots inductionHypothesis =>
      obtain ⟨rest, slotRead, restRead⟩ := Option.bind_eq_some_iff.mp read
      exact Nat.le_trans (inductionHypothesis restRead) (length_le_of_drop? slotRead)

/-- Slots that do not read the empty text read at least one character. -/
theorem length_lt_of_dropAll?
    {slots : List Slot}
    (needsText : dropAll? slots [] = none)
    {text after : List Char}
    (read : dropAll? slots text = some after) :
    after.length < text.length := by
  induction slots generalizing text with
  | nil =>
      cases needsText
  | cons slot slots inductionHypothesis =>
      obtain ⟨rest, slotRead, restRead⟩ := Option.bind_eq_some_iff.mp read
      cases slot with
      | one charClass =>
          obtain ⟨c, rest, rfl, _, restRead⟩ := dropAll?_one_iff.mp read
          exact Nat.lt_succ_of_le (length_le_of_dropAll? restRead)
      | blanks =>
          exact Nat.lt_of_lt_of_le
            (inductionHypothesis needsText restRead) (length_le_of_drop? slotRead)
      | maybe mark =>
          exact Nat.lt_of_lt_of_le
            (inductionHypothesis needsText restRead) (length_le_of_drop? slotRead)

/-! ## More text behind -/

/-- Slots that read the empty text read every text. -/
theorem isSome_dropAll?_of_nil
    {slots : List Slot}
    (reads : (dropAll? slots []).isSome = true)
    (text : List Char) :
    (dropAll? slots text).isSome = true := by
  induction slots generalizing text with
  | nil =>
      rfl
  | cons slot slots inductionHypothesis =>
      cases slot with
      | one charClass =>
          exact absurd reads Bool.false_ne_true
      | blanks =>
          exact inductionHypothesis reads (text.dropWhile Text.isBlank)
      | maybe mark =>
          cases text with
          | nil =>
              exact reads
          | cons c rest =>
              by_cases same : c = mark
              · simpa [dropAll?, drop?, same] using inductionHypothesis reads rest
              · simpa [dropAll?, drop?, same] using inductionHypothesis reads (c :: rest)

/-- Slots that read a text read it with more text behind, too. -/
theorem isSome_dropAll?_append
    {slots : List Slot}
    {text : List Char}
    (reads : (dropAll? slots text).isSome = true)
    (rest : List Char) :
    (dropAll? slots (text ++ rest)).isSome = true := by
  induction slots generalizing text with
  | nil =>
      rfl
  | cons slot slots inductionHypothesis =>
      cases text with
      | nil =>
          exact isSome_dropAll?_of_nil reads rest
      | cons c text =>
          cases slot with
          | one charClass =>
              by_cases accepted : charClass.accepts c = true
              · simp only [dropAll?, drop?, accepted, ↓reduceIte, Option.bind_some,
                  List.cons_append] at reads ⊢
                exact inductionHypothesis reads
              · simp [dropAll?, drop?, accepted] at reads
          | blanks =>
              simp only [dropAll?, drop?, Option.bind_some] at reads ⊢
              rw [List.dropWhile_append]
              split
              · rename_i allBlank
                rw [List.isEmpty_iff.mp allBlank] at reads
                exact isSome_dropAll?_of_nil reads _
              · exact inductionHypothesis reads
          | maybe mark =>
              by_cases same : c = mark
              · simp only [dropAll?, drop?, same, ↓reduceIte, Option.bind_some,
                  List.cons_append] at reads ⊢
                exact inductionHypothesis reads
              · simp only [dropAll?, drop?, same, ↓reduceIte, Option.bind_some,
                  List.cons_append] at reads ⊢
                exact inductionHypothesis reads

end Slot

namespace PhrasePart

/-- The slots of a part. -/
def slots : PhrasePart → List Slot
  | .word text => text.toList.map fun c => .one (.among [c])
  | .blanks => [.blanks]
  | .someBlanks => [.one .blank, .blanks]
  | .quote => [.one (.among ['\'', '"'])]
  | .optional mark => [.maybe mark]

/-- The slots of a word are read when the text begins with it. -/
theorem dropAll?_chars
    (chars text : List Char) :
    Slot.dropAll? (chars.map fun c => .one (.among [c])) text =
      if chars.isPrefixOf text then some (text.drop chars.length) else none := by
  induction chars generalizing text with
  | nil =>
      simp [Slot.dropAll?]
  | cons c chars inductionHypothesis =>
      cases text with
      | nil =>
          simp [Slot.dropAll?, Slot.drop?]
      | cons d rest =>
          by_cases same : d = c
          · simp [Slot.dropAll?, Slot.drop?, CharClass.accepts, same, inductionHypothesis]
          · have differs : c ≠ d := fun equal => same equal.symm
            simp [Slot.dropAll?, Slot.drop?, CharClass.accepts, same, differs]

/-- A part is read as its slots are. -/
theorem dropAll?_slots
    (part : PhrasePart)
    (text : List Char) :
    Slot.dropAll? part.slots text = part.drop? text := by
  cases part with
  | word expected =>
      exact dropAll?_chars expected.toList text
  | blanks =>
      rfl
  | someBlanks =>
      cases text with
      | nil =>
          rfl
      | cons c rest =>
          by_cases blank : Text.isBlank c = true <;>
            simp [slots, Slot.dropAll?, Slot.drop?, CharClass.accepts, drop?, blank]
  | quote =>
      cases text with
      | nil =>
          rfl
      | cons c rest =>
          by_cases quoted : isQuote c = true
          · have accepted : CharClass.accepts (.among ['\'', '"']) c = true := by
              simpa [isQuote, CharClass.accepts] using quoted
            simp [slots, Slot.dropAll?, Slot.drop?, drop?, quoted, accepted]
          · have notAccepted : ¬ CharClass.accepts (.among ['\'', '"']) c = true := by
              simpa [isQuote, CharClass.accepts] using quoted
            simp [slots, Slot.dropAll?, Slot.drop?, drop?, quoted, notAccepted]
  | optional mark =>
      cases text with
      | nil =>
          rfl
      | cons c rest =>
          by_cases same : c = mark <;>
            simp [slots, Slot.dropAll?, Slot.drop?, drop?, same]

end PhrasePart

namespace Phrase

/-- The slots of a phrase. -/
def slots (phrase : Phrase) : List Slot :=
  phrase.flatMap PhrasePart.slots

/-- A phrase is read as its slots are. -/
theorem dropAll?_slots
    (phrase : Phrase)
    (text : List Char) :
    Slot.dropAll? phrase.slots text = phrase.drop? text := by
  induction phrase generalizing text with
  | nil =>
      rfl
  | cons part parts inductionHypothesis =>
      rw [slots, List.flatMap_cons, Slot.dropAll?_append, PhrasePart.dropAll?_slots, drop?]
      congr 1
      funext rest
      exact inductionHypothesis rest

end Phrase

end SourceUpgrade
