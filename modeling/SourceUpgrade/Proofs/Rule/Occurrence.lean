import SourceUpgrade.Proofs.Rule.Slot

namespace SourceUpgrade.Phrase

/-!
# Occurrences of phrases

Where a phrase can be found in a text in which others are read or replaced. A phrase that is apart
from another is found neither inside of it nor across its begin, so putting a replacement in the
place of the other leaves the occurrences of the phrase as they are.
-/

variable {phrase other : Phrase} {replacement : String} {before text rest content : List Char}

/-- A word is read from a text that begins with it. -/
theorem drop?_word
    (word : String)
    (rest : List Char) :
    drop? [.word word] (word.toList ++ rest) = some rest := by
  have isPrefix : word.toList.isPrefixOf (word.toList ++ rest) = true :=
    List.isPrefixOf_iff_prefix.mpr (List.prefix_append _ _)
  simp [drop?, PhrasePart.drop?, isPrefix]

/-- A word is read from no other text. -/
theorem isSome_drop?_word
    (word : String)
    (text : List Char) :
    (drop? [.word word] text).isSome = word.toList.isPrefixOf text := by
  cases isPrefix : word.toList.isPrefixOf text <;>
    simp [drop?, PhrasePart.drop?, isPrefix]

/-- A string occurs in another as the word that it is. -/
theorem contains_eq_occursIn
    (content part : String) :
    Text.contains content part = occursIn [.word part] content.toList := by
  unfold Text.contains
  induction content.toList with
  | nil =>
      rw [Text.occursIn, occursIn, isSome_drop?_word]
      cases part.toList <;> rfl
  | cons c rest inductionHypothesis =>
      rw [Text.occursIn, occursIn, isSome_drop?_word, inductionHypothesis]

/-- A phrase occurs at the begin of a text or behind the first character. -/
theorem occursIn_cons
    (phrase : Phrase)
    (c : Char)
    (rest : List Char) :
    phrase.occursIn (c :: rest) = ((phrase.drop? (c :: rest)).isSome || phrase.occursIn rest) :=
  rfl

/-- Where no phrase begins, the first character stays. -/
theorem replaceAll_of_none
    {c : Char}
    (absent : phrase.drop? (c :: rest) = none)
    (replacement : List Char) :
    phrase.replaceAll replacement (c :: rest) = c :: phrase.replaceAll replacement rest := by
  rw [replaceAll, absent]

/-! ## Phrases that miss -/

/-- Whether a phrase is seen not to begin inside of what another phrase reads. -/
def misses (phrase other : Phrase) : Bool :=
  Slot.missesIn phrase.slots other.slots

/-- A phrase does not begin in a part of the text in which it is silent. -/
theorem occursIn_of_silent
    (silent : Slot.Silent phrase.slots text rest) :
    phrase.occursIn (text ++ rest) = phrase.occursIn rest := by
  induction text with
  | nil =>
      rfl
  | cons c text inductionHypothesis =>
      obtain ⟨absent, later⟩ := silent
      rw [dropAll?_slots] at absent
      rw [List.cons_append, occursIn_cons, ← List.cons_append, absent]
      exact inductionHypothesis later

/-- Nothing is replaced in a part of the text in which a phrase is silent. -/
theorem replaceAll_of_silent
    (silent : Slot.Silent phrase.slots text rest)
    (replacement : List Char) :
    phrase.replaceAll replacement (text ++ rest) =
      text ++ phrase.replaceAll replacement rest := by
  induction text with
  | nil =>
      rfl
  | cons c text inductionHypothesis =>
      obtain ⟨absent, later⟩ := silent
      rw [dropAll?_slots] at absent
      calc
        phrase.replaceAll replacement (c :: text ++ rest) =
            c :: phrase.replaceAll replacement (text ++ rest) :=
          replaceAll_of_none absent replacement
        _ = c :: text ++ phrase.replaceAll replacement rest := by
          rw [inductionHypothesis later]
          rfl

/-- A phrase that misses in another begins nowhere in what this has read. -/
theorem silent_of_misses
    (missing : phrase.misses other = true)
    (read : other.drop? text = some rest) :
    ∃ part, text = part ++ rest ∧ Slot.Silent phrase.slots part rest := by
  rw [← dropAll?_slots] at read
  exact Slot.silent_of_missesIn missing read

/-- A phrase is silent in a word in which it misses. -/
theorem silent_word
    (missing : phrase.misses [.word replacement] = true)
    (rest : List Char) :
    Slot.Silent phrase.slots replacement.toList rest := by
  obtain ⟨part, split, silent⟩ := silent_of_misses missing (drop?_word replacement rest)
  have same : part = replacement.toList := List.append_cancel_right split.symm
  rw [← same]
  exact silent

/-- A phrase that misses in a word occurs behind the word or not at all. -/
theorem occursIn_word_append
    (missing : phrase.misses [.word replacement] = true)
    (rest : List Char) :
    phrase.occursIn (replacement.toList ++ rest) = phrase.occursIn rest :=
  occursIn_of_silent (silent_word missing rest)

/-- A phrase that misses in a word is replaced only behind the word. -/
theorem replaceAll_word_append
    (missing : phrase.misses [.word replacement] = true)
    (put rest : List Char) :
    phrase.replaceAll put (replacement.toList ++ rest) =
      replacement.toList ++ phrase.replaceAll put rest :=
  replaceAll_of_silent (silent_word missing rest) put

/-! ## Phrases that are apart -/

/-- Whether a phrase is seen to share no character with an occurrence of another phrase. -/
def apart (phrase other : Phrase) : Bool :=
  Slot.clash phrase.slots other.slots && Slot.stopsAt phrase.slots other.slots &&
    phrase.misses other

/-- A phrase that is apart from another occurs before this one or behind it. -/
theorem occursIn_append_of_apart
    (isApart : phrase.apart other = true)
    (read : other.drop? text = some rest)
    (before : List Char) :
    phrase.occursIn (before ++ text) = (phrase.occursIn before || phrase.occursIn rest) := by
  obtain ⟨⟨clashing, stops⟩, missing⟩ :
      (Slot.clash phrase.slots other.slots = true ∧
        Slot.stopsAt phrase.slots other.slots = true) ∧ phrase.misses other = true := by
    simpa [apart] using isApart
  have slotsRead : Slot.dropAll? other.slots text = some rest := by
    rw [dropAll?_slots]
    exact read
  have reads (before : List Char) :
      (phrase.drop? (before ++ text)).isSome = (phrase.drop? before).isSome := by
    rw [← dropAll?_slots, ← dropAll?_slots, Slot.dropAll?_append_of_stopsAt stops slotsRead,
      Option.isSome_map]
  induction before with
  | nil =>
      have absent : phrase.drop? text = none := by
        rw [← dropAll?_slots]
        exact Slot.dropAll?_eq_none_of_clash clashing slotsRead
      have absentInEmpty : phrase.occursIn [] = false := by
        rw [occursIn, ← reads, List.nil_append, absent]
        rfl
      obtain ⟨part, split, silent⟩ := silent_of_misses missing read
      rw [absentInEmpty, List.nil_append, split]
      exact occursIn_of_silent silent
  | cons c before inductionHypothesis =>
      rw [List.cons_append, occursIn_cons, ← List.cons_append, reads, inductionHypothesis,
        occursIn_cons, Bool.or_assoc]

/-- Replacing a phrase leaves the occurrences of one that is apart, whatever stands in front. -/
theorem occursIn_append_replaceAll
    (fromOther : phrase.apart other = true)
    (fromReplacement : phrase.apart [.word replacement] = true)
    (before content : List Char) :
    phrase.occursIn (before ++ other.replaceAll replacement.toList content) =
      phrase.occursIn (before ++ content) := by
  fun_induction replaceAll other replacement.toList content generalizing before with
  | case1 =>
      rfl
  | case2 c rest absent inductionHypothesis =>
      simpa using inductionHypothesis (before ++ [c])
  | case3 c rest after read _ inductionHypothesis =>
      calc
        phrase.occursIn
              (before ++ (replacement.toList ++ other.replaceAll replacement.toList after)) =
            (phrase.occursIn before ||
              phrase.occursIn (other.replaceAll replacement.toList after)) :=
          occursIn_append_of_apart fromReplacement (drop?_word replacement _) before
        _ = (phrase.occursIn before || phrase.occursIn after) := by
          rw [← List.nil_append (other.replaceAll _ _), inductionHypothesis, List.nil_append]
        _ = phrase.occursIn (before ++ c :: rest) :=
          (occursIn_append_of_apart fromOther read before).symm
  | case4 c rest after read _ inductionHypothesis =>
      simpa using inductionHypothesis (before ++ [c])

/-- Replacing a phrase leaves the occurrences of one that is apart. -/
theorem occursIn_replaceAll
    (fromOther : phrase.apart other = true)
    (fromReplacement : phrase.apart [.word replacement] = true)
    (content : List Char) :
    phrase.occursIn (other.replaceAll replacement.toList content) = phrase.occursIn content :=
  occursIn_append_replaceAll fromOther fromReplacement [] content

/-! ## Replacing what occurs -/

/-- Nothing is replaced where a phrase does not occur. -/
theorem replaceAll_of_not_occursIn
    (absent : phrase.occursIn content = false)
    (replacement : List Char) :
    phrase.replaceAll replacement content = content := by
  induction content with
  | nil =>
      rw [replaceAll]
  | cons c rest inductionHypothesis =>
      rw [occursIn_cons, Bool.or_eq_false_iff] at absent
      obtain ⟨absentHere, absentLater⟩ := absent
      have unread : phrase.drop? (c :: rest) = none := by
        simpa using absentHere
      rw [replaceAll_of_none unread, inductionHypothesis absentLater]

/-- Replacing a phrase by a word it clashes with changes every text in which it occurs. -/
theorem replaceAll_eq_self_iff
    (needsText : phrase.drop? [] = none)
    (clashing : Slot.clash phrase.slots (slots [.word replacement]) = true)
    (content : List Char) :
    phrase.replaceAll replacement.toList content = content ↔ phrase.occursIn content = false := by
  constructor
  · intro same
    fun_induction replaceAll phrase replacement.toList content with
    | case1 =>
        rw [occursIn, needsText]
        rfl
    | case2 c rest absent inductionHypothesis =>
        rw [occursIn_cons, absent, inductionHypothesis (List.cons.inj same).2]
        rfl
    | case3 c rest after read _ _ =>
        have wordRead := drop?_word replacement (phrase.replaceAll replacement.toList after)
        rw [same] at wordRead
        rw [← dropAll?_slots] at read wordRead
        exact (Slot.not_both_of_clash clashing read wordRead).elim
    | case4 c rest after read notShorter _ =>
        rw [← dropAll?_slots] at read needsText
        exact absurd (Nat.le_of_lt_succ (Slot.length_lt_of_dropAll? needsText read)) notShorter
  · intro absent
    exact replaceAll_of_not_occursIn absent replacement.toList

/-! ## What is left after replacing -/

/-- A phrase that occurs behind a text occurs in both together. -/
theorem occursIn_append_right
    (occurs : phrase.occursIn rest = true)
    (before : List Char) :
    phrase.occursIn (before ++ rest) = true := by
  induction before with
  | nil =>
      exact occurs
  | cons c before inductionHypothesis =>
      rw [List.cons_append, occursIn_cons, inductionHypothesis, Bool.or_true]

/-- A word occurs in a text that begins with it. -/
theorem occursIn_word_self
    (word : String)
    (rest : List Char) :
    occursIn [.word word] (word.toList ++ rest) = true := by
  have read := drop?_word word rest
  cases together : word.toList ++ rest with
  | nil =>
      rw [together] at read
      rw [occursIn, read]
      rfl
  | cons c text =>
      rw [together] at read
      rw [occursIn_cons, read]
      rfl

/-- A phrase that needs text does not occur in a text in which it is silent. -/
theorem not_occursIn_of_silent
    (needsText : phrase.drop? [] = none)
    (silent : Slot.Silent phrase.slots text rest) :
    phrase.occursIn text = false := by
  induction text with
  | nil =>
      rw [occursIn, needsText]
      rfl
  | cons c text inductionHypothesis =>
      obtain ⟨absent, later⟩ := silent
      have unread : (phrase.drop? (c :: text)).isSome = false := by
        rw [← dropAll?_slots]
        refine Bool.eq_false_iff.mpr ?_
        intro reads
        have readsMore := Slot.isSome_dropAll?_append reads rest
        rw [absent] at readsMore
        exact Bool.false_ne_true readsMore
      rw [occursIn_cons, unread, inductionHypothesis later]
      rfl

/-- A text stays silent when a character is moved into it from behind at which nothing begins. -/
theorem silent_concat
    {c : Char}
    (silent : Slot.Silent phrase.slots before (c :: rest))
    (absent : phrase.drop? (c :: rest) = none) :
    Slot.Silent phrase.slots (before ++ [c]) rest := by
  induction before with
  | nil =>
      exact ⟨(dropAll?_slots phrase (c :: rest)).trans absent, trivial⟩
  | cons d before inductionHypothesis =>
      obtain ⟨absentHere, later⟩ := silent
      refine ⟨?_, inductionHypothesis later⟩
      simpa using absentHere

/-- Nothing is left of a phrase that was replaced by a word from which it is apart. -/
theorem not_occursIn_append_replaceAll
    (needsText : phrase.drop? [] = none)
    (fromReplacement : phrase.apart [.word replacement] = true)
    (silent : Slot.Silent phrase.slots before content) :
    phrase.occursIn (before ++ phrase.replaceAll replacement.toList content) = false := by
  -- The text before the place that has been reached is silent, with what stands behind it in the
  -- content; the induction follows the places.
  fun_induction replaceAll phrase replacement.toList content generalizing before with
  | case1 =>
      rw [List.append_nil]
      exact not_occursIn_of_silent needsText silent
  | case2 c rest absent inductionHypothesis =>
      simpa using inductionHypothesis (silent_concat silent absent)
  | case3 c rest after read _ inductionHypothesis =>
      have silentNowhere : Slot.Silent phrase.slots [] after := trivial
      have absentAfter : phrase.occursIn (phrase.replaceAll replacement.toList after) = false :=
        inductionHypothesis silentNowhere
      rw [occursIn_append_of_apart fromReplacement (drop?_word replacement _),
        not_occursIn_of_silent needsText silent, absentAfter]
      rfl
  | case4 c rest after read notShorter _ =>
      rw [← dropAll?_slots] at read needsText
      exact absurd (Nat.le_of_lt_succ (Slot.length_lt_of_dropAll? needsText read)) notShorter

/-- Nothing is left of a phrase that was replaced by a word from which it is apart. -/
theorem not_occursIn_replaceAll
    (needsText : phrase.drop? [] = none)
    (fromReplacement : phrase.apart [.word replacement] = true)
    (content : List Char) :
    phrase.occursIn (phrase.replaceAll replacement.toList content) = false := by
  have silentNowhere : Slot.Silent phrase.slots [] content := trivial
  exact not_occursIn_append_replaceAll needsText fromReplacement silentNowhere

end SourceUpgrade.Phrase
