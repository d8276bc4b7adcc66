import Mathlib.Data.List.DropRight
import SourceUpgrade.Passage.Normal

namespace SourceUpgrade

/-!
# Texts without outer blanks

Trimming leaves a text with no blank at either end, and leaves such a text as it is. The normal form
of a text is made of trimmed lines, so that it is trimmed itself. A text is its own normal form
exactly if `Passage.IsNormal` holds of it, and a normal form has kept all characters of the text but
blanks.
-/

namespace Text

/-- A text neither begins nor ends with a blank. -/
structure IsTrimmed (text : List Char) : Prop where
  front : ∀ c ∈ text.head?, isBlank c = false
  back : ∀ c ∈ text.getLast?, isBlank c = false

variable {text : List Char}

theorem trimBack_eq_rdropWhile (text : List Char) :
    trimBack text = text.rdropWhile isBlank :=
  rfl

/-- A trimmed text is what trimming leaves of it. -/
theorem trim_eq_self (trimmed : IsTrimmed text) : trim text = text := by
  have noFront : trimFront text = text := by
    cases text with
    | nil =>
        rfl
    | cons c rest =>
        exact List.dropWhile_cons_of_neg (Bool.eq_false_iff.mp (trimmed.front c rfl))
  rw [trim, noFront, trimBack_eq_rdropWhile, List.rdropWhile_eq_self_iff]
  intro nonempty
  rw [trimmed.back _ (List.getLast?_eq_some_getLast nonempty)]
  exact Bool.false_ne_true

/-- Whatever is trimmed has no outer blanks left. -/
theorem isTrimmed_trim (text : List Char) : IsTrimmed (trim text) where
  front := by
    intro c isFirst
    have isPrefix : trim text <+: trimFront text := List.rdropWhile_prefix isBlank _
    obtain ⟨dropped, parts⟩ := isPrefix
    have first : (text.dropWhile isBlank).head? = some c := by
      change (trimFront text).head? = some c
      rw [← parts, List.head?_append_of_ne_nil]
      · exact isFirst
      · rintro none
        rw [none] at isFirst
        cases isFirst
    have stops := List.head?_dropWhile_not isBlank text
    rw [first] at stops
    exact stops
  back := by
    intro c isLast
    have nonempty : trim text ≠ [] := by
      rintro none
      rw [none] at isLast
      cases isLast
    rw [List.getLast?_eq_some_getLast nonempty] at isLast
    obtain rfl := Option.some.inj isLast
    exact Bool.eq_false_iff.mpr (List.rdropWhile_last_not isBlank (trimFront text) nonempty)

/-! ### Characters that are not blank -/

/-- The characters of a text that are not blank, in order. -/
def inked (text : List Char) : List Char :=
  text.filter fun c => !isBlank c

@[simp] theorem inked_nil : inked [] = [] :=
  rfl

theorem inked_append (front back : List Char) : inked (front ++ back) = inked front ++ inked back :=
  List.filter_append ..

theorem inked_eq_nil_iff : inked text = [] ↔ ∀ c ∈ text, isBlank c = true := by
  simp [inked]

theorem inked_trimFront (text : List Char) : inked (trimFront text) = inked text := by
  have dropped : inked (text.takeWhile isBlank) = [] :=
    inked_eq_nil_iff.mpr fun _ member => List.mem_takeWhile_imp member
  calc
    inked (trimFront text) = inked (text.takeWhile isBlank) ++ inked (trimFront text) := by
      rw [dropped, List.nil_append]
    _ = inked text := by
      rw [← inked_append, trimFront, List.takeWhile_append_dropWhile]

theorem inked_reverse (text : List Char) : inked text.reverse = (inked text).reverse :=
  List.filter_reverse ..

/-- Trimming drops nothing but blanks. -/
theorem inked_trim (text : List Char) : inked (trim text) = inked text := by
  have backwards := inked_trimFront (trimFront text).reverse
  rw [inked_reverse (trimFront text), inked_trimFront text] at backwards
  rw [trim, trimBack, inked_reverse]
  exact List.reverse_eq_iff.mpr backwards

theorem mem_of_mem_trim {c : Char} (member : c ∈ trim text) : c ∈ text := by
  have inFront : c ∈ trimFront text := (List.rdropWhile_prefix isBlank _).subset member
  exact (List.dropWhile_sublist isBlank).subset inFront

/-- What is trimmed has a character that is not blank, or it has none at all. -/
theorem IsTrimmed.inked_ne_nil
    (trimmed : IsTrimmed text)
    (nonempty : text ≠ []) :
    inked text ≠ [] := by
  intro none
  have first := trimmed.front _ (List.head?_eq_some_head nonempty)
  have blank := inked_eq_nil_iff.mp none _ (List.head_mem nonempty)
  rw [first] at blank
  cases blank

theorem trim_eq_nil_iff : trim text = [] ↔ inked text = [] := by
  constructor
  · intro none
    rw [← inked_trim, none, inked_nil]
  · intro none
    by_contra nonempty
    rw [← inked_trim] at none
    exact (isTrimmed_trim text).inked_ne_nil nonempty none

/-! ### Pieces -/

theorem splitAt_eq_splitOn (separator : Char) (text : List Char) :
    splitAt separator text = text.splitOn separator := by
  induction text with
  | nil =>
      rfl
  | cons c rest inductionHypothesis =>
      rw [splitAt, inductionHypothesis, List.splitOn_cons_eq_if_modifyHead]
      cases pieces : rest.splitOn separator with
      | nil =>
          exact absurd pieces (List.splitOn_ne_nil separator rest)
      | cons piece pieces =>
          rfl

/-- The pieces of a text are the text without the separators. -/
theorem flatten_splitAt (separator : Char) (text : List Char) :
    (splitAt separator text).flatten = text.filter (· != separator) := by
  induction text with
  | nil =>
      rfl
  | cons c rest inductionHypothesis =>
      rw [splitAt, List.filter_cons, ← inductionHypothesis]
      cases splitAt separator rest with
      | nil =>
          by_cases same : c = separator <;> simp [same]
      | cons piece pieces =>
          by_cases same : c = separator <;> simp [same]

end Text

namespace Passage

/-- A line of the normal form is trimmed and not empty. -/
theorem isTrimmed_of_mem_normalLines
    {text line : List Char}
    (member : line ∈ normalLines text) :
    Text.IsTrimmed line ∧ line ≠ [] := by
  obtain ⟨isLine, notEmpty⟩ := List.mem_filter.mp member
  obtain ⟨piece, -, rfl⟩ := List.mem_map.mp isLine
  exact ⟨Text.isTrimmed_trim piece, by simpa using notEmpty⟩

/-- Trimmed lines that are not empty make up a trimmed text. -/
theorem isTrimmed_intercalate
    {lines : List (List Char)}
    (trimmed : ∀ line ∈ lines, Text.IsTrimmed line ∧ line ≠ []) :
    Text.IsTrimmed (['\n'].intercalate lines) := by
  induction lines with
  | nil =>
      exact ⟨by simp, by simp⟩
  | cons line rest inductionHypothesis =>
      obtain ⟨⟨own, nonempty⟩, ofRest⟩ := List.forall_mem_cons.mp trimmed
      have later := inductionHypothesis ofRest
      cases rest with
      | nil =>
          rwa [List.intercalate_singleton]
      | cons next others =>
          have moreText : ['\n'].intercalate (next :: others) ≠ [] := by
            have notEmpty : next ≠ [] := (ofRest next List.mem_cons_self).2
            cases others <;> simp [List.intercalate_cons_cons, notEmpty]
          rw [List.intercalate_cons_cons, List.append_assoc]
          constructor
          · rw [List.head?_append_of_ne_nil _ nonempty]
            exact own.front
          · rw [List.getLast?_append_of_ne_nil _ (by simp),
              List.getLast?_append_of_ne_nil _ moreText]
            exact later.back

/-- The normal form of a text is trimmed. -/
theorem isTrimmed_normalize (text : List Char) : Text.IsTrimmed (normalize text) :=
  isTrimmed_intercalate fun _ member => isTrimmed_of_mem_normalLines member

/-! ## Normal forms -/

/--
Whether the white space of a text is in normal form: there is no carriage return, and unless the
text is empty, every line has something else than blanks in it and none of them at either end.
-/
structure IsNormal (text : List Char) : Prop where
  no_return : '\r' ∉ text
  lines :
    text = [] ∨
      ∀ line ∈ text.splitOn '\n', (∃ c ∈ line, Text.isBlank c = false) ∧ Text.IsTrimmed line

section

variable {text : List Char}

theorem mem_of_mem_normalLines
    {line : List Char}
    (member : line ∈ normalLines text)
    {c : Char}
    (inLine : c ∈ line) :
    c ∈ text ∧ c ≠ '\r' ∧ c ≠ '\n' := by
  obtain ⟨piece, isPiece, rfl⟩ := List.mem_map.mp (List.mem_of_mem_filter member)
  have inPieces := List.mem_flatten_of_mem isPiece (Text.mem_of_mem_trim inLine)
  rw [Text.flatten_splitAt, List.mem_filter, List.mem_filter] at inPieces
  simpa [and_assoc] using inPieces

/-- Lines lose blanks only by trimming, and those that are left out have nothing else. -/
theorem inked_flatten_trimmed (lines : List (List Char)) :
    Text.inked ((lines.map Text.trim).filter fun line => !line.isEmpty).flatten =
      Text.inked lines.flatten := by
  induction lines with
  | nil =>
      rfl
  | cons line rest inductionHypothesis =>
      rw [List.map_cons, List.filter_cons, List.flatten_cons, Text.inked_append]
      split
      · rw [List.flatten_cons, Text.inked_append, Text.inked_trim, inductionHypothesis]
      · rename_i isEmpty
        have blank : Text.trim line = [] := by
          simpa using isEmpty
        rw [Text.trim_eq_nil_iff.mp blank, List.nil_append, inductionHypothesis]

/-- Normal lines have the characters of the text that are not blank. -/
theorem inked_flatten_normalLines (text : List Char) :
    Text.inked (normalLines text).flatten = Text.inked text := by
  rw [normalLines, inked_flatten_trimmed, Text.flatten_splitAt, Text.inked, Text.inked,
    List.filter_filter, List.filter_filter]
  refine List.filter_congr fun c _ => ?_
  -- Both characters that are dropped here are blank themselves.
  by_cases blank : Text.isBlank c = true
  · simp [blank]
  · have noReturn : c ≠ '\r' := by
      rintro rfl
      exact blank rfl
    have noNewline : c ≠ '\n' := by
      rintro rfl
      exact blank rfl
    rw [bne_iff_ne.mpr noReturn, bne_iff_ne.mpr noNewline, Bool.and_true, Bool.and_true]

/-- Lines are put together with blanks only. -/
theorem inked_intercalate (lines : List (List Char)) :
    Text.inked (['\n'].intercalate lines) = Text.inked lines.flatten := by
  induction lines with
  | nil =>
      rfl
  | cons line rest inductionHypothesis =>
      cases rest with
      | nil =>
          simp
      | cons next others =>
          have noInk : Text.inked ['\n'] = [] := rfl
          rw [List.intercalate_cons_cons, List.flatten_cons, Text.inked_append, Text.inked_append,
            noInk, List.append_nil, inductionHypothesis, Text.inked_append]

theorem inked_normalize (text : List Char) : Text.inked (normalize text) = Text.inked text := by
  rw [normalize, inked_intercalate, inked_flatten_normalLines]

/-- The lines of a normal form are the normal lines. -/
theorem splitOn_normalize (nonempty : normalize text ≠ []) :
    (normalize text).splitOn '\n' = normalLines text := by
  have someLines : normalLines text ≠ [] := by
    rintro none
    exact nonempty (by rw [normalize, none]; rfl)
  refine List.splitOn_intercalate '\n' (fun line member inLine => ?_) someLines
  exact (mem_of_mem_normalLines member inLine).2.2 rfl

theorem isNormal_normalize (text : List Char) : IsNormal (normalize text) where
  no_return := by
    intro member
    have inLines : '\r' ∈ ((normalize text).splitOn '\n').flatten := by
      rw [← Text.splitAt_eq_splitOn, Text.flatten_splitAt]
      exact List.mem_filter.mpr ⟨member, rfl⟩
    rw [splitOn_normalize (List.ne_nil_of_mem member)] at inLines
    obtain ⟨line, isLine, inLine⟩ := List.mem_flatten.mp inLines
    exact (mem_of_mem_normalLines isLine inLine).2.1 rfl
  lines := by
    by_cases nonempty : normalize text = []
    · exact .inl nonempty
    · refine .inr fun line member => ?_
      rw [splitOn_normalize nonempty] at member
      obtain ⟨trimmed, notEmpty⟩ := isTrimmed_of_mem_normalLines member
      refine ⟨?_, trimmed⟩
      have := trimmed.front _ (List.head?_eq_some_head notEmpty)
      exact ⟨line.head notEmpty, List.head_mem notEmpty, this⟩

/-- A text in normal form is its own normal form. -/
theorem IsNormal.normalize_eq (isNormal : IsNormal text) : normalize text = text := by
  rcases isNormal.lines with rfl | lines
  · rfl
  · have noReturn : text.filter (· != '\r') = text := by
      refine List.filter_eq_self.mpr fun c member => bne_iff_ne.mpr ?_
      rintro rfl
      exact isNormal.no_return member
    have same : normalLines text = text.splitOn '\n' := by
      have trimmed : (text.splitOn '\n').map Text.trim = text.splitOn '\n' :=
        (List.map_congr_left fun line member => Text.trim_eq_self (lines line member).2).trans
          (List.map_id' _)
      rw [normalLines, noReturn, Text.splitAt_eq_splitOn, trimmed]
      refine List.filter_eq_self.mpr fun line member => ?_
      obtain ⟨c, inLine, -⟩ := (lines line member).1
      simpa using List.ne_nil_of_mem inLine
    rw [normalize, same, List.intercalate_splitOn]

end

/--
The normal form of a text has no carriage returns and no blank lines, and no line of it begins or
ends with a blank. The text's characters that are not blank are all still there, in order, so that
nothing is left exactly if the text is blank. Neither normalizing nor trimming changes it again.
-/
theorem normalizeString_isNormal (text : String) :
    let normal := normalizeString text
    IsNormal normal.toList ∧
      Text.inked normal.toList = Text.inked text.toList ∧
        (normal = "" ↔ ∀ c ∈ text.toList, Text.isBlank c = true) ∧
          normalizeString normal = normal ∧ Text.trimString normal = normal := by
  intro normal
  have characters : normal.toList = normalize text.toList := String.toList_ofList
  have isNormal := isNormal_normalize text.toList
  rw [characters]
  refine ⟨isNormal, inked_normalize _, ?_, ?_, ?_⟩
  · have none : normal = "" ↔ normalize text.toList = [] := by
      rw [← characters]
      exact String.toList_eq_nil_iff.symm
    rw [none, ← Text.inked_eq_nil_iff, ← inked_normalize]
    constructor
    · intro none
      rw [none, Text.inked_nil]
    · intro none
      by_contra nonempty
      exact (isTrimmed_normalize _).inked_ne_nil nonempty none
  · rw [normalizeString, characters, isNormal.normalize_eq]
    rfl
  · rw [Text.trimString, characters, Text.trim_eq_self (isTrimmed_normalize _)]
    rfl

/-- A carriage return leaves nothing in its place, and a line of other blanks goes. -/
example : normalizeString " a\rb \n\u2003\n\u0085c" = "ab\nc" := by
  decide

end Passage

end SourceUpgrade
