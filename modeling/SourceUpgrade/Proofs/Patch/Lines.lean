import SourceUpgrade.Patch.Line

namespace SourceUpgrade.Patch

/-!
# Cutting a text into lines

A text is its lines one after the other. Every line either ends with its only end mark or has none,
and lines that end with a mark are found again in the text that they make up, unless one of them
begins with a line feed: after a carriage return, that would be half of a mark.
-/

variable {line : Line} {lines : List Line} {text rest : List Char} {c : Char}

/-- No end mark stands in a line. -/
def IsUnended (line : Line) : Prop :=
  ∀ c ∈ line, c ≠ '\r' ∧ c ≠ '\n'

/-- A line ends with an end mark, and no other one stands in it. -/
def IsEnded (line : Line) : Prop :=
  ∃ content mark, IsUnended content ∧ mark ∈ [['\n'], ['\r'], ['\r', '\n']] ∧ line = content ++ mark

theorem isUnended_of_all
    (all : line.all (fun c => c != '\r' && c != '\n') = true) :
    IsUnended line := by
  intro c member
  have passes := List.all_eq_true.mp all c member
  simpa using passes

theorem IsUnended.isEnded_append
    (unended : IsUnended line) :
    IsEnded (line ++ ['\n']) :=
  ⟨line, ['\n'], unended, by decide, rfl⟩

theorem IsEnded.cons
    (ended : IsEnded line)
    (inner : c ≠ '\r' ∧ c ≠ '\n') :
    IsEnded (c :: line) := by
  obtain ⟨content, mark, unended, isMark, rfl⟩ := ended
  exact ⟨c :: content, mark, List.forall_mem_cons.mpr ⟨inner, unended⟩, isMark, rfl⟩

theorem IsEnded.getLast?_eq
    (ended : IsEnded line) :
    line.getLast? = some '\n' ∨ line.getLast? = some '\r' := by
  obtain ⟨content, mark, _, isMark, rfl⟩ := ended
  simp only [List.mem_cons, List.not_mem_nil, or_false] at isMark
  rcases isMark with rfl | rfl | rfl
  · simp
  · simp
  · simp

theorem IsEnded.hasEndMark_eq
    (ended : IsEnded line) :
    hasEndMark line = true := by
  rcases ended.getLast?_eq with isLast | isLast
  · simp only [hasEndMark, isLast]
  · simp only [hasEndMark, isLast]

theorem IsUnended.hasEndMark_eq
    (unended : IsUnended line) :
    hasEndMark line = false := by
  unfold hasEndMark
  split
  · rename_i isLast
    exact absurd rfl (unended '\n' (List.mem_of_getLast? isLast)).2
  · rename_i isLast
    exact absurd rfl (unended '\r' (List.mem_of_getLast? isLast)).1
  · rfl

/-! ## Cutting -/

theorem splitLines_cons_of_inner
    (inner : c ≠ '\r' ∧ c ≠ '\n')
    (text : List Char) :
    splitLines (c :: text) =
      match splitLines text with
      | [] => [[c]]
      | line :: lines => (c :: line) :: lines := by
  have notBoth : ∀ rest, c = '\r' → text = '\n' :: rest → False :=
    fun _ isReturn _ => inner.1 isReturn
  exact (splitLines.eq_3 c text notBoth).trans (if_neg (not_or.mpr inner))

/-- A text is its lines one after the other. -/
theorem flatten_splitLines
    (text : List Char) :
    (splitLines text).flatten = text := by
  fun_induction splitLines text with
  | case1 =>
      rfl
  | case2 rest inductionHypothesis =>
      rw [List.flatten_cons, inductionHypothesis]
      rfl
  | case3 c rest notBoth isMark inductionHypothesis =>
      rw [List.flatten_cons, inductionHypothesis]
      rfl
  | case4 c rest notBoth inner isEnd inductionHypothesis =>
      rw [isEnd] at inductionHypothesis
      rw [← inductionHypothesis]
      rfl
  | case5 c rest notBoth inner line lines found inductionHypothesis =>
      rw [found] at inductionHypothesis
      rw [← inductionHypothesis]
      rfl

/-- A line of a text ends with its only end mark or has none. -/
theorem isEnded_or_isUnended_of_mem
    (isLine : line ∈ splitLines text) :
    IsEnded line ∨ IsUnended line := by
  fun_induction splitLines text generalizing line with
  | case1 =>
      cases isLine
  | case2 rest inductionHypothesis =>
      rcases List.mem_cons.mp isLine with rfl | later
      · exact Or.inl ⟨[], ['\r', '\n'], nofun, by decide, rfl⟩
      · exact inductionHypothesis later
  | case3 c rest notBoth isMark inductionHypothesis =>
      rcases List.mem_cons.mp isLine with rfl | later
      · refine Or.inl ⟨[], [c], nofun, ?_, rfl⟩
        rcases isMark with rfl | rfl
        · decide
        · decide
      · exact inductionHypothesis later
  | case4 c rest notBoth inner isEnd inductionHypothesis =>
      obtain rfl := List.mem_singleton.mp isLine
      exact Or.inr (List.forall_mem_singleton.mpr (not_or.mp inner))
  | case5 c rest notBoth inner first lines found inductionHypothesis =>
      rcases List.mem_cons.mp isLine with rfl | later
      · have isFirst : first ∈ splitLines rest := found ▸ List.mem_cons_self
        rcases inductionHypothesis isFirst with ended | unended
        · exact Or.inl (ended.cons (not_or.mp inner))
        · exact Or.inr (List.forall_mem_cons.mpr ⟨not_or.mp inner, unended⟩)
      · exact inductionHypothesis (found ▸ List.mem_cons_of_mem _ later)

/-! ## Lines found again -/

/-- An end mark is a line of its own, unless a line feed makes it another mark. -/
theorem splitLines_mark_append
    {mark : List Char}
    (isMark : mark ∈ [['\n'], ['\r'], ['\r', '\n']])
    (noLineFeed : rest.head? ≠ some '\n') :
    splitLines (mark ++ rest) = mark :: splitLines rest := by
  simp only [List.mem_cons, List.not_mem_nil, or_false] at isMark
  rcases isMark with rfl | rfl | rfl
  · rfl
  · have alone : ∀ later, '\r' = '\r' → rest = '\n' :: later → False := by
      rintro later _ rfl
      exact noLineFeed rfl
    exact (splitLines.eq_3 '\r' rest alone).trans (if_pos (Or.inl rfl))
  · rfl

theorem splitLines_append
    (ended : IsEnded line)
    (noLineFeed : rest.head? ≠ some '\n') :
    splitLines (line ++ rest) = line :: splitLines rest := by
  obtain ⟨content, mark, unended, isMark, rfl⟩ := ended
  induction content with
  | nil =>
      exact splitLines_mark_append isMark noLineFeed
  | cons c content inductionHypothesis =>
      obtain ⟨inner, unended⟩ := List.forall_mem_cons.mp unended
      have found := inductionHypothesis unended
      rw [List.cons_append, List.cons_append, splitLines_cons_of_inner inner, found]

/-- A line that can be found again wherever it stands in a text. -/
structure StandsAlone (line : Line) : Prop where
  ended : IsEnded line
  noLineFeed : line.head? ≠ some '\n'

/-- No text of lines that stand alone begins with a line feed. -/
theorem head?_flatten_ne
    (alone : ∀ line ∈ lines, StandsAlone line) :
    lines.flatten.head? ≠ some '\n' := by
  cases lines with
  | nil =>
      exact nofun
  | cons line lines =>
      have first := alone line List.mem_cons_self
      cases line with
      | nil =>
          rcases first.ended.getLast?_eq with impossible | impossible
          · cases impossible
          · cases impossible
      | cons c content =>
          exact first.noLineFeed

theorem splitLines_flatten
    (alone : ∀ line ∈ lines, StandsAlone line) :
    splitLines lines.flatten = lines := by
  induction lines with
  | nil =>
      rfl
  | cons line lines inductionHypothesis =>
      obtain ⟨first, later⟩ := List.forall_mem_cons.mp alone
      rw [List.flatten_cons, splitLines_append first.ended (head?_flatten_ne later),
        inductionHypothesis later]

/-! ## Texts whose last line is ended -/

/-- A text without lines, or one that ends with an end mark. -/
def EndsLine (text : List Char) : Prop :=
  ∀ c ∈ text.getLast?, c = '\r' ∨ c = '\n'

theorem endsLine_nil : EndsLine [] :=
  nofun

theorem endsLine_append_lineFeed (text : List Char) : EndsLine (text ++ ['\n']) := by
  intro c isLast
  rw [List.getLast?_concat] at isLast
  exact .inr (Option.some.inj isLast).symm

theorem StandsAlone.endsLine
    (alone : StandsAlone line) :
    EndsLine line := by
  intro c isLast
  rcases alone.ended.getLast?_eq with found | found
  · exact .inr (Option.some.inj (isLast.symm.trans found))
  · exact .inl (Option.some.inj (isLast.symm.trans found))

theorem EndsLine.append
    (first : EndsLine text)
    (second : EndsLine rest) :
    EndsLine (text ++ rest) := by
  intro c isLast
  rw [List.getLast?_append] at isLast
  rcases Option.or_eq_some_iff.mp isLast with inSecond | ⟨-, inFirst⟩
  · exact second c inSecond
  · exact first c inFirst

theorem endsLine_flatMap
    {α : Type}
    {items : List α}
    {write : α → List Char}
    (each : ∀ item ∈ items, EndsLine (write item)) :
    EndsLine (items.flatMap write) := by
  induction items with
  | nil =>
      exact endsLine_nil
  | cons item items inductionHypothesis =>
      obtain ⟨first, later⟩ := List.forall_mem_cons.mp each
      exact first.append (inductionHypothesis later)

theorem EndsLine.of_cons
    (ends : EndsLine (c :: text)) :
    EndsLine text := by
  cases text with
  | nil =>
      exact endsLine_nil
  | cons next rest =>
      rwa [EndsLine, List.getLast?_cons_cons] at ends

/-- After an ended line, the lines of another text begin. -/
theorem EndsLine.splitLines_append
    (ends : EndsLine text)
    (noLineFeed : rest.head? ≠ some '\n') :
    splitLines (text ++ rest) = splitLines text ++ splitLines rest := by
  fun_induction splitLines text with
  | case1 =>
      rfl
  | case2 text inductionHypothesis =>
      exact congrArg (_ :: ·) (inductionHypothesis ends.of_cons.of_cons)
  | case3 c text notBoth isMark inductionHypothesis =>
      have notBothAppended : ∀ later, c = '\r' → text ++ rest = '\n' :: later → False := by
        intro later isReturn begins
        cases text with
        | nil =>
            exact noLineFeed (congrArg List.head? begins)
        | cons next text =>
            obtain ⟨rfl, -⟩ := List.cons.inj begins
            exact notBoth text isReturn rfl
      rw [List.cons_append, splitLines.eq_3 _ _ notBothAppended, if_pos isMark,
        inductionHypothesis ends.of_cons]
      rfl
  | case4 c text notBoth inner isEnd inductionHypothesis =>
      obtain rfl : text = [] := by
        rw [← flatten_splitLines text, isEnd]
        rfl
      exact absurd (ends c rfl) inner
  | case5 c text notBoth inner line lines found inductionHypothesis =>
      rw [List.cons_append, splitLines_cons_of_inner (not_or.mp inner),
        inductionHypothesis ends.of_cons, found]
      rfl

end SourceUpgrade.Patch
