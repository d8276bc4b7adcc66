namespace SourceUpgrade

/-!
# Characters up to one that stops

A text in front, all of whose characters pass a test, is cut off from what begins with a character
that does not pass.
-/

variable {passes : Char → Bool} {front rest : List Char}

theorem takeWhile_of_stop
    (stops : ∀ c ∈ rest.head?, passes c = false) :
    rest.takeWhile passes = [] := by
  cases rest with
  | nil =>
      rfl
  | cons c rest =>
      exact List.takeWhile_cons_of_neg (Bool.eq_false_iff.mp (stops c rfl))

theorem dropWhile_of_stop
    (stops : ∀ c ∈ rest.head?, passes c = false) :
    rest.dropWhile passes = rest := by
  cases rest with
  | nil =>
      rfl
  | cons c rest =>
      exact List.dropWhile_cons_of_neg (Bool.eq_false_iff.mp (stops c rfl))

theorem takeWhile_append_of_stop
    (all : ∀ c ∈ front, passes c)
    (stops : ∀ c ∈ rest.head?, passes c = false) :
    (front ++ rest).takeWhile passes = front := by
  rw [List.takeWhile_append_of_pos all, takeWhile_of_stop stops, List.append_nil]

theorem dropWhile_append_of_stop
    (all : ∀ c ∈ front, passes c)
    (stops : ∀ c ∈ rest.head?, passes c = false) :
    (front ++ rest).dropWhile passes = rest := by
  rw [List.dropWhile_append_of_pos all, dropWhile_of_stop stops]

/-- Two texts are cut alike at the last place where a character stands. -/
theorem append_cons_inj_of_not_mem
    {c : Char}
    {other later : List Char}
    (absent : c ∉ rest)
    (absentToo : c ∉ later)
    (same : front ++ c :: rest = other ++ c :: later) :
    front = other ∧ rest = later := by
  have passes {text : List Char} (absent : c ∉ text) :
      ∀ d ∈ text.reverse, (d != c) = true := by
    intro d member
    refine bne_iff_ne.mpr ?_
    rintro rfl
    exact absent (List.mem_reverse.mp member)
  have stops (text : List Char) : ∀ d ∈ (c :: text).head?, (d != c) = false := by
    simp
  have backwards :
      rest.reverse ++ c :: front.reverse = later.reverse ++ c :: other.reverse := by
    simpa using congrArg List.reverse same
  have sameBack : rest.reverse = later.reverse := by
    rw [← takeWhile_append_of_stop (passes absent) (stops front.reverse), backwards,
      takeWhile_append_of_stop (passes absentToo) (stops other.reverse)]
  rw [sameBack, List.append_cancel_left_eq, List.cons_inj_right] at backwards
  exact ⟨List.reverse_inj.mp backwards, List.reverse_inj.mp sameBack⟩

end SourceUpgrade
