import SourceUpgrade.Proofs.Patch.Played

namespace SourceUpgrade.Patch

/-!
# Patches that are applied

The patch of two texts, applied to the old one where its hunks state, gives the new one. The number of
old lines before a hunk is always right. The other numbers that it states are right, but for those
that a change at either end of the old text may spoil: an insertion that has changed places with a
deletion keeps the old line number that it had before.
-/

variable {sides : Sides} {first start middle stop last : Place} {edit head final : Edit}
  {rest : List Edit} {hunk : Hunk} {hunks : List Hunk} {rows : List Row}

/-! ## Rows of hunks in their places -/

/-- A place lies within both texts. -/
structure Place.Within (sides : Sides) (place : Place) : Prop where
  old : place.old ≤ sides.old.size
  new : place.new ≤ sides.new.size

theorem Chain.within
    {inPlace : Place → Edit → Prop}
    {edits : List Edit}
    (chain : Chain inPlace first edits last)
    (within : last.Within sides) :
    first.Within sides :=
  ⟨Nat.le_trans chain.place_le.1 within.old, Nat.le_trans chain.place_le.2 within.new⟩

/-- A hunk has as many rows on both sides as lines lie between the places that it leads from and to. -/
theorem rows_hunkRows
    (merged : Merged sides start hunk stop)
    (within : stop.Within sides) :
    start.old + oldRows (hunkRows sides hunk) = stop.old ∧
      start.new + newRows (hunkRows sides hunk) = stop.new := by
  obtain ⟨oldCount, newCount⟩ := rows_of_play? (play?_hunkRows merged)
  obtain ⟨oldOnwards, newOnwards⟩ := merged.place_le
  have oldWithin := within.old
  have newWithin := within.new
  have newLength : (linesAt sides.new start.new (stop.new - start.new)).length = stop.new - start.new :=
    length_linesAt (by omega)
  simp only [Sides.oldFrom, List.length_drop, Array.length_toList] at oldCount
  omega

theorem eq_of_no_rows
    (merged : Merged sides start hunk stop)
    (within : stop.Within sides)
    (noRows : hunkRows sides hunk = []) :
    start = stop := by
  obtain ⟨oldCount, newCount⟩ := rows_hunkRows merged within
  rw [noRows] at oldCount newCount
  exact Place.ext oldCount newCount

/-- An edit that changes something has rows, and none of them is kept. -/
theorem editRows_of_change
    (fits : edit.Fits sides start)
    (proper : edit.KeepsOrChanges)
    (within : (start.after edit).Within sides)
    (changes : edit.kind ≠ .keep) :
    editRows sides edit ≠ [] ∧ ∀ row ∈ editRows sides edit, row.1 ≠ .context := by
  have rowsOf_mark {mark : Mark} {lines : Array Line} {start count : Nat} (row : Row)
      (member : row ∈ rowsOf mark lines start count) : row.1 = mark := by
    obtain ⟨line, _, rfl⟩ := List.mem_map.mp member
    rfl
  constructor
  · intro noRows
    have rowsEq : hunkRows sides [edit] = editRows sides edit := List.append_nil _
    have merged : Merged sides start [edit] (start.after edit) := .singleton ⟨fits, proper⟩
    have nowhere := eq_of_no_rows merged within (rowsEq.trans noRows)
    have some := proper changes
    have oldSame := congrArg Place.old nowhere
    have newSame := congrArg Place.new nowhere
    simp only [Place.after] at oldSame newSame
    omega
  · intro row member
    cases kind : edit.kind with
    | keep =>
        exact absurd kind changes
    | delete =>
        rw [editRows, kind] at member
        rw [rowsOf_mark row member]
        decide
    | insert =>
        rw [editRows, kind] at member
        rw [rowsOf_mark row member]
        decide
    | replace =>
        rw [editRows, kind] at member
        rcases List.mem_append.mp member with removed | added
        · rw [rowsOf_mark row removed]
          decide
        · rw [rowsOf_mark row added]
          decide

/-- A hunk states the new line that it begins with, or else it begins with a change. -/
theorem HunkAt.newStart_or_opens
    (inPlace : HunkAt sides start (head :: rest) stop)
    (within : stop.Within sides) :
    head.newStart = start.new ∨
      start.old = 0 ∧
        (hunkRows sides (head :: rest)).head?.any (fun row => row.1 != .context) = true := by
  obtain ⟨⟨fits, proper⟩, later⟩ := Chain.cons_iff.mp inPlace.merged
  by_cases keeps : head.kind = .keep
  · exact Or.inl ((Edit.fits_iff_of_keep keeps).mp fits).2.1
  · obtain ⟨some, noContext⟩ := editRows_of_change fits proper (later.within within) keeps
    refine Or.inr ⟨(inPlace.opens head rfl).keepsOrBegins.resolve_left keeps, ?_⟩
    obtain ⟨row, rows, rowsEq⟩ := List.exists_cons_of_ne_nil some
    have isChange : row.1 ≠ .context := noContext row (rowsEq ▸ List.mem_cons_self)
    rw [hunkRows, List.flatMap_cons, rowsEq]
    exact bne_iff_ne.mpr isChange

/-- A hunk states the lines that it ends with, or else it ends with a change. -/
theorem HunkAt.stops_or_closes
    (inPlace : HunkAt sides start hunk stop)
    (within : stop.Within sides)
    (isLast : hunk.getLast? = some final) :
    final.oldStop = stop.old ∧ final.newStop = stop.new ∨
      stop.old = sides.old.size ∧
        (hunkRows sides hunk).getLast?.any (fun row => row.1 != .context) = true := by
  have closes := inPlace.closes final isLast
  obtain ⟨early, rfl⟩ := List.getLast?_eq_some_iff.mp isLast
  obtain ⟨middle, _, late⟩ := Chain.append_iff.mp inPlace.merged
  obtain ⟨⟨fits, proper⟩, ends⟩ := Chain.cons_iff.mp late
  obtain rfl := Chain.nil_iff.mp ends
  by_cases keeps : final.kind = .keep
  · obtain ⟨oldStart, newStart, _⟩ := (Edit.fits_iff_of_keep keeps).mp fits
    exact Or.inl ⟨congrArg (· + _) oldStart, congrArg (· + _) newStart⟩
  · obtain ⟨some, noContext⟩ := editRows_of_change fits proper within keeps
    refine Or.inr ⟨closes.resolve_left keeps, ?_⟩
    have rowsEq : hunkRows sides (early ++ [final]) = hunkRows sides early ++ editRows sides final := by
      simp [hunkRows]
    have isChange : (editRows sides final).getLast some ∈ editRows sides final :=
      List.getLast_mem some
    rw [rowsEq, List.getLast?_append, List.getLast?_eq_some_getLast some]
    exact bne_iff_ne.mpr (noContext _ isChange)

/-- The numbers that a hunk states are right, but for those that a change at either end spoils. -/
theorem HunkAt.isExactWithin
    (inPlace : HunkAt sides start (head :: rest) stop)
    (within : stop.Within sides) :
    Applied.isExactWithin
      ⟨stated head (rest.getLastD head) (hunkRows sides (head :: rest)), start.new,
        (sides.oldFrom stop).length⟩ = true := by
  obtain ⟨oldCount, newCount⟩ := rows_hunkRows inPlace.merged within
  have oldStart := (inPlace.opens head rfl).oldStart
  have opens := inPlace.newStart_or_opens within
  have isLast : (head :: rest).getLast? = some (rest.getLastD head) := by
    rw [List.getLastD_eq_getLast?, List.getLast?_cons]
  have closes := inPlace.stops_or_closes within isLast
  simp only [Applied.isExactWithin, Applied.opensWithChange, Applied.closesWithChange, stated,
    Bool.and_eq_true, Bool.or_eq_true, beq_iff_eq, Sides.oldFrom, List.length_drop,
    Array.length_toList]
  refine ⟨⟨?_, ?_⟩, ?_⟩
  · rcases opens with newStart | ⟨atBegin, change⟩
    · exact Or.inr newStart
    · exact Or.inl ⟨oldStart.trans atBegin, change⟩
  · rcases closes with ⟨oldStop, _⟩ | ⟨atEnd, change⟩
    · refine Or.inr ?_
      omega
    · exact Or.inl ⟨by omega, change⟩
  · rcases opens with newStart | ⟨atBegin, change⟩
    · rcases closes with ⟨_, newStop⟩ | ⟨atEnd, change⟩
      · refine Or.inr ?_
        omega
      · exact Or.inl (Or.inr ⟨by omega, change⟩)
    · exact Or.inl (Or.inl ⟨oldStart.trans atBegin, change⟩)

/-! ## Hunks one after the other -/

theorem Skips.within
    (skips : Skips sides first last)
    (within : last.Within sides) :
    first.Within sides := by
  obtain ⟨count, rfl, _⟩ := skips
  exact ⟨Nat.le_trans (Nat.le_add_right _ _) within.old, Nat.le_trans (Nat.le_add_right _ _) within.new⟩

theorem Shows.within
    (shows_ : Shows sides first hunks last)
    (within : last.Within sides) :
    first.Within sides := by
  induction shows_ with
  | nil skips =>
      exact skips.within within
  | cons skips inPlace _ inductionHypothesis =>
      exact skips.within (inPlace.merged.within (inductionHypothesis within))

theorem Skips.oldFrom_eq
    (skips : Skips sides first ⟨sides.old.size, sides.new.size⟩) :
    sides.oldFrom first = sides.newFrom first := by
  obtain ⟨count, toEnd, agree⟩ := skips
  obtain ⟨oldEnd, newEnd⟩ := Place.mk.inj toEnd
  have atEnd (lines : Array Line) : lines.toList.drop lines.size = [] :=
    List.drop_eq_nil_of_le (Nat.le_of_eq Array.length_toList)
  rw [Sides.oldFrom, Sides.newFrom, ← linesAt_append_drop sides.old first.old count,
    ← linesAt_append_drop sides.new first.new count, agree.linesAt_eq, ← oldEnd, ← newEnd, atEnd,
    atEnd]

theorem stateHunk?_of_no_rows
    (noRows : hunkRows sides hunk = []) :
    stateHunk? sides hunk = none := by
  cases hunk with
  | nil =>
      rfl
  | cons head rest =>
      simp only [stateHunk?, noRows]

theorem stateHunk?_of_rows
    (someRows : hunkRows sides hunk ≠ []) :
    ∃ head rest, hunk = head :: rest ∧
      stateHunk? sides hunk = some (stated head (rest.getLastD head) (hunkRows sides hunk)) := by
  cases hunk with
  | nil =>
      exact absurd rfl someRows
  | cons head rest =>
      obtain ⟨row, rows, rowsEq⟩ := List.exists_cons_of_ne_nil someRows
      exact ⟨head, rest, rfl, by simp only [stateHunk?, rowsEq]⟩

/-- A hunk is applied some lines after the place that has been reached. -/
theorem replay?_cons
    {approves : Applied → Bool}
    {oldBefore newBefore skipped : Nat}
    {old made left : List Line}
    {stated : Stated}
    (later : List Stated)
    (oldStart : stated.oldStart = oldBefore + skipped)
    (enough : skipped ≤ old.length)
    (played : play? stated.rows (old.drop skipped) = some (made, left))
    (approved : approves ⟨stated, newBefore + skipped, left.length⟩ = true) :
    replay? approves oldBefore newBefore old (stated :: later) =
      (replay? approves (oldBefore + (old.length - left.length)) (newBefore + skipped + made.length)
        left later).map fun result => old.take skipped ++ made ++ result := by
  have skips : stated.oldStart - oldBefore = skipped := by omega
  have inside : ¬ (stated.oldStart < oldBefore ∨ old.length < skipped) := by omega
  rw [replay?]
  simp only [skips, if_neg inside, played, if_pos approved]

/-- A hunk in its place is applied after lines that agree, and leads to the place after it. -/
theorem HunkAt.replay?_cons
    (inPlace : HunkAt sides start (head :: rest) stop)
    (skips : Skips sides first start)
    (within : stop.Within sides)
    (later : List Stated) :
    replay? Applied.isExactWithin first.old first.new (sides.oldFrom first)
        (stated head (rest.getLastD head) (hunkRows sides (head :: rest)) :: later) =
      (replay? Applied.isExactWithin stop.old stop.new (sides.oldFrom stop) later).map
        fun result => linesAt sides.new first.new (stop.new - first.new) ++ result := by
  have played := play?_hunkRows inPlace.merged
  have approved := inPlace.isExactWithin within
  have oldStart := (inPlace.opens head rfl).oldStart
  have startWithin := inPlace.merged.within within
  obtain ⟨oldOnwards, newOnwards⟩ := inPlace.merged.place_le
  obtain ⟨count, rfl, agree⟩ := skips
  have oldWithin := within.old
  have newWithin := within.new
  simp only [Place.advance] at oldOnwards newOnwards oldStart
  have dropped : (sides.oldFrom first).drop count = sides.oldFrom (first.advance count) :=
    List.drop_drop
  have enough : count ≤ (sides.oldFrom first).length := by
    simp only [Sides.oldFrom, List.length_drop, Array.length_toList]
    omega
  rw [← dropped] at played
  have oldReached :
      first.old + ((sides.oldFrom first).length - (sides.oldFrom stop).length) = stop.old := by
    simp only [Sides.oldFrom, List.length_drop, Array.length_toList]
    omega
  have newReached :
      first.new + count + (linesAt sides.new (first.new + count) (stop.new - (first.new + count))).length =
        stop.new := by
    rw [length_linesAt] <;> omega
  have made :
      (sides.oldFrom first).take count ++
          linesAt sides.new (first.new + count) (stop.new - (first.new + count)) =
        linesAt sides.new first.new (stop.new - first.new) := by
    rw [Sides.oldFrom, ← linesAt_eq, agree.linesAt_eq, linesAt_append]
    congr 1
    omega
  have applies := Patch.replay?_cons later oldStart enough played approved
  simp only [Place.advance, oldReached, newReached, made] at applies
  exact applies

/-- Hunks that show what differs up to the ends of both texts give the new lines. They are applied from
a place before the first of them, with only lines in between that agree. -/
theorem replay?_of_shows
    (shows_ : Shows sides middle hunks last)
    (toEnd : last = ⟨sides.old.size, sides.new.size⟩)
    (skips : Skips sides first middle) :
    replay? Applied.isExactWithin first.old first.new (sides.oldFrom first)
        (hunks.flatMap fun hunk => (stateHunk? sides hunk).toList) =
      some (sides.newFrom first) := by
  have within : last.Within sides := by
    rw [toEnd]
    exact ⟨Nat.le_refl _, Nat.le_refl _⟩
  -- A hunk without rows is not read: the lines before it are skipped with those after it, so the
  -- induction is for every place from which only lines that agree lead to the first hunk.
  induction shows_ generalizing first with
  | nil skipsLast =>
      subst toEnd
      exact congrArg some (skips.trans skipsLast).oldFrom_eq
  | @cons _ start stop last hunk hunks skipsHunk inPlace later inductionHypothesis =>
      have stopWithin := later.within within
      have skipsAll := skips.trans skipsHunk
      by_cases noRows : hunkRows sides hunk = []
      · obtain rfl := eq_of_no_rows inPlace.merged stopWithin noRows
        rw [List.flatMap_cons, stateHunk?_of_no_rows noRows]
        exact inductionHypothesis toEnd skipsAll within
      · obtain ⟨head, rest, rfl, isStated⟩ := stateHunk?_of_rows noRows
        have beyondStart := inPlace.merged.place_le.2
        rw [List.flatMap_cons, isStated, Option.toList_some, List.singleton_append,
          inPlace.replay?_cons skipsAll stopWithin, inductionHypothesis toEnd (.refl stop) within]
        have onwards : first.new + (stop.new - first.new) = stop.new := by
          obtain ⟨count, rfl, _⟩ := skipsAll
          simp only [Place.advance] at beyondStart
          omega
        have made := linesAt_append_drop sides.new first.new (stop.new - first.new)
        rw [onwards] at made
        exact congrArg some made

end SourceUpgrade.Patch
