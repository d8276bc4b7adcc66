import SourceUpgrade.Proofs.Patch.Shown
import SourceUpgrade.Proofs.Patch.Written

namespace SourceUpgrade.Patch

/-!
# Rows that are played

Playing the rows of an edit where it fits takes its old lines from the front of the old text and makes
its new ones, so the rows of a hunk lead through both texts as the hunk does. How many rows of a kind
there are is told from the lines before and after they have been played.
-/

variable {sides : Sides} {first start stop : Place} {edit : Edit} {hunk : Hunk}
  {old made left : List Line} {rows : List Row}

/-! ## Consecutive lines -/

theorem linesAt_eq
    (lines : Array Line)
    (start count : Nat) :
    linesAt lines start count = (lines.toList.drop start).take count := by
  rw [linesAt, Array.toList_extract, List.extract_eq_take_drop, Nat.add_sub_cancel_left]

theorem linesAt_append_drop
    (lines : Array Line)
    (start count : Nat) :
    linesAt lines start count ++ lines.toList.drop (start + count) = lines.toList.drop start := by
  rw [linesAt_eq, ← List.drop_drop, List.take_append_drop]

theorem linesAt_append
    (lines : Array Line)
    (start first second : Nat) :
    linesAt lines start first ++ linesAt lines (start + first) second =
      linesAt lines start (first + second) := by
  rw [linesAt_eq, linesAt_eq, linesAt_eq, ← List.drop_drop, List.take_add]

theorem linesAt_zero
    (lines : Array Line)
    (start : Nat) :
    linesAt lines start 0 = [] := by
  rw [linesAt_eq, List.take_zero]

theorem length_linesAt
    {lines : Array Line}
    {start count : Nat}
    (within : start + count ≤ lines.size) :
    (linesAt lines start count).length = count := by
  rw [linesAt_eq, List.length_take, List.length_drop, Array.length_toList]
  omega

theorem Sides.getElem?_eq_of_same
    {oldIndex newIndex : Nat}
    (same : sides.same oldIndex newIndex = true) :
    sides.old[oldIndex]? = sides.new[newIndex]? := by
  unfold Sides.same at same
  split at same
  · rename_i left right inOld inNew
    rw [inOld, inNew, eq_of_beq same]
  · cases same

theorem Sides.Agree.linesAt_eq
    {count : Nat}
    (agree : sides.Agree start count) :
    linesAt sides.old start.old count = linesAt sides.new start.new count := by
  rw [Patch.linesAt_eq, Patch.linesAt_eq]
  refine List.ext_getElem? fun index => ?_
  rw [List.getElem?_take, List.getElem?_take]
  split
  · rename_i within
    have same := getElem?_eq_of_same (agree index within)
    rw [List.getElem?_drop, List.getElem?_drop, Array.getElem?_toList, Array.getElem?_toList, same]
  · rfl

/-! ## Rows with one mark -/

theorem play?_context_append
    (lines : List Line)
    (rows : List Row)
    (old : List Line) :
    play? (lines.map (Mark.context, ·) ++ rows) (lines ++ old) =
      (play? rows old).map fun later => (lines ++ later.1, later.2) := by
  induction lines with
  | nil =>
      simp
  | cons line lines inductionHypothesis =>
      simp only [List.map_cons, List.cons_append, play?, if_pos, inductionHypothesis,
        Option.map_map, Function.comp_def]

theorem play?_removed_append
    (lines : List Line)
    (rows : List Row)
    (old : List Line) :
    play? (lines.map (Mark.removed, ·) ++ rows) (lines ++ old) = play? rows old := by
  induction lines with
  | nil =>
      rfl
  | cons line lines inductionHypothesis =>
      simp only [List.map_cons, List.cons_append, play?, if_pos, inductionHypothesis]

theorem play?_added_append
    (lines : List Line)
    (rows : List Row)
    (old : List Line) :
    play? (lines.map (Mark.added, ·) ++ rows) old =
      (play? rows old).map fun later => (lines ++ later.1, later.2) := by
  induction lines with
  | nil =>
      simp
  | cons line lines inductionHypothesis =>
      simp only [List.map_cons, List.cons_append, play?, inductionHypothesis, Option.map_map,
        Function.comp_def]

/-! ## Rows of edits -/

namespace Sides

/-- The old lines from a place on. -/
def oldFrom (sides : Sides) (place : Place) : List Line :=
  sides.old.toList.drop place.old

/-- The new lines from a place on. -/
def newFrom (sides : Sides) (place : Place) : List Line :=
  sides.new.toList.drop place.new

end Sides

/-- An edit that is played where it fits takes its old lines and makes its new ones. -/
theorem Edit.Fits.play?_append
    (fits : edit.Fits sides start)
    (rows : List Row) :
    play? (editRows sides edit ++ rows) (sides.oldFrom start) =
      (play? rows (sides.oldFrom (start.after edit))).map fun later =>
        (linesAt sides.new start.new edit.newCount ++ later.1, later.2) := by
  have taken :
      sides.oldFrom start =
        linesAt sides.old start.old edit.oldCount ++ sides.oldFrom (start.after edit) :=
    (linesAt_append_drop sides.old start.old edit.oldCount).symm
  cases kind : edit.kind with
  | keep =>
      obtain ⟨oldStart, _, sameCount, agree⟩ := (fits_iff_of_keep kind).mp fits
      simp only [editRows, kind]
      rw [taken, rowsOf, oldStart, play?_context_append, sameCount, agree.linesAt_eq]
  | delete =>
      obtain ⟨oldStart, noNew⟩ := (fits_iff_of_delete kind).mp fits
      simp only [editRows, kind]
      rw [taken, rowsOf, oldStart, play?_removed_append, noNew, linesAt_zero]
      simp
  | insert =>
      obtain ⟨newStart, noOld⟩ := (fits_iff_of_insert kind).mp fits
      simp only [editRows, kind]
      rw [taken, noOld, linesAt_zero, List.nil_append, rowsOf, newStart, play?_added_append]
  | replace =>
      obtain ⟨oldStart, newStart⟩ : edit.oldStart = start.old ∧ edit.newStart = start.new := by
        rw [Fits, kind] at fits
        exact fits
      simp only [editRows, kind]
      rw [taken, rowsOf, rowsOf, oldStart, newStart, List.append_assoc, play?_removed_append,
        play?_added_append]

/-- Edits that are played lead from the lines at their begin to those at their end. -/
theorem play?_hunkRows
    (merged : Merged sides start hunk stop) :
    play? (hunkRows sides hunk) (sides.oldFrom start) =
      some (linesAt sides.new start.new (stop.new - start.new), sides.oldFrom stop) := by
  induction merged with
  | nil place =>
      rw [Nat.sub_self, linesAt_zero]
      rfl
  | @cons start stop edit hunk fits rest inductionHypothesis =>
      have onwards := rest.place_le.2
      simp only [Place.after] at onwards
      have parts : stop.new - start.new = edit.newCount + (stop.new - (start.new + edit.newCount)) := by
        omega
      rw [hunkRows, List.flatMap_cons, fits.1.play?_append, ← hunkRows, inductionHypothesis, parts,
        ← linesAt_append]
      rfl

/-! ## Counted rows -/

theorem oldRows_cons
    (mark : Mark)
    (line : Line)
    (rows : List Row) :
    oldRows ((mark, line) :: rows) = oldRows rows + if mark = .added then 0 else 1 := by
  cases mark <;> simp [oldRows]

theorem newRows_cons
    (mark : Mark)
    (line : Line)
    (rows : List Row) :
    newRows ((mark, line) :: rows) = newRows rows + if mark = .removed then 0 else 1 := by
  cases mark <;> simp [newRows]

/-- Rows that are played have as many old lines as they take and as many new ones as they make. -/
theorem rows_of_play?
    (played : play? rows old = some (made, left)) :
    oldRows rows + left.length = old.length ∧ newRows rows = made.length := by
  fun_induction play? rows old generalizing made left with
  | case1 old =>
      cases played
      exact ⟨Nat.zero_add _, rfl⟩
  | case2 line rows old inductionHypothesis =>
      obtain ⟨later, playedLater, same⟩ := Option.map_eq_some_iff.mp played
      obtain ⟨rfl, rfl⟩ := Prod.mk.inj same
      obtain ⟨oldCount, newCount⟩ := inductionHypothesis playedLater
      rw [oldRows_cons, newRows_cons, newCount]
      exact ⟨oldCount, rfl⟩
  | case3 rows line old inductionHypothesis =>
      obtain ⟨later, playedLater, same⟩ := Option.map_eq_some_iff.mp played
      obtain ⟨rfl, rfl⟩ := Prod.mk.inj same
      obtain ⟨oldCount, newCount⟩ := inductionHypothesis playedLater
      rw [oldRows_cons, newRows_cons, newCount, List.length_cons, ← oldCount]
      exact ⟨Nat.add_right_comm _ 1 _, rfl⟩
  | case5 rows line old inductionHypothesis =>
      obtain ⟨oldCount, newCount⟩ := inductionHypothesis played
      rw [oldRows_cons, newRows_cons, newCount, List.length_cons, ← oldCount]
      exact ⟨Nat.add_right_comm _ 1 _, rfl⟩
  | case4 | case6 | case7 =>
      cases played

end SourceUpgrade.Patch
