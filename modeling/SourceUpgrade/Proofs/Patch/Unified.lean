import SourceUpgrade.Proofs.Patch.Replayed

namespace SourceUpgrade.Patch

/-!
# The patch of two texts

A patch is empty exactly if the texts are the same, and applying it to the old text gives the new one.
-/

variable {sides : Sides} {lines : Array Line}

/-! ## The same texts -/

theorem commonFront_self
    {start limit : Nat}
    (within : start + limit ≤ lines.size) :
    Sides.commonFront ⟨lines, lines⟩ start start limit = limit := by
  induction limit generalizing start with
  | zero =>
      rfl
  | succ limit inductionHypothesis =>
      have inside : start < lines.size := by omega
      have same : Sides.same ⟨lines, lines⟩ start start = true := by
        simp [Sides.same, inside]
      rw [Sides.commonFront, if_pos same, inductionHypothesis (by omega), Nat.add_comm]

/-- A text is aligned with itself by keeping all its lines. -/
theorem alignAll_self
    (lines : Array Line) :
    alignAll ⟨lines, lines⟩ = keepingSome 0 0 lines.size := by
  let whole : Region := ⟨0, lines.size, 0, lines.size⟩
  have front : whole.frontCount ⟨lines, lines⟩ = lines.size := by
    have limit : min whole.oldCount whole.newCount = lines.size := Nat.min_self lines.size
    rw [Region.frontCount, limit]
    exact commonFront_self (Nat.le_of_eq (Nat.zero_add _))
  have rest : whole.withoutFront ⟨lines, lines⟩ = ⟨lines.size, lines.size, lines.size, lines.size⟩ := by
    simp only [Region.withoutFront, front, whole, Nat.zero_add]
  have back : whole.backCount ⟨lines, lines⟩ = 0 := by
    simp only [Region.backCount, rest, Region.oldCount, Nat.sub_self, Nat.zero_min,
      Sides.commonBack]
  have inner : whole.inner ⟨lines, lines⟩ = ⟨lines.size, lines.size, lines.size, lines.size⟩ := by
    simp only [Region.inner, rest, back, whole, Nat.sub_zero]
  rw [alignAll, align_succ, front, back, inner]
  simp [alignInner, Region.oldCount, Region.newCount, keepingSome]

/-- Nothing is shown of kept lines without a change. -/
theorem hunks_kept
    {edit : Edit}
    (radius : Nat)
    (keeps : edit.keeps = true) :
    hunks radius [edit] = [] := by
  let trimmed := (edit.keepEnd radius).keepBegin radius
  have trimmedKeeps : trimmed.keeps = true := by
    rw [Edit.keeps, Edit.keepBegin_kind, Edit.keepEnd_kind]
    exact keeps
  have short : trimmed.oldCount ≤ radius := by
    have endKeeps : (edit.keepEnd radius).keeps = true := by
      rw [Edit.keeps, Edit.keepEnd_kind]
      exact keeps
    simp only [trimmed, Edit.keepBegin, if_pos endKeeps, Edit.shortened]
    omega
  have whole : ¬ (trimmed.keeps = true ∧ 2 * radius < trimmed.oldCount) := by omega
  show cutHunks radius [] [trimmed] = []
  rw [cutHunks, if_neg whole, cutHunks, showsNothing, if_pos trimmedKeeps]

theorem hunks_self
    (lines : Array Line)
    (radius : Nat) :
    Sides.hunks ⟨lines, lines⟩ radius = [] := by
  rw [Sides.hunks, alignAll_self, keepingSome]
  split
  · rfl
  · have moved : compact ⟨lines, lines⟩ [.keeping 0 0 lines.size] = [.keeping 0 0 lines.size] := rfl
    rw [moved]
    exact hunks_kept radius rfl

theorem eq_of_no_hunks
    (shows_ : Shows sides ⟨0, 0⟩ [] ⟨sides.old.size, sides.new.size⟩) :
    sides.old = sides.new := by
  cases shows_ with
  | nil skips =>
      exact Array.toList_inj.mp skips.oldFrom_eq

/-- A patch is empty exactly if there are no hunks. -/
theorem unified_eq_empty_iff
    (path before after : String)
    (radius : Nat) :
    unified path before after radius = "" ↔
      (Sides.ofTexts before.toList after.toList).hunks radius = [] := by
  simp only [unified, writePatch, String.ofList_eq_empty_iff]
  split
  · rename_i none
    exact iff_of_true rfl (List.isEmpty_iff.mp none)
  · rename_i some
    refine iff_of_false (List.cons_ne_nil _ _) fun none => some ?_
    rw [none]
    rfl

theorem eq_of_ofTexts
    {before after : String}
    (same :
      (Sides.ofTexts before.toList after.toList).old = (Sides.ofTexts before.toList after.toList).new) :
    before = after := by
  have sameLines : splitLines before.toList = splitLines after.toList := congrArg Array.toList same
  have sameChars := congrArg List.flatten sameLines
  rw [flatten_splitLines, flatten_splitLines] at sameChars
  exact String.toList_inj.mp sameChars

theorem toList_unified
    {before after : String}
    {radius : Nat}
    (path : String)
    (some : (Sides.ofTexts before.toList after.toList).hunks radius ≠ []) :
    (unified path before after radius).toList =
      writeNames path.toList ++
        ((Sides.ofTexts before.toList after.toList).hunks radius).flatMap
          (writeHunk (Sides.ofTexts before.toList after.toList)) := by
  have notEmpty : ¬ ((Sides.ofTexts before.toList after.toList).hunks radius).isEmpty = true :=
    fun none => some (List.isEmpty_iff.mp none)
  rw [unified, String.toList_ofList, writePatch, if_neg notEmpty]

theorem toList_names
    (path : String) :
    ("--- a/" ++ path ++ "\n+++ b/" ++ path ++ "\n").toList = writeNames path.toList := by
  simp only [String.toList_append]
  rfl

/-- A patch is applied by reading its hunks and applying these. -/
theorem applyPatch?_of_replay?
    {approves : Applied → Bool}
    {path before patch : String}
    {body : List Char}
    {hunks : List Stated}
    {lines : List Line}
    (nonempty : patch ≠ "")
    (names : patch.toList = writeNames path.toList ++ body)
    (read : readHunks? body = some hunks)
    (replayed : replay? approves 0 0 (splitLines before.toList) hunks = some lines) :
    applyPatch? approves path before patch = some (String.ofList lines.flatten) := by
  have rest :
      dropWord? ("--- a/" ++ path ++ "\n+++ b/" ++ path ++ "\n").toList patch.toList = some body := by
    rw [toList_names, names, dropWord?_append]
  rw [applyPatch?, if_neg nonempty]
  simp only [rest, read, replayed, Option.bind_eq_bind, Option.bind_some]
  rfl

/-- The hunks of two texts, applied to the old lines, give the new ones. -/
theorem replay?_hunks
    (before after : List Char)
    (radius : Nat) :
    let sides := Sides.ofTexts before after
    replay? Applied.isExactWithin 0 0 (splitLines before)
        ((sides.hunks radius).flatMap fun hunk => (stateHunk? sides hunk).toList) =
      some (splitLines after) := by
  intro sides
  have oldLines : sides.oldFrom ⟨0, 0⟩ = splitLines before := rfl
  have newLines : sides.newFrom ⟨0, 0⟩ = splitLines after := rfl
  have replayed := replay?_of_shows (shows_hunks sides radius) rfl (.refl ⟨0, 0⟩)
  rw [oldLines, newLines] at replayed
  exact replayed

/-- The patch of two texts is empty exactly if they are the same, and applied to the old text it gives
the new one. The numbers that its hunks state are right, but for those that a change at either end of
the old text may spoil. -/
theorem unified_replays
    (path before after : String)
    (radius : Nat) :
    (unified path before after radius = "" ↔ before = after) ∧
      applyPatch? Applied.isExactWithin path before (unified path before after radius) =
        some after := by
  rw [unified_eq_empty_iff]
  by_cases none : (Sides.ofTexts before.toList after.toList).hunks radius = []
  · have shown := shows_hunks (Sides.ofTexts before.toList after.toList) radius
    rw [none] at shown
    obtain rfl := eq_of_ofTexts (eq_of_no_hunks shown)
    refine ⟨iff_of_true none rfl, ?_⟩
    rw [applyPatch?, if_pos ((unified_eq_empty_iff path before before radius).mpr none)]
  · have differs : before ≠ after := by
      rintro rfl
      exact none (hunks_self _ radius)
    refine ⟨iff_of_false none differs, ?_⟩
    have nonempty := mt (unified_eq_empty_iff path before after radius).mp none
    have read := readHunks?_flatMap_writeHunk (areLines_ofTexts before.toList after.toList)
      ((Sides.ofTexts before.toList after.toList).hunks radius)
    have applied := applyPatch?_of_replay? nonempty (toList_unified path none) read
      (replay?_hunks before.toList after.toList radius)
    rw [flatten_splitLines, String.ofList_toList] at applied
    exact applied

/-- An insertion that has changed places with the deletion at the begin makes this patch state a wrong
range: its header counts one old line and the second new line, above two old and two new lines that
begin with the first one. Where exact numbers are asked for, it cannot be applied. -/
theorem unified_misstates_range :
    unified "a.ts" "b\na\n" "a\na\n" 3 =
        "--- a/a.ts\n+++ b/a.ts\n@@ -1 +2 @@\n-b\n a\n+a\n" ∧
      applyPatch? Applied.isExact "a.ts" "b\na\n" (unified "a.ts" "b\na\n" "a\na\n" 3) = none := by
  decide +kernel

end SourceUpgrade.Patch
