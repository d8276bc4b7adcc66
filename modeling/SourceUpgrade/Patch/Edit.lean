import SourceUpgrade.Patch.Line

namespace SourceUpgrade.Patch

/-!
# Edits

An edit says what becomes of some consecutive lines of an old text in a new one. It names the lines
on both sides; a deletion has none on the new side and an insertion none on the old side.
-/

/-- What an edit does. -/
inductive EditKind where
  | keep
  | delete
  | insert
  | replace
deriving Repr, DecidableEq

/-- An edit of consecutive lines, counted from zero on both sides. -/
structure Edit where
  kind : EditKind
  oldStart : Nat
  oldCount : Nat
  newStart : Nat
  newCount : Nat
deriving Repr, DecidableEq

namespace Edit

/-- Keep lines that are the same on both sides. -/
def keeping (oldStart newStart count : Nat) : Edit :=
  ⟨.keep, oldStart, count, newStart, count⟩

/-- Delete lines of the old side. -/
def deleting (oldStart count newStart : Nat) : Edit :=
  ⟨.delete, oldStart, count, newStart, 0⟩

/-- Insert lines of the new side. -/
def inserting (oldStart newStart count : Nat) : Edit :=
  ⟨.insert, oldStart, 0, newStart, count⟩

/-- The number of the line after the edit on the old side. -/
def oldStop (edit : Edit) : Nat :=
  edit.oldStart + edit.oldCount

/-- The number of the line after the edit on the new side. -/
def newStop (edit : Edit) : Nat :=
  edit.newStart + edit.newCount

/-- Whether lines are kept. -/
def keeps (edit : Edit) : Bool :=
  edit.kind == .keep

/-- Move an edit towards the begin on both sides. -/
def earlier (edit : Edit) (count : Nat) : Edit :=
  { edit with oldStart := edit.oldStart - count, newStart := edit.newStart - count }

/-- Move an edit towards the end on both sides. -/
def later (edit : Edit) (count : Nat) : Edit :=
  { edit with oldStart := edit.oldStart + count, newStart := edit.newStart + count }

/-- Make an edit longer at its end on both sides. -/
def extended (edit : Edit) (count : Nat) : Edit :=
  { edit with oldCount := edit.oldCount + count, newCount := edit.newCount + count }

/-- Make an edit shorter at its end on both sides. -/
def shortened (edit : Edit) (count : Nat) : Edit :=
  { edit with oldCount := edit.oldCount - count, newCount := edit.newCount - count }

/-- Join an edit with one of the same kind right after it: only the counted side grows. -/
def joined (first second : Edit) : Edit :=
  match first.kind with
  | .insert => { first with newCount := first.newCount + second.newCount }
  | _ => { first with oldCount := first.oldCount + second.oldCount }

end Edit

/-- The two texts that are compared, as lines. -/
structure Sides where
  old : Array Line
  new : Array Line
deriving Repr, DecidableEq

namespace Sides

/-- Cut two texts into lines. -/
def ofTexts (before after : List Char) : Sides :=
  ⟨(splitLines before).toArray, (splitLines after).toArray⟩

/-- Whether a line of the old side is the same as one of the new side; missing lines never are. -/
def same (sides : Sides) (old new : Nat) : Bool :=
  match sides.old[old]?, sides.new[new]? with
  | some left, some right => left == right
  | _, _ => false

/-- How many lines are the same from two places on, at most `limit`. -/
def commonFront (sides : Sides) (old new : Nat) : Nat → Nat
  | 0 => 0
  | limit + 1 =>
      if sides.same old new then 1 + commonFront sides (old + 1) (new + 1) limit else 0

/-- How many lines are the same right before two places, at most `limit`. -/
def commonBack (sides : Sides) (oldStop newStop : Nat) : Nat → Nat
  | 0 => 0
  | limit + 1 =>
      if 0 < oldStop ∧ 0 < newStop ∧ sides.same (oldStop - 1) (newStop - 1) then
        1 + commonBack sides (oldStop - 1) (newStop - 1) limit
      else
        0

end Sides

end SourceUpgrade.Patch
