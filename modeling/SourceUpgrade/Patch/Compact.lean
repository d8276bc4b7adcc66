import SourceUpgrade.Patch.Align

namespace SourceUpgrade.Patch

/-!
# Tidying edits

Deletions and insertions are moved as far as equal lines allow and joined with their like. First
every deletion, then every insertion is moved up and then down; an edit of the other kind on the way
changes places with it. An edit that has changed places keeps the line number that it had on the
side it does not touch.
-/

/-- A list of edits with one of them in focus; the edits before it are listed from it outwards. -/
structure Focus where
  before : List Edit
  edit : Edit
  after : List Edit
deriving Repr, DecidableEq

/-- How many lines of a kept stretch equal the end of the new lines of an edit, from its end on. -/
def slideUpCount (sides : Sides) (kept edit : Edit) : Nat :=
  min (sides.commonBack kept.oldStop edit.newStop (min kept.oldCount edit.newCount)) kept.oldCount

/-- How many lines of a kept stretch equal the begin of the new lines of an edit. -/
def slideDownCount (sides : Sides) (kept edit : Edit) : Nat :=
  min (sides.commonFront kept.oldStart edit.newStart (min kept.oldCount edit.newCount))
    kept.oldCount

/-- The edits after one that has moved up over `count` kept lines. -/
def releaseAfter (kept edit : Edit) (count : Nat) (after : List Edit) : List Edit :=
  match after with
  | next :: rest =>
      if next.keeps then (next.earlier count).extended count :: rest
      else .keeping (kept.oldStop - count) (edit.newStop - count) count :: after
  | [] => [.keeping (kept.oldStop - count) (edit.newStop - count) count]

/-- The edits before one that has moved down over `count` kept lines, from it outwards. -/
def releaseBefore (kept edit : Edit) (count : Nat) (before : List Edit) : List Edit :=
  match before with
  | previous :: rest =>
      if previous.keeps then previous.extended count :: rest
      else .keeping kept.oldStart edit.newStart count :: before
  | [] => [.keeping kept.oldStart edit.newStart count]

/-- A bound on the steps that an edit can take through a list of edits. -/
def roomIn : List Edit → Nat
  | [] => 0
  | edit :: rest => edit.oldCount + 1 + roomIn rest

/-- What stays of a kept stretch in front of other edits; nothing if it has no lines any more. -/
def withRemainder (left : Edit) (rest : List Edit) : List Edit :=
  if left.oldCount = 0 then rest else left :: rest

/-- There is less room beyond an edit. -/
theorem roomIn_rest_lt
    (edit : Edit)
    (rest : List Edit) :
    roomIn rest < roomIn (edit :: rest) := by
  simp only [roomIn]
  omega

/-- There is less room in front of a stretch that has lost lines. -/
theorem roomIn_withRemainder_lt
    (edit left : Edit)
    (rest : List Edit)
    (shorter : left.oldCount < edit.oldCount) :
    roomIn (withRemainder left rest) < roomIn (edit :: rest) := by
  unfold withRemainder
  split
  · exact roomIn_rest_lt edit rest
  · simp only [roomIn]
    omega

/-- A stretch loses lines when an edit moves up over some of them. -/
theorem shortened_slideUpCount_lt
    (sides : Sides)
    (kept edit : Edit)
    (moves : ¬ slideUpCount sides kept edit = 0) :
    (kept.shortened (slideUpCount sides kept edit)).oldCount < kept.oldCount := by
  have bound : slideUpCount sides kept edit ≤ kept.oldCount := Nat.min_le_right _ _
  simp only [Edit.shortened]
  omega

/-- A stretch loses lines when an edit moves down over some of them. -/
theorem shortened_slideDownCount_lt
    (sides : Sides)
    (kept edit : Edit)
    (moves : ¬ slideDownCount sides kept edit = 0) :
    ((kept.later (slideDownCount sides kept edit)).shortened
      (slideDownCount sides kept edit)).oldCount < kept.oldCount := by
  have bound : slideDownCount sides kept edit ≤ kept.oldCount := Nat.min_le_right _ _
  simp only [Edit.shortened, Edit.later]
  omega

/-- Move the edit in focus up as far as it goes. -/
def moveUp (sides : Sides) (focus : Focus) : Focus :=
  match _matched : focus.before with
  | [] => focus
  | previous :: rest =>
      if previous.keeps then
        let count := slideUpCount sides previous focus.edit
        if count = 0 then
          if previous.oldCount = 0 then moveUp sides { focus with before := rest } else focus
        else
          let after := releaseAfter previous focus.edit count focus.after
          let left := previous.shortened count
          moveUp sides
            ⟨withRemainder left rest, focus.edit.earlier count, after⟩
      else if previous.kind = focus.edit.kind then
        moveUp sides ⟨rest, previous.joined focus.edit, focus.after⟩
      else
        moveUp sides ⟨rest, focus.edit, previous :: focus.after⟩
termination_by roomIn focus.before
decreasing_by
  all_goals rw [_matched]
  · exact roomIn_rest_lt previous rest
  · exact roomIn_withRemainder_lt previous _ rest
      (shortened_slideUpCount_lt sides previous focus.edit (by assumption))
  · exact roomIn_rest_lt previous rest
  · exact roomIn_rest_lt previous rest

/-- Move the edit in focus down as far as it goes. -/
def moveDown (sides : Sides) (focus : Focus) : Focus :=
  match _matched : focus.after with
  | [] => focus
  | next :: rest =>
      if next.keeps then
        let count := slideDownCount sides next focus.edit
        if count = 0 then
          if next.oldCount = 0 then moveDown sides { focus with after := rest } else focus
        else
          let before := releaseBefore next focus.edit count focus.before
          let left := (next.later count).shortened count
          moveDown sides
            ⟨before, focus.edit.later count, withRemainder left rest⟩
      else if next.kind = focus.edit.kind then
        moveDown sides ⟨focus.before, focus.edit.joined next, rest⟩
      else
        moveDown sides ⟨next :: focus.before, focus.edit, rest⟩
termination_by roomIn focus.after
decreasing_by
  all_goals rw [_matched]
  · exact roomIn_rest_lt next rest
  · exact roomIn_withRemainder_lt next _ rest
      (shortened_slideDownCount_lt sides next focus.edit (by assumption))
  · exact roomIn_rest_lt next rest
  · exact roomIn_rest_lt next rest

/-- Move every edit of a kind among the edits still to come; fuel bounds the steps. -/
def moveAll
    (sides : Sides)
    (kind : EditKind) :
    Nat → List Edit → List Edit → List Edit
  | 0, before, after => before.reverse ++ after
  | _ + 1, before, [] => before.reverse
  | fuel + 1, before, edit :: after =>
      if edit.kind = kind then
        let moved := moveDown sides (moveUp sides ⟨before, edit, after⟩)
        moveAll sides kind fuel (moved.edit :: moved.before) moved.after
      else
        moveAll sides kind fuel (edit :: before) after

/-- A number of steps that is enough to move every edit of a list. -/
def moveFuel (edits : List Edit) : Nat :=
  (3 * edits.length + 3) * (3 * edits.length + 3)

/-- Move every deletion and then every insertion. -/
def compact (sides : Sides) (edits : List Edit) : List Edit :=
  let deleted := moveAll sides .delete (moveFuel edits) [] edits
  moveAll sides .insert (moveFuel deleted) [] deleted

end SourceUpgrade.Patch
