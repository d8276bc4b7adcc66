import SourceUpgrade.Patch.Compact

namespace SourceUpgrade.Patch

/-!
# Hunks

Edits that stand next to each other are merged, so that kept lines alternate with changed ones. The
changes are then shown in hunks: each change with some kept lines around it, and changes in one hunk
if the kept lines between them are few enough to be shown whole.
-/

/-- Neighbouring edits on the way to being merged: what is kept, deleted and inserted. -/
structure Pending where
  kept : Option Edit
  deleted : Option Edit
  inserted : Option Edit
deriving Repr, DecidableEq

namespace Pending

/-- Nothing on the way. -/
def start : Pending := ⟨none, none, none⟩

/-- The change on the way: a deletion with an insertion is a replacement. -/
def change (pending : Pending) : List Edit :=
  match pending.deleted, pending.inserted with
  | some deleted, some inserted =>
      [⟨.replace, deleted.oldStart, deleted.oldCount, inserted.newStart, inserted.newCount⟩]
  | some deleted, none => [deleted]
  | none, some inserted => [inserted]
  | none, none => []

/-- The kept lines on the way. -/
def keep (pending : Pending) : List Edit :=
  pending.kept.toList

/-- An edit that grows on both sides by another one. -/
def grow (held : Option Edit) (edit : Edit) : Edit :=
  match held with
  | none => edit
  | some held =>
      { held with
        oldCount := held.oldCount + edit.oldCount
        newCount := held.newCount + edit.newCount }

end Pending

/-- Merge neighbouring edits, given those on the way. -/
def mergeFrom : Pending → List Edit → List Edit
  | pending, [] => pending.keep ++ pending.change
  | pending, edit :: rest =>
      match edit.kind with
      | .keep =>
          pending.change ++
            mergeFrom ⟨some (Pending.grow pending.kept edit), none, none⟩ rest
      | .delete =>
          pending.keep ++
            mergeFrom ⟨none, some (Pending.grow pending.deleted edit), pending.inserted⟩ rest
      | .insert | .replace =>
          pending.keep ++
            mergeFrom ⟨none, pending.deleted, some (Pending.grow pending.inserted edit)⟩ rest

/-- Merge neighbouring edits. -/
def merge (edits : List Edit) : List Edit :=
  mergeFrom .start edits

/-- Leave at most `radius` lines at the end of a stretch of kept lines. -/
def Edit.keepEnd (edit : Edit) (radius : Nat) : Edit :=
  if edit.keeps then
    let surplus := edit.oldCount - radius
    (edit.later surplus).shortened surplus
  else
    edit

/-- Leave at most `radius` lines at the begin of a stretch of kept lines. -/
def Edit.keepBegin (edit : Edit) (radius : Nat) : Edit :=
  if edit.keeps then edit.shortened (edit.oldCount - radius) else edit

/-- Change the last edit of a list. -/
def mapLast (change : Edit → Edit) : List Edit → List Edit
  | [] => []
  | [edit] => [change edit]
  | edit :: rest => edit :: mapLast change rest

/-- Leave at most `radius` kept lines at both ends of a list of edits. -/
def trimEnds (radius : Nat) (edits : List Edit) : List Edit :=
  match edits with
  | [] => []
  | first :: rest => mapLast (Edit.keepBegin · radius) (first.keepEnd radius :: rest)

/-- A stretch of changes that is shown as a whole, with the kept lines around and between them. -/
abbrev Hunk : Type := List Edit

/-- Whether a stretch shows no change. -/
def showsNothing (hunk : Hunk) : Bool :=
  match hunk with
  | [] => true
  | [edit] => edit.keeps
  | _ => false

/-- Cut a list of edits within long kept stretches, given the stretch on the way, last edit first. -/
def cutHunks (radius : Nat) : List Edit → List Edit → List Hunk
  | current, [] => if showsNothing current then [] else [current.reverse]
  | current, edit :: rest =>
      if edit.keeps ∧ 2 * radius < edit.oldCount then
        let closing : Edit := { edit with oldCount := radius, newCount := radius }
        let surplus := edit.oldCount - radius
        let opening : Edit :=
          { edit.later surplus with oldCount := radius, newCount := radius }
        (closing :: current).reverse :: cutHunks radius [opening] rest
      else
        cutHunks radius (edit :: current) rest

/-- The hunks that show the changes of a list of edits. -/
def hunks (radius : Nat) (edits : List Edit) : List Hunk :=
  cutHunks radius [] (trimEnds radius edits)

/-- The hunks that show how two texts differ. -/
def Sides.hunks (sides : Sides) (radius : Nat) : List Hunk :=
  Patch.hunks radius (merge (compact sides (alignAll sides)))

end SourceUpgrade.Patch
