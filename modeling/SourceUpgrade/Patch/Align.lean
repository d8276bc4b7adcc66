import SourceUpgrade.Patch.Edit

namespace SourceUpgrade.Patch

/-!
# Aligning two texts

The common lines at both ends are kept; what lies between is divided at a point on a shortest path
of deletions and insertions, and both parts are aligned in the same way. The point is found by
searching from both ends at once for the furthest places that a number of edits can reach on each
diagonal.
-/

/-- A part of both sides: from the start lines up to the stop lines. -/
structure Region where
  oldStart : Nat
  oldStop : Nat
  newStart : Nat
  newStop : Nat
deriving Repr, DecidableEq

namespace Region

/-- How many old lines a region has. -/
def oldCount (region : Region) : Nat :=
  region.oldStop - region.oldStart

/-- How many new lines a region has. -/
def newCount (region : Region) : Nat :=
  region.newStop - region.newStart

end Region

/-- The furthest place reached on each diagonal, by the diagonal's number; zero where unknown. -/
structure Reach where
  offset : Nat
  places : Array Nat
deriving Repr, DecidableEq

namespace Reach

/-- Nothing reached on the diagonals up to a distance. -/
def start (distance : Nat) : Reach :=
  ⟨distance + 1, Array.replicate (2 * distance + 3) 0⟩

/-- The furthest place reached on a diagonal. -/
def get (reach : Reach) (diagonal : Int) : Nat :=
  reach.places.getD (diagonal + reach.offset).toNat 0

/-- Set the furthest place reached on a diagonal. -/
def set (reach : Reach) (diagonal : Int) (place : Nat) : Reach :=
  { reach with places := reach.places.set! (diagonal + reach.offset).toNat place }

/-- The place where a path with one more edit enters a diagonal. -/
def enter (reach : Reach) (edits : Nat) (diagonal : Int) : Nat :=
  let down := reach.get (diagonal + 1)
  let right := reach.get (diagonal - 1)
  if diagonal = -(edits : Int) ∨ (diagonal ≠ edits ∧ right < down) then down else right + 1

end Reach

/-- The diagonals that a number of edits can end on, from the highest down. -/
def diagonals (edits : Nat) : List Int :=
  (List.range (edits + 1)).map fun (index : Nat) => (edits : Int) - 2 * Int.ofNat index

/-- A point on both sides at which a region is divided. -/
abbrev DividingPoint : Type := Nat × Nat

/-- One forward step on each of some diagonals, or the point where it meets the way back. -/
def forwardRound
    (sides : Sides)
    (region : Region)
    (edits : Nat)
    (back : Reach) :
    List Int → Reach → DividingPoint ⊕ Reach
  | [], reach => .inr reach
  | diagonal :: rest, reach =>
      let delta : Int := (region.oldCount : Int) - (region.newCount : Int)
      let x := reach.enter edits diagonal
      let y : Int := (x : Int) - diagonal
      let run :=
        if x < region.oldCount ∧ 0 ≤ y ∧ y < region.newCount then
          sides.commonFront (region.oldStart + x) (region.newStart + y.toNat)
            (min (region.oldCount - x) (region.newCount - y.toNat))
        else
          0
      let reach := reach.set diagonal (x + run)
      if delta % 2 ≠ 0 ∧ (diagonal - delta).natAbs + 1 ≤ edits ∧
          region.oldCount ≤ reach.get diagonal + back.get (delta - diagonal) then
        .inl (region.oldStart + x, (region.newStart + y).toNat)
      else
        forwardRound sides region edits back rest reach

/-- One backward step on each of some diagonals, or the point where it meets the way forth. -/
def backwardRound
    (sides : Sides)
    (region : Region)
    (edits : Nat)
    (forth : Reach) :
    List Int → Reach → DividingPoint ⊕ Reach
  | [], reach => .inr reach
  | diagonal :: rest, reach =>
      let delta : Int := (region.oldCount : Int) - (region.newCount : Int)
      let x := reach.enter edits diagonal
      let y : Int := (x : Int) - diagonal
      let run :=
        if x < region.oldCount ∧ 0 ≤ y ∧ y < region.newCount then
          sides.commonBack (region.oldStop - x) (region.newStop - y.toNat)
            (min (region.oldCount - x) (region.newCount - y.toNat))
        else
          0
      let reach := reach.set diagonal (x + run)
      if delta % 2 = 0 ∧ (diagonal - delta).natAbs ≤ edits ∧
          region.oldCount ≤ reach.get diagonal + forth.get (delta - diagonal) then
        .inl (region.oldStop - (x + run), ((region.newStop : Int) - (y + run)).toNat)
      else
        backwardRound sides region edits forth rest reach

/-- Search with `edits` edits from both ends, then with more; `left` bounds how many more. -/
def searchPoint?
    (sides : Sides)
    (region : Region) :
    Nat → Nat → Reach → Reach → Option DividingPoint
  | 0, _, _, _ => none
  | left + 1, edits, forth, back =>
      match forwardRound sides region edits back (diagonals edits) forth with
      | .inl point => some point
      | .inr forth =>
          match backwardRound sides region edits forth (diagonals edits) back with
          | .inl point => some point
          | .inr back => searchPoint? sides region left (edits + 1) forth back

/-- A point on a shortest path through a region. -/
def dividingPoint? (sides : Sides) (region : Region) : Option DividingPoint :=
  let most := (region.oldCount + region.newCount + 1) / 2
  searchPoint? sides region (most + 1) 0 (.start most) (.start most)

/-- A point moved into a region. -/
def Region.clamp (region : Region) (point : DividingPoint) : DividingPoint :=
  (min (max point.1 region.oldStart) region.oldStop,
    min (max point.2 region.newStart) region.newStop)

/-- Keep a number of lines, or no edit at all if the number is zero. -/
def keepingSome (oldStart newStart count : Nat) : List Edit :=
  if count = 0 then [] else [.keeping oldStart newStart count]

/-- Delete all old lines of a region and insert all its new lines. -/
def replacingAll (region : Region) : List Edit :=
  (if region.oldCount = 0 then []
    else [.deleting region.oldStart region.oldCount region.newStart]) ++
  if region.newCount = 0 then []
  else [.inserting region.oldStart region.newStart region.newCount]

/-- The edits that turn the old lines of a region into the new ones; fuel bounds the divisions. -/
def align (sides : Sides) : Nat → Region → List Edit
  | 0, region => replacingAll region
  | fuel + 1, region =>
      let front := sides.commonFront region.oldStart region.newStart
        (min region.oldCount region.newCount)
      let rest : Region :=
        { region with oldStart := region.oldStart + front, newStart := region.newStart + front }
      let back := sides.commonBack rest.oldStop rest.newStop (min rest.oldCount rest.newCount)
      let inner : Region :=
        { rest with oldStop := rest.oldStop - back, newStop := rest.newStop - back }
      let between :=
        if inner.oldCount = 0 ∧ inner.newCount = 0 then []
        else if inner.newCount = 0 then
          [Edit.deleting inner.oldStart inner.oldCount inner.newStart]
        else if inner.oldCount = 0 then
          [Edit.inserting inner.oldStart inner.newStart inner.newCount]
        else
          match dividingPoint? sides inner with
          | none =>
              [Edit.deleting inner.oldStart inner.oldCount inner.newStart,
                Edit.inserting inner.oldStart inner.newStart inner.newCount]
          | some point =>
              let point := inner.clamp point
              align sides fuel { inner with oldStop := point.1, newStop := point.2 } ++
                align sides fuel { inner with oldStart := point.1, newStart := point.2 }
      keepingSome region.oldStart region.newStart front ++ between ++
        keepingSome inner.oldStop inner.newStop back

/-- The edits that turn one text into another, before they are tidied. -/
def alignAll (sides : Sides) : List Edit :=
  align sides (sides.old.size + sides.new.size + 1)
    ⟨0, sides.old.size, 0, sides.new.size⟩

end SourceUpgrade.Patch
