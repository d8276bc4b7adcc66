import SourceUpgrade.Patch.Align
import SourceUpgrade.Proofs.Patch.Script

namespace SourceUpgrade.Patch

/-!
# Aligned texts

Aligning two texts gives a script from their begins to their ends, whatever points the texts are
divided at: what agrees at both ends of a region is kept, and its parts lead through it.
-/

/-- The place where a region begins. -/
def Region.start (region : Region) : Place :=
  ⟨region.oldStart, region.newStart⟩

/-- The place where a region ends. -/
def Region.stop (region : Region) : Place :=
  ⟨region.oldStop, region.newStop⟩

/-- A region ends no earlier than it begins. -/
structure Region.IsOrdered (region : Region) : Prop where
  old : region.oldStart ≤ region.oldStop
  new : region.newStart ≤ region.newStop

theorem Region.IsOrdered.oldStart_add_oldCount
    {region : Region}
    (ordered : region.IsOrdered) :
    region.oldStart + region.oldCount = region.oldStop :=
  Nat.add_sub_cancel' ordered.old

theorem Region.IsOrdered.newStart_add_newCount
    {region : Region}
    (ordered : region.IsOrdered) :
    region.newStart + region.newCount = region.newStop :=
  Nat.add_sub_cancel' ordered.new

variable {sides : Sides}

/-- Keeping lines that agree leads past them. -/
theorem script_keepingSome
    {place : Place}
    {count : Nat}
    (agree : sides.Agree place count) :
    Script sides place (keepingSome place.old place.new count) (place.advance count) := by
  unfold keepingSome
  split
  · rename_i none
    subst none
    exact .nil place
  · rename_i some
    refine .singleton ⟨Edit.fits_keeping agree, nofun, ?_⟩
    simp only [Edit.keeping]
    omega

theorem script_deleting
    (place : Place)
    {count : Nat}
    (some : count ≠ 0) :
    Script sides place [.deleting place.old count place.new] ⟨place.old + count, place.new⟩ := by
  refine .singleton ⟨⟨rfl, rfl⟩, nofun, ?_⟩
  simp only [Edit.deleting]
  omega

theorem script_inserting
    (oldStart : Nat)
    (place : Place)
    {count : Nat}
    (some : count ≠ 0) :
    Script sides place [.inserting oldStart place.new count] ⟨place.old, place.new + count⟩ := by
  refine .singleton ⟨⟨rfl, rfl⟩, nofun, ?_⟩
  simp only [Edit.inserting]
  omega

/-- Deleting all old lines of a region and inserting its new ones leads through it. -/
theorem script_replacingAll
    {region : Region}
    (ordered : region.IsOrdered) :
    Script sides region.start (replacingAll region) region.stop := by
  have oldLength := ordered.oldStart_add_oldCount
  have newLength := ordered.newStart_add_newCount
  have deletes :
      Script sides region.start
        (if region.oldCount = 0 then []
          else [.deleting region.oldStart region.oldCount region.newStart])
        ⟨region.oldStop, region.newStart⟩ := by
    rw [← oldLength]
    split
    · rename_i none
      rw [none]
      exact .nil _
    · rename_i some
      exact script_deleting region.start some
  have inserts :
      Script sides ⟨region.oldStop, region.newStart⟩
        (if region.newCount = 0 then []
          else [.inserting region.oldStart region.newStart region.newCount])
        region.stop := by
    rw [Region.stop, ← newLength]
    split
    · rename_i none
      rw [none]
      exact .nil _
    · rename_i some
      exact script_inserting region.oldStart ⟨region.oldStop, region.newStart⟩ some
  exact Chain.append_iff.mpr ⟨_, deletes, inserts⟩

theorem Region.IsOrdered.clamp
    {region : Region}
    (ordered : region.IsOrdered)
    (point : DividingPoint) :
    let inside := region.clamp point
    ({ region with oldStop := inside.1, newStop := inside.2 } : Region).IsOrdered ∧
      ({ region with oldStart := inside.1, newStart := inside.2 } : Region).IsOrdered := by
  have oldOrdered := ordered.old
  have newOrdered := ordered.new
  simp only [Region.clamp]
  constructor <;> constructor <;> simp only <;> omega

namespace Region

/-- How many lines agree at the begin of a region. -/
def frontCount (sides : Sides) (region : Region) : Nat :=
  sides.commonFront region.oldStart region.newStart (min region.oldCount region.newCount)

/-- A region without the lines that agree at its begin. -/
def withoutFront (sides : Sides) (region : Region) : Region :=
  { region with
    oldStart := region.oldStart + region.frontCount sides
    newStart := region.newStart + region.frontCount sides }

/-- How many of the other lines agree at the end of a region. -/
def backCount (sides : Sides) (region : Region) : Nat :=
  let rest := region.withoutFront sides
  sides.commonBack rest.oldStop rest.newStop (min rest.oldCount rest.newCount)

/-- A region without the lines that agree at its begin and at its end. -/
def inner (sides : Sides) (region : Region) : Region :=
  { region.withoutFront sides with
    oldStop := region.oldStop - region.backCount sides
    newStop := region.newStop - region.backCount sides }

/-- The lines at the begin of a region agree, and lead to what is left of it. -/
theorem IsOrdered.front
    {region : Region}
    (ordered : region.IsOrdered)
    (sides : Sides) :
    sides.Agree region.start (region.frontCount sides) ∧
      (region.withoutFront sides).IsOrdered := by
  obtain ⟨within, agree⟩ :=
    sides.agree_commonFront region.start (min region.oldCount region.newCount)
  have oldOrdered := ordered.old
  have newOrdered := ordered.new
  simp only [Region.start, oldCount, newCount] at within
  refine ⟨agree, ?_, ?_⟩
  all_goals
    simp only [withoutFront, frontCount, oldCount, newCount]
    omega

/-- The lines at the end of a region agree, and stand after what is left of it. -/
theorem IsOrdered.back
    {region : Region}
    (ordered : region.IsOrdered)
    (sides : Sides) :
    (region.inner sides).IsOrdered ∧
      sides.Agree (region.inner sides).stop (region.backCount sides) ∧
        (region.inner sides).stop.advance (region.backCount sides) = region.stop := by
  have restOrdered := (ordered.front sides).2
  have oldOrdered := restOrdered.old
  have newOrdered := restOrdered.new
  obtain ⟨within, oldWithin, newWithin, agree⟩ :=
    sides.agree_commonBack region.oldStop region.newStop
      (min (region.withoutFront sides).oldCount (region.withoutFront sides).newCount)
  have count :
      sides.commonBack region.oldStop region.newStop
          (min (region.withoutFront sides).oldCount (region.withoutFront sides).newCount) =
        region.backCount sides := rfl
  rw [count] at within oldWithin newWithin agree
  simp only [oldCount, newCount] at within
  simp only [withoutFront] at within oldOrdered newOrdered
  refine ⟨⟨?_, ?_⟩, agree, ?_⟩
  · simp only [inner, withoutFront]
    omega
  · simp only [inner, withoutFront]
    omega
  · simp only [stop, inner, Place.advance, Nat.sub_add_cancel oldWithin,
      Nat.sub_add_cancel newWithin]

end Region

/-- The edits of a region whose lines agree neither at its begin nor at its end. -/
def alignInner (sides : Sides) (fuel : Nat) (inner : Region) : List Edit :=
  if inner.oldCount = 0 ∧ inner.newCount = 0 then []
  else if inner.newCount = 0 then
    [Edit.deleting inner.oldStart inner.oldCount inner.newStart]
  else if inner.oldCount = 0 then
    [Edit.inserting inner.oldStart inner.newStart inner.newCount]
  else
    match dividingPoint? sides inner with
    | none =>
        [Edit.deleting inner.oldStart inner.oldCount inner.newStart,
          Edit.inserting inner.oldStart inner.newStart inner.newCount]
    | some point =>
        let point := inner.clamp point
        align sides fuel { inner with oldStop := point.1, newStop := point.2 } ++
          align sides fuel { inner with oldStart := point.1, newStart := point.2 }

theorem align_succ
    (sides : Sides)
    (fuel : Nat)
    (region : Region) :
    align sides (fuel + 1) region =
      keepingSome region.oldStart region.newStart (region.frontCount sides) ++
        alignInner sides fuel (region.inner sides) ++
          keepingSome (region.inner sides).oldStop (region.inner sides).newStop
            (region.backCount sides) :=
  rfl

/-- Aligning what is left of a region leads through it, if aligning its parts does. -/
theorem script_alignInner
    {fuel : Nat}
    {inner : Region}
    (ordered : inner.IsOrdered)
    (leadThrough :
      ∀ {part : Region}, part.IsOrdered → Script sides part.start (align sides fuel part) part.stop) :
    Script sides inner.start (alignInner sides fuel inner) inner.stop := by
  have oldLength := ordered.oldStart_add_oldCount
  have newLength := ordered.newStart_add_newCount
  rw [Region.stop, ← oldLength, ← newLength, alignInner]
  split
  · rename_i none
    rw [none.1, none.2]
    exact .nil _
  · rename_i some
    split
    · rename_i noNew
      rw [noNew]
      exact script_deleting inner.start fun noOld => some ⟨noOld, noNew⟩
    · rename_i someNew
      split
      · rename_i noOld
        rw [noOld]
        exact script_inserting inner.oldStart inner.start someNew
      · rename_i someOld
        split
        · exact Chain.append_iff.mpr
            ⟨_, script_deleting inner.start someOld,
              script_inserting inner.oldStart ⟨inner.oldStart + inner.oldCount, inner.newStart⟩
                someNew⟩
        · rename_i point _
          obtain ⟨firstOrdered, secondOrdered⟩ := ordered.clamp point
          rw [oldLength, newLength]
          exact Chain.append_iff.mpr ⟨_, leadThrough firstOrdered, leadThrough secondOrdered⟩

/-- Aligning a region leads through it. -/
theorem script_align
    {region : Region}
    (ordered : region.IsOrdered)
    (fuel : Nat) :
    Script sides region.start (align sides fuel region) region.stop := by
  -- Nothing is used of the point at which a region is divided but that it lies inside.
  induction fuel generalizing region with
  | zero =>
      exact script_replacingAll ordered
  | succ fuel inductionHypothesis =>
      obtain ⟨frontAgree, _⟩ := ordered.front sides
      obtain ⟨innerOrdered, backAgree, end_⟩ := ordered.back sides
      have keepsFront := script_keepingSome frontAgree
      have keepsBack := script_keepingSome backAgree
      rw [end_] at keepsBack
      have between := script_alignInner innerOrdered inductionHypothesis
      rw [align_succ]
      exact Chain.append_iff.mpr
        ⟨_, Chain.append_iff.mpr ⟨_, keepsFront, between⟩, keepsBack⟩

theorem script_alignAll
    (sides : Sides) :
    Script sides ⟨0, 0⟩ (alignAll sides) ⟨sides.old.size, sides.new.size⟩ :=
  @script_align sides ⟨0, sides.old.size, 0, sides.new.size⟩ ⟨Nat.zero_le _, Nat.zero_le _⟩ _

end SourceUpgrade.Patch
