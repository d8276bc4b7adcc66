import SourceUpgrade.Patch.Edit

namespace SourceUpgrade.Patch

/-!
# Edit scripts

A script leads from a place between lines of both texts to a later one. An edit fits a place if the
lines that it names on the sides it touches begin there; of a deletion and an insertion the other
start does not matter. Every edit of a script fits the place that the edits before it lead to, and no
edit of a script is empty.
-/

/-! ## Places -/

/-- A place between lines on both sides: how many lines stand before it. -/
@[ext]
structure Place where
  old : Nat
  new : Nat
deriving Repr, DecidableEq

namespace Place

/-- The place after an edit. -/
def after (place : Place) (edit : Edit) : Place :=
  ⟨place.old + edit.oldCount, place.new + edit.newCount⟩

/-- The place some lines further on both sides. -/
def advance (place : Place) (count : Nat) : Place :=
  ⟨place.old + count, place.new + count⟩

theorem advance_advance
    (place : Place)
    (first second : Nat) :
    (place.advance first).advance second = place.advance (first + second) := by
  simp only [advance, Nat.add_assoc]

/-- The place after two edits is the same if they change places. -/
theorem after_after_comm
    (place : Place)
    (first second : Edit) :
    (place.after first).after second = (place.after second).after first :=
  Place.ext (Nat.add_right_comm _ _ _) (Nat.add_right_comm _ _ _)

theorem after_of_sameCount
    {edit : Edit}
    (place : Place)
    (sameCount : edit.newCount = edit.oldCount) :
    place.after edit = place.advance edit.oldCount := by
  rw [after, sameCount, advance]

end Place

namespace Sides

/-- A number of lines from a place on are the same on both sides. -/
def Agree (sides : Sides) (place : Place) (count : Nat) : Prop :=
  ∀ index < count, sides.same (place.old + index) (place.new + index) = true

theorem agree_zero
    (sides : Sides)
    (place : Place) :
    sides.Agree place 0 :=
  fun _ impossible => absurd impossible (Nat.not_lt_zero _)

/-- Lines agree if they do up to a place and from there on. -/
theorem agree_add_iff
    {sides : Sides}
    {place : Place}
    {first second : Nat} :
    sides.Agree place (first + second) ↔
      sides.Agree place first ∧ sides.Agree (place.advance first) second := by
  constructor
  · intro agree
    refine ⟨fun index inFirst => agree index (by omega), ?_⟩
    intro index inSecond
    have there := agree (first + index) (by omega)
    rw [← Nat.add_assoc, ← Nat.add_assoc] at there
    exact there
  · rintro ⟨agreeFirst, agreeSecond⟩ index within
    by_cases inFirst : index < first
    · exact agreeFirst index inFirst
    · have there := agreeSecond (index - first) (by omega)
      simp only [Place.advance] at there
      rw [show place.old + index = place.old + first + (index - first) by omega,
        show place.new + index = place.new + first + (index - first) by omega]
      exact there

/-- The lines that are counted from two places on agree, and are no more than asked for. -/
theorem agree_commonFront
    (sides : Sides)
    (place : Place)
    (limit : Nat) :
    sides.commonFront place.old place.new limit ≤ limit ∧
      sides.Agree place (sides.commonFront place.old place.new limit) := by
  induction limit generalizing place with
  | zero =>
      exact ⟨Nat.le_refl _, sides.agree_zero place⟩
  | succ limit inductionHypothesis =>
      rw [commonFront]
      split
      · rename_i same
        obtain ⟨within, agree⟩ := inductionHypothesis (place.advance 1)
        simp only [Place.advance] at within agree
        refine ⟨by omega, agree_add_iff.mpr ⟨?_, agree⟩⟩
        intro index isFirst
        obtain rfl : index = 0 := by omega
        exact same
      · exact ⟨Nat.zero_le _, sides.agree_zero place⟩

/-- The lines that are counted before two places agree, and are no more than asked for. -/
theorem agree_commonBack
    (sides : Sides)
    (oldStop newStop limit : Nat) :
    let count := sides.commonBack oldStop newStop limit
    count ≤ limit ∧ count ≤ oldStop ∧ count ≤ newStop ∧
      sides.Agree ⟨oldStop - count, newStop - count⟩ count := by
  induction limit generalizing oldStop newStop with
  | zero =>
      exact ⟨Nat.le_refl _, Nat.zero_le _, Nat.zero_le _, sides.agree_zero _⟩
  | succ limit inductionHypothesis =>
      rw [commonBack]
      split
      · rename_i found
        obtain ⟨oldLeft, newLeft, same⟩ := found
        obtain ⟨within, oldWithin, newWithin, agree⟩ :=
          inductionHypothesis (oldStop - 1) (newStop - 1)
        refine ⟨by omega, by omega, by omega, ?_⟩
        rw [Nat.add_comm, agree_add_iff]
        have oldSame :
            oldStop - (sides.commonBack (oldStop - 1) (newStop - 1) limit + 1) =
              oldStop - 1 - sides.commonBack (oldStop - 1) (newStop - 1) limit := by omega
        have newSame :
            newStop - (sides.commonBack (oldStop - 1) (newStop - 1) limit + 1) =
              newStop - 1 - sides.commonBack (oldStop - 1) (newStop - 1) limit := by omega
        rw [oldSame, newSame]
        refine ⟨agree, ?_⟩
        intro index isLast
        obtain rfl : index = 0 := by omega
        simp only [Place.advance, Nat.add_zero, Nat.sub_add_cancel oldWithin,
          Nat.sub_add_cancel newWithin]
        exact same
      · exact ⟨Nat.zero_le _, Nat.zero_le _, Nat.zero_le _, sides.agree_zero _⟩

end Sides

/-! ## Edits in their places -/

namespace Edit

/-- The lines that an edit names on the sides it touches begin at a place. -/
def Fits (sides : Sides) (place : Place) (edit : Edit) : Prop :=
  match edit.kind with
  | .keep =>
      edit.oldStart = place.old ∧ edit.newStart = place.new ∧ edit.newCount = edit.oldCount ∧
        sides.Agree place edit.oldCount
  | .delete => edit.oldStart = place.old ∧ edit.newCount = 0
  | .insert => edit.newStart = place.new ∧ edit.oldCount = 0
  | .replace => edit.oldStart = place.old ∧ edit.newStart = place.new

variable {sides : Sides} {place : Place} {edit : Edit}

theorem fits_iff_of_keep
    (keeps : edit.kind = .keep) :
    edit.Fits sides place ↔
      edit.oldStart = place.old ∧ edit.newStart = place.new ∧ edit.newCount = edit.oldCount ∧
        sides.Agree place edit.oldCount := by
  simp [Fits, keeps]

theorem fits_iff_of_delete
    (deletes : edit.kind = .delete) :
    edit.Fits sides place ↔ edit.oldStart = place.old ∧ edit.newCount = 0 := by
  simp [Fits, deletes]

theorem fits_iff_of_insert
    (inserts : edit.kind = .insert) :
    edit.Fits sides place ↔ edit.newStart = place.new ∧ edit.oldCount = 0 := by
  simp [Fits, inserts]

theorem Fits.of_keep
    (keeps : edit.kind = .keep)
    (oldStart : edit.oldStart = place.old)
    (newStart : edit.newStart = place.new)
    (sameCount : edit.newCount = edit.oldCount)
    (agree : sides.Agree place edit.oldCount) :
    edit.Fits sides place :=
  (fits_iff_of_keep keeps).mpr ⟨oldStart, newStart, sameCount, agree⟩

theorem Fits.of_delete
    (deletes : edit.kind = .delete)
    (oldStart : edit.oldStart = place.old)
    (noNew : edit.newCount = 0) :
    edit.Fits sides place :=
  (fits_iff_of_delete deletes).mpr ⟨oldStart, noNew⟩

theorem Fits.of_insert
    (inserts : edit.kind = .insert)
    (newStart : edit.newStart = place.new)
    (noOld : edit.oldCount = 0) :
    edit.Fits sides place :=
  (fits_iff_of_insert inserts).mpr ⟨newStart, noOld⟩

theorem fits_keeping
    {count : Nat}
    (agree : sides.Agree place count) :
    (keeping place.old place.new count).Fits sides place :=
  ⟨rfl, rfl, rfl, agree⟩

theorem Fits.shortened
    (fits : edit.Fits sides place)
    (keeps : edit.kind = .keep)
    (count : Nat) :
    (edit.shortened count).Fits sides place := by
  obtain ⟨oldStart, newStart, sameCount, agree⟩ := (fits_iff_of_keep keeps).mp fits
  refine .of_keep keeps oldStart newStart (congrArg (· - count) sameCount) ?_
  intro index within
  exact agree index (Nat.lt_of_lt_of_le within (Nat.sub_le _ _))

theorem Fits.later_shortened
    (fits : edit.Fits sides place)
    (keeps : edit.kind = .keep)
    {count : Nat}
    (within : count ≤ edit.oldCount) :
    ((edit.later count).shortened count).Fits sides (place.advance count) := by
  obtain ⟨oldStart, newStart, sameCount, agree⟩ := (fits_iff_of_keep keeps).mp fits
  refine .of_keep keeps (congrArg (· + count) oldStart) (congrArg (· + count) newStart)
    (congrArg (· - count) sameCount) ?_
  rw [← Nat.add_sub_cancel' within] at agree
  exact (Sides.agree_add_iff.mp agree).2

/-- An edit that keeps, deletes or inserts at least one line. -/
structure IsProper (edit : Edit) : Prop where
  simple : edit.kind ≠ .replace
  nonempty : 0 < edit.oldCount + edit.newCount

theorem IsProper.of_keep
    (keeps : edit.kind = .keep)
    (some : 0 < edit.oldCount) :
    edit.IsProper where
  simple := by
    rw [keeps]
    decide
  nonempty := Nat.lt_of_lt_of_le some (Nat.le_add_right _ _)

theorem keeps_iff :
    edit.keeps = true ↔ edit.kind = .keep := by
  simp [keeps]

end Edit

/-! ## Chains of edits -/

/-- Each of some edits is in its place, from the first place to the last. -/
inductive Chain (inPlace : Place → Edit → Prop) : Place → List Edit → Place → Prop where
  | nil (place : Place) : Chain inPlace place [] place
  | cons {first last : Place} {edit : Edit} {edits : List Edit}
      (fits : inPlace first edit) (rest : Chain inPlace (first.after edit) edits last) :
      Chain inPlace first (edit :: edits) last

namespace Chain

variable {inPlace : Place → Edit → Prop} {first last : Place} {edit : Edit}
  {edits others : List Edit}

theorem nil_iff :
    Chain inPlace first [] last ↔ first = last := by
  constructor
  · rintro ⟨⟩
    rfl
  · rintro rfl
    exact nil first

theorem cons_iff :
    Chain inPlace first (edit :: edits) last ↔
      inPlace first edit ∧ Chain inPlace (first.after edit) edits last := by
  constructor
  · rintro (_ | ⟨fits, rest⟩)
    exact ⟨fits, rest⟩
  · rintro ⟨fits, rest⟩
    exact cons fits rest

/-- Two lists of edits lead to a place by way of another one. -/
theorem append_iff :
    Chain inPlace first (edits ++ others) last ↔
      ∃ middle, Chain inPlace first edits middle ∧ Chain inPlace middle others last := by
  induction edits generalizing first with
  | nil =>
      simp [nil_iff]
  | cons edit edits inductionHypothesis =>
      simp only [List.cons_append, cons_iff, inductionHypothesis]
      constructor
      · rintro ⟨fits, middle, early, late⟩
        exact ⟨middle, ⟨fits, early⟩, late⟩
      · rintro ⟨middle, ⟨fits, early⟩, late⟩
        exact ⟨fits, middle, early, late⟩

theorem singleton
    (fits : inPlace first edit) :
    Chain inPlace first [edit] (first.after edit) :=
  cons fits (nil _)

theorem append_congr
    {replaced : List Edit}
    (chain : Chain inPlace first (edits ++ others) last)
    (replaces : ∀ middle, Chain inPlace middle others last → Chain inPlace middle replaced last) :
    Chain inPlace first (edits ++ replaced) last := by
  obtain ⟨middle, early, late⟩ := append_iff.mp chain
  exact append_iff.mpr ⟨middle, early, replaces middle late⟩

theorem place_le
    (chain : Chain inPlace first edits last) :
    first.old ≤ last.old ∧ first.new ≤ last.new := by
  induction chain with
  | nil place =>
      exact ⟨Nat.le_refl _, Nat.le_refl _⟩
  | cons _ _ inductionHypothesis =>
      simp only [Place.after] at inductionHypothesis
      omega

end Chain

/-- Proper edits, each in its place. -/
abbrev Script (sides : Sides) : Place → List Edit → Place → Prop :=
  Chain fun place edit => edit.Fits sides place ∧ edit.IsProper

end SourceUpgrade.Patch
