import SourceUpgrade.Patch.Hunk
import SourceUpgrade.Proofs.Patch.Opening

namespace SourceUpgrade.Patch

/-!
# Merged edits

Merging joins the edits between two kept stretches to one change. What is on the way to being merged
spans the lines of the edits that have been read, so the merged edits lead where the script does.
-/

variable {sides : Sides} {first middle last : Place} {edit : Edit} {edits rest : List Edit}

/-- An edit that keeps lines, or else changes at least one. -/
def Edit.KeepsOrChanges (edit : Edit) : Prop :=
  edit.kind ≠ .keep → 0 < edit.oldCount + edit.newCount

/-- Edits in their places, none of them an empty change. -/
abbrev Merged (sides : Sides) : Place → List Edit → Place → Prop :=
  Chain fun place edit => edit.Fits sides place ∧ edit.KeepsOrChanges

theorem merged_kept
    (keeps : edit.kind = .keep)
    (fits : edit.Fits sides first) :
    Merged sides first [edit] (first.after edit) :=
  .singleton ⟨fits, fun changes => absurd keeps changes⟩

/-! ## Edits on the way -/

/-- Deletions on the way: they begin at a place and lead some old lines further. -/
structure SpansOld (place : Place) (held : Option Edit) (count : Nat) : Prop where
  count_eq : (held.map Edit.oldCount).getD 0 = count
  deletes :
    ∀ edit ∈ held,
      edit.kind = .delete ∧ edit.oldStart = place.old ∧ edit.newCount = 0 ∧ 0 < edit.oldCount

/-- Insertions on the way: they begin at a place and lead some new lines further. -/
structure SpansNew (place : Place) (held : Option Edit) (count : Nat) : Prop where
  count_eq : (held.map Edit.newCount).getD 0 = count
  inserts :
    ∀ edit ∈ held,
      edit.kind = .insert ∧ edit.newStart = place.new ∧ edit.oldCount = 0 ∧ 0 < edit.newCount

/-- What is on the way leads from a place to another one: kept lines, or deleted and inserted ones. -/
inductive Pending.Spans (sides : Sides) (first : Place) : Pending → Place → Prop where
  | kept {kept : Edit} (keeps : kept.kind = .keep) (fits : kept.Fits sides first) :
      Spans sides first ⟨some kept, none, none⟩ (first.after kept)
  | changed {deleted inserted : Option Edit} {oldCount newCount : Nat}
      (old : SpansOld first deleted oldCount) (new : SpansNew first inserted newCount) :
      Spans sides first ⟨none, deleted, inserted⟩ ⟨first.old + oldCount, first.new + newCount⟩

theorem spansOld_none
    (place : Place) :
    SpansOld place none 0 :=
  ⟨rfl, nofun⟩

theorem spansNew_none
    (place : Place) :
    SpansNew place none 0 :=
  ⟨rfl, nofun⟩

/-- A deletion may join those on the way. -/
theorem SpansOld.grow
    {held : Option Edit}
    {oldCount newCount : Nat}
    (spans : SpansOld first held oldCount)
    (deletes : edit.kind = .delete)
    (fits : edit.Fits sides ⟨first.old + oldCount, first.new + newCount⟩)
    (proper : edit.IsProper) :
    SpansOld first (some (Pending.grow held edit)) (oldCount + edit.oldCount) := by
  obtain ⟨oldStart, noNew⟩ := (Edit.fits_iff_of_delete deletes).mp fits
  have some : 0 < edit.oldCount := by
    have nonempty := proper.nonempty
    omega
  cases held with
  | none =>
      obtain rfl : 0 = oldCount := spans.count_eq
      refine ⟨(Nat.zero_add _).symm, ?_⟩
      rintro _ ⟨⟩
      exact ⟨deletes, oldStart, noNew, some⟩
  | some held =>
      obtain rfl : held.oldCount = oldCount := spans.count_eq
      obtain ⟨heldDeletes, heldStart, heldNoNew, heldSome⟩ := spans.deletes held rfl
      refine ⟨rfl, ?_⟩
      rintro _ ⟨⟩
      refine ⟨heldDeletes, heldStart, ?_, Nat.add_pos_left heldSome _⟩
      simp only [Pending.grow, heldNoNew, noNew]

/-- An insertion may join those on the way. -/
theorem SpansNew.grow
    {held : Option Edit}
    {oldCount newCount : Nat}
    (spans : SpansNew first held newCount)
    (inserts : edit.kind = .insert)
    (fits : edit.Fits sides ⟨first.old + oldCount, first.new + newCount⟩)
    (proper : edit.IsProper) :
    SpansNew first (some (Pending.grow held edit)) (newCount + edit.newCount) := by
  obtain ⟨newStart, noOld⟩ := (Edit.fits_iff_of_insert inserts).mp fits
  have some : 0 < edit.newCount := by
    have nonempty := proper.nonempty
    omega
  cases held with
  | none =>
      obtain rfl : 0 = newCount := spans.count_eq
      refine ⟨(Nat.zero_add _).symm, ?_⟩
      rintro _ ⟨⟩
      exact ⟨inserts, newStart, noOld, some⟩
  | some held =>
      obtain rfl : held.newCount = newCount := spans.count_eq
      obtain ⟨heldInserts, heldStart, heldNoOld, heldSome⟩ := spans.inserts held rfl
      refine ⟨rfl, ?_⟩
      rintro _ ⟨⟩
      refine ⟨heldInserts, heldStart, ?_, Nat.add_pos_left heldSome _⟩
      simp only [Pending.grow, heldNoOld, noOld]

/-- Kept lines may join those on the way. -/
theorem fits_grow_kept
    {kept : Edit}
    (keptKeeps : kept.kind = .keep)
    (keptFits : kept.Fits sides first)
    (keeps : edit.kind = .keep)
    (fits : edit.Fits sides (first.after kept)) :
    (Pending.grow (some kept) edit).Fits sides first ∧
      first.after (Pending.grow (some kept) edit) = (first.after kept).after edit := by
  obtain ⟨keptOld, keptNew, keptSame, keptAgree⟩ := (Edit.fits_iff_of_keep keptKeeps).mp keptFits
  obtain ⟨_, _, same, agree⟩ := (Edit.fits_iff_of_keep keeps).mp fits
  constructor
  · refine .of_keep keptKeeps keptOld keptNew ?_ (Sides.agree_add_iff.mpr ⟨keptAgree, ?_⟩)
    · simp only [Pending.grow, keptSame, same]
    · rw [Place.after, keptSame] at agree
      exact agree
  · exact Place.ext (Nat.add_assoc _ _ _).symm (Nat.add_assoc _ _ _).symm

/-- The change on the way leads over its lines. -/
theorem merged_change
    {deleted inserted : Option Edit}
    {oldCount newCount : Nat}
    (old : SpansOld first deleted oldCount)
    (new : SpansNew first inserted newCount) :
    Merged sides first (Pending.change ⟨none, deleted, inserted⟩)
      ⟨first.old + oldCount, first.new + newCount⟩ := by
  obtain ⟨rfl, deletes⟩ := old
  obtain ⟨rfl, inserts⟩ := new
  cases deleted with
  | none =>
      cases inserted with
      | none =>
          exact .nil first
      | some inserted =>
          obtain ⟨isInsert, newStart, noOld, some⟩ := inserts inserted rfl
          have leads : Merged sides first [inserted] (first.after inserted) :=
            .singleton ⟨.of_insert isInsert newStart noOld, fun _ => Nat.add_pos_right _ some⟩
          rw [Place.after, noOld] at leads
          exact leads
  | some deleted =>
      obtain ⟨isDelete, oldStart, noNew, some⟩ := deletes deleted rfl
      cases inserted with
      | none =>
          have leads : Merged sides first [deleted] (first.after deleted) :=
            .singleton ⟨.of_delete isDelete oldStart noNew, fun _ => Nat.add_pos_left some _⟩
          rw [Place.after, noNew] at leads
          exact leads
      | some inserted =>
          obtain ⟨_, newStart, _, _⟩ := inserts inserted rfl
          exact .singleton ⟨⟨oldStart, newStart⟩, fun _ => Nat.add_pos_left some _⟩

/-- Merging kept lines leads on, if it does so from any change on the way. -/
theorem Pending.Spans.keep
    {pending : Pending}
    (spans : pending.Spans sides first middle)
    (keeps : edit.kind = .keep)
    (fits : edit.Fits sides middle) :
    ∃ next, Merged sides first pending.change next ∧
      Pending.Spans sides next ⟨some (Pending.grow pending.kept edit), none, none⟩
        (middle.after edit) := by
  cases spans with
  | kept keptKeeps keptFits =>
      obtain ⟨growsFits, sameEnd⟩ := fits_grow_kept keptKeeps keptFits keeps fits
      rw [← sameEnd]
      exact ⟨first, .nil first, .kept keptKeeps growsFits⟩
  | changed old new =>
      exact ⟨_, merged_change old new, .kept keeps fits⟩

theorem Pending.Spans.pastKept
    {pending : Pending}
    (spans : pending.Spans sides first middle) :
    ∃ next oldCount newCount, Merged sides first pending.keep next ∧
      SpansOld next pending.deleted oldCount ∧ SpansNew next pending.inserted newCount ∧
        middle = ⟨next.old + oldCount, next.new + newCount⟩ := by
  cases spans with
  | kept keeps fits =>
      exact ⟨_, 0, 0, merged_kept keeps fits, spansOld_none _, spansNew_none _, rfl⟩
  | changed old new =>
      exact ⟨first, _, _, .nil first, old, new, rfl⟩

/-- Merging a deletion leads on, from the kept lines on the way. -/
theorem Pending.Spans.delete
    {pending : Pending}
    (spans : pending.Spans sides first middle)
    (deletes : edit.kind = .delete)
    (fits : edit.Fits sides middle)
    (proper : edit.IsProper) :
    ∃ next, Merged sides first pending.keep next ∧
      Pending.Spans sides next
        ⟨none, some (Pending.grow pending.deleted edit), pending.inserted⟩ (middle.after edit) := by
  obtain ⟨next, oldCount, newCount, leads, old, new, rfl⟩ := spans.pastKept
  have noNew : edit.newCount = 0 := ((Edit.fits_iff_of_delete deletes).mp fits).2
  refine ⟨next, leads, ?_⟩
  rw [Place.after, noNew, Nat.add_assoc, Nat.add_zero]
  exact .changed (old.grow deletes fits proper) new

/-- Merging an insertion leads on, from the kept lines on the way. -/
theorem Pending.Spans.insert
    {pending : Pending}
    (spans : pending.Spans sides first middle)
    (inserts : edit.kind = .insert)
    (fits : edit.Fits sides middle)
    (proper : edit.IsProper) :
    ∃ next, Merged sides first pending.keep next ∧
      Pending.Spans sides next
        ⟨none, pending.deleted, some (Pending.grow pending.inserted edit)⟩ (middle.after edit) := by
  obtain ⟨next, oldCount, newCount, leads, old, new, rfl⟩ := spans.pastKept
  have noOld : edit.oldCount = 0 := ((Edit.fits_iff_of_insert inserts).mp fits).2
  refine ⟨next, leads, ?_⟩
  rw [Place.after, noOld, Nat.add_assoc next.new, Nat.add_zero]
  exact .changed old (new.grow inserts fits proper)

theorem mergeFrom_of_keep
    (pending : Pending)
    (keeps : edit.kind = .keep)
    (edits : List Edit) :
    mergeFrom pending (edit :: edits) =
      pending.change ++ mergeFrom ⟨some (Pending.grow pending.kept edit), none, none⟩ edits := by
  rw [mergeFrom, keeps]

theorem mergeFrom_of_delete
    (pending : Pending)
    (deletes : edit.kind = .delete)
    (edits : List Edit) :
    mergeFrom pending (edit :: edits) =
      pending.keep ++
        mergeFrom ⟨none, some (Pending.grow pending.deleted edit), pending.inserted⟩ edits := by
  rw [mergeFrom, deletes]

theorem mergeFrom_of_insert
    (pending : Pending)
    (inserts : edit.kind = .insert)
    (edits : List Edit) :
    mergeFrom pending (edit :: edits) =
      pending.keep ++
        mergeFrom ⟨none, pending.deleted, some (Pending.grow pending.inserted edit)⟩ edits := by
  rw [mergeFrom, inserts]

/-- Merging leads where what is on the way and the script after it lead. -/
theorem merged_mergeFrom
    {pending : Pending}
    (spans : pending.Spans sides first middle)
    (script : Script sides middle edits last) :
    Merged sides first (mergeFrom pending edits) last := by
  -- The lines of the edits on the way are the invariant: they end where the script goes on.
  induction edits generalizing pending first middle with
  | nil =>
      obtain rfl := Chain.nil_iff.mp script
      cases spans with
      | kept keeps fits =>
          exact merged_kept keeps fits
      | changed old new =>
          exact merged_change old new
  | cons edit edits inductionHypothesis =>
      obtain ⟨⟨fits, proper⟩, script⟩ := Chain.cons_iff.mp script
      cases kind : edit.kind with
      | keep =>
          rw [mergeFrom_of_keep pending kind]
          obtain ⟨next, leads, spans⟩ := spans.keep kind fits
          exact Chain.append_iff.mpr ⟨next, leads, inductionHypothesis spans script⟩
      | delete =>
          rw [mergeFrom_of_delete pending kind]
          obtain ⟨next, leads, spans⟩ := spans.delete kind fits proper
          exact Chain.append_iff.mpr ⟨next, leads, inductionHypothesis spans script⟩
      | insert =>
          rw [mergeFrom_of_insert pending kind]
          obtain ⟨next, leads, spans⟩ := spans.insert kind fits proper
          exact Chain.append_iff.mpr ⟨next, leads, inductionHypothesis spans script⟩
      | replace =>
          exact absurd kind proper.simple

theorem merged_merge
    (script : Script sides first edits last) :
    Merged sides first (merge edits) last :=
  merged_mergeFrom (.changed (spansOld_none first) (spansNew_none first)) script

/-! ## The first merged edit -/

/-- Kept lines on the way come first. -/
theorem head_mergeFrom_kept
    {kept : Edit}
    (keeps : kept.kind = .keep)
    (simple : ∀ next ∈ edits, next.kind ≠ .replace)
    (isFirst : edit ∈ (mergeFrom ⟨some kept, none, none⟩ edits).head?) :
    edit.kind = .keep := by
  induction edits generalizing kept with
  | nil =>
      obtain rfl : kept = edit := by simpa [mergeFrom, Pending.keep, Pending.change] using isFirst
      exact keeps
  | cons next edits inductionHypothesis =>
      obtain ⟨nextSimple, simple⟩ := List.forall_mem_cons.mp simple
      cases kind : next.kind with
      | keep =>
          rw [mergeFrom_of_keep _ kind] at isFirst
          have grownKeeps : (Pending.grow (some kept) next).kind = .keep := keeps
          exact inductionHypothesis grownKeeps simple isFirst
      | delete =>
          rw [mergeFrom_of_delete _ kind] at isFirst
          obtain rfl : kept = edit := by simpa [Pending.keep] using isFirst
          exact keeps
      | insert =>
          rw [mergeFrom_of_insert _ kind] at isFirst
          obtain rfl : kept = edit := by simpa [Pending.keep] using isFirst
          exact keeps
      | replace =>
          exact absurd kind nextSimple

/-- With a deletion on the way, the change is no insertion. -/
theorem head_change_deleted
    {deleted : Edit}
    {inserted : Option Edit}
    {later : List Edit}
    (deletes : deleted.kind = .delete)
    (isFirst : edit ∈ (Pending.change ⟨none, some deleted, inserted⟩ ++ later).head?) :
    edit.kind ≠ .insert := by
  cases inserted with
  | none =>
      obtain rfl : deleted = edit := by simpa [Pending.change] using isFirst
      rw [deletes]
      decide
  | some inserted =>
      obtain rfl := Option.some.inj isFirst
      exact nofun

/-- With a deletion on the way, no insertion comes first. -/
theorem head_mergeFrom_deleted
    {deleted : Edit}
    {inserted : Option Edit}
    (deletes : deleted.kind = .delete)
    (simple : ∀ next ∈ edits, next.kind ≠ .replace)
    (isFirst : edit ∈ (mergeFrom ⟨none, some deleted, inserted⟩ edits).head?) :
    edit.kind ≠ .insert := by
  induction edits generalizing deleted inserted with
  | nil =>
      rw [mergeFrom, ← List.append_nil (Pending.change _)] at isFirst
      exact head_change_deleted deletes isFirst
  | cons next edits inductionHypothesis =>
      obtain ⟨nextSimple, simple⟩ := List.forall_mem_cons.mp simple
      cases kind : next.kind with
      | keep =>
          rw [mergeFrom_of_keep _ kind] at isFirst
          exact head_change_deleted deletes isFirst
      | delete =>
          rw [mergeFrom_of_delete _ kind] at isFirst
          have grownDeletes : (Pending.grow (some deleted) next).kind = .delete := deletes
          exact inductionHypothesis grownDeletes simple isFirst
      | insert =>
          rw [mergeFrom_of_insert _ kind] at isFirst
          exact inductionHypothesis deletes simple isFirst
      | replace =>
          exact absurd kind nextSimple

/-- With only an insertion on the way, an insertion comes first only if nothing else is before lines
that are kept, and it starts where the one on the way does. -/
theorem head_mergeFrom_inserted
    {inserted : Edit}
    (simple : ∀ next ∈ edits, next.kind ≠ .replace)
    (isFirst : edit ∈ (mergeFrom ⟨none, none, some inserted⟩ edits).head?)
    (inserts : edit.kind = .insert) :
    edit.oldStart = inserted.oldStart ∧ ¬ OpensWithOther edits := by
  induction edits generalizing inserted with
  | nil =>
      obtain rfl : inserted = edit := by
        simpa [mergeFrom, Pending.keep, Pending.change] using isFirst
      exact ⟨rfl, id⟩
  | cons next edits inductionHypothesis =>
      obtain ⟨nextSimple, simple⟩ := List.forall_mem_cons.mp simple
      cases kind : next.kind with
      | keep =>
          rw [mergeFrom_of_keep _ kind] at isFirst
          obtain rfl : inserted = edit := by simpa [Pending.change] using isFirst
          exact ⟨rfl, not_opensWithOther_of_keep kind⟩
      | delete =>
          rw [mergeFrom_of_delete _ kind] at isFirst
          exact absurd inserts (head_mergeFrom_deleted kind simple isFirst)
      | insert =>
          rw [mergeFrom_of_insert _ kind] at isFirst
          rw [opensWithOther_iff_of_insert kind]
          exact @inductionHypothesis (Pending.grow (some inserted) next) simple isFirst
      | replace =>
          exact absurd kind nextSimple

theorem Chain.forall_mem
    {inPlace : Place → Edit → Prop}
    {property : Edit → Prop}
    (chain : Chain inPlace first edits last)
    (each : ∀ place edit, inPlace place edit → property edit) :
    ∀ edit ∈ edits, property edit := by
  induction chain with
  | nil place =>
      exact nofun
  | cons fits _ inductionHypothesis =>
      exact List.forall_mem_cons.mpr ⟨each _ _ fits, inductionHypothesis⟩

/-- The first merged edit of two texts starts at the first old line. -/
theorem head_merge_oldStart
    {newStart : Nat}
    (open_ : OpenScript sides ⟨0, newStart⟩ last edits)
    (isFirst : edit ∈ (merge edits).head?) :
    edit.oldStart = 0 := by
  have simple : ∀ edit ∈ edits, edit.kind ≠ .replace :=
    open_.script.forall_mem fun _ _ fits => fits.2.simple
  have fits : edit.Fits sides ⟨0, newStart⟩ := by
    have merged := merged_merge open_.script
    cases isMerged : merge edits with
    | nil =>
        rw [isMerged] at isFirst
        cases isFirst
    | cons head rest =>
        rw [isMerged] at isFirst merged
        obtain rfl := Option.some.inj isFirst
        exact (Chain.cons_iff.mp merged).1.1
  cases kind : edit.kind with
  | keep =>
      exact ((Edit.fits_iff_of_keep kind).mp fits).1
  | delete =>
      exact ((Edit.fits_iff_of_delete kind).mp fits).1
  | replace =>
      rw [Edit.Fits, kind] at fits
      exact fits.1
  | insert =>
      cases edits with
      | nil =>
          cases isFirst
      | cons next edits =>
          obtain ⟨nextSimple, simple⟩ := List.forall_mem_cons.mp simple
          cases nextKind : next.kind with
          | keep =>
              rw [merge, mergeFrom_of_keep _ nextKind] at isFirst
              have keeps := head_mergeFrom_kept nextKind simple isFirst
              rw [kind] at keeps
              cases keeps
          | delete =>
              rw [merge, mergeFrom_of_delete _ nextKind] at isFirst
              exact absurd kind (head_mergeFrom_deleted nextKind simple isFirst)
          | insert =>
              rw [merge, mergeFrom_of_insert _ nextKind] at isFirst
              obtain ⟨sameStart, notOther⟩ := head_mergeFrom_inserted simple isFirst kind
              rcases open_.opens with keeps | other | starts
              · rw [nextKind] at keeps
                cases keeps
              · exact absurd ((opensWithOther_iff_of_insert nextKind).mp other) notOther
              · exact sameStart.trans starts
          | replace =>
              exact absurd nextKind nextSimple

end SourceUpgrade.Patch
