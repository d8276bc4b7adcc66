import SourceUpgrade.Proofs.Patch.Aligned
import SourceUpgrade.Proofs.Patch.Moved

namespace SourceUpgrade.Patch

/-!
# How a script opens

The old start of an insertion is not kept up to date when the insertion is moved. This does no harm
at the begin of a script: before its first kept lines there is an edit that is no insertion, or its
first edit starts where the texts do.

Only while an insertion moves up over all lines at the begin of the texts this may fail; but then it
moves down again at once.
-/

/-- There is an edit before the first kept lines that is no insertion. -/
def OpensWithOther : List Edit → Prop
  | [] => False
  | edit :: edits =>
      match edit.kind with
      | .keep => False
      | .insert => OpensWithOther edits
      | _ => True

/-- Before the first kept lines, an edit is no insertion or the first one starts at a line. -/
def OpensAt (start : Nat) : List Edit → Prop
  | [] => True
  | edit :: edits => edit.kind = .keep ∨ OpensWithOther (edit :: edits) ∨ edit.oldStart = start

variable {sides : Sides} {first last : Place} {start : Nat} {kept edit next previous : Edit}
  {edits others replaced rest before after : List Edit}

/-! ## The edits before the first kept lines -/

theorem not_opensWithOther_of_keep
    (keeps : kept.kind = .keep) :
    ¬ OpensWithOther (kept :: edits) := by
  simp [OpensWithOther, keeps]

theorem opensWithOther_iff_of_insert
    (inserts : edit.kind = .insert) :
    OpensWithOther (edit :: edits) ↔ OpensWithOther edits := by
  simp [OpensWithOther, inserts]

theorem opensWithOther_of_other
    (moves : edit.kind ≠ .keep)
    (other : edit.kind ≠ .insert) :
    OpensWithOther (edit :: edits) := by
  cases kind : edit.kind with
  | keep =>
      exact absurd kind moves
  | insert =>
      exact absurd kind other
  | delete | replace =>
      simp [OpensWithOther, kind]

/-- What stands before the first kept lines still does with other edits after them. -/
theorem opensWithOther_append_congr
    (still : OpensWithOther others → OpensWithOther replaced)
    (opens : OpensWithOther (edits ++ others)) :
    OpensWithOther (edits ++ replaced) := by
  induction edits with
  | nil =>
      exact still opens
  | cons edit edits inductionHypothesis =>
      cases kind : edit.kind with
      | keep =>
          exact absurd opens (not_opensWithOther_of_keep kind)
      | insert =>
          exact (opensWithOther_iff_of_insert kind).mpr
            (inductionHypothesis ((opensWithOther_iff_of_insert kind).mp opens))
      | delete | replace =>
          exact opensWithOther_of_other (by rw [kind]; decide) (by rw [kind]; decide)

/-- A list of edits opens as it did with other edits at its end. -/
theorem opensAt_append_congr
    (still : OpensWithOther others → OpensWithOther replaced)
    (alone : edits = [] → OpensAt start others → OpensAt start replaced)
    (opens : OpensAt start (edits ++ others)) :
    OpensAt start (edits ++ replaced) := by
  cases edits with
  | nil =>
      exact alone rfl opens
  | cons edit edits =>
      rcases opens with keeps | other | starts
      · exact Or.inl keeps
      · have stillOther : OpensWithOther ((edit :: edits) ++ replaced) :=
          opensWithOther_append_congr still other
        exact Or.inr (Or.inl stillOther)
      · exact Or.inr (Or.inr starts)

theorem opensAt_append
    (opens : OpensAt start edits)
    (opensLater : edits = [] → OpensAt start others) :
    OpensAt start (edits ++ others) := by
  rw [← List.append_nil edits] at opens
  exact opensAt_append_congr False.elim (fun none _ => opensLater none) opens

theorem opensAt_cons_of_ne_insert
    (other : edit.kind ≠ .insert) :
    OpensAt start (edit :: edits) := by
  by_cases keeps : edit.kind = .keep
  · exact Or.inl keeps
  · exact Or.inr (Or.inl (opensWithOther_of_other keeps other))

/-! ## Aligned texts -/

theorem opensAt_keepingSome
    (oldStart newStart count : Nat) :
    OpensAt start (keepingSome oldStart newStart count) := by
  unfold keepingSome
  split
  · trivial
  · exact Or.inl rfl

theorem opensAt_replacingAll
    (region : Region) :
    OpensAt region.oldStart (replacingAll region) := by
  refine opensAt_append ?_ fun _ => ?_
  · split
    · trivial
    · exact opensAt_cons_of_ne_insert nofun
  · split
    · trivial
    · exact Or.inr (Or.inr rfl)

/-- Aligning what is left of a region opens where that begins, if aligning its parts does. -/
theorem opensAt_alignInner
    {fuel : Nat}
    {inner : Region}
    (ordered : inner.IsOrdered)
    (opens : ∀ {part : Region}, part.IsOrdered → OpensAt part.oldStart (align sides fuel part)) :
    OpensAt inner.oldStart (alignInner sides fuel inner) := by
  unfold alignInner
  split
  · trivial
  · split
    · exact opensAt_cons_of_ne_insert nofun
    · split
      · exact Or.inr (Or.inr rfl)
      · split
        · exact opensAt_cons_of_ne_insert nofun
        · rename_i point _
          obtain ⟨firstOrdered, secondOrdered⟩ := ordered.clamp point
          refine opensAt_append (opens firstOrdered) fun none => ?_
          -- If there is nothing in the first part, the second begins where the first does.
          have leads : Script sides _ _ _ := script_align firstOrdered fuel
          rw [none] at leads
          have sameOld : inner.oldStart = (inner.clamp point).1 :=
            congrArg Place.old (Chain.nil_iff.mp leads)
          rw [sameOld]
          exact opens secondOrdered

/-- Aligning a region opens where the region does. -/
theorem opensAt_align
    {region : Region}
    (ordered : region.IsOrdered)
    (fuel : Nat) :
    OpensAt region.oldStart (align sides fuel region) := by
  induction fuel generalizing region with
  | zero =>
      exact opensAt_replacingAll region
  | succ fuel inductionHypothesis =>
      rw [align_succ]
      refine opensAt_append (opensAt_append (opensAt_keepingSome _ _ _) fun none => ?_)
        fun _ => opensAt_keepingSome _ _ _
      have noFront : region.frontCount sides = 0 := by
        unfold keepingSome at none
        split at none
        · assumption
        · cases none
      have sameOld : (region.inner sides).oldStart = region.oldStart := by
        simp only [Region.inner, Region.withoutFront, noFront, Nat.add_zero]
      rw [← sameOld]
      exact opensAt_alignInner (ordered.back sides).1 inductionHypothesis

theorem opensAt_alignAll
    (sides : Sides) :
    OpensAt 0 (alignAll sides) :=
  @opensAt_align sides ⟨0, sides.old.size, 0, sides.new.size⟩ ⟨Nat.zero_le _, Nat.zero_le _⟩ _

/-! ## Moved edits -/

/-- An insertion has moved up over all lines at the begin of the texts, and can move down again. -/
def Focus.SlidesBack (sides : Sides) (focus : Focus) : Prop :=
  focus.before = [] ∧
    ∃ kept rest, focus.after = kept :: rest ∧ kept.kind = .keep ∧
      slideDownCount sides kept focus.edit ≠ 0

/-- Joined edits open as the first of them does. -/
theorem opensWithOther_joined
    (moves : edit.kind ≠ .keep)
    (same : previous.kind = edit.kind)
    (opens : OpensWithOther (previous :: edit :: after)) :
    OpensWithOther (previous.joined edit :: after) := by
  by_cases inserts : edit.kind = .insert
  · rw [inserts] at same
    rw [opensWithOther_iff_of_insert same, opensWithOther_iff_of_insert inserts] at opens
    exact (opensWithOther_iff_of_insert ((Edit.joined_kind _ _).trans same)).mpr opens
  · refine opensWithOther_of_other ?_ ?_
    · rw [Edit.joined_kind, same]
      exact moves
    · rw [Edit.joined_kind, same]
      exact inserts

theorem Edit.joined_oldStart
    (first second : Edit) :
    (first.joined second).oldStart = first.oldStart := by
  unfold Edit.joined
  split <;> rfl

theorem opensAt_joined
    (moves : edit.kind ≠ .keep)
    (same : previous.kind = edit.kind)
    (opens : OpensAt start (edits ++ previous :: edit :: after)) :
    OpensAt start (edits ++ previous.joined edit :: after) := by
  refine opensAt_append_congr (opensWithOther_joined moves same) (fun _ opens => ?_) opens
  rcases opens with keeps | other | starts
  · exact absurd (same ▸ keeps) moves
  · exact Or.inr (Or.inl (opensWithOther_joined moves same other))
  · exact Or.inr (Or.inr (by rw [Edit.joined_oldStart, starts]))

theorem opensWithOther_of_two
    (previousMoves : previous.kind ≠ .keep)
    (moves : edit.kind ≠ .keep)
    (differs : previous.kind ≠ edit.kind) :
    OpensWithOther (previous :: edit :: after) := by
  by_cases inserts : previous.kind = .insert
  · rw [opensWithOther_iff_of_insert inserts]
    exact opensWithOther_of_other moves fun same => differs (inserts.trans same.symm)
  · exact opensWithOther_of_other previousMoves inserts

theorem opensAt_swapped
    (previousMoves : previous.kind ≠ .keep)
    (moves : edit.kind ≠ .keep)
    (differs : previous.kind ≠ edit.kind)
    (opens : OpensAt start (edits ++ previous :: edit :: after)) :
    OpensAt start (edits ++ edit :: previous :: after) := by
  have other : OpensWithOther (edit :: previous :: after) :=
    opensWithOther_of_two moves previousMoves fun same => differs same.symm
  exact opensAt_append_congr (fun _ => other) (fun _ _ => Or.inr (Or.inl other)) opens

/-- Sliding down keeps how a list of edits opens. -/
theorem opensAt_slideDown
    {count : Nat}
    {later : List Edit}
    (keeps : kept.kind = .keep)
    (inserts : edit.kind = .insert)
    (opens : OpensAt start (before.reverse ++ edit :: kept :: rest)) :
    OpensAt start ((releaseBefore kept edit count before).reverse ++ later) := by
  have single :
      OpensAt start (before.reverse ++ .keeping kept.oldStart edit.newStart count :: later) := by
    refine opensAt_append_congr (fun other => ?_) (fun _ _ => Or.inl rfl) opens
    rw [opensWithOther_iff_of_insert inserts] at other
    exact absurd other (not_opensWithOther_of_keep keeps)
  unfold releaseBefore
  split
  · rename_i previous more
    split
    · rename_i previousKeeps
      have isKeep := Edit.keeps_iff.mp previousKeeps
      rw [List.reverse_cons, List.append_assoc] at opens ⊢
      exact opensAt_append_congr (fun other => absurd other (not_opensWithOther_of_keep isKeep))
        (fun _ _ => Or.inl isKeep) opens
    · rw [List.reverse_cons, List.append_assoc]
      exact single
  · rw [List.reverse_cons, List.append_assoc]
    exact single

/-- An insertion at the begin of the texts can move down if their first lines are the same. -/
theorem slideDownCount_ne_zero
    (leads : Focus.Leads sides first last ⟨[], edit, kept :: rest⟩)
    (keeps : kept.kind = .keep)
    (inserts : edit.kind = .insert)
    (same : sides.same first.old first.new = true) :
    slideDownCount sides kept edit ≠ 0 := by
  obtain ⟨⟨editFits, editProper⟩, late⟩ := Chain.cons_iff.mp leads.script
  obtain ⟨⟨keptFits, keptProper⟩, _⟩ := Chain.cons_iff.mp late
  obtain ⟨newStart, noOld⟩ := (Edit.fits_iff_of_insert inserts).mp editFits
  obtain ⟨oldStart, _⟩ := (Edit.fits_iff_of_keep keeps).mp keptFits
  have someKept : kept.oldCount ≠ 0 := keptProper.oldCount_ne_zero keptFits keeps
  have someNew : 0 < edit.oldCount + edit.newCount := editProper.nonempty
  have noneOld : edit.oldCount = 0 := noOld
  simp only [Place.after, noOld, Nat.add_zero] at oldStart
  obtain ⟨limit, isLimit⟩ : ∃ limit, min kept.oldCount edit.newCount = limit + 1 :=
    Nat.exists_eq_succ_of_ne_zero (by omega)
  rw [slideDownCount, isLimit, oldStart, newStart, Sides.commonFront, if_pos same]
  omega

/-- The kept lines that an insertion has moved up over stand right after it. -/
theorem releaseAfter_eq_cons
    (kept edit : Edit)
    (count : Nat)
    (after : List Edit) :
    ∃ released others, releaseAfter kept edit count after = released :: others ∧
      released.kind = .keep := by
  unfold releaseAfter
  split
  · split
    · rename_i keeps
      exact ⟨_, _, rfl, Edit.keeps_iff.mp keeps⟩
    · exact ⟨_, _, rfl, rfl⟩
  · exact ⟨_, _, rfl, rfl⟩

/-- A list of edits opens at the begin of the texts, or the edit in focus will see to it. -/
def Focus.OpensWell (sides : Sides) (focus : Focus) : Prop :=
  OpensAt 0 focus.edits ∨ focus.SlidesBack sides

theorem Focus.OpensWell.opensAt
    (opens : Focus.OpensWell sides ⟨previous :: rest, edit, after⟩) :
    OpensAt 0 (rest.reverse ++ previous :: edit :: after) := by
  rcases opens with opens | ⟨none, _⟩
  · rw [Focus.edits, List.reverse_cons, List.append_assoc] at opens
    exact opens
  · cases none

/-- A list of edits opens well when one of them slides up. -/
theorem Focus.OpensWell.slideUp
    (opens : Focus.OpensWell sides ⟨kept :: rest, edit, after⟩)
    (leads : Focus.Leads sides first last ⟨kept :: rest, edit, after⟩)
    (keeps : kept.kind = .keep)
    (slides : slideUpCount sides kept edit ≠ 0) :
    Focus.OpensWell sides
      ⟨withRemainder (kept.shortened (slideUpCount sides kept edit)) rest,
        edit.earlier (slideUpCount sides kept edit),
        releaseAfter kept edit (slideUpCount sides kept edit) after⟩ := by
  have opensAt := opens.opensAt
  have leadsLater := leads.slideUp keeps slides
  by_cases some : (kept.shortened (slideUpCount sides kept edit)).oldCount = 0
  · cases rest with
    | nil =>
        -- Nothing is left before the edit: the first lines of the texts agree, so it slides back.
        right
        obtain ⟨released, others, isReleased, releasedKeeps⟩ :=
          releaseAfter_eq_cons kept edit (slideUpCount sides kept edit) after
        have noneBefore :
            withRemainder (kept.shortened (slideUpCount sides kept edit)) [] = [] := by
          rw [withRemainder, if_pos some]
        rw [noneBefore, isReleased] at leadsLater
        refine ⟨noneBefore, released, others, isReleased, releasedKeeps, ?_⟩
        obtain ⟨⟨keptFits, keptProper⟩, late⟩ := Chain.cons_iff.mp leads.script
        obtain ⟨⟨editFits, editProper⟩, _⟩ := Chain.cons_iff.mp late
        have inserts : edit.kind = .insert :=
          inserts_of_new editFits editProper leads.moves fun noNew =>
            slides (slideUpCount_of_no_new noNew)
        have agree := ((Edit.fits_iff_of_keep keeps).mp keptFits).2.2.2
        have someKept := keptProper.oldCount_ne_zero keptFits keeps
        exact slideDownCount_ne_zero leadsLater releasedKeeps inserts
          (agree 0 (Nat.pos_of_ne_zero someKept))
    | cons previous rest =>
        left
        rw [Focus.edits, reverse_withRemainder_append, withRemainder, if_pos some]
        exact opensAt_append_congr (fun other => absurd other (not_opensWithOther_of_keep keeps))
          (fun none => by simp at none) opensAt
  · left
    rw [Focus.edits, reverse_withRemainder_append, withRemainder, if_neg some]
    exact opensAt_append_congr (fun other => absurd other (not_opensWithOther_of_keep keeps))
      (fun _ _ => Or.inl keeps) opensAt

/-- A list of edits opens well when one of them is moved up. -/
theorem Focus.Leads.opensWell_moveUp
    {focus : Focus}
    (leads : focus.Leads sides first last)
    (opens : OpensAt 0 focus.edits) :
    (Patch.moveUp sides focus).OpensWell sides := by
  have both :=
    @moveUp_keeps sides
      (fun focus => focus.Leads sides first last ∧ focus.OpensWell sides)
      (fun keeps empty both => absurd empty (both.1.oldCount_previous keeps))
      (fun keeps slides both =>
        ⟨both.1.slideUp keeps slides, both.2.slideUp both.1 keeps slides⟩)
      (fun same both =>
        ⟨both.1.joinUp same, Or.inl (opensAt_joined both.1.moves same both.2.opensAt)⟩)
      (fun previousMoves differs both =>
        ⟨both.1.swapUp previousMoves differs,
          Or.inl (opensAt_swapped previousMoves both.1.moves differs both.2.opensAt)⟩)
      focus ⟨leads, Or.inl opens⟩
  exact both.2

theorem Focus.Leads.inserts_of_slideDown
    (leads : Focus.Leads sides first last ⟨before, edit, kept :: rest⟩)
    (slides : slideDownCount sides kept edit ≠ 0) :
    edit.kind = .insert := by
  obtain ⟨middle, _, late⟩ := Chain.append_iff.mp leads.script
  obtain ⟨⟨fits, proper⟩, _⟩ := Chain.cons_iff.mp late
  exact inserts_of_new fits proper leads.moves fun noNew => slides (slideDownCount_of_no_new noNew)

/-- A list of edits opens at the begin of the texts when one of them is moved down. -/
theorem Focus.Leads.opensAt_moveDown
    {focus : Focus}
    (leads : focus.Leads sides first last)
    (opens : OpensAt 0 focus.edits) :
    OpensAt 0 (Patch.moveDown sides focus).edits := by
  have both :=
    @moveDown_keeps sides
      (fun focus => focus.Leads sides first last ∧ OpensAt 0 focus.edits)
      (fun keeps empty both => absurd empty (both.1.oldCount_next keeps))
      (fun keeps slides both =>
        ⟨both.1.slideDown keeps slides,
          opensAt_slideDown keeps (both.1.inserts_of_slideDown slides) both.2⟩)
      (fun same both =>
        ⟨both.1.joinDown same, opensAt_joined (same ▸ both.1.moves) same both.2⟩)
      (fun {next edit before rest} nextMoves differs both => by
        refine ⟨both.1.swapDown nextMoves differs, ?_⟩
        rw [Focus.edits, List.reverse_cons, List.append_assoc]
        exact opensAt_swapped both.1.moves nextMoves differs both.2)
      focus ⟨leads, opens⟩
  exact both.2

/-- An edit that can slide down over kept lines does so first when it is moved down. -/
theorem moveDown_of_slide
    (keeps : kept.kind = .keep)
    (slides : slideDownCount sides kept edit ≠ 0) :
    moveDown sides ⟨before, edit, kept :: rest⟩ =
      moveDown sides
        ⟨releaseBefore kept edit (slideDownCount sides kept edit) before,
          edit.later (slideDownCount sides kept edit),
          withRemainder
            ((kept.later (slideDownCount sides kept edit)).shortened
              (slideDownCount sides kept edit))
            rest⟩ := by
  rw [moveDown]
  simp only [Edit.keeps_iff.mpr keeps, if_true, if_neg slides]

theorem Focus.SlidesBack.opensAt_moveDown
    {focus : Focus}
    (slidesBack : focus.SlidesBack sides)
    (leads : focus.Leads sides first last) :
    OpensAt 0 (Patch.moveDown sides focus).edits := by
  obtain ⟨before, edit, after⟩ := focus
  obtain ⟨rfl, kept, rest, rfl, keeps, slides⟩ := slidesBack
  rw [moveDown_of_slide keeps slides]
  exact (leads.slideDown keeps slides).opensAt_moveDown (Or.inl rfl)

/-- A script that leads somewhere and opens at the begin of the texts. -/
structure OpenScript (sides : Sides) (first last : Place) (edits : List Edit) : Prop where
  script : Script sides first edits last
  opens : OpensAt 0 edits

/-- Moving all edits of a kind keeps where a script leads and how it opens. -/
theorem OpenScript.moveAll
    {kind : EditKind}
    (moves : kind ≠ .keep)
    (fuel : Nat)
    (open_ : OpenScript sides first last edits) :
    OpenScript sides first last (Patch.moveAll sides kind fuel [] edits) := by
  refine moveAll_keeps ?_ fuel open_
  intro focus isKind open_
  have leads : focus.Leads sides first last := ⟨isKind ▸ moves, open_.script⟩
  refine ⟨leads.moveUp.moveDown.script, ?_⟩
  rcases leads.opensWell_moveUp open_.opens with opens | slidesBack
  · exact leads.moveUp.opensAt_moveDown opens
  · exact slidesBack.opensAt_moveDown leads.moveUp

theorem OpenScript.compact
    (open_ : OpenScript sides first last edits) :
    OpenScript sides first last (Patch.compact sides edits) :=
  (open_.moveAll (by decide) _).moveAll (by decide) _

theorem openScript_compact_alignAll
    (sides : Sides) :
    OpenScript sides ⟨0, 0⟩ ⟨sides.old.size, sides.new.size⟩
      (compact sides (alignAll sides)) :=
  OpenScript.compact ⟨script_alignAll sides, opensAt_alignAll sides⟩

end SourceUpgrade.Patch
