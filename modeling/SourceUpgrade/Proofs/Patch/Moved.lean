import SourceUpgrade.Patch.Compact
import SourceUpgrade.Proofs.Patch.Script

namespace SourceUpgrade.Patch

/-!
# Moved edits

Moving a deletion or an insertion up or down, over lines that agree, past an edit of the other kind
or into one of its own, changes a few neighbouring edits. Each of these changes leads from the same
place to the same place, so a script stays a script when its edits are moved.
-/

variable {sides : Sides} {first last : Place} {kept edit next previous : Edit}
  {rest before after : List Edit}

/-! ## Sliding over kept lines -/

theorem slideUpCount_of_no_new
    (noNew : edit.newCount = 0) :
    slideUpCount sides kept edit = 0 := by
  rw [slideUpCount, noNew, Nat.min_zero]
  exact Nat.zero_min _

theorem slideDownCount_of_no_new
    (noNew : edit.newCount = 0) :
    slideDownCount sides kept edit = 0 := by
  rw [slideDownCount, noNew, Nat.min_zero]
  exact Nat.zero_min _

theorem reverse_withRemainder_append
    (left : Edit)
    (rest edits : List Edit) :
    (withRemainder left rest).reverse ++ edits = rest.reverse ++ withRemainder left edits := by
  unfold withRemainder
  split
  · rfl
  · simp

/-- A deletion or an insertion that moves over kept lines is an insertion. -/
theorem inserts_of_new
    {place : Place}
    (fits : edit.Fits sides place)
    (proper : edit.IsProper)
    (moves : edit.kind ≠ .keep)
    (new : edit.newCount ≠ 0) :
    edit.kind = .insert := by
  cases kind : edit.kind with
  | keep =>
      exact absurd kind moves
  | delete =>
      exact absurd ((Edit.fits_iff_of_delete kind).mp fits).2 new
  | insert =>
      rfl
  | replace =>
      exact absurd kind proper.simple

/-- What stays of a kept stretch leads past it, even if it is nothing. -/
theorem script_withRemainder
    {left : Edit}
    (keeps : left.kind = .keep)
    (fits : left.Fits sides first)
    (chain : Script sides (first.advance left.oldCount) rest last) :
    Script sides first (withRemainder left rest) last := by
  unfold withRemainder
  split
  · rename_i none
    rw [none] at chain
    exact chain
  · rename_i some
    refine .cons ⟨fits, .of_keep keeps (Nat.pos_of_ne_zero some)⟩ ?_
    obtain ⟨_, _, sameCount, _⟩ := (Edit.fits_iff_of_keep keeps).mp fits
    rw [Place.after_of_sameCount first sameCount]
    exact chain

/-- What an edit that moves up passes over agrees with the end of its new lines. -/
theorem slideUpCount_spec
    (sides : Sides)
    (kept edit : Edit) :
    let count := slideUpCount sides kept edit
    count ≤ kept.oldCount ∧ count ≤ edit.newCount ∧
      sides.Agree ⟨kept.oldStop - count, edit.newStop - count⟩ count := by
  obtain ⟨within, _, _, agree⟩ :=
    sides.agree_commonBack kept.oldStop edit.newStop (min kept.oldCount edit.newCount)
  have count :
      slideUpCount sides kept edit =
        sides.commonBack kept.oldStop edit.newStop (min kept.oldCount edit.newCount) :=
    Nat.min_eq_left (Nat.le_trans within (Nat.min_le_left _ _))
  rw [count]
  exact ⟨Nat.le_trans within (Nat.min_le_left _ _), Nat.le_trans within (Nat.min_le_right _ _), agree⟩

/-- What an edit that moves down passes over agrees with the begin of its new lines. -/
theorem slideDownCount_spec
    (sides : Sides)
    (kept edit : Edit) :
    let count := slideDownCount sides kept edit
    count ≤ kept.oldCount ∧ count ≤ edit.newCount ∧
      sides.Agree ⟨kept.oldStart, edit.newStart⟩ count := by
  obtain ⟨within, agree⟩ :=
    sides.agree_commonFront ⟨kept.oldStart, edit.newStart⟩ (min kept.oldCount edit.newCount)
  have count :
      slideDownCount sides kept edit =
        sides.commonFront kept.oldStart edit.newStart (min kept.oldCount edit.newCount) :=
    Nat.min_eq_left (Nat.le_trans within (Nat.min_le_left _ _))
  rw [count]
  exact ⟨Nat.le_trans within (Nat.min_le_left _ _), Nat.le_trans within (Nat.min_le_right _ _), agree⟩

/-- The kept lines that an insertion has moved up over lead on from its new end. -/
theorem script_releaseAfter
    {count : Nat}
    (oldStop : kept.oldStop = first.old + count)
    (newStop : edit.newStop = first.new + count)
    (agree : sides.Agree first count)
    (moves : count ≠ 0)
    (chain : Script sides (first.advance count) after last) :
    Script sides first (releaseAfter kept edit count after) last := by
  have single :
      Script sides first
        (.keeping (kept.oldStop - count) (edit.newStop - count) count :: after) last := by
    refine .cons ⟨.of_keep rfl ?_ ?_ rfl agree, .of_keep rfl (Nat.pos_of_ne_zero moves)⟩ chain
    · simp only [Edit.keeping]
      omega
    · simp only [Edit.keeping]
      omega
  unfold releaseAfter
  split
  · rename_i next rest
    split
    · rename_i keeps
      have isKeep := Edit.keeps_iff.mp keeps
      obtain ⟨⟨fits, _⟩, chain⟩ := Chain.cons_iff.mp chain
      obtain ⟨oldStart, newStart, sameCount, agreeLater⟩ := (Edit.fits_iff_of_keep isKeep).mp fits
      simp only [Place.advance] at oldStart newStart
      refine .cons ⟨.of_keep isKeep ?_ ?_ ?_ ?_, .of_keep isKeep ?_⟩ ?_
      · simp only [Edit.extended, Edit.earlier]
        omega
      · simp only [Edit.extended, Edit.earlier]
        omega
      · simp only [Edit.extended, Edit.earlier]
        omega
      · simp only [Edit.extended, Edit.earlier]
        rw [Nat.add_comm]
        exact Sides.agree_add_iff.mpr ⟨agree, agreeLater⟩
      · simp only [Edit.extended]
        omega
      · simp only [Place.after, Place.advance, Edit.extended, Edit.earlier] at chain ⊢
        rw [← Nat.add_assoc, ← Nat.add_assoc, Nat.add_right_comm first.old,
          Nat.add_right_comm first.new]
        exact chain
    · exact single
  · exact single

/-- An insertion may move up over kept lines. -/
theorem script_slideUp
    (keeps : kept.kind = .keep)
    (moves : edit.kind ≠ .keep)
    (slides : slideUpCount sides kept edit ≠ 0)
    (chain : Script sides first (kept :: edit :: after) last) :
    let count := slideUpCount sides kept edit
    Script sides first
      (withRemainder (kept.shortened count)
        (edit.earlier count :: releaseAfter kept edit count after)) last := by
  obtain ⟨⟨keptFits, _⟩, chain⟩ := Chain.cons_iff.mp chain
  obtain ⟨⟨editFits, editProper⟩, chain⟩ := Chain.cons_iff.mp chain
  have new : edit.newCount ≠ 0 := fun noNew => slides (slideUpCount_of_no_new noNew)
  have inserts : edit.kind = .insert := inserts_of_new editFits editProper moves new
  obtain ⟨keptOld, keptNew, sameCount, _⟩ := (Edit.fits_iff_of_keep keeps).mp keptFits
  obtain ⟨editNew, noOld⟩ := (Edit.fits_iff_of_insert inserts).mp editFits
  obtain ⟨within, withinNew, agree⟩ := slideUpCount_spec sides kept edit
  generalize slideUpCount sides kept edit = count at slides within withinNew agree
  simp only [Place.after] at editNew chain
  -- Where the kept lines that the edit passes over begin after it has passed.
  have passed :
      (first.advance (kept.oldCount - count)).after (edit.earlier count) =
        ⟨kept.oldStop - count, edit.newStop - count⟩ := by
    ext
    · simp only [Place.after, Place.advance, Edit.earlier, Edit.oldStop]
      omega
    · simp only [Place.after, Place.advance, Edit.earlier, Edit.newStop]
      omega
  refine script_withRemainder keeps (keptFits.shortened keeps count)
    (.cons ⟨.of_insert inserts ?_ noOld, editProper.simple, editProper.nonempty⟩ ?_)
  · simp only [Edit.earlier, Edit.shortened, Place.advance]
    omega
  · rw [Edit.shortened, passed]
    refine script_releaseAfter ?_ ?_ agree slides ?_
    · simp only [Edit.oldStop]
      omega
    · simp only [Edit.newStop]
      omega
    · have end_ :
          (Place.mk (kept.oldStop - count) (edit.newStop - count)).advance count =
            ⟨first.old + kept.oldCount + edit.oldCount,
              first.new + kept.newCount + edit.newCount⟩ := by
        ext
        · simp only [Place.advance, Edit.oldStop]
          omega
        · simp only [Place.advance, Edit.newStop]
          omega
      rw [end_]
      exact chain

/-- The kept lines that an insertion has moved down over lead up to its new begin. -/
theorem script_releaseBefore
    {count : Nat}
    {middle : Place}
    (oldStart : kept.oldStart = middle.old)
    (newStart : edit.newStart = middle.new)
    (agree : sides.Agree middle count)
    (moves : count ≠ 0)
    (chain : Script sides first before.reverse middle) :
    Script sides first (releaseBefore kept edit count before).reverse (middle.advance count) := by
  have single :
      Script sides first
        (before.reverse ++ [.keeping kept.oldStart edit.newStart count]) (middle.advance count) := by
    rw [oldStart, newStart]
    exact Chain.append_iff.mpr
      ⟨middle, chain, .singleton
        ⟨Edit.fits_keeping agree, .of_keep rfl (Nat.pos_of_ne_zero moves)⟩⟩
  unfold releaseBefore
  split
  · rename_i previous rest
    split
    · rename_i keeps
      have isKeep := Edit.keeps_iff.mp keeps
      rw [List.reverse_cons] at chain ⊢
      obtain ⟨between, early, late⟩ := Chain.append_iff.mp chain
      obtain ⟨⟨fits, _⟩, ends⟩ := Chain.cons_iff.mp late
      obtain rfl := Chain.nil_iff.mp ends
      obtain ⟨previousOld, previousNew, sameCount, agreeEarlier⟩ :=
        (Edit.fits_iff_of_keep isKeep).mp fits
      have last_ :
          between.after (previous.extended count) = (between.after previous).advance count :=
        Place.ext (Nat.add_assoc _ _ _).symm (Nat.add_assoc _ _ _).symm
      refine Chain.append_iff.mpr ⟨between, early, ?_⟩
      rw [← last_]
      refine .singleton ⟨.of_keep isKeep previousOld previousNew ?_ ?_, .of_keep isKeep ?_⟩
      · simp only [Edit.extended]
        omega
      · refine Sides.agree_add_iff.mpr ⟨agreeEarlier, ?_⟩
        rw [← Place.after_of_sameCount between sameCount]
        exact agree
      · simp only [Edit.extended]
        omega
    · rw [List.reverse_cons]
      exact single
  · exact single

/-- An insertion may move down over kept lines. -/
theorem script_slideDown
    (keeps : next.kind = .keep)
    (moves : edit.kind ≠ .keep)
    (slides : slideDownCount sides next edit ≠ 0)
    (chain : Script sides first (before.reverse ++ edit :: next :: rest) last) :
    let count := slideDownCount sides next edit
    Script sides first
      ((releaseBefore next edit count before).reverse ++
        edit.later count :: withRemainder ((next.later count).shortened count) rest) last := by
  obtain ⟨middle, early, chain⟩ := Chain.append_iff.mp chain
  obtain ⟨⟨editFits, editProper⟩, chain⟩ := Chain.cons_iff.mp chain
  obtain ⟨⟨nextFits, _⟩, chain⟩ := Chain.cons_iff.mp chain
  have new : edit.newCount ≠ 0 := fun noNew => slides (slideDownCount_of_no_new noNew)
  have inserts : edit.kind = .insert := inserts_of_new editFits editProper moves new
  obtain ⟨nextOld, nextNew, sameCount, nextAgree⟩ := (Edit.fits_iff_of_keep keeps).mp nextFits
  obtain ⟨editNew, noOld⟩ := (Edit.fits_iff_of_insert inserts).mp editFits
  obtain ⟨within, withinNew, agree⟩ := slideDownCount_spec sides next edit
  generalize slideDownCount sides next edit = count at slides within withinNew agree
  simp only [Place.after] at nextOld nextNew
  have begin_ : (Place.mk next.oldStart edit.newStart) = middle := by
    ext
    · simp only
      omega
    · exact editNew
  rw [begin_] at agree
  refine Chain.append_iff.mpr
    ⟨middle.advance count, script_releaseBefore ?_ editNew agree slides early, ?_⟩
  · omega
  · refine .cons ⟨.of_insert inserts (congrArg (· + count) editNew) noOld, editProper.simple,
      editProper.nonempty⟩ ?_
    have passed :
        (middle.after edit).advance count = (middle.advance count).after (edit.later count) :=
      Place.ext (Nat.add_right_comm _ _ _) (Nat.add_right_comm _ _ _)
    rw [← passed]
    refine script_withRemainder keeps (nextFits.later_shortened keeps within) ?_
    have end_ :
        ((middle.after edit).advance count).advance ((next.later count).shortened count).oldCount =
          (middle.after edit).after next := by
      rw [Place.advance_advance, Place.after_of_sameCount _ sameCount]
      exact congrArg (middle.after edit).advance (Nat.add_sub_cancel' within)
    rw [end_]
    exact chain

/-! ## Meeting other changes -/

/-- A proper edit that keeps nothing deletes or inserts. -/
theorem Edit.IsProper.deletes_or_inserts
    (proper : edit.IsProper)
    (moves : edit.kind ≠ .keep) :
    edit.kind = .delete ∨ edit.kind = .insert := by
  cases kind : edit.kind with
  | keep =>
      exact absurd kind moves
  | delete =>
      exact Or.inl rfl
  | insert =>
      exact Or.inr rfl
  | replace =>
      exact absurd kind proper.simple

/-- Two deletions, or two insertions, next to each other may be joined. -/
theorem script_joined
    (moves : edit.kind ≠ .keep)
    (same : previous.kind = edit.kind)
    (chain : Script sides first (previous :: edit :: after) last) :
    Script sides first (previous.joined edit :: after) last := by
  obtain ⟨⟨previousFits, previousProper⟩, chain⟩ := Chain.cons_iff.mp chain
  obtain ⟨⟨editFits, editProper⟩, chain⟩ := Chain.cons_iff.mp chain
  have previousNonempty := previousProper.nonempty
  rcases editProper.deletes_or_inserts moves with deletes | inserts
  · rw [deletes] at same
    obtain ⟨oldStart, noNew⟩ := (Edit.fits_iff_of_delete same).mp previousFits
    obtain ⟨_, editNoNew⟩ := (Edit.fits_iff_of_delete deletes).mp editFits
    have joined :
        previous.joined edit = { previous with oldCount := previous.oldCount + edit.oldCount } := by
      rw [Edit.joined, same]
    rw [joined]
    refine .cons ⟨.of_delete same oldStart noNew, previousProper.simple, ?_⟩ ?_
    · simp only
      omega
    · simp only [Place.after, noNew, editNoNew, Nat.add_zero] at chain ⊢
      rw [← Nat.add_assoc]
      exact chain
  · rw [inserts] at same
    obtain ⟨newStart, noOld⟩ := (Edit.fits_iff_of_insert same).mp previousFits
    obtain ⟨_, editNoOld⟩ := (Edit.fits_iff_of_insert inserts).mp editFits
    have joined :
        previous.joined edit = { previous with newCount := previous.newCount + edit.newCount } := by
      rw [Edit.joined, same]
    rw [joined]
    refine .cons ⟨.of_insert same newStart noOld, previousProper.simple, ?_⟩ ?_
    · simp only
      omega
    · simp only [Place.after, noOld, editNoOld, Nat.add_zero] at chain ⊢
      rw [← Nat.add_assoc]
      exact chain

/-- A deletion and an insertion next to each other may change places. -/
theorem script_swapped
    (previousMoves : previous.kind ≠ .keep)
    (moves : edit.kind ≠ .keep)
    (differs : previous.kind ≠ edit.kind)
    (chain : Script sides first (previous :: edit :: after) last) :
    Script sides first (edit :: previous :: after) last := by
  obtain ⟨⟨previousFits, previousProper⟩, chain⟩ := Chain.cons_iff.mp chain
  obtain ⟨⟨editFits, editProper⟩, chain⟩ := Chain.cons_iff.mp chain
  rw [Place.after_after_comm] at chain
  rcases previousProper.deletes_or_inserts previousMoves with deletes | inserts
  · have editInserts : edit.kind = .insert :=
      (editProper.deletes_or_inserts moves).resolve_left fun same => differs (deletes.trans same.symm)
    obtain ⟨oldStart, noNew⟩ := (Edit.fits_iff_of_delete deletes).mp previousFits
    obtain ⟨newStart, noOld⟩ := (Edit.fits_iff_of_insert editInserts).mp editFits
    simp only [Place.after, noNew, Nat.add_zero] at newStart
    refine .cons ⟨.of_insert editInserts newStart noOld, editProper⟩
      (.cons ⟨.of_delete deletes ?_ noNew, previousProper⟩ chain)
    simp only [Place.after, noOld, Nat.add_zero, oldStart]
  · have editDeletes : edit.kind = .delete :=
      (editProper.deletes_or_inserts moves).resolve_right
        fun same => differs (inserts.trans same.symm)
    obtain ⟨newStart, noOld⟩ := (Edit.fits_iff_of_insert inserts).mp previousFits
    obtain ⟨oldStart, noNew⟩ := (Edit.fits_iff_of_delete editDeletes).mp editFits
    simp only [Place.after, noOld, Nat.add_zero] at oldStart
    refine .cons ⟨.of_delete editDeletes oldStart noNew, editProper⟩
      (.cons ⟨.of_insert inserts ?_ noOld, previousProper⟩ chain)
    simp only [Place.after, noNew, Nat.add_zero, newStart]

theorem Edit.IsProper.oldCount_ne_zero
    (proper : kept.IsProper)
    (fits : kept.Fits sides first)
    (keeps : kept.kind = .keep) :
    kept.oldCount ≠ 0 := by
  have nonempty := proper.nonempty
  have sameCount := ((Edit.fits_iff_of_keep keeps).mp fits).2.2.1
  omega

/-! ## Moving as far as it goes -/

/-- All edits of a list with one in focus, in order. -/
def Focus.edits (focus : Focus) : List Edit :=
  focus.before.reverse ++ focus.edit :: focus.after

/-- A joined edit does what the first of the two does. -/
@[simp] theorem Edit.joined_kind
    (first second : Edit) :
    (first.joined second).kind = first.kind := by
  unfold Edit.joined
  split <;> rfl

/--
What every step up keeps holds after moving up. A step drops an empty kept stretch, slides over kept
lines, joins an edit of the same kind or changes places with one of the other kind.
-/
theorem moveUp_keeps
    {invariant : Focus → Prop}
    (drop :
      ∀ {kept edit : Edit} {rest after : List Edit}, kept.kind = .keep → kept.oldCount = 0 →
        invariant ⟨kept :: rest, edit, after⟩ → invariant ⟨rest, edit, after⟩)
    (slide :
      ∀ {kept edit : Edit} {rest after : List Edit}, kept.kind = .keep →
        slideUpCount sides kept edit ≠ 0 → invariant ⟨kept :: rest, edit, after⟩ →
          invariant
            ⟨withRemainder (kept.shortened (slideUpCount sides kept edit)) rest,
              edit.earlier (slideUpCount sides kept edit),
              releaseAfter kept edit (slideUpCount sides kept edit) after⟩)
    (join :
      ∀ {previous edit : Edit} {rest after : List Edit}, previous.kind = edit.kind →
        invariant ⟨previous :: rest, edit, after⟩ → invariant ⟨rest, previous.joined edit, after⟩)
    (swap :
      ∀ {previous edit : Edit} {rest after : List Edit}, previous.kind ≠ .keep →
        previous.kind ≠ edit.kind → invariant ⟨previous :: rest, edit, after⟩ →
          invariant ⟨rest, edit, previous :: after⟩)
    {focus : Focus}
    (holds : invariant focus) :
    invariant (moveUp sides focus) := by
  fun_induction moveUp sides focus with
  | case1 focus => exact holds
  | case2 focus previous rest matched keeps count none empty inductionHypothesis =>
      obtain ⟨before, edit, after⟩ := focus
      obtain rfl : before = previous :: rest := matched
      exact inductionHypothesis (drop (Edit.keeps_iff.mp keeps) empty holds)
  | case3 => exact holds
  | case4 focus previous rest matched keeps count slides after left inductionHypothesis =>
      obtain ⟨before, edit, after⟩ := focus
      obtain rfl : before = previous :: rest := matched
      exact inductionHypothesis (slide (Edit.keeps_iff.mp keeps) slides holds)
  | case5 focus previous rest matched keeps same inductionHypothesis =>
      obtain ⟨before, edit, after⟩ := focus
      obtain rfl : before = previous :: rest := matched
      exact inductionHypothesis (join same holds)
  | case6 focus previous rest matched keeps differs inductionHypothesis =>
      obtain ⟨before, edit, after⟩ := focus
      obtain rfl : before = previous :: rest := matched
      have moves : previous.kind ≠ .keep := fun isKeep => keeps (Edit.keeps_iff.mpr isKeep)
      exact inductionHypothesis (swap moves differs holds)

/-- What every step down keeps holds after moving down. -/
theorem moveDown_keeps
    {invariant : Focus → Prop}
    (drop :
      ∀ {kept edit : Edit} {before rest : List Edit}, kept.kind = .keep → kept.oldCount = 0 →
        invariant ⟨before, edit, kept :: rest⟩ → invariant ⟨before, edit, rest⟩)
    (slide :
      ∀ {kept edit : Edit} {before rest : List Edit}, kept.kind = .keep →
        slideDownCount sides kept edit ≠ 0 → invariant ⟨before, edit, kept :: rest⟩ →
          invariant
            ⟨releaseBefore kept edit (slideDownCount sides kept edit) before,
              edit.later (slideDownCount sides kept edit),
              withRemainder
                ((kept.later (slideDownCount sides kept edit)).shortened
                  (slideDownCount sides kept edit))
                rest⟩)
    (join :
      ∀ {next edit : Edit} {before rest : List Edit}, edit.kind = next.kind →
        invariant ⟨before, edit, next :: rest⟩ → invariant ⟨before, edit.joined next, rest⟩)
    (swap :
      ∀ {next edit : Edit} {before rest : List Edit}, next.kind ≠ .keep → edit.kind ≠ next.kind →
        invariant ⟨before, edit, next :: rest⟩ → invariant ⟨next :: before, edit, rest⟩)
    {focus : Focus}
    (holds : invariant focus) :
    invariant (moveDown sides focus) := by
  fun_induction moveDown sides focus with
  | case1 focus => exact holds
  | case2 focus next rest matched keeps count none empty inductionHypothesis =>
      obtain ⟨before, edit, after⟩ := focus
      obtain rfl : after = next :: rest := matched
      exact inductionHypothesis (drop (Edit.keeps_iff.mp keeps) empty holds)
  | case3 => exact holds
  | case4 focus next rest matched keeps count slides before left inductionHypothesis =>
      obtain ⟨before, edit, after⟩ := focus
      obtain rfl : after = next :: rest := matched
      exact inductionHypothesis (slide (Edit.keeps_iff.mp keeps) slides holds)
  | case5 focus next rest matched keeps same inductionHypothesis =>
      obtain ⟨before, edit, after⟩ := focus
      obtain rfl : after = next :: rest := matched
      exact inductionHypothesis (join same.symm holds)
  | case6 focus next rest matched keeps differs inductionHypothesis =>
      obtain ⟨before, edit, after⟩ := focus
      obtain rfl : after = next :: rest := matched
      have moves : next.kind ≠ .keep := fun isKeep => keeps (Edit.keeps_iff.mpr isKeep)
      exact inductionHypothesis (swap moves (fun same => differs same.symm) holds)

/-- A list of edits with a change in focus, which leads from one place to another. -/
structure Focus.Leads (sides : Sides) (first last : Place) (focus : Focus) : Prop where
  moves : focus.edit.kind ≠ .keep
  script : Script sides first focus.edits last

theorem Focus.Leads.oldCount_previous
    (leads : Focus.Leads sides first last ⟨kept :: rest, edit, after⟩)
    (keeps : kept.kind = .keep) :
    kept.oldCount ≠ 0 := by
  have chain := leads.script
  rw [Focus.edits, List.reverse_cons, List.append_assoc] at chain
  obtain ⟨_, _, late⟩ := Chain.append_iff.mp chain
  obtain ⟨⟨fits, proper⟩, _⟩ := Chain.cons_iff.mp late
  exact proper.oldCount_ne_zero fits keeps

theorem Focus.Leads.oldCount_next
    (leads : Focus.Leads sides first last ⟨before, edit, kept :: rest⟩)
    (keeps : kept.kind = .keep) :
    kept.oldCount ≠ 0 := by
  obtain ⟨_, _, late⟩ := Chain.append_iff.mp leads.script
  obtain ⟨⟨fits, proper⟩, _⟩ := Chain.cons_iff.mp (Chain.cons_iff.mp late).2
  exact proper.oldCount_ne_zero fits keeps

namespace Focus.Leads

/-- An edit that slides up leads on. -/
theorem slideUp
    (leads : Focus.Leads sides first last ⟨kept :: rest, edit, after⟩)
    (keeps : kept.kind = .keep)
    (slides : slideUpCount sides kept edit ≠ 0) :
    Focus.Leads sides first last
      ⟨withRemainder (kept.shortened (slideUpCount sides kept edit)) rest,
        edit.earlier (slideUpCount sides kept edit),
        releaseAfter kept edit (slideUpCount sides kept edit) after⟩ := by
  refine ⟨leads.moves, ?_⟩
  have chain := leads.script
  rw [Focus.edits, List.reverse_cons, List.append_assoc] at chain
  rw [Focus.edits, reverse_withRemainder_append]
  exact chain.append_congr fun _ => script_slideUp keeps leads.moves slides

theorem slideDown
    (leads : Focus.Leads sides first last ⟨before, edit, kept :: rest⟩)
    (keeps : kept.kind = .keep)
    (slides : slideDownCount sides kept edit ≠ 0) :
    Focus.Leads sides first last
      ⟨releaseBefore kept edit (slideDownCount sides kept edit) before,
        edit.later (slideDownCount sides kept edit),
        withRemainder
          ((kept.later (slideDownCount sides kept edit)).shortened (slideDownCount sides kept edit))
          rest⟩ :=
  ⟨leads.moves, script_slideDown keeps leads.moves slides leads.script⟩

theorem joinUp
    (leads : Focus.Leads sides first last ⟨previous :: rest, edit, after⟩)
    (same : previous.kind = edit.kind) :
    Focus.Leads sides first last ⟨rest, previous.joined edit, after⟩ := by
  refine ⟨by rw [Edit.joined_kind, same]; exact leads.moves, ?_⟩
  have chain := leads.script
  rw [Focus.edits, List.reverse_cons, List.append_assoc] at chain
  exact chain.append_congr fun _ => script_joined leads.moves same

theorem joinDown
    (leads : Focus.Leads sides first last ⟨before, edit, next :: rest⟩)
    (same : edit.kind = next.kind) :
    Focus.Leads sides first last ⟨before, edit.joined next, rest⟩ := by
  refine ⟨by rw [Edit.joined_kind]; exact leads.moves, ?_⟩
  exact leads.script.append_congr fun _ => script_joined (same ▸ leads.moves) same

theorem swapUp
    (leads : Focus.Leads sides first last ⟨previous :: rest, edit, after⟩)
    (previousMoves : previous.kind ≠ .keep)
    (differs : previous.kind ≠ edit.kind) :
    Focus.Leads sides first last ⟨rest, edit, previous :: after⟩ := by
  refine ⟨leads.moves, ?_⟩
  have chain := leads.script
  rw [Focus.edits, List.reverse_cons, List.append_assoc] at chain
  exact chain.append_congr fun _ => script_swapped previousMoves leads.moves differs

theorem swapDown
    (leads : Focus.Leads sides first last ⟨before, edit, next :: rest⟩)
    (nextMoves : next.kind ≠ .keep)
    (differs : edit.kind ≠ next.kind) :
    Focus.Leads sides first last ⟨next :: before, edit, rest⟩ := by
  refine ⟨leads.moves, ?_⟩
  rw [Focus.edits, List.reverse_cons, List.append_assoc]
  exact leads.script.append_congr fun _ => script_swapped leads.moves nextMoves differs

/-- Edits with one that has been moved up lead on. -/
theorem moveUp
    {focus : Focus}
    (leads : focus.Leads sides first last) :
    (moveUp sides focus).Leads sides first last := by
  refine moveUp_keeps ?_ ?_ ?_ ?_ leads
  · intro kept edit rest after keeps empty leads
    exact absurd empty (leads.oldCount_previous keeps)
  · intro kept edit rest after keeps slides leads
    exact leads.slideUp keeps slides
  · intro previous edit rest after same leads
    exact leads.joinUp same
  · intro previous edit rest after previousMoves differs leads
    exact leads.swapUp previousMoves differs

/-- Edits with one that has been moved down lead on. -/
theorem moveDown
    {focus : Focus}
    (leads : focus.Leads sides first last) :
    (moveDown sides focus).Leads sides first last := by
  refine moveDown_keeps ?_ ?_ ?_ ?_ leads
  · intro kept edit before rest keeps empty leads
    exact absurd empty (leads.oldCount_next keeps)
  · intro kept edit before rest keeps slides leads
    exact leads.slideDown keeps slides
  · intro next edit before rest same leads
    exact leads.joinDown same
  · intro next edit before rest nextMoves differs leads
    exact leads.swapDown nextMoves differs

end Focus.Leads

/-- What moving one edit of a kind keeps holds after moving all of them. -/
theorem moveAll_keeps
    {kind : EditKind}
    {invariant : List Edit → Prop}
    (move :
      ∀ focus : Focus, focus.edit.kind = kind → invariant focus.edits →
        invariant (moveDown sides (moveUp sides focus)).edits)
    (fuel : Nat)
    (holds : invariant (before.reverse ++ after)) :
    invariant (moveAll sides kind fuel before after) := by
  fun_induction moveAll sides kind fuel before after with
  | case1 before after => exact holds
  | case2 fuel before => simpa using holds
  | case3 fuel before edit after same moved inductionHypothesis =>
      refine inductionHypothesis ?_
      rw [List.reverse_cons, List.append_assoc]
      exact move ⟨before, edit, after⟩ same holds
  | case4 fuel before edit after differs inductionHypothesis =>
      refine inductionHypothesis ?_
      rw [List.reverse_cons, List.append_assoc]
      exact holds

end SourceUpgrade.Patch
