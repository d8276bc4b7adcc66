import SourceUpgrade.Proofs.Patch.Merged

namespace SourceUpgrade.Patch

/-!
# What hunks show

Hunks leave out lines that agree and show the rest: between two hunks, before the first and after the
last one, the same lines stand on both sides. The first edit of a hunk names the right old line. It
keeps lines, unless the hunk begins with the old text; so does the last edit, unless the hunk ends
with the old text.
-/

variable {sides : Sides} {first start middle stop last : Place} {edit : Edit}
  {edits current rest : List Edit} {hunks : List Hunk}

/-! ## Lines that are left out -/

/-- From a place to a later one, the lines agree. -/
def Skips (sides : Sides) (first last : Place) : Prop :=
  ∃ count, last = first.advance count ∧ sides.Agree first count

theorem Skips.refl
    (place : Place) :
    Skips sides place place :=
  ⟨0, rfl, sides.agree_zero place⟩

theorem Skips.trans
    (early : Skips sides first middle)
    (late : Skips sides middle last) :
    Skips sides first last := by
  obtain ⟨count, rfl, agree⟩ := early
  obtain ⟨countLater, rfl, agreeLater⟩ := late
  exact ⟨count + countLater, Place.advance_advance _ _ _,
    Sides.agree_add_iff.mpr ⟨agree, agreeLater⟩⟩

theorem Skips.of_kept
    (keeps : edit.kind = .keep)
    (fits : edit.Fits sides first) :
    Skips sides first (first.after edit) := by
  obtain ⟨_, _, sameCount, agree⟩ := (Edit.fits_iff_of_keep keeps).mp fits
  exact ⟨edit.oldCount, Place.after_of_sameCount first sameCount, agree⟩

/-! ## Trimming kept lines -/

theorem Edit.keepEnd_kind
    (edit : Edit)
    (radius : Nat) :
    (edit.keepEnd radius).kind = edit.kind := by
  unfold Edit.keepEnd
  split <;> rfl

theorem Edit.keepBegin_kind
    (edit : Edit)
    (radius : Nat) :
    (edit.keepBegin radius).kind = edit.kind := by
  unfold Edit.keepBegin
  split <;> rfl

theorem Edit.keepEnd_of_change
    (changes : edit.kind ≠ .keep)
    (radius : Nat) :
    edit.keepEnd radius = edit :=
  if_neg fun keeps => changes (Edit.keeps_iff.mp keeps)

theorem Edit.keepBegin_of_change
    (changes : edit.kind ≠ .keep)
    (radius : Nat) :
    edit.keepBegin radius = edit :=
  if_neg fun keeps => changes (Edit.keeps_iff.mp keeps)

theorem Edit.keepBegin_oldStart
    (edit : Edit)
    (radius : Nat) :
    (edit.keepBegin radius).oldStart = edit.oldStart := by
  unfold Edit.keepBegin
  split <;> rfl

/-- The last lines of a kept stretch are shown after the others are left out. -/
theorem Edit.Fits.keepEnd
    (fits : edit.Fits sides first)
    (keeps : edit.kind = .keep)
    (radius : Nat) :
    ∃ start, Skips sides first start ∧ (edit.keepEnd radius).Fits sides start ∧
      start.after (edit.keepEnd radius) = first.after edit := by
  obtain ⟨_, _, sameCount, agree⟩ := (fits_iff_of_keep keeps).mp fits
  have within : edit.oldCount - radius ≤ edit.oldCount := Nat.sub_le _ _
  have shown :
      edit.keepEnd radius =
        (edit.later (edit.oldCount - radius)).shortened (edit.oldCount - radius) :=
    if_pos (keeps_iff.mpr keeps)
  have sameEnd :
      (first.advance (edit.oldCount - radius)).after (edit.keepEnd radius) = first.after edit := by
    rw [shown, Place.after_of_sameCount _ (congrArg (· - _) sameCount),
      Place.after_of_sameCount _ sameCount, Place.advance_advance]
    exact congrArg first.advance (Nat.add_sub_cancel' within)
  refine ⟨first.advance (edit.oldCount - radius), ⟨_, rfl, ?_⟩, ?_, sameEnd⟩
  · intro index inside
    exact agree index (Nat.lt_of_lt_of_le inside within)
  · rw [shown]
    exact fits.later_shortened keeps within

/-- The first lines of a kept stretch are shown before the others are left out. -/
theorem Edit.Fits.keepBegin
    (fits : edit.Fits sides first)
    (keeps : edit.kind = .keep)
    (radius : Nat) :
    (edit.keepBegin radius).Fits sides first ∧
      Skips sides (first.after (edit.keepBegin radius)) (first.after edit) := by
  obtain ⟨_, _, sameCount, agree⟩ := (fits_iff_of_keep keeps).mp fits
  have shown : edit.keepBegin radius = edit.shortened (edit.oldCount - radius) :=
    if_pos (keeps_iff.mpr keeps)
  have parts :
      edit.oldCount - (edit.oldCount - radius) + (edit.oldCount - radius) = edit.oldCount :=
    Nat.sub_add_cancel (Nat.sub_le _ _)
  rw [shown, Place.after_of_sameCount first (congrArg (· - _) sameCount)]
  refine ⟨fits.shortened keeps _, edit.oldCount - radius, ?_, ?_⟩
  · rw [Place.after_of_sameCount first sameCount, Place.advance_advance]
    exact congrArg first.advance parts.symm
  · rw [← parts] at agree
    exact (Sides.agree_add_iff.mp agree).2

/-- Where the first of some edits that lead from a place starts: it keeps lines there, or else it
begins with the old text. -/
structure Edit.Opens (start : Place) (edit : Edit) : Prop where
  oldStart : edit.oldStart = start.old
  keepsOrBegins : edit.kind = .keep ∨ start.old = 0

/-- Where the last of some edits that lead to a place stops: it keeps lines there, or else it ends with
the old text. -/
def Edit.Closes (sides : Sides) (stop : Place) (edit : Edit) : Prop :=
  edit.kind = .keep ∨ stop.old = sides.old.size

/-- Trimming the last edit leaves out lines at the end. -/
theorem merged_mapLast_keepBegin
    (merged : Merged sides first edits last)
    (toEnd : last.old = sides.old.size)
    (radius : Nat) :
    ∃ stop, Merged sides first (mapLast (Edit.keepBegin · radius) edits) stop ∧
      Skips sides stop last ∧
        ∀ edit ∈ (mapLast (Edit.keepBegin · radius) edits).getLast?, edit.Closes sides stop := by
  fun_induction mapLast (Edit.keepBegin · radius) edits generalizing first with
  | case1 =>
      obtain rfl := Chain.nil_iff.mp merged
      exact ⟨first, .nil first, .refl first, nofun⟩
  | case2 edit =>
      obtain ⟨⟨fits, changes⟩, ends⟩ := Chain.cons_iff.mp merged
      obtain rfl := Chain.nil_iff.mp ends
      by_cases keeps : edit.kind = .keep
      · obtain ⟨trimmedFits, skips⟩ := fits.keepBegin keeps radius
        have trimmedKeeps : (edit.keepBegin radius).kind = .keep := by
          rw [Edit.keepBegin_kind, keeps]
        refine ⟨_, merged_kept trimmedKeeps trimmedFits, skips, ?_⟩
        rintro _ ⟨⟩
        exact Or.inl trimmedKeeps
      · rw [Edit.keepBegin_of_change keeps]
        exact ⟨_, merged, .refl _, fun _ _ => Or.inr toEnd⟩
  | case3 edit edits notLast inductionHypothesis =>
      obtain ⟨fits, later⟩ := Chain.cons_iff.mp merged
      obtain ⟨stop, leads, skips, closes⟩ := inductionHypothesis later
      refine ⟨stop, .cons fits leads, skips, ?_⟩
      intro final isFinal
      refine closes final ?_
      cases trimmed : mapLast (Edit.keepBegin · radius) edits with
      | nil =>
          cases edits with
          | nil =>
              exact absurd rfl notLast
          | cons next rest =>
              cases rest <;> cases trimmed
      | cons next rest =>
          rw [trimmed, List.getLast?_cons_cons] at isFinal
          exact isFinal

/-- Trimming the last edit keeps the kind and the old start of the first. -/
theorem head_mapLast_keepBegin
    (radius : Nat)
    (isFirst : edit ∈ (mapLast (Edit.keepBegin · radius) edits).head?) :
    ∃ untrimmed ∈ edits.head?,
      edit.kind = untrimmed.kind ∧ edit.oldStart = untrimmed.oldStart := by
  cases edits with
  | nil =>
      cases isFirst
  | cons untrimmed rest =>
      refine ⟨untrimmed, rfl, ?_⟩
      cases rest with
      | nil =>
          obtain rfl := Option.some.inj isFirst
          exact ⟨untrimmed.keepBegin_kind radius, untrimmed.keepBegin_oldStart radius⟩
      | cons next rest =>
          obtain rfl := Option.some.inj isFirst
          exact ⟨rfl, rfl⟩

/-- Trimming both ends leaves out lines before and after what is shown. -/
theorem merged_trimEnds
    (merged : Merged sides first edits last)
    (fromBegin : first.old = 0)
    (toEnd : last.old = sides.old.size)
    (oldStart : ∀ edit ∈ edits.head?, edit.oldStart = 0)
    (radius : Nat) :
    ∃ start stop, Skips sides first start ∧ Merged sides start (trimEnds radius edits) stop ∧
      Skips sides stop last ∧ (∀ edit ∈ (trimEnds radius edits).head?, edit.Opens start) ∧
        ∀ edit ∈ (trimEnds radius edits).getLast?, edit.Closes sides stop := by
  cases edits with
  | nil =>
      obtain rfl := Chain.nil_iff.mp merged
      exact ⟨first, first, .refl first, .nil first, .refl first, nofun, nofun⟩
  | cons head rest =>
      obtain ⟨⟨fits, changes⟩, later⟩ := Chain.cons_iff.mp merged
      have opening :
          ∃ start, Skips sides first start ∧
            Merged sides start (head.keepEnd radius :: rest) last ∧
              (head.keepEnd radius).Opens start := by
        by_cases keeps : head.kind = .keep
        · obtain ⟨start, skips, trimmedFits, sameEnd⟩ := fits.keepEnd keeps radius
          have trimmedKeeps : (head.keepEnd radius).kind = .keep := by
            rw [Edit.keepEnd_kind, keeps]
          refine ⟨start, skips, .cons ⟨trimmedFits, fun change => absurd trimmedKeeps change⟩ ?_, ?_⟩
          · rw [sameEnd]
            exact later
          · exact ⟨((Edit.fits_iff_of_keep trimmedKeeps).mp trimmedFits).1, Or.inl trimmedKeeps⟩
        · rw [Edit.keepEnd_of_change keeps]
          refine ⟨first, .refl first, merged, ?_, Or.inr fromBegin⟩
          rw [fromBegin]
          exact oldStart head rfl
      obtain ⟨start, skips, shown, opens⟩ := opening
      obtain ⟨stop, leads, skipsLater, closes⟩ := merged_mapLast_keepBegin shown toEnd radius
      refine ⟨start, stop, skips, leads, skipsLater, ?_, closes⟩
      intro edit isFirst
      obtain ⟨_, ⟨⟩, sameKind, sameStart⟩ := head_mapLast_keepBegin radius isFirst
      refine ⟨sameStart.trans opens.oldStart, ?_⟩
      rw [sameKind]
      exact opens.keepsOrBegins

/-! ## Hunks in their places -/

/-- A hunk leads from a place to a later one. -/
structure HunkAt (sides : Sides) (start : Place) (hunk : Hunk) (stop : Place) : Prop where
  merged : Merged sides start hunk stop
  opens : ∀ edit ∈ hunk.head?, edit.Opens start
  closes : ∀ edit ∈ hunk.getLast?, edit.Closes sides stop

/-- Hunks show what differs from a place to a later one: what they leave out agrees. -/
inductive Shows (sides : Sides) : Place → List Hunk → Place → Prop where
  | nil {first last : Place} (skips : Skips sides first last) : Shows sides first [] last
  | cons {first start stop last : Place} {hunk : Hunk} {hunks : List Hunk}
      (skips : Skips sides first start) (inPlace : HunkAt sides start hunk stop)
      (later : Shows sides stop hunks last) : Shows sides first (hunk :: hunks) last

theorem Shows.after_skip
    (shows_ : Shows sides middle hunks last)
    (skips : Skips sides first middle) :
    Shows sides first hunks last := by
  cases shows_ with
  | nil later =>
      exact .nil (skips.trans later)
  | cons next inPlace later =>
      exact .cons (skips.trans next) inPlace later

theorem Shows.before_skip
    (shows_ : Shows sides first hunks middle)
    (skips : Skips sides middle last) :
    Shows sides first hunks last := by
  induction shows_ with
  | nil early =>
      exact .nil (early.trans skips)
  | cons early inPlace _ inductionHypothesis =>
      exact .cons early inPlace (inductionHypothesis skips)

/-- A long kept stretch between two hunks: its first lines close one, its last lines open the other,
and those between are left out. -/
theorem Edit.Fits.divided
    {radius : Nat}
    (fits : edit.Fits sides middle)
    (keeps : edit.kind = .keep)
    (long : 2 * radius < edit.oldCount) :
    let surplus := edit.oldCount - radius
    ∃ start,
      Merged sides middle [{ edit with oldCount := radius, newCount := radius }]
          (middle.advance radius) ∧
        Skips sides (middle.advance radius) start ∧
          Merged sides start
              [{ edit.later surplus with oldCount := radius, newCount := radius }]
              (middle.after edit) ∧
            edit.oldStart + surplus = start.old := by
  intro surplus
  obtain ⟨oldStart, newStart, sameCount, agree⟩ := (fits_iff_of_keep keeps).mp fits
  have parts : edit.oldCount = radius + ((surplus - radius) + radius) := by omega
  rw [parts, Sides.agree_add_iff, Sides.agree_add_iff] at agree
  obtain ⟨closingAgree, skippedAgree, openingAgree⟩ := agree
  have advanced : (middle.advance radius).advance (surplus - radius) = middle.advance surplus := by
    rw [Place.advance_advance]
    exact congrArg middle.advance (by omega)
  have after : (middle.advance surplus).advance radius = middle.after edit := by
    rw [Place.after_of_sameCount middle sameCount, Place.advance_advance]
    exact congrArg middle.advance (by omega)
  rw [advanced] at openingAgree
  refine ⟨middle.advance surplus, ?_, ⟨surplus - radius, advanced.symm, skippedAgree⟩, ?_, ?_⟩
  · exact merged_kept keeps (.of_keep keeps oldStart newStart rfl closingAgree)
  · rw [← after]
    exact merged_kept keeps
      (.of_keep keeps (congrArg (· + surplus) oldStart) (congrArg (· + surplus) newStart) rfl
        openingAgree)
  · exact congrArg (· + surplus) oldStart

theorem opens_of_same_begin
    {replaced : Edit}
    (opens : ∀ head ∈ (current ++ edit :: rest).head?, head.Opens start)
    (replaces : edit.Opens start → replaced.Opens start) :
    ∀ head ∈ (current ++ [replaced]).head?, head.Opens start := by
  cases current with
  | nil =>
      rintro _ ⟨⟩
      exact replaces (opens edit rfl)
  | cons =>
      exact opens

/-- Edits close a place if others do that end with the same ones. -/
theorem closes_of_same_end
    {replaced : Edit}
    (closes : ∀ final ∈ (current ++ edit :: rest).getLast?, final.Closes sides last)
    (replaces : replaced.Closes sides last) :
    ∀ final ∈ (replaced :: rest).getLast?, final.Closes sides last := by
  cases rest with
  | nil =>
      rintro _ ⟨⟩
      exact replaces
  | cons next rest =>
      intro final isLast
      refine closes final ?_
      rw [List.getLast?_cons_cons] at isLast
      rw [List.getLast?_append, List.getLast?_cons_cons, isLast]
      rfl

/-- Cutting edits within long kept stretches gives hunks that show what differs. -/
theorem shows_cutHunks
    {radius : Nat}
    (onTheWay : Merged sides start current.reverse middle)
    (merged : Merged sides middle edits last)
    (opens : ∀ edit ∈ (current.reverse ++ edits).head?, edit.Opens start)
    (closes : ∀ edit ∈ (current.reverse ++ edits).getLast?, edit.Closes sides last) :
    Shows sides start (cutHunks radius current edits) last := by
  induction edits generalizing current start middle with
  | nil =>
      obtain rfl := Chain.nil_iff.mp merged
      rw [List.append_nil] at opens closes
      rw [cutHunks]
      split
      · rename_i nothing
        match current, nothing with
        | [], _ =>
            obtain rfl := Chain.nil_iff.mp onTheWay
            exact .nil (.refl _)
        | [edit], keeps =>
            obtain ⟨⟨fits, _⟩, ends⟩ := Chain.cons_iff.mp onTheWay
            obtain rfl := Chain.nil_iff.mp ends
            exact .nil (.of_kept (Edit.keeps_iff.mp keeps) fits)
      · exact .cons (.refl start) ⟨onTheWay, opens, closes⟩ (.nil (.refl middle))
  | cons edit edits inductionHypothesis =>
      obtain ⟨⟨fits, changes⟩, later⟩ := Chain.cons_iff.mp merged
      rw [cutHunks]
      split
      · rename_i cuts
        have keeps := Edit.keeps_iff.mp cuts.1
        -- The hunk on the way is closed, and the induction goes on with the last lines that are kept.
        obtain ⟨next, closing, skips, opening, oldStart⟩ := fits.divided keeps cuts.2
        refine .cons (.refl start) ⟨?_, ?_, ?_⟩ (Shows.after_skip ?_ skips)
        · rw [List.reverse_cons]
          exact Chain.append_iff.mpr ⟨middle, onTheWay, closing⟩
        · rw [List.reverse_cons]
          exact opens_of_same_begin opens fun atBegin => ⟨atBegin.oldStart, Or.inl keeps⟩
        · rw [List.reverse_cons, List.getLast?_append]
          rintro _ ⟨⟩
          exact Or.inl keeps
        · refine inductionHypothesis opening later ?_ ?_
          · rintro _ ⟨⟩
            exact ⟨oldStart, Or.inl keeps⟩
          · exact closes_of_same_end closes (Or.inl keeps)
      · refine inductionHypothesis ?_ later ?_ ?_
        · rw [List.reverse_cons]
          exact Chain.append_iff.mpr ⟨middle, onTheWay, .singleton ⟨fits, changes⟩⟩
        · rw [List.reverse_cons, List.append_assoc]
          exact opens
        · rw [List.reverse_cons, List.append_assoc]
          exact closes

theorem Chain.shows_hunks
    (merged : Merged sides first edits last)
    (fromBegin : first.old = 0)
    (toEnd : last.old = sides.old.size)
    (oldStart : ∀ edit ∈ edits.head?, edit.oldStart = 0)
    (radius : Nat) :
    Shows sides first (Patch.hunks radius edits) last := by
  obtain ⟨start, stop, skips, trimmed, skipsLater, opens, closes⟩ :=
    merged_trimEnds merged fromBegin toEnd oldStart radius
  have shown : Shows sides start (Patch.hunks radius edits) stop :=
    shows_cutHunks (.nil start) trimmed opens closes
  exact (shown.before_skip skipsLater).after_skip skips

theorem shows_hunks
    (sides : Sides)
    (radius : Nat) :
    Shows sides ⟨0, 0⟩ (sides.hunks radius) ⟨sides.old.size, sides.new.size⟩ := by
  have opening := openScript_compact_alignAll sides
  have merged := merged_merge opening.script
  exact merged.shows_hunks rfl rfl (fun _ isFirst => head_merge_oldStart opening isFirst) radius

end SourceUpgrade.Patch
