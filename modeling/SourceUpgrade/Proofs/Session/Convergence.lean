import SourceUpgrade.Proofs.Rule.Account
import SourceUpgrade.Proofs.Rule.Settled
import SourceUpgrade.Proofs.Session.Agreement
import SourceUpgrade.Proofs.Snapshot.RoundTrip

namespace SourceUpgrade

open Registry (standard)

/-!
# Upgrades come to rest

A cycle of an upgrade loads both inputs, previews the changes, applies them and exports, and the
next cycle takes the exported text as its repository. With the built-in rules alone a cycle leaves
the rules' output in every selected file, and the exported text is read back with these contents. So
the second cycle finds no change, unless the target version is itself an outdated import: then the
third one finds none.
-/

/-! ## Cycles -/

/--
One cycle of an upgrade: load both inputs, turn the gate off and preview the changes; if there are
any, apply them and give the text that is exported.
-/
def Session.cycle
    (session : Session)
    (repository analysis : String) :
    Except SessionError (Session × Option String) := do
  let (session, _) ← session.loadRepository repository
  let (session, _) ← session.loadAnalysis analysis
  let (session, summary) ← (session.setDryRun false).generate
  if summary.count = 0 then
    return (session, none)
  let (session, _) ← session.apply
  let request ← session.exportRequest none
  return (session, some request.text)

/--
Whether cycles with a setup and the built-in rules alone export so many times, each from the text
of the one before, and the next one finds no change.

Each cycle may go on in the session of the one before or in another one.
-/
def Setup.SettlesAfter (setup : Setup) (analysis : String) : Nat → String → Prop
  | 0, repository =>
      ∀ session : Session, session.setup = setup → session.registry = standard →
        ∃ next, session.cycle repository analysis = .ok (next, none)
  | cycles + 1, repository =>
      ∃ text,
        (∀ session : Session, session.setup = setup → session.registry = standard →
          ∃ next : Session,
            session.cycle repository analysis = .ok (next, some text) ∧
              next.setup = setup ∧ next.registry = standard) ∧
          setup.SettlesAfter analysis cycles text

/-! ## What a cycle leaves -/

namespace Setup

/-- What the rules are told of an upgrade. -/
def context (setup : Setup) (analysis : Analysis) : RuleContext :=
  .ofAnalysis analysis (setup.guidance analysis)

/-- The repository with what the built-in rules make of each selected file. -/
def upgraded (setup : Setup) (snapshot : Snapshot) (analysis : Analysis) : Snapshot :=
  snapshot.mapContents fun path content =>
    if setup.selector.selects analysis.prioritized path then
      (standard.run (setup.context analysis) path content).content
    else
      content

/-- Whether the built-in rules find nothing to do in any selected file. -/
def HasSettled (setup : Setup) (snapshot : Snapshot) (analysis : Analysis) : Prop :=
  ∀ file ∈ snapshot.files, setup.selector.selects analysis.prioritized file.path = true →
    standard.Settled (setup.context analysis) file.path file.content

end Setup

namespace Session

variable {session : Session} {snapshot : Snapshot} {analysis : Analysis}

/-- With the built-in rules alone, a preview runs them on each file. -/
theorem transformed_reloaded
    (plain : session.registry = standard)
    (path content : String) :
    (session.reloaded snapshot analysis false).transformed analysis path content =
      standard.run (session.setup.context analysis) path content := by
  show session.registry.run _ path content = _
  rw [plain]
  rfl

/-- With the built-in rules alone, a file is previewed if it is selected and they change it. -/
theorem mem_batch_files_iff
    (plain : session.registry = standard)
    {file : SourceFile}
    (member : file ∈ snapshot.files) :
    file.path ∈
        ((session.reloaded snapshot analysis false).batch snapshot analysis).map
          ChangeRecord.file ↔
      session.setup.selector.selects analysis.prioritized file.path = true ∧
        (standard.run (session.setup.context analysis) file.path file.content).changes ≠ 0 ∧
        file.content ≠
          (standard.run (session.setup.context analysis) file.path file.content).content := by
  have isPath : file.path ∈ snapshot.paths := List.mem_map_of_mem member
  have found : (snapshot.get? file.path).getD "" = file.content := by
    rw [Snapshot.get?_of_mem member, Option.getD_some]
  rw [batch_files, List.mem_filter, FileSelector.select, List.mem_filter,
    Option.isSome_iff_exists]
  simp only [record?, found, transformed_reloaded plain, RecordStyle.record?_eq_some_iff,
    exists_and_left, exists_eq, and_true, isPath, true_and]
  rfl

/-- With the built-in rules alone, a preview of settled files finds no change. -/
theorem batch_eq_nil_of_hasSettled
    (plain : session.registry = standard)
    (settled : session.setup.HasSettled snapshot analysis) :
    (session.reloaded snapshot analysis false).batch snapshot analysis = [] := by
  refine (List.map_eq_nil_iff (f := ChangeRecord.file)).mp (List.eq_nil_iff_forall_not_mem.mpr ?_)
  intro path previewed
  have isPath := (batch_files_sublist _ snapshot analysis).subset previewed
  obtain ⟨file, member, rfl⟩ := List.mem_map.mp isPath
  obtain ⟨selected, counted, -⟩ := (mem_batch_files_iff plain member).mp previewed
  rw [settled file member selected] at counted
  exact counted rfl

/-- With the built-in rules alone, applying leaves their output in every selected file. -/
theorem modified_eq_upgraded
    (plain : session.registry = standard) :
    let previewed := (session.reloaded snapshot analysis false).previewed snapshot analysis
    (previewed.applied snapshot analysis).modified =
      some (session.setup.upgraded snapshot analysis) := by
  intro previewed
  refine congrArg some ((withContents_newContents previewed snapshot analysis).trans ?_)
  refine Snapshot.mapContents_congr ?_
  intro file member
  have ran :
      previewed.transformed analysis file.path file.content =
        standard.run (session.setup.context analysis) file.path file.content :=
    transformed_reloaded plain file.path file.content
  have listed :
      file.path ∈ previewed.diffs.map ChangeRecord.file ↔ _ :=
    mem_batch_files_iff plain member
  rw [ran]
  by_cases selected : session.setup.selector.selects analysis.prioritized file.path = true
  · rw [if_pos selected]
    split
    · rfl
    · rename_i notListed
      -- A selected file without a record is one that the rules leave as it is.
      by_contra differs
      refine notListed (listed.mpr ⟨selected, ?_, differs⟩)
      intro none
      exact differs (Registry.content_eq_of_changes_eq_zero none).symm
  · rw [if_neg selected, if_neg fun previewed => selected (listed.mp previewed).1]

/-- A cycle whose inputs can be read finds no change, or exports the repository upgraded. -/
theorem cycle_eq
    (plain : session.registry = standard)
    {repository artifact : String}
    (readRepository : Snapshot.read repository = .ok snapshot)
    (readAnalysis : Analysis.read artifact = .ok analysis) :
    let previewed := (session.reloaded snapshot analysis false).previewed snapshot analysis
    session.cycle repository artifact =
      if previewed.diffs = [] then .ok (previewed, none)
      else
        .ok (previewed.applied snapshot analysis,
          some (session.setup.upgraded snapshot analysis).write) := by
  intro previewed
  have generated :
      (((session.loadSnapshot snapshot).1.loadReadAnalysis analysis).1.setDryRun false).generate =
        .ok (previewed, previewed.diffSummary) :=
    generate_reloaded session snapshot analysis false
  have counted : previewed.diffSummary.count = previewed.diffs.length :=
    List.length_map ..
  rw [cycle, loadRepository, readRepository]
  simp only [bind, Except.bind, loadAnalysis, readAnalysis, generated, counted,
    List.length_eq_zero_iff]
  split
  · rfl
  · rename_i someDiffs
    have applied :
        previewed.apply =
          .ok (previewed.applied snapshot analysis,
            ⟨(previewed.newContents snapshot analysis).map Prod.fst⟩) := by
      refine apply_ok_iff.mpr ⟨rfl, someDiffs, snapshot, analysis, rfl, rfl, ?_, rfl, rfl⟩
      change State.applied ∈ State.allowed .previewed
      decide
    have exported :
        (previewed.applied snapshot analysis).exportRequest none =
          .ok ⟨session.setup.settings.exportPath,
            (session.setup.upgraded snapshot analysis).write,
            (session.setup.upgraded snapshot analysis).size⟩ := by
      rw [exportRequest, modified_eq_upgraded plain]
      rfl
    simp only [applied, exported]
    rfl

end Session

/-! ## Coming to rest -/

namespace Setup

open BuiltInRule (FreeOfImports)

variable {setup : Setup} {snapshot : Snapshot} {analysis : Analysis}

/-- A selected file that an upgrade has left has what the rules make of the file before. -/
theorem exists_of_mem_upgraded
    {file : SourceFile}
    (member : file ∈ (setup.upgraded snapshot analysis).reread.files)
    (selected : setup.selector.selects analysis.prioritized file.path = true) :
    ∃ before ∈ snapshot.files, before.path = file.path ∧
      file.content =
        (Registry.closedForm (setup.context analysis) file.path before.content).content := by
  obtain ⟨changed, inUpgraded, rfl⟩ := List.mem_map.mp member
  obtain ⟨before, inFiles, rfl⟩ := List.mem_map.mp inUpgraded
  refine ⟨before, inFiles, rfl, ?_⟩
  rw [← Registry.run_standard_content]
  exact if_pos selected

/-- An upgraded repository has settled unless the comment on a configuration file is an import. -/
theorem hasSettled_upgraded
    (plain :
      ∀ file ∈ snapshot.files, setup.selector.selects analysis.prioritized file.path = true →
        BuiltInRule.configExperimental.fires (setup.context analysis) file.path file.content =
            true →
          FreeOfImports analysis.targetVersion) :
    setup.HasSettled (setup.upgraded snapshot analysis).reread analysis := by
  intro file member selected
  obtain ⟨before, inFiles, samePath, content⟩ := exists_of_mem_upgraded member selected
  rw [content]
  rw [← samePath] at selected ⊢
  exact Registry.settled_closedForm (plain before inFiles selected)

/-- A repository that has been upgraded twice has settled. -/
theorem hasSettled_upgraded_upgraded :
    setup.HasSettled
      (setup.upgraded (setup.upgraded snapshot analysis).reread analysis).reread analysis := by
  refine hasSettled_upgraded ?_
  intro file member selected firing
  -- The first upgrade has left its comment, so the second one adds none that could be an import.
  obtain ⟨before, -, -, content⟩ := exists_of_mem_upgraded member selected
  rw [content] at firing
  exact absurd (firing.symm.trans (Registry.not_fires_configExperimental _ _ _))
    Bool.true_eq_false.mp

variable {repository artifact : String}

/-- A cycle finds no change in a settled repository. -/
theorem settlesAfter_zero
    (readRepository : Snapshot.read repository = .ok snapshot)
    (readAnalysis : Analysis.read artifact = .ok analysis)
    (settled : setup.HasSettled snapshot analysis) :
    setup.SettlesAfter artifact 0 repository := by
  rintro session rfl plain
  refine ⟨_, (session.cycle_eq plain readRepository readAnalysis).trans (if_pos ?_)⟩
  exact Session.batch_eq_nil_of_hasSettled plain settled

/-- Once the upgraded repository settles, the repository settles after one cycle more at most. -/
theorem exists_settlesAfter_succ
    (readRepository : Snapshot.read repository = .ok snapshot)
    (readAnalysis : Analysis.read artifact = .ok analysis)
    {most : Nat}
    (later :
      ∃ cycles ≤ most,
        setup.SettlesAfter artifact cycles (setup.upgraded snapshot analysis).write) :
    ∃ cycles ≤ most + 1, setup.SettlesAfter artifact cycles repository := by
  have sameBatch {session : Session} (same : session.setup = setup)
      (plain : session.registry = standard) :
      (session.reloaded snapshot analysis false).batch snapshot analysis =
        ((Session.ofSetup setup).reloaded snapshot analysis false).batch snapshot analysis := by
    refine Session.batch_congr same plain ?_ snapshot analysis
    subst same
    rfl
  by_cases idle :
      ((Session.ofSetup setup).reloaded snapshot analysis false).batch snapshot analysis = []
  · refine ⟨0, Nat.zero_le _, ?_⟩
    intro session same plain
    refine ⟨_, (session.cycle_eq plain readRepository readAnalysis).trans (if_pos ?_)⟩
    exact (sameBatch same plain).trans idle
  · obtain ⟨cycles, few, settles⟩ := later
    refine ⟨cycles + 1, Nat.succ_le_succ few, (setup.upgraded snapshot analysis).write, ?_, settles⟩
    rintro session rfl plain
    refine ⟨_, (session.cycle_eq plain readRepository readAnalysis).trans (if_neg ?_), rfl, plain⟩
    exact fun none => idle ((sameBatch rfl plain).symm.trans none)

/--
Whatever repository and analysis are accepted, and whatever the setup is: with the built-in rules
alone, cycles of an upgrade find no change after two that did at most, and after one if the target
version has no outdated import in it.
-/
theorem settlesAfter_of_read
    (setup : Setup)
    (readRepository : Snapshot.read repository = .ok snapshot)
    (readAnalysis : Analysis.read artifact = .ok analysis) :
    (∃ cycles ≤ 2, setup.SettlesAfter artifact cycles repository) ∧
      (FreeOfImports analysis.targetVersion →
        ∃ cycles ≤ 1, setup.SettlesAfter artifact cycles repository) := by
  have sound : (setup.upgraded snapshot analysis).Sound :=
    (Snapshot.sound_of_read readRepository).mapContents _
  constructor
  · refine exists_settlesAfter_succ readRepository readAnalysis ?_
    refine exists_settlesAfter_succ sound.read_write_reread readAnalysis ?_
    have soundLater := sound.reread.mapContents
    exact ⟨0, le_rfl,
      settlesAfter_zero (soundLater _).read_write_reread readAnalysis hasSettled_upgraded_upgraded⟩
  · intro free
    refine exists_settlesAfter_succ readRepository readAnalysis ?_
    exact ⟨0, le_rfl,
      settlesAfter_zero sound.read_write_reread readAnalysis
        (hasSettled_upgraded fun _ _ _ _ => free)⟩

/-- A configuration file is commented on once if the version to go to is a plain one. -/
theorem settlesAfter_of_read_config :
    let setup := Setup.ofSettings .standard .failing Session.standard_selector_isOk
    let repository :=
      "\x7b\"files\":[\x7b\"path\":\"next.config.js\",\"content\":\"experimental\"\x7d],\"a\":0.5\x7d"
    let artifact := "\x7b\"package\":\"next\",\"target_version\":\"14\"\x7d"
    let snapshot : Snapshot :=
      ⟨[⟨"next.config.js", "experimental", []⟩], "",
        [("a", .number (.float ⟨false, ⟨4503599627370496, -53⟩⟩))], by decide⟩
    let analysis : Analysis := ⟨"next", "", "14", .none, []⟩
    Snapshot.read repository = .ok snapshot ∧
      Analysis.read artifact = .ok analysis ∧
      FreeOfImports "14" ∧
      (∃ cycles ≤ 2, setup.SettlesAfter artifact cycles repository) ∧
      ∃ cycles ≤ 1, setup.SettlesAfter artifact cycles repository := by
  intro setup repository artifact snapshot analysis
  have readRepository : Snapshot.read repository = .ok snapshot := by
    decide +kernel
  have readAnalysis : Analysis.read artifact = .ok analysis := by
    decide +kernel
  have free : FreeOfImports "14" := by
    unfold FreeOfImports
    decide +kernel
  obtain ⟨withinTwo, withinOne⟩ := settlesAfter_of_read setup readRepository readAnalysis
  exact ⟨readRepository, readAnalysis, free, withinTwo, withinOne free⟩

end Setup

end SourceUpgrade
