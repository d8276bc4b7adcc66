import SourceUpgrade.Proofs.Session.Isolation

namespace SourceUpgrade

/-!
# What is told of rules that do not compile

A rule that does not compile makes its note on every file, but a preview keeps the notes of the files
that change and no others, and such a rule changes none. `Session.failure_told_iff` says that a
preview tells of the rule exactly if other rules change one of the selected files;
`Session.failure_untold` is a session in which they change none.
-/

namespace Session

/-- Whether a file is selected and changed by the rules that compile. -/
def ChangesFile
    (session : Session)
    (repository : Snapshot)
    (analysis : Analysis)
    (path : String) :
    Prop :=
  ∃ before,
    repository.get? path = some before ∧
      session.setup.settings.IsCode path ∧
        analysis.prioritized.Admits path ∧
          (session.registry.compiling.run (.ofAnalysis analysis session.guidance) path
              before).content ≠
            before

section

variable {session : Session} {repository : Snapshot} {analysis : Analysis}

/-- The previewed files are those that the rules that compile change. -/
theorem mem_files_batch_iff (path : String) :
    path ∈ (session.batch repository analysis).map ChangeRecord.file ↔
      session.ChangesFile repository analysis path := by
  refine ((session.covers_batch repository analysis).listed_iff path).trans ?_
  refine exists_congr fun before => ?_
  rw [(Registry.run_compiling ..).1]

section

variable
    {broken : CustomRule}
    (fails : broken.compiles = false)
    (registered : broken ∈ session.registry.customs)

include fails registered

/-- All records of a preview carry the note of a rule that does not compile. -/
theorem errorNote_mem_of_mem_batch
    {record : ChangeRecord}
    (member : record ∈ session.batch repository analysis) :
    CustomRule.errorNote broken.name ∈ record.notes := by
  obtain ⟨before, -, made⟩ := exists_of_mem_batch member
  obtain ⟨-, -, parts⟩ := RecordStyle.record?_eq_some_iff.mp made
  rw [parts]
  exact Registry.errorNote_mem_run fails registered ..

/--
With both inputs and a rule that does not compile the preview succeeds. The rules make its note on
every file, and every record carries it; but there is a record with the note only if other rules
change a selected file. If they change none, nothing is previewed and the summary is empty.
-/
theorem failure_told_iff
    (reached : session.Reachable)
    (hasRepository : session.repository = some repository)
    (hasAnalysis : session.analysis = some analysis) :
    let note := CustomRule.errorNote broken.name
    ∃ next summary,
      session.generate = .ok (next, summary) ∧
        (∀ path content, note ∈ (session.transformed analysis path content).notes) ∧
        (∀ record ∈ next.diffs, note ∈ record.notes) ∧
        ((∃ record ∈ next.diffs, note ∈ record.notes) ↔
          ∃ path, session.ChangesFile repository analysis path) ∧
        ((∀ path, ¬ session.ChangesFile repository analysis path) →
          next.diffs = [] ∧ summary = ⟨[], []⟩) := by
  intro note
  have told : ∀ record ∈ session.batch repository analysis, note ∈ record.notes :=
    fun record => errorNote_mem_of_mem_batch fails registered
  refine ⟨session.previewed repository analysis, _,
    (Coherent.of_reachable reached).generate_ok hasRepository hasAnalysis, ?noted, told, ?iff, ?none⟩
  case noted =>
    exact fun path content => Registry.errorNote_mem_run fails registered _ path content
  case iff =>
    constructor
    · rintro ⟨record, member, -⟩
      exact ⟨record.file, (mem_files_batch_iff _).mp (List.mem_map_of_mem member)⟩
    · rintro ⟨path, changed⟩
      obtain ⟨record, member, -⟩ := List.mem_map.mp ((mem_files_batch_iff path).mpr changed)
      exact ⟨record, member, told record member⟩
  case none =>
    intro unchanged
    have noFile : (session.batch repository analysis).map ChangeRecord.file = [] := by
      refine List.eq_nil_iff_forall_not_mem.mpr fun path member => ?_
      exact unchanged path ((mem_files_batch_iff path).mp member)
    have noDiffs : (session.previewed repository analysis).diffs = [] :=
      List.map_eq_nil_iff.mp noFile
    exact ⟨noDiffs, by simp [diffSummary, noDiffs]⟩

end

end

/-- The rule for routers changes a page, whose record tells of the rule that does not compile. -/
theorem failure_told_iff_router :
    let broken := CustomRule.ofSpec ⟨"bad", "[", "x"⟩
    let session :=
      ((ofSetup (.ofSettings .standard .failing standard_selector_isOk)).reloaded
        twoPages twoPagesUpgrade true).addRule broken.spec
    broken.compiles = false ∧
      broken ∈ session.registry.customs ∧
      session.Reachable ∧
      session.repository = some twoPages ∧
      session.analysis = some twoPagesUpgrade ∧
      ∃ next summary,
        session.generate = .ok (next, summary) ∧
          ∃ record ∈ next.diffs, CustomRule.errorNote "bad" ∈ record.notes := by
  intro broken session
  have fails : broken.compiles = false := by
    decide +kernel
  have registered : broken ∈ session.registry.customs := List.mem_singleton.mpr rfl
  have reached : session.Reachable :=
    ((((Reachable.start _).loadSnapshot twoPages).loadAnalysis twoPagesUpgrade).setDryRun
      true).addRule broken.spec
  have listed :
      (session.batch twoPages twoPagesUpgrade).map ChangeRecord.file = ["page.ts", "logo.ts"] := by
    decide +kernel
  obtain ⟨next, summary, done, -, -, told, -⟩ :=
    failure_told_iff fails registered reached rfl rfl
  refine ⟨fails, registered, reached, rfl, rfl, next, summary, done, told.mpr ⟨"page.ts", ?_⟩⟩
  rw [← mem_files_batch_iff, listed]
  exact List.mem_cons_self

/-- No rule changes the only page, so its preview does not tell of the rule that does not compile. -/
theorem failure_untold :
    let broken := CustomRule.ofSpec ⟨"bad", "[", "x"⟩
    let desk :=
      (Desk.mk (.ofSetup (.ofSettings .standard .failing standard_selector_isOk)) .empty).run
        [.loadRepository "\x7b\"files\":[\x7b\"path\":\"a.ts\",\"content\":\"a\"\x7d]\x7d",
          .loadAnalysis "\x7b\x7d",
          .addRule "\x7b\"name\":\"bad\",\"pattern\":\"[\",\"replacement\":\"x\"\x7d"]
    let session := desk.session
    broken.compiles = false ∧
      broken ∈ session.registry.customs ∧
      ∃ repository analysis next summary,
        session.repository = some repository ∧
          session.analysis = some analysis ∧
          session.setup.selector.select repository analysis.prioritized = ["a.ts"] ∧
          session.generate = .ok (next, summary) ∧
          ¬ ∃ record ∈ next.diffs, CustomRule.errorNote "bad" ∈ record.notes := by
  intro broken desk session
  have fails : broken.compiles = false := by
    decide +kernel
  have reached : session.Reachable := Desk.run_reachable (.start _) _
  have specs : session.registry.customs.map CustomRule.spec = [⟨"bad", "[", "x"⟩] := by
    decide +kernel
  have hasAnalysis : session.analysis = some ⟨"", "", "", .none, []⟩ := by
    decide +kernel
  have selected :
      session.repository.map (session.setup.selector.select · .none) = some ["a.ts"] := by
    decide +kernel
  have nothing :
      session.repository.map (session.batch · ⟨"", "", "", .none, []⟩) = some [] := by
    decide +kernel
  clear_value session
  have registered : broken ∈ session.registry.customs := by
    obtain ⟨rule, member, spec⟩ := List.mem_map.mp (specs ▸ List.mem_singleton.mpr rfl)
    rwa [rule.eq_ofSpec, spec] at member
  obtain ⟨repository, hasRepository, select⟩ := Option.map_eq_some_iff.mp selected
  have noRecord : (session.previewed repository ⟨"", "", "", .none, []⟩).diffs = [] := by
    simpa [previewed, hasRepository] using nothing
  refine ⟨fails, registered, repository, _, _, _, hasRepository, hasAnalysis, select,
    (Coherent.of_reachable reached).generate_ok hasRepository hasAnalysis, ?_⟩
  rintro ⟨record, member, -⟩
  rw [noRecord] at member
  exact List.not_mem_nil member

end Session

end SourceUpgrade
