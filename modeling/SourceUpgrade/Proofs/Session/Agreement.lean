import SourceUpgrade.Proofs.Session.Batch
import SourceUpgrade.Proofs.Session.Lifecycle

namespace SourceUpgrade

/-!
# Previews agree with applications

Applying does not replay the patches that were previewed: it runs the rules again. As long as
neither an input nor a rule has come since, it writes what was previewed, whatever else was done in
the meantime. `Session.UpToDate` is the invariant that operations of this kind keep, and
`Desk.apply_agrees_with_preview` is the statement about runs of them.
-/

/-- Whether an action leaves the inputs, the rules and the previewed changes alone. -/
def Action.keepsPreview : Action → Bool
  | .setDryRun _ | .apply => true
  | .loadSnapshot _ | .loadAnalysis _ | .addRule _ | .generate => false

/-- Whether an operation does so, also because what it was given cannot be read. -/
def Operation.keepsPreview (operation : Operation) : Bool :=
  operation.actions.all Action.keepsPreview

/-- The setup for settings of which the pattern for paths can be used. -/
def Setup.ofSettings
    (settings : Settings)
    (source : GuidanceSource)
    (usable : settings.selector.isOk = true) :
    Setup :=
  match found : settings.selector with
  | .ok selector => ⟨settings, selector, source, found⟩
  | .error _ => absurd usable (by simp [found, Except.isOk, Except.toBool])

namespace Session

/-- Two sessions with the same inputs, rules and previewed changes. -/
structure SameBasis (first second : Session) : Prop where
  setup_eq : second.setup = first.setup
  registry_eq : second.registry = first.registry
  repository_eq : second.repository = first.repository
  analysis_eq : second.analysis = first.analysis
  guidance_eq : second.guidance = first.guidance
  diffs_eq : second.diffs = first.diffs

namespace SameBasis

/-- The gate and applications keep the basis. -/
theorem act
    (session : Session)
    {action : Action}
    (keeps : action.keepsPreview) :
    session.SameBasis (session.act action) := by
  cases action with
  | setDryRun dryRun =>
      exact ⟨rfl, rfl, rfl, rfl, rfl, rfl⟩
  | apply =>
      cases done : session.apply with
      | error error =>
          rw [act_apply_error done]
          exact ⟨rfl, rfl, rfl, rfl, rfl, rfl⟩
      | ok answer =>
          obtain ⟨-, -, _, _, -, -, -, next, -⟩ := apply_ok_iff.mp done
          rw [act_apply_ok done, next]
          exact ⟨rfl, rfl, rfl, rfl, rfl, rfl⟩
  | loadSnapshot snapshot | loadAnalysis other | addRule spec | generate =>
      simp [Action.keepsPreview] at keeps

/-- Any number of such actions keeps the basis. -/
theorem actAll
    (session : Session)
    {actions : List Action}
    (keep : ∀ action ∈ actions, action.keepsPreview) :
    session.SameBasis (session.actAll actions) := by
  induction actions generalizing session with
  | nil =>
      exact ⟨rfl, rfl, rfl, rfl, rfl, rfl⟩
  | cons action rest inductionHypothesis =>
      rw [List.forall_mem_cons] at keep
      have first := act session keep.1
      have later := inductionHypothesis (session.act action) keep.2
      exact
        ⟨later.setup_eq.trans first.setup_eq,
          later.registry_eq.trans first.registry_eq,
          later.repository_eq.trans first.repository_eq,
          later.analysis_eq.trans first.analysis_eq,
          later.guidance_eq.trans first.guidance_eq,
          later.diffs_eq.trans first.diffs_eq⟩

end SameBasis

/-- The previewed changes are those that the rules make of the loaded inputs by now. -/
structure UpToDate
    (session : Session)
    (repository : Snapshot)
    (analysis : Analysis) :
    Prop where
  repository_eq : session.repository = some repository
  analysis_eq : session.analysis = some analysis
  diffs_eq : session.diffs = session.batch repository analysis

namespace UpToDate

variable {session : Session} {repository : Snapshot} {analysis : Analysis}

/-- A preview is up to date when it has been made. -/
theorem of_generate
    {before : Session}
    {summary : DiffSummary}
    (done : before.generate = .ok (session, summary)) :
    ∃ repository analysis, session.UpToDate repository analysis := by
  obtain ⟨repository, analysis, hasRepository, hasAnalysis, -, rfl, -⟩ := generate_ok_iff.mp done
  exact ⟨repository, analysis, hasRepository, hasAnalysis, rfl⟩

/-- A preview stays up to date as long as its basis stays. -/
theorem of_sameBasis
    {later : Session}
    (upToDate : session.UpToDate repository analysis)
    (same : session.SameBasis later) :
    later.UpToDate repository analysis where
  repository_eq := same.repository_eq.trans upToDate.repository_eq
  analysis_eq := same.analysis_eq.trans upToDate.analysis_eq
  diffs_eq := by
    rw [same.diffs_eq, batch_congr same.setup_eq same.registry_eq same.guidance_eq]
    exact upToDate.diffs_eq

/-- An up to date record is the record of its file and of the rules' output for it. -/
theorem record?_of_mem
    (upToDate : session.UpToDate repository analysis)
    {record : ChangeRecord}
    (member : record ∈ session.diffs) :
    ∃ before,
      repository.get? record.file = some before ∧
        session.setup.settings.recordStyle.record? record.file before
            (session.transformed analysis record.file before).content
            (session.transformed analysis record.file before).changes
            (session.transformed analysis record.file before).notes =
          some record :=
  exists_of_mem_batch (upToDate.diffs_eq ▸ member)

/-- Applying up to date changes writes every previewed file. -/
theorem newContents_files
    (upToDate : session.UpToDate repository analysis) :
    (session.newContents repository analysis).map Prod.fst =
      session.diffs.map ChangeRecord.file := by
  rw [Session.newContents_files, List.filter_eq_self]
  intro path member
  obtain ⟨record, recorded, rfl⟩ := List.mem_map.mp member
  obtain ⟨before, found, made⟩ := upToDate.record?_of_mem recorded
  obtain ⟨-, differ, -⟩ := RecordStyle.record?_eq_some_iff.mp made
  simpa [rewrites, output, found] using differ.symm

end UpToDate

end Session

/-- Whether a record tells the change from one content to another in the way of the settings. -/
structure ChangeRecord.Describes
    (record : ChangeRecord)
    (settings : Settings)
    (before after : String) :
    Prop where
  distinguished :
    Digest.fingerprint settings.fingerprintLength before ≠
        Digest.fingerprint settings.fingerprintLength after →
      record.beforeHash = Digest.fingerprint settings.fingerprintLength before ∧
        record.afterHash = Digest.fingerprint settings.fingerprintLength after
  collided :
    Digest.fingerprint settings.fingerprintLength before =
        Digest.fingerprint settings.fingerprintLength after →
      record.beforeHash = Digest.ofText before ∧ record.afterHash = Digest.ofText after
  patch : record.patch = Patch.unified record.file before after settings.contextRadius

namespace Session

/-- A record that was made describes the change it was made of. -/
theorem describes_of_record?
    {settings : Settings}
    {path before after : String}
    {changes : Nat}
    {notes : List String}
    {record : ChangeRecord}
    (made : settings.recordStyle.record? path before after changes notes = some record) :
    record.Describes settings before after := by
  obtain ⟨-, -, rfl⟩ := RecordStyle.record?_eq_some_iff.mp made
  refine ⟨?_, ?_, rfl⟩
  · intro differ
    simp [RecordStyle.fingerprints, Settings.recordStyle, differ]
  · intro same
    simp [RecordStyle.fingerprints, Settings.recordStyle, same]

/--
Whether applying the previewed changes succeeds, reports exactly their files in their order, and
leaves a modified repository in which every change is as its record describes it.
-/
def AppliesAsPreviewed (session : Session) : Prop :=
  ∃ next report repository copy,
    session.apply = .ok (next, report) ∧
      report.files = session.diffs.map ChangeRecord.file ∧
      report.count = session.diffs.length ∧
      session.repository = some repository ∧
      next.modified = some copy ∧
      ∀ record ∈ session.diffs,
        ∃ original content,
          repository.get? record.file = some original ∧
            copy.get? record.file = some content ∧
            record.Describes session.setup.settings original content

/-- With the gate off, up to date changes of a coherent session apply as previewed. -/
theorem UpToDate.appliesAsPreviewed
    {session : Session}
    {repository : Snapshot}
    {analysis : Analysis}
    (upToDate : session.UpToDate repository analysis)
    (coherent : session.Coherent)
    (someDiffs : session.diffs ≠ [])
    (off : session.dryRun = false) :
    session.AppliesAsPreviewed := by
  have done :=
    coherent.apply_ok off someDiffs upToDate.repository_eq upToDate.analysis_eq
  refine ⟨_, _, repository, _, done, upToDate.newContents_files, ?_, upToDate.repository_eq, rfl,
    ?_⟩
  · simp [ApplyReport.count, upToDate.newContents_files]
  · intro record member
    obtain ⟨original, found, made⟩ := upToDate.record?_of_mem member
    exact ⟨original, _, found, get?_withContents_newContents member found,
      describes_of_record? made⟩

end Session

/--
If a preview of a reachable session found changes, and nothing was loaded, registered or previewed
in the run since then, then these changes are still there, and with the gate off they apply as
previewed.
-/
theorem Desk.apply_agrees_with_preview
    {before previewed : Session}
    {summary : DiffSummary}
    {disk : Disk}
    {later : List Operation}
    (reached : before.Reachable)
    (preview : before.generate = .ok (previewed, summary))
    (someDiffs : previewed.diffs ≠ [])
    (keep : ∀ operation ∈ later, operation.keepsPreview)
    (off : ((Desk.mk previewed disk).run later).session.dryRun = false) :
    ((Desk.mk previewed disk).run later).session.diffs = previewed.diffs ∧
      ((Desk.mk previewed disk).run later).session.AppliesAsPreviewed := by
  rw [run_session] at off ⊢
  have keepAll : ∀ action ∈ later.flatMap Operation.actions, action.keepsPreview := by
    intro action member
    obtain ⟨operation, performed, stands⟩ := List.mem_flatMap.mp member
    exact List.all_eq_true.mp (keep operation performed) action stands
  have same := Session.SameBasis.actAll previewed keepAll
  obtain ⟨repository, analysis, fresh⟩ := Session.UpToDate.of_generate preview
  have coherent : (previewed.actAll (later.flatMap Operation.actions)).Coherent :=
    .of_reachable ((reached.generate preview).actAll _)
  refine ⟨same.diffs_eq, ?_⟩
  exact (fresh.of_sameBasis same).appliesAsPreviewed coherent (same.diffs_eq ▸ someDiffs) off

namespace Session

/-! ### An upgrade of one page -/

/-- A repository with one page, which imports the router from its outdated place. -/
def routerRepository : Snapshot where
  files := [⟨"app/page.tsx", "import \x7b useRouter \x7d from 'next/router';\n", []⟩]
  label := "router"
  extra := []
  distinctPaths := by simp

/-- An upgrade that concerns this page. -/
def routerUpgrade : Analysis where
  package := "next"
  currentVersion := "13.4.0"
  targetVersion := "14.0.0"
  prioritized := .none
  guidance := []

/-- The standard selector can be built. -/
theorem standard_selector_isOk : Settings.standard.selector.isOk = true := by
  decide +kernel

/-- A session with the page and its upgrade loaded. -/
def routerSession : Session :=
  (ofSetup (.ofSettings .standard .failing standard_selector_isOk)).reloaded
    routerRepository routerUpgrade true

/-- The session with one page can be reached. -/
theorem routerSession_reachable : routerSession.Reachable :=
  (((Reachable.start _).loadSnapshot routerRepository).loadAnalysis routerUpgrade).setDryRun true

end Session

/-- The page is rewritten as previewed, also after it has been rewritten and exported before. -/
theorem Desk.apply_agrees_with_preview_router :
    let previewed := Session.routerSession.previewed Session.routerRepository Session.routerUpgrade
    let later := [.setDryRun "no", .suggest, .apply, .exportTo "out.json"]
    let session := ((Desk.mk previewed .empty).run later).session
    Session.routerSession.Reachable ∧
      Session.routerSession.generate = .ok (previewed, previewed.diffSummary) ∧
      previewed.diffs ≠ [] ∧
      (∀ operation ∈ later, operation.keepsPreview) ∧
      session.dryRun = false ∧
      session.diffs = previewed.diffs ∧
      session.AppliesAsPreviewed := by
  intro previewed later session
  have someDiffs : previewed.diffs ≠ [] := by
    apply List.isEmpty_eq_false_iff.mp
    decide +kernel
  have keep : ∀ operation ∈ later, operation.keepsPreview := by
    decide
  have off : session.dryRun = false := by
    decide +kernel
  have done : Session.routerSession.generate = .ok (previewed, previewed.diffSummary) :=
    Session.generate_reloaded _ Session.routerRepository Session.routerUpgrade true
  refine ⟨Session.routerSession_reachable, done, someDiffs, keep, off, ?_⟩
  exact
    apply_agrees_with_preview Session.routerSession_reachable done someDiffs keep off

end SourceUpgrade
