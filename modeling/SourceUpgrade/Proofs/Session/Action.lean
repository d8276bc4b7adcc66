import SourceUpgrade.Proofs.Outcome
import SourceUpgrade.Session.Operation

namespace SourceUpgrade

/-!
# Actions on a session

An operation comes with texts, and it may fail before anything has happened. Once its texts are
read, what it does to a session is a list of actions: it loads an input, adds a rule, sets the gate,
previews the changes or applies them. An action that fails leaves the session as it was.

`generate_ok_iff` and `apply_ok_iff` say when the two actions that can fail succeed and what they
leave behind. `Desk.run_session` says that a run of operations does to a session what its actions
do, so the sessions that can come about are those that are `Reachable` by actions.
-/

/-- One thing done to a session, with what it was given already read. -/
inductive Action where
  | loadSnapshot (snapshot : Snapshot)
  | loadAnalysis (analysis : Analysis)
  | addRule (spec : CustomRuleSpec)
  | setDryRun (dryRun : Bool)
  | generate
  | apply

namespace Session

/-! ## Previews and applications -/

/-- Both inputs are given exactly if both are loaded. -/
theorem inputs_ok_iff
    {session : Session}
    {repository : Snapshot}
    {analysis : Analysis} :
    session.inputs = .ok (repository, analysis) ↔
      session.repository = some repository ∧ session.analysis = some analysis := by
  unfold inputs
  cases session.repository with
  | none =>
      simp
  | some loaded =>
      cases session.analysis with
      | none =>
          simp
      | some known =>
          simp

/-- The session in which the changes of given inputs have just been previewed. -/
def previewed
    (session : Session)
    (repository : Snapshot)
    (analysis : Analysis) :
    Session :=
  { session with diffs := session.batch repository analysis, state := .previewed }

/-- The session in which the previewed changes have just been applied to given inputs. -/
def applied
    (session : Session)
    (repository : Snapshot)
    (analysis : Analysis) :
    Session :=
  { session with
    modified := some (withContents repository (session.newContents repository analysis))
    state := .applied }

/-- A move is possible exactly to an allowed state. -/
theorem moveTo_ok_iff
    {source target next : State} :
    source.moveTo target = .ok next ↔ target ∈ source.allowed ∧ next = target := by
  unfold State.moveTo
  by_cases allowed : target ∈ source.allowed
  · simp [allowed, eq_comm]
  · simp [allowed]

/-- A preview succeeds exactly if both inputs are loaded and the state allows it. -/
theorem generate_ok_iff
    {session next : Session}
    {summary : DiffSummary} :
    session.generate = .ok (next, summary) ↔
      ∃ repository analysis,
        session.repository = some repository ∧
          session.analysis = some analysis ∧
          .previewed ∈ session.state.allowed ∧
          next = session.previewed repository analysis ∧
          summary = next.diffSummary := by
  unfold generate
  simp only [bind_ok_iff, Prod.exists, inputs_ok_iff, moveTo_ok_iff, pure, Except.pure,
    Except.ok.injEq, Prod.mk.injEq]
  constructor
  · rintro ⟨repository, analysis, ⟨hasRepository, hasAnalysis⟩, state, ⟨allowed, rfl⟩, rfl, rfl⟩
    exact ⟨repository, analysis, hasRepository, hasAnalysis, allowed, rfl, rfl⟩
  · rintro ⟨repository, analysis, hasRepository, hasAnalysis, allowed, rfl, rfl⟩
    exact ⟨repository, analysis, ⟨hasRepository, hasAnalysis⟩, .previewed, ⟨allowed, rfl⟩, rfl, rfl⟩

/-- Applying succeeds exactly with the gate off and changes there, if inputs and state allow it. -/
theorem apply_ok_iff
    {session next : Session}
    {report : ApplyReport} :
    session.apply = .ok (next, report) ↔
      session.dryRun = false ∧
        session.diffs ≠ [] ∧
        ∃ repository analysis,
          session.repository = some repository ∧
            session.analysis = some analysis ∧
            .applied ∈ session.state.allowed ∧
            next = session.applied repository analysis ∧
            report = ⟨(session.newContents repository analysis).map Prod.fst⟩ := by
  unfold apply
  by_cases gate : session.dryRun = true
  · rw [if_pos gate]
    simp [gate, bind, Except.bind, throw, throwThe, MonadExceptOf.throw]
  · rw [if_neg gate]
    by_cases empty : session.diffs = []
    · rw [if_pos (by simp [empty])]
      simp [empty, bind, Except.bind, throw, throwThe, MonadExceptOf.throw]
    · rw [if_neg (by simp [empty])]
      simp only [bind_ok_iff, Prod.exists, inputs_ok_iff, moveTo_ok_iff, pure,
        Except.pure, Except.ok.injEq, Prod.mk.injEq]
      constructor
      · rintro ⟨repository, analysis, ⟨hasRepository, hasAnalysis⟩, state, ⟨allowed, rfl⟩,
          rfl, rfl⟩
        exact ⟨by simpa using gate, empty, repository, analysis, hasRepository, hasAnalysis,
          allowed, rfl, rfl⟩
      · rintro ⟨-, -, repository, analysis, hasRepository, hasAnalysis, allowed, rfl, rfl⟩
        exact ⟨repository, analysis, ⟨hasRepository, hasAnalysis⟩, .applied, ⟨allowed, rfl⟩,
          rfl, rfl⟩

/-- An export succeeds exactly if there is a repository and its text can be written. -/
theorem exportTo_ok_iff
    {session : Session}
    {disk next : Disk}
    {path : Option String}
    {report : ExportReport} :
    session.exportTo disk path = .ok (next, report) ↔
      ∃ snapshot,
        session.modified.or session.repository = some snapshot ∧
          report = ⟨path.getD session.setup.settings.exportPath, snapshot.size⟩ ∧
          disk.write? report.written snapshot.write = some next := by
  unfold exportTo exportRequest
  cases session.modified.or session.repository with
  | none =>
      simp [bind, Except.bind]
  | some snapshot =>
      simp only [bind, Except.bind, Option.some.injEq, exists_eq_left']
      cases written :
          disk.write? (path.getD session.setup.settings.exportPath) snapshot.write with
      | none =>
          simp +contextual [throw, throwThe, MonadExceptOf.throw, written]
      | some disk =>
          simp only [pure, Except.pure, ExportRequest.report, Except.ok.injEq, Prod.mk.injEq]
          constructor
          · rintro ⟨rfl, rfl⟩
            exact ⟨rfl, written⟩
          · rintro ⟨rfl, same⟩
            exact ⟨Option.some.inj (written.symm.trans same), rfl⟩

/-! ## Actions -/

/-- The session after an action; it stays as it was if the action fails. -/
def act (session : Session) : Action → Session
  | .loadSnapshot snapshot => (session.loadSnapshot snapshot).1
  | .loadAnalysis analysis => (session.loadReadAnalysis analysis).1
  | .addRule spec => session.addRule spec
  | .setDryRun dryRun => session.setDryRun dryRun
  | .generate =>
      match session.generate with
      | .error _ => session
      | .ok (next, _) => next
  | .apply =>
      match session.apply with
      | .error _ => session
      | .ok (next, _) => next

theorem act_generate_ok
    {session : Session}
    {answer : Session × DiffSummary}
    (done : session.generate = .ok answer) :
    session.act .generate = answer.1 := by
  simp [act, done]

theorem act_generate_error
    {session : Session}
    {error : SessionError}
    (failed : session.generate = .error error) :
    session.act .generate = session := by
  simp [act, failed]

theorem act_apply_ok
    {session : Session}
    {answer : Session × ApplyReport}
    (done : session.apply = .ok answer) :
    session.act .apply = answer.1 := by
  simp [act, done]

theorem act_apply_error
    {session : Session}
    {error : SessionError}
    (failed : session.apply = .error error) :
    session.act .apply = session := by
  simp [act, failed]

/-- The session after actions in a row. -/
def actAll (session : Session) (actions : List Action) : Session :=
  actions.foldl act session

@[simp] theorem actAll_nil (session : Session) : session.actAll [] = session := rfl

@[simp] theorem actAll_cons
    (session : Session)
    (action : Action)
    (rest : List Action) :
    session.actAll (action :: rest) = (session.act action).actAll rest := rfl

/-- Actions in a row can be taken in two parts. -/
theorem actAll_append
    (session : Session)
    (earlier later : List Action) :
    session.actAll (earlier ++ later) = (session.actAll earlier).actAll later := by
  simp [actAll, List.foldl_append]

/-- A session that comes about from a new one. -/
inductive Reachable : Session → Prop where
  | start (setup : Setup) :
      Reachable (ofSetup setup)
  | loadSnapshot
      {session : Session}
      (reached : Reachable session)
      (snapshot : Snapshot) :
      Reachable (session.loadSnapshot snapshot).1
  | loadAnalysis
      {session : Session}
      (reached : Reachable session)
      (analysis : Analysis) :
      Reachable (session.loadReadAnalysis analysis).1
  | addRule
      {session : Session}
      (reached : Reachable session)
      (spec : CustomRuleSpec) :
      Reachable (session.addRule spec)
  | setDryRun
      {session : Session}
      (reached : Reachable session)
      (dryRun : Bool) :
      Reachable (session.setDryRun dryRun)
  | generate
      {session next : Session}
      {summary : DiffSummary}
      (reached : Reachable session)
      (done : session.generate = .ok (next, summary)) :
      Reachable next
  | apply
      {session next : Session}
      {report : ApplyReport}
      (reached : Reachable session)
      (done : session.apply = .ok (next, report)) :
      Reachable next

namespace Reachable

/-- A session that has been started is reachable. -/
theorem of_start
    {settings : Settings}
    {source : GuidanceSource}
    {session : Session}
    (started : Session.start settings source = .ok session) :
    session.Reachable := by
  unfold Session.start at started
  split at started
  · simp at started
  · split at started
    · simp at started
    · obtain rfl := Except.ok.inj started
      exact .start _

/-- Actions lead from reachable sessions to reachable sessions. -/
theorem act
    {session : Session}
    (reached : session.Reachable)
    (action : Action) :
    (session.act action).Reachable := by
  cases action with
  | loadSnapshot snapshot =>
      exact reached.loadSnapshot snapshot
  | loadAnalysis analysis =>
      exact reached.loadAnalysis analysis
  | addRule spec =>
      exact reached.addRule spec
  | setDryRun dryRun =>
      exact reached.setDryRun dryRun
  | generate =>
      cases done : session.generate with
      | error error =>
          rwa [act_generate_error done]
      | ok answer =>
          rw [act_generate_ok done]
          exact reached.generate done
  | apply =>
      cases done : session.apply with
      | error error =>
          rwa [act_apply_error done]
      | ok answer =>
          rw [act_apply_ok done]
          exact reached.apply done

/-- Actions in a row lead from reachable sessions to reachable sessions. -/
theorem actAll
    {session : Session}
    (reached : session.Reachable)
    (actions : List Action) :
    (session.actAll actions).Reachable := by
  induction actions generalizing session with
  | nil =>
      exact reached
  | cons action rest inductionHypothesis =>
      exact inductionHypothesis (reached.act action)

end Reachable

end Session

/-! ## Operations as actions -/

namespace Operation

/-- The actions that an operation stands for, as far as its texts can be read. -/
def actions : Operation → List Action
  | .loadRepository payload =>
      match Snapshot.read payload with
      | .error _ => []
      | .ok snapshot => [.loadSnapshot snapshot]
  | .loadAnalysis payload =>
      match Analysis.read payload with
      | .error _ => []
      | .ok analysis => [.loadAnalysis analysis]
  | .addRule payload =>
      match CustomRuleSpec.read payload with
      | .error _ => []
      | .ok spec => [.addRule spec]
  | .setDryRun flag => [.setDryRun (readFlag flag)]
  | .suggest => []
  | .generate => [.generate]
  | .apply => [.apply]
  | .exportTo _ => []
  | .full repository analysis flag =>
      match Snapshot.read repository with
      | .error _ => []
      | .ok snapshot =>
          match Analysis.read analysis with
          | .error _ => [.loadSnapshot snapshot]
          | .ok read =>
              [.loadSnapshot snapshot, .loadAnalysis read, .setDryRun (readFlag flag), .generate] ++
                if readFlag flag then [] else [.apply]

end Operation

namespace Session

/-- The session with both inputs loaded and the gate set. -/
def reloaded
    (session : Session)
    (snapshot : Snapshot)
    (analysis : Analysis)
    (dryRun : Bool) :
    Session :=
  ((session.loadSnapshot snapshot).1.loadReadAnalysis analysis).1.setDryRun dryRun

/-- Once both inputs are loaded, nothing keeps the changes from being previewed. -/
theorem generate_reloaded
    (session : Session)
    (snapshot : Snapshot)
    (analysis : Analysis)
    (dryRun : Bool) :
    let previewed := (session.reloaded snapshot analysis dryRun).previewed snapshot analysis
    (session.reloaded snapshot analysis dryRun).generate =
      .ok (previewed, previewed.diffSummary) := by
  refine generate_ok_iff.mpr ⟨snapshot, analysis, rfl, rfl, ?_, rfl, rfl⟩
  change State.previewed ∈ State.allowed .loaded
  decide

/-- Loading both inputs, setting the gate and previewing lead to the previewed session. -/
theorem actAll_reload
    (session : Session)
    (snapshot : Snapshot)
    (analysis : Analysis)
    (dryRun : Bool) :
    session.actAll
        [.loadSnapshot snapshot, .loadAnalysis analysis, .setDryRun dryRun, .generate] =
      (session.reloaded snapshot analysis dryRun).previewed snapshot analysis := by
  rw [actAll_cons, actAll_cons, actAll_cons, actAll_cons, actAll_nil]
  exact act_generate_ok (generate_reloaded session snapshot analysis dryRun)

/-- Previewing leaves the gate as it has been set. -/
theorem previewed_reloaded_dryRun
    (session : Session)
    (snapshot : Snapshot)
    (analysis : Analysis)
    (dryRun : Bool) :
    ((session.reloaded snapshot analysis dryRun).previewed snapshot analysis).dryRun = dryRun :=
  rfl

/-- Applying unless the gate is on leaves what applying leaves, or the session as it was. -/
theorem applyUnlessDry_session (session : Session) :
    session.applyUnlessDry.1 = if session.dryRun then session else session.act .apply := by
  unfold applyUnlessDry
  split
  · rfl
  · cases done : session.apply with
    | error error =>
        rw [act_apply_error done]
    | ok answer =>
        rw [act_apply_ok done]

section Full

variable {repository analysis flag : String}

/-- A repository that cannot be read ends the composite operation before anything has happened. -/
theorem full_of_bad_repository
    {session : Session}
    {error : SnapshotError}
    (bad : Snapshot.read repository = .error error) :
    session.full repository analysis flag = (session, .error (.repository error)) := by
  simp [full, loadRepository, bad]

/-- An analysis that cannot be read ends the composite operation after the repository is loaded. -/
theorem full_of_bad_analysis
    {session : Session}
    {snapshot : Snapshot}
    {error : AnalysisError}
    (good : Snapshot.read repository = .ok snapshot)
    (bad : Analysis.read analysis = .error error) :
    session.full repository analysis flag =
      ((session.loadSnapshot snapshot).1, .error (.analysis error)) := by
  simp [full, loadRepository, loadAnalysis, good, bad]

/-- With both inputs read, the composite operation previews and applies unless the gate is on. -/
theorem full_of_read
    {session : Session}
    {snapshot : Snapshot}
    {read : Analysis}
    (goodRepository : Snapshot.read repository = .ok snapshot)
    (goodAnalysis : Analysis.read analysis = .ok read) :
    let previewed := (session.reloaded snapshot read (readFlag flag)).previewed snapshot read
    session.full repository analysis flag =
      (previewed.applyUnlessDry.1,
        .ok (.diffs previewed.diffSummary previewed.applyUnlessDry.2)) := by
  have done := generate_reloaded session snapshot read (readFlag flag)
  unfold reloaded at done ⊢
  simp [full, loadRepository, loadAnalysis, goodRepository, goodAnalysis, done]

/-- The composite operation does to a session what its actions do. -/
theorem full_session
    (session : Session)
    (repository analysis flag : String) :
    (session.full repository analysis flag).1 =
      session.actAll (Operation.full repository analysis flag).actions := by
  cases goodRepository : Snapshot.read repository with
  | error error =>
      simp [full_of_bad_repository goodRepository, Operation.actions, goodRepository]
  | ok snapshot =>
      cases goodAnalysis : Analysis.read analysis with
      | error error =>
          simp [full_of_bad_analysis goodRepository goodAnalysis, Operation.actions,
            goodRepository, goodAnalysis, act]
      | ok read =>
          rw [full_of_read goodRepository goodAnalysis]
          simp only [applyUnlessDry_session, Operation.actions, goodRepository, goodAnalysis,
            actAll_append, actAll_reload]
          rw [previewed_reloaded_dryRun]
          by_cases gate : readFlag flag = true
          · rw [if_pos gate, if_pos gate, actAll_nil]
          · rw [if_neg gate, if_neg gate, actAll_cons, actAll_nil]

end Full

end Session

namespace Desk

/-- An operation does to the session what its actions do. -/
theorem perform_session
    (desk : Desk)
    (operation : Operation) :
    (desk.perform operation).1.session = desk.session.actAll operation.actions := by
  cases operation with
  | loadRepository payload =>
      simp only [perform, withSession, Session.loadRepository, Operation.actions]
      cases Snapshot.read payload <;> rfl
  | loadAnalysis payload =>
      simp only [perform, withSession, Session.loadAnalysis, Operation.actions]
      cases Analysis.read payload <;> rfl
  | addRule payload =>
      simp only [perform, withSession, Session.readRule, Operation.actions]
      cases CustomRuleSpec.read payload <;> rfl
  | setDryRun flag =>
      rfl
  | suggest =>
      rfl
  | generate =>
      change (desk.session.settle _ desk.session.generate).1 = desk.session.act .generate
      cases done : desk.session.generate with
      | error error =>
          rw [Session.act_generate_error done]
          rfl
      | ok answer =>
          rw [Session.act_generate_ok done]
          rfl
  | apply =>
      change (desk.session.settle _ desk.session.apply).1 = desk.session.act .apply
      cases done : desk.session.apply with
      | error error =>
          rw [Session.act_apply_error done]
          rfl
      | ok answer =>
          rw [Session.act_apply_ok done]
          rfl
  | exportTo path =>
      simp only [perform, exportTo, Operation.actions]
      split <;> rfl
  | full repository analysis flag =>
      exact desk.session.full_session repository analysis flag

/-- The desk after operations in a row. -/
def run (desk : Desk) (operations : List Operation) : Desk :=
  operations.foldl (fun reached operation => (reached.perform operation).1) desk

@[simp] theorem run_nil (desk : Desk) : desk.run [] = desk := rfl

@[simp] theorem run_cons
    (desk : Desk)
    (operation : Operation)
    (rest : List Operation) :
    desk.run (operation :: rest) = (desk.perform operation).1.run rest := rfl

/-- The operations of a run, each with the reply to it. -/
def replies (desk : Desk) : List Operation → List (Operation × Reply)
  | [] => []
  | operation :: rest =>
      (operation, (desk.perform operation).2) :: (desk.perform operation).1.replies rest

/-- A run of operations does to the session what their actions do. -/
theorem run_session
    (desk : Desk)
    (operations : List Operation) :
    (desk.run operations).session =
      desk.session.actAll (operations.flatMap Operation.actions) := by
  induction operations generalizing desk with
  | nil =>
      rfl
  | cons operation rest inductionHypothesis =>
      change ((desk.perform operation).1.run rest).session = _
      rw [inductionHypothesis, perform_session, List.flatMap_cons, Session.actAll_append]

/-- Operations lead from reachable sessions to reachable sessions. -/
theorem run_reachable
    {desk : Desk}
    (reached : desk.session.Reachable)
    (operations : List Operation) :
    (desk.run operations).session.Reachable := by
  rw [run_session]
  exact reached.actAll _

end Desk

end SourceUpgrade
