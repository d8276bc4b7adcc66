import SourceUpgrade.Proofs.Session.Agreement

namespace SourceUpgrade

/-!
# Operations in place

`Desk.perform` gives another desk. A desk can also be kept in one place and overwritten, field after
field, while an operation is under way, and then an operation that fails in the middle leaves behind
what it has overwritten. Here every operation is such a program, and `Operation.run_inPlace` says
that it does to the desk what `Desk.perform` does.

So a single operation that fails has not overwritten anything: `Desk.perform_of_error` says it of
performing, where an error comes with the session it was given. The composite operation is not
single: it goes on after it has overwritten its desk.
-/

/-- A program on a desk that stays in its place: when it fails, what it has written is there. -/
abbrev InPlace (α : Type) : Type :=
  EStateM SessionError Desk α

namespace InPlace

variable {α β : Type}

/-! ## Programs -/

/-- Go on with a value if there is one, and fail otherwise. -/
def attempt (outcome : Except SessionError α) : InPlace α :=
  match outcome with
  | .error error => throw error
  | .ok value => return value

/-- Fail with an error in a certain case. -/
def failIf (fails : Bool) (error : SessionError) : InPlace Unit :=
  if fails then throw error else return ()

/-- The session as it is by now. -/
def session : InPlace Session := do
  return (← get).session

/-- Overwrite a part of the session. -/
def overwrite (change : Session → Session) : InPlace Unit :=
  modify fun desk => { desk with session := change desk.session }

/-- Forget what was derived from the inputs before. -/
def forgetDerived : InPlace Unit := do
  overwrite fun session => { session with diffs := [] }
  overwrite fun session => { session with modified := none }
  overwrite fun session => { session with state := session.stateAfterLoad }

/-- Read a repository and load it. -/
def loadRepository (payload : String) : InPlace RepositorySummary := do
  let snapshot ← attempt ((Snapshot.read payload).mapError .repository)
  overwrite fun session => { session with repository := some snapshot }
  forgetDerived
  return ⟨snapshot.size, snapshot.label⟩

/-- Read an analysis and load it, with the guidance for it. -/
def loadAnalysis (payload : String) : InPlace AnalysisSummary := do
  let analysis ← attempt ((Analysis.read payload).mapError .analysis)
  let setup := (← session).setup
  let guidance := setup.guidance analysis
  overwrite fun session =>
    { session with asked := session.asked ++ (setup.question? analysis).toList }
  overwrite fun session => { session with guidance := guidance }
  overwrite fun session => { session with analysis := some analysis }
  forgetDerived
  return ⟨analysis.package, analysis.currentVersion, analysis.targetVersion, guidance.topics⟩

/-- Read a custom rule and add it; the number of custom rules is given back. -/
def addRule (payload : String) : InPlace Nat := do
  let spec ← attempt ((CustomRuleSpec.read payload).mapError .rule)
  overwrite fun session => { session with registry := session.registry.register spec }
  return (← session).registry.customs.length

/-- Set the gate. -/
def setDryRun (dryRun : Bool) : InPlace Bool := do
  overwrite fun session => { session with dryRun := dryRun }
  return (← session).dryRun

/-- List the files and rules of an upgrade. -/
def suggest : InPlace Suggestion := do
  attempt (← session).suggest

/-- Move to another state, if that is allowed. -/
def moveTo (target : State) : InPlace Unit := do
  let state ← attempt ((← session).state.moveTo target)
  overwrite fun session => { session with state := state }

/-- Preview the changes. -/
def generate : InPlace DiffSummary := do
  let session ← session
  let (repository, analysis) ← attempt session.inputs
  let diffs := session.batch repository analysis
  moveTo .previewed
  overwrite fun session => { session with diffs := diffs }
  return (← InPlace.session).diffSummary

end InPlace

/-- Write what the rules make of a previewed file into a copy, and list the file if it differs. -/
def Session.rewriteInto
    (session : Session)
    (repository : Snapshot)
    (analysis : Analysis)
    (written : Snapshot × List String)
    (record : ChangeRecord) :
    Snapshot × List String :=
  match repository.get? record.file with
  | none => written
  | some before =>
      let after := (session.transformed analysis record.file before).content
      if after = before then written
      else (written.1.setContent record.file after, written.2 ++ [record.file])

namespace InPlace

/-- Apply the previewed changes to a copy of the repository, one file after the other. -/
def apply : InPlace ApplyReport := do
  let session ← session
  failIf session.dryRun .dryRunEnabled
  failIf session.diffs.isEmpty .noDiffs
  let (repository, analysis) ← attempt session.inputs
  let written := session.diffs.foldl (session.rewriteInto repository analysis) (repository, [])
  moveTo .applied
  overwrite fun session => { session with modified := some written.1 }
  return ⟨written.2⟩

/-- Write a text to the disk. -/
def writeFile (path text : String) : InPlace Unit := do
  match (← get).disk.write? path text with
  | none => throw (.notWritten path)
  | some disk => modify fun desk => { desk with disk := disk }

/-- Export to the disk. -/
def exportTo (path : String) : InPlace ExportReport := do
  let request ← attempt ((← session).exportRequest (requestedPath path))
  writeFile request.path request.text
  return request.report

/-- Run a program and go on with its value or its error; what it has written is there. -/
def observe (program : InPlace α) : InPlace (Except SessionError α) := fun desk =>
  match program.run desk with
  | .error error after => .ok (.error error) after
  | .ok value after => .ok (.ok value) after

/-- Load both inputs, set the gate, preview, and apply unless the gate is on. -/
def full (repository analysis flag : String) : InPlace Result := do
  let _ ← loadRepository repository
  let _ ← loadAnalysis analysis
  let _ ← setDryRun (readFlag flag)
  let summary ← generate
  if (← session).dryRun then
    return .diffs summary none
  else
    return .diffs summary (some (← observe apply))

/-- What a program gives that changes the session as an operation on it does. -/
def settled
    (desk : Desk)
    (outcome : Except SessionError (Session × α)) :
    EStateM.Result SessionError Desk α :=
  match outcome with
  | .error error => .error error desk
  | .ok (next, value) => .ok value { desk with session := next }

/-- What a program gives that leaves a desk and a reply as an operation does. -/
def answered (answer : Desk × Reply) : EStateM.Result SessionError Desk Result :=
  match answer with
  | (desk, .error error) => .error error desk
  | (desk, .ok result) => .ok result desk

end InPlace

/-- An operation as a program that overwrites the desk. -/
def Operation.inPlace (operation : Operation) : InPlace Result :=
  match operation with
  | .loadRepository payload => return .repository (← InPlace.loadRepository payload)
  | .loadAnalysis payload => return .analysis (← InPlace.loadAnalysis payload)
  | .addRule payload => return .rules (← InPlace.addRule payload)
  | .setDryRun flag => return .dryRun (← InPlace.setDryRun (readFlag flag))
  | .suggest => return .suggestion (← InPlace.suggest)
  | .generate => return .diffs (← InPlace.generate) none
  | .apply => return .applied (← InPlace.apply)
  | .exportTo path => return .exported (← InPlace.exportTo path)
  | .full repository analysis flag => InPlace.full repository analysis flag

/-! ## The same as performing -/

namespace InPlace

/-! ### The first step of a program -/

theorem run_attempt_bind
    (desk : Desk)
    (outcome : Except SessionError α)
    (next : α → InPlace β) :
    (attempt outcome >>= next).run desk =
      match outcome with
      | .error error => .error error desk
      | .ok value => (next value).run desk := by
  cases outcome <;> rfl

theorem run_failIf_bind
    (desk : Desk)
    (fails : Bool)
    (error : SessionError)
    (next : Unit → InPlace β) :
    (failIf fails error >>= next).run desk =
      if fails then .error error desk else (next ()).run desk := by
  cases fails <;> rfl

theorem run_session_bind (desk : Desk) (next : Session → InPlace β) :
    (session >>= next).run desk = (next desk.session).run desk :=
  rfl

theorem run_moveTo_bind (desk : Desk) (target : State) (next : Unit → InPlace β) :
    (moveTo target >>= next).run desk =
      match desk.session.state.moveTo target with
      | .error error => .error error desk
      | .ok state =>
          (next ()).run { desk with session := { desk.session with state := state } } := by
  unfold moveTo
  rw [bind_assoc, run_session_bind, bind_assoc, run_attempt_bind]
  cases desk.session.state.moveTo target <;> rfl

/-! ### Whole programs -/

theorem run_loadRepository (desk : Desk) (payload : String) :
    (loadRepository payload).run desk = settled desk (desk.session.loadRepository payload) := by
  unfold loadRepository Session.loadRepository
  rw [run_attempt_bind]
  cases Snapshot.read payload <;> rfl

theorem run_loadAnalysis (desk : Desk) (payload : String) :
    (loadAnalysis payload).run desk = settled desk (desk.session.loadAnalysis payload) := by
  unfold loadAnalysis Session.loadAnalysis
  rw [run_attempt_bind]
  cases Analysis.read payload <;> rfl

theorem run_addRule (desk : Desk) (payload : String) :
    (addRule payload).run desk = settled desk (desk.session.readRule payload) := by
  unfold addRule Session.readRule
  rw [run_attempt_bind]
  cases CustomRuleSpec.read payload <;> rfl

theorem run_setDryRun (desk : Desk) (dryRun : Bool) :
    (setDryRun dryRun).run desk =
      .ok dryRun { desk with session := desk.session.setDryRun dryRun } :=
  rfl

theorem run_suggest (desk : Desk) :
    suggest.run desk =
      match desk.session.suggest with
      | .error error => .error error desk
      | .ok suggestion => .ok suggestion desk := by
  unfold suggest
  rw [run_session_bind]
  cases desk.session.suggest <;> rfl

theorem run_generate (desk : Desk) :
    generate.run desk = settled desk desk.session.generate := by
  unfold generate Session.generate
  rw [run_session_bind, run_attempt_bind]
  cases desk.session.inputs with
  | error error =>
      rfl
  | ok inputs =>
      dsimp only
      rw [run_moveTo_bind]
      cases desk.session.state.moveTo .previewed <;> rfl

/-- A record is passed over unless applying changes its file. -/
theorem rewriteInto_eq
    (session : Session)
    (repository : Snapshot)
    (analysis : Analysis)
    (written : Snapshot × List String)
    (record : ChangeRecord) :
    session.rewriteInto repository analysis written record =
      if session.rewrites repository analysis record.file then
        (written.1.setContent record.file (session.output repository analysis record.file),
          written.2 ++ [record.file])
      else
        written := by
  unfold Session.rewriteInto Session.rewrites Session.output
  cases found : repository.get? record.file with
  | none =>
      rfl
  | some before =>
      by_cases same : (session.transformed analysis record.file before).content = before
      · simp [same]
      · simp [same]

/-- Record after record, the copy gets all new contents and their files are listed. -/
theorem foldl_rewriteInto
    (session : Session)
    (repository : Snapshot)
    (analysis : Analysis) :
    session.diffs.foldl (session.rewriteInto repository analysis) (repository, []) =
      (Session.withContents repository (session.newContents repository analysis),
        (session.newContents repository analysis).map Prod.fst) := by
  have inTurn (records : List ChangeRecord) (written : Snapshot × List String) :
      let files := (records.map ChangeRecord.file).filter (session.rewrites repository analysis)
      records.foldl (session.rewriteInto repository analysis) written =
        (Session.withContents written.1
            (files.map fun path => (path, session.output repository analysis path)),
          written.2 ++ files) := by
    induction records generalizing written with
    | nil =>
        simp [Session.withContents]
    | cons record rest inductionHypothesis =>
        intro files
        rw [List.foldl_cons, inductionHypothesis, rewriteInto_eq]
        by_cases changes : session.rewrites repository analysis record.file = true
        · simp [files, changes, Session.withContents]
        · simp [files, changes]
  rw [inTurn, Session.newContents_files, Session.newContents_eq, List.nil_append]

theorem run_apply (desk : Desk) :
    apply.run desk = settled desk desk.session.apply := by
  unfold apply Session.apply
  rw [run_session_bind, run_failIf_bind, run_failIf_bind, run_attempt_bind]
  by_cases gate : desk.session.dryRun = true
  · rw [if_pos gate, if_pos gate]
    rfl
  · rw [if_neg gate, if_neg gate]
    by_cases nothing : desk.session.diffs.isEmpty = true
    · rw [if_pos nothing, if_pos nothing]
      rfl
    · rw [if_neg nothing, if_neg nothing]
      cases desk.session.inputs with
      | error error =>
          rfl
      | ok inputs =>
          dsimp only
          rw [foldl_rewriteInto, run_moveTo_bind]
          cases desk.session.state.moveTo .applied <;> rfl

theorem run_writeFile (desk : Desk) (path text : String) :
    (writeFile path text).run desk =
      match desk.disk.write? path text with
      | none => .error (.notWritten path) desk
      | some disk => .ok () { desk with disk := disk } := by
  unfold writeFile
  rw [EStateM.run_bind, EStateM.run_get]
  dsimp only
  cases desk.disk.write? path text <;> rfl

theorem run_exportTo (desk : Desk) (path : String) :
    (exportTo path).run desk =
      match desk.session.exportTo desk.disk (requestedPath path) with
      | .error error => .error error desk
      | .ok (disk, report) => .ok report { desk with disk := disk } := by
  unfold exportTo Session.exportTo
  rw [run_session_bind, run_attempt_bind]
  cases desk.session.exportRequest (requestedPath path) with
  | error error =>
      rfl
  | ok request =>
      dsimp only
      rw [EStateM.run_bind, run_writeFile]
      simp only [bind, Except.bind]
      cases desk.disk.write? request.path request.text <;> rfl

theorem run_observe (desk : Desk) (program : InPlace α) :
    (observe program).run desk =
      match program.run desk with
      | .error error after => .ok (.error error) after
      | .ok value after => .ok (.ok value) after :=
  rfl

theorem run_full (desk : Desk) (repository analysis flag : String) :
    (full repository analysis flag).run desk =
      answered (desk.withSession (desk.session.full repository analysis flag)) := by
  unfold full Session.full
  rw [EStateM.run_bind, run_loadRepository]
  cases desk.session.loadRepository repository with
  | error error =>
      rfl
  | ok withRepository =>
      dsimp only [settled]
      rw [EStateM.run_bind, run_loadAnalysis]
      dsimp only
      cases withRepository.1.loadAnalysis analysis with
      | error error =>
          rfl
      | ok withAnalysis =>
          dsimp only [settled]
          rw [EStateM.run_bind, run_setDryRun]
          dsimp only
          rw [EStateM.run_bind, run_generate]
          dsimp only
          cases (withAnalysis.1.setDryRun (readFlag flag)).generate with
          | error error =>
              rfl
          | ok previewed =>
              dsimp only [settled]
              rw [run_session_bind]
              unfold Session.applyUnlessDry
              by_cases gate : previewed.1.dryRun = true
              · dsimp only
                rw [if_pos gate, if_pos gate]
                rfl
              · dsimp only
                rw [if_neg gate, if_neg gate, EStateM.run_bind, run_observe, run_apply]
                cases previewed.1.apply <;> rfl

/-- A program that does what an operation on the session does answers like the operation. -/
theorem run_answered
    {desk : Desk}
    {program : InPlace α}
    {outcome : Except SessionError (Session × α)}
    (same : program.run desk = settled desk outcome)
    (result : α → Result) :
    (program >>= fun value => pure (result value)).run desk =
      answered (desk.withSession (desk.session.settle result outcome)) := by
  rw [EStateM.run_bind, same]
  cases outcome <;> rfl

end InPlace

/-- An operation in place does to the desk what performing it does, and answers the same. -/
theorem Operation.run_inPlace (operation : Operation) (desk : Desk) :
    operation.inPlace.run desk = InPlace.answered (desk.perform operation) := by
  cases operation with
  | loadRepository payload =>
      rw [inPlace, Desk.perform, InPlace.run_answered (InPlace.run_loadRepository desk payload)]
  | loadAnalysis payload =>
      rw [inPlace, Desk.perform, InPlace.run_answered (InPlace.run_loadAnalysis desk payload)]
  | addRule payload =>
      rw [inPlace, Desk.perform, InPlace.run_answered (InPlace.run_addRule desk payload)]
  | setDryRun flag =>
      rw [inPlace, Desk.perform, EStateM.run_bind, InPlace.run_setDryRun]
      rfl
  | suggest =>
      rw [inPlace, Desk.perform, EStateM.run_bind, InPlace.run_suggest]
      cases desk.session.suggest <;> rfl
  | generate =>
      rw [inPlace, Desk.perform, InPlace.run_answered (InPlace.run_generate desk)]
  | apply =>
      rw [inPlace, Desk.perform, InPlace.run_answered (InPlace.run_apply desk)]
  | exportTo path =>
      rw [inPlace, Desk.perform, Desk.exportTo, EStateM.run_bind, InPlace.run_exportTo]
      cases desk.session.exportTo desk.disk (requestedPath path) <;> rfl
  | full repository analysis flag =>
      rw [inPlace, Desk.perform, InPlace.run_full]

/-! ## Failing -/

/-- An operation on a session that fails leaves the session as it was. -/
theorem Session.settle_of_error
    {α : Type}
    {session : Session}
    {result : α → Result}
    {outcome : Except SessionError (Session × α)}
    {error : SessionError}
    (failed : (session.settle result outcome).2 = .error error) :
    (session.settle result outcome).1 = session := by
  cases outcome with
  | error reason =>
      rfl
  | ok answer =>
      simp [settle] at failed

namespace Desk

/-- A desk on which the session stays the same is the same desk. -/
theorem withSession_of_same
    {desk : Desk}
    {answer : Session × Reply}
    (same : answer.1 = desk.session) :
    (desk.withSession answer).1 = desk := by
  rw [withSession, same]

/-- A single operation that fails leaves the session and the disk as they were. -/
theorem perform_of_error
    {desk : Desk}
    {operation : Operation}
    {error : SessionError}
    (primitive : operation.isPrimitive)
    (failed : (desk.perform operation).2 = .error error) :
    (desk.perform operation).1 = desk := by
  cases operation with
  | loadRepository payload =>
      exact withSession_of_same (Session.settle_of_error failed)
  | loadAnalysis payload =>
      exact withSession_of_same (Session.settle_of_error failed)
  | addRule payload =>
      exact withSession_of_same (Session.settle_of_error failed)
  | setDryRun flag =>
      simp [perform, withSession] at failed
  | suggest =>
      rfl
  | generate =>
      exact withSession_of_same (Session.settle_of_error failed)
  | apply =>
      exact withSession_of_same (Session.settle_of_error failed)
  | exportTo path =>
      change (desk.exportTo path).2 = _ at failed
      change (desk.exportTo path).1 = desk
      unfold exportTo at failed ⊢
      split at failed
      · rfl
      · simp at failed
  | full repository analysis flag =>
      simp [Operation.isPrimitive] at primitive

end Desk

/--
A single operation that overwrites the desk while it is under way fails, if it fails, before it has
overwritten anything: the session and the disk are as they were, which is also what performing the
operation gives.
-/
theorem Operation.unchanged_of_inPlace_error
    {operation : Operation}
    {desk after : Desk}
    {error : SessionError}
    (primitive : operation.isPrimitive)
    (failed : operation.inPlace.run desk = .error error after) :
    after = desk ∧ desk.perform operation = (desk, .error error) := by
  rw [run_inPlace] at failed
  cases performed : desk.perform operation with
  | mk left reply =>
      rw [performed] at failed
      cases reply with
      | ok result =>
          simp [InPlace.answered] at failed
      | error reason =>
          simp only [InPlace.answered, EStateM.Result.error.injEq] at failed
          obtain ⟨rfl, rfl⟩ := failed
          have same : left = desk := by
            have kept := Desk.perform_of_error primitive (congrArg Prod.snd performed)
            rwa [performed] at kept
          exact ⟨same, by rw [same]⟩

/-- A bad analysis is found before anything is overwritten. -/
theorem Operation.run_inPlace_of_bad_analysis
    {payload : String}
    {reason : AnalysisError}
    (bad : Analysis.read payload = .error reason)
    (desk : Desk) :
    (Operation.loadAnalysis payload).inPlace.run desk = .error (.analysis reason) desk := by
  rw [run_inPlace, Desk.perform, Session.loadAnalysis, bad]
  rfl

/-- A bad analysis does not touch a session that has previewed a change. -/
theorem Operation.unchanged_of_inPlace_error_bad_analysis :
    let session := Session.routerSession.previewed Session.routerRepository Session.routerUpgrade
    let desk := Desk.mk session .empty
    let operation := Operation.loadAnalysis "[]"
    ∃ error after,
      operation.isPrimitive ∧
        operation.inPlace.run desk = .error error after ∧
        after = desk ∧ desk.perform operation = (desk, .error error) := by
  intro session desk operation
  have failed : operation.inPlace.run desk = .error (.analysis .notAnObject) desk :=
    run_inPlace_of_bad_analysis (by decide +kernel) desk
  clear_value desk
  exact ⟨_, _, rfl, failed, unchanged_of_inPlace_error rfl failed⟩

end SourceUpgrade
