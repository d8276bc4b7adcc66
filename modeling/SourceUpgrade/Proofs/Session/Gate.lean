import SourceUpgrade.Proofs.Disk
import SourceUpgrade.Proofs.Session.Agreement

namespace SourceUpgrade

/-!
# The gate

A session has a gate against applying changes by mistake. Suggestions tell where it stands, and
nothing else takes notice of it but applying. `Desk.gate_only_guards_applying` says so of two runs
that set the gate at different times, and of a run in which it is on whenever changes could be
applied: nothing is modified in such a run, and its exports are the repository as it was loaded.
-/

/-- Whether an operation sets the gate and does nothing else. -/
def Operation.setsGate : Operation → Bool
  | .setDryRun _ => true
  | _ => false

/-- Whether an operation is one that can apply changes. -/
def Operation.mayApply : Operation → Bool
  | .apply | .full _ _ _ => true
  | _ => false

/-- A reply without what a suggestion says of the gate. -/
def Reply.withoutGate : Reply → Reply
  | .ok (.suggestion found) => .ok (.suggestion { found with dryRun := false })
  | reply => reply

/-- The operations besides those that set the gate. -/
def operationsBesideGate (operations : List Operation) : List Operation :=
  operations.filter fun operation => !operation.setsGate

/-- The replies to the operations besides those that set the gate, without what they say of it. -/
def repliesBesideGate (replies : List (Operation × Reply)) : List (Operation × Reply) :=
  (replies.filter fun answer => !answer.1.setsGate).map fun answer =>
    (answer.1, Reply.withoutGate answer.2)

namespace Desk

/-- The desk with its gate set. -/
def setGate (desk : Desk) (dryRun : Bool) : Desk :=
  { desk with session := desk.session.setDryRun dryRun }

/-- Whether two desks differ in the gate at most. -/
def SameButGate (first second : Desk) : Prop :=
  ∃ dryRun, second = first.setGate dryRun

/-! ## Runs that never apply changes -/

@[simp] theorem setGate_setGate (desk : Desk) (first second : Bool) :
    (desk.setGate first).setGate second = desk.setGate second := rfl

/-- A desk is set to where its gate is already. -/
theorem setGate_self (desk : Desk) : desk.setGate desk.session.dryRun = desk := rfl

/-- A preview does not look at the gate. -/
theorem generate_setDryRun
    (session : Session)
    (dryRun : Bool) :
    (session.setDryRun dryRun).generate =
      session.generate.map fun answer => (answer.1.setDryRun dryRun, answer.2) := by
  unfold Session.generate
  have sameInputs : (session.setDryRun dryRun).inputs = session.inputs := rfl
  rw [sameInputs]
  cases session.inputs with
  | error error =>
      rfl
  | ok inputs =>
      have sameState :
          (session.setDryRun dryRun).state.moveTo .previewed = session.state.moveTo .previewed :=
        rfl
      simp only [bind, Except.bind, sameState]
      cases session.state.moveTo .previewed <;> rfl

/-- An operation that neither sets the gate nor can apply changes does not look at the gate. -/
theorem perform_setGate
    {operation : Operation}
    (notGate : operation.setsGate = false)
    (neverApplies : operation.mayApply = false)
    (desk : Desk)
    (dryRun : Bool) :
    ((desk.setGate dryRun).perform operation).1 = (desk.perform operation).1.setGate dryRun ∧
      Reply.withoutGate ((desk.setGate dryRun).perform operation).2 =
        Reply.withoutGate (desk.perform operation).2 := by
  cases operation with
  | loadRepository payload =>
      simp only [perform, withSession, Session.loadRepository]
      cases Snapshot.read payload <;> exact ⟨rfl, rfl⟩
  | loadAnalysis payload =>
      simp only [perform, withSession, Session.loadAnalysis]
      cases Analysis.read payload <;> exact ⟨rfl, rfl⟩
  | addRule payload =>
      simp only [perform, withSession, Session.readRule]
      cases CustomRuleSpec.read payload <;> exact ⟨rfl, rfl⟩
  | suggest =>
      refine ⟨rfl, ?_⟩
      simp only [perform, Session.suggest]
      have sameInputs : (desk.setGate dryRun).session.inputs = desk.session.inputs := rfl
      rw [sameInputs]
      cases desk.session.inputs <;> rfl
  | generate =>
      have preview : (desk.setGate dryRun).session.generate = _ :=
        generate_setDryRun desk.session dryRun
      simp only [perform, withSession]
      rw [preview]
      cases desk.session.generate <;> exact ⟨rfl, rfl⟩
  | exportTo path =>
      have sameExport :
          (desk.setGate dryRun).session.exportTo (desk.setGate dryRun).disk (requestedPath path) =
            desk.session.exportTo desk.disk (requestedPath path) :=
        rfl
      simp only [perform, exportTo]
      rw [sameExport]
      cases desk.session.exportTo desk.disk (requestedPath path) <;> exact ⟨rfl, rfl⟩
  | setDryRun flag =>
      simp [Operation.setsGate] at notGate
  | apply | full repository analysis flag =>
      simp [Operation.mayApply] at neverApplies

/-- Without the operations that set the gate, a run that never applies is the same but the gate. -/
theorem run_without_gate
    {operations : List Operation}
    (neverApplies : ∀ operation ∈ operations, operation.mayApply = false)
    (desk : Desk)
    (dryRun : Bool) :
    (desk.run (operationsBesideGate operations)).SameButGate
        ((desk.setGate dryRun).run operations) ∧
      repliesBesideGate ((desk.setGate dryRun).replies operations) =
        repliesBesideGate (desk.replies (operationsBesideGate operations)) := by
  induction operations generalizing desk dryRun with
  | nil =>
      exact ⟨⟨dryRun, rfl⟩, rfl⟩
  | cons operation rest inductionHypothesis =>
      rw [List.forall_mem_cons] at neverApplies
      cases notGate : operation.setsGate with
      | true =>
          obtain ⟨flag, rfl⟩ : ∃ flag, operation = .setDryRun flag := by
            cases operation with
            | setDryRun flag => exact ⟨flag, rfl⟩
            | _ => simp [Operation.setsGate] at notGate
          have performed :
              ((desk.setGate dryRun).perform (.setDryRun flag)).1 = desk.setGate (readFlag flag) :=
            rfl
          have later := inductionHypothesis neverApplies.2 desk (readFlag flag)
          simpa [repliesBesideGate, operationsBesideGate, replies, notGate, performed] using later
      | false =>
          obtain ⟨sameDesk, sameReply⟩ :=
            perform_setGate notGate neverApplies.1 desk dryRun
          have later := inductionHypothesis neverApplies.2 (desk.perform operation).1 dryRun
          simpa [repliesBesideGate, operationsBesideGate, replies, notGate, sameDesk, sameReply]
            using later

/-- Runs that never apply and differ in the gate only have the same replies and leave the same. -/
theorem same_beside_gate
    {first second : Desk}
    (same : first.SameButGate second)
    {operations others : List Operation}
    (neverApplies : ∀ operation ∈ operations, operation.mayApply = false)
    (sameOperations : operationsBesideGate operations = operationsBesideGate others) :
    repliesBesideGate (first.replies operations) = repliesBesideGate (second.replies others) ∧
      (first.run operations).SameButGate (second.run others) := by
  have othersNeverApply : ∀ operation ∈ others, operation.mayApply = false := by
    intro operation member
    by_cases gate : operation.setsGate = true
    · cases operation <;> simp_all [Operation.setsGate, Operation.mayApply]
    · have kept : operation ∈ operationsBesideGate others :=
        List.mem_filter.mpr ⟨member, by simpa using gate⟩
      rw [← sameOperations] at kept
      exact neverApplies operation (List.mem_filter.mp kept).1
  obtain ⟨dryRun, rfl⟩ := same
  obtain ⟨⟨left, firstRun⟩, firstReplies⟩ :=
    run_without_gate neverApplies first first.session.dryRun
  obtain ⟨⟨right, secondRun⟩, secondReplies⟩ := run_without_gate othersNeverApply first dryRun
  rw [setGate_self] at firstRun firstReplies
  constructor
  · rw [firstReplies, secondReplies, sameOperations]
  · refine ⟨right, ?_⟩
    rw [firstRun, secondRun, sameOperations, setGate_setGate]

/-! ## Runs with the gate on -/

/-- Whether the gate is on if an operation comes to applying changes. -/
def guards (desk : Desk) : Operation → Prop
  | .apply => desk.session.dryRun = true
  | .full _ _ flag => readFlag flag = true
  | _ => True

/-- Whether the gate is on at every point of a run that comes to applying changes. -/
def Guarded : Desk → List Operation → Prop
  | _, [] => True
  | desk, operation :: rest =>
      desk.guards operation ∧ (desk.perform operation).1.Guarded rest

/-- What an operation does at a desk where nothing is modified and the gate holds changes back. -/
structure KeepsOriginal (desk : Desk) (operation : Operation) : Prop where
  notModified : desk.session.modified = none
  leavesNotModified : (desk.perform operation).1.session.modified = none
  refusesToApply :
    operation = .apply → desk.perform operation = (desk, .error .dryRunEnabled)
  exportsLoaded :
    ∀ path report,
      operation = .exportTo path →
        (desk.perform operation).2 = .ok (.exported report) →
          ∃ repository,
            desk.session.repository = some repository ∧
              desk.disk.write? report.written repository.write =
                  some (desk.perform operation).1.disk ∧
                (desk.perform operation).1.disk.read? report.written = some repository.write

end Desk

/-- While the gate is on, applying fails because of it, whatever else there is or is missing. -/
theorem Session.apply_of_dryRun
    {session : Session}
    (on : session.dryRun = true) :
    session.apply = .error .dryRunEnabled := by
  unfold apply
  rw [if_pos on]
  rfl

/-- No action but applying modifies anything. -/
theorem Session.act_modified_eq_none
    {session : Session}
    {action : Action}
    (notModified : session.modified = none)
    (notApply : action ≠ .apply) :
    (session.act action).modified = none := by
  cases action with
  | loadSnapshot snapshot | loadAnalysis analysis =>
      rfl
  | addRule spec | setDryRun dryRun =>
      exact notModified
  | generate =>
      cases done : session.generate with
      | error error =>
          rwa [act_generate_error done]
      | ok answer =>
          obtain ⟨repository, analysis, -, -, -, next, -⟩ := generate_ok_iff.mp done
          rw [act_generate_ok done, next]
          exact notModified
  | apply =>
      exact absurd rfl notApply

/-- Actions in a row without applying modify nothing. -/
theorem Session.actAll_modified_eq_none
    {session : Session}
    {actions : List Action}
    (notModified : session.modified = none)
    (notApply : .apply ∉ actions) :
    (session.actAll actions).modified = none := by
  induction actions generalizing session with
  | nil =>
      exact notModified
  | cons action rest inductionHypothesis =>
      obtain ⟨notFirst, notLater⟩ := List.ne_and_not_mem_of_not_mem_cons notApply
      exact inductionHypothesis (act_modified_eq_none notModified notFirst.symm) notLater

namespace Desk

/-- An operation other than applying does not come to applying while it is guarded. -/
theorem apply_not_mem_actions
    {desk : Desk}
    {operation : Operation}
    (guarded : desk.guards operation)
    (notApply : operation ≠ .apply) :
    .apply ∉ operation.actions := by
  cases operation with
  | loadRepository payload =>
      simp only [Operation.actions]
      cases Snapshot.read payload <;> simp
  | loadAnalysis payload =>
      simp only [Operation.actions]
      cases Analysis.read payload <;> simp
  | addRule payload =>
      simp only [Operation.actions]
      cases CustomRuleSpec.read payload <;> simp
  | setDryRun flag | suggest | generate | exportTo path =>
      simp [Operation.actions]
  | apply =>
      exact absurd rfl notApply
  | full repository analysis flag =>
      have on : readFlag flag = true := guarded
      simp only [Operation.actions, on]
      cases Snapshot.read repository with
      | error error =>
          simp
      | ok snapshot =>
          cases Analysis.read analysis <;> simp

/-- An export from where nothing is modified leaves the loaded repository at its path. -/
theorem exportTo_of_notModified
    {desk : Desk}
    (notModified : desk.session.modified = none)
    {path : String}
    {report : ExportReport}
    (exported : (desk.exportTo path).2 = .ok (.exported report)) :
    ∃ repository,
      desk.session.repository = some repository ∧
        desk.disk.write? report.written repository.write = some (desk.exportTo path).1.disk ∧
          (desk.exportTo path).1.disk.read? report.written = some repository.write := by
  unfold exportTo at exported ⊢
  cases done : desk.session.exportTo desk.disk (requestedPath path) with
  | error error =>
      simp [done] at exported
  | ok answer =>
      simp only [done, Except.ok.injEq, Result.exported.injEq] at exported ⊢
      obtain ⟨snapshot, held, -, written⟩ := Session.exportTo_ok_iff.mp done
      rw [notModified, Option.none_or] at held
      rw [exported] at written
      exact ⟨snapshot, held, written, Disk.read?_of_write? written⟩

/-- A guarded operation leaves the loaded repository as it is and nothing modified beside it. -/
theorem keepsOriginal_of_guards
    {desk : Desk}
    {operation : Operation}
    (notModified : desk.session.modified = none)
    (guarded : desk.guards operation) :
    desk.KeepsOriginal operation := by
  have refuses : operation = .apply → desk.perform operation = (desk, .error .dryRunEnabled) := by
    rintro rfl
    have on : desk.session.dryRun = true := guarded
    simp only [perform, Session.apply_of_dryRun on]
    rfl
  refine ⟨notModified, ?_, refuses, ?_⟩
  · by_cases isApply : operation = .apply
    · rw [refuses isApply]
      exact notModified
    · rw [perform_session]
      exact Session.actAll_modified_eq_none notModified (apply_not_mem_actions guarded isApply)
  · rintro path report rfl exported
    exact exportTo_of_notModified notModified exported

/-- Every operation of a guarded run leaves the loaded repository as it is. -/
theorem keepsOriginal_of_guarded
    {desk : Desk}
    {operations : List Operation}
    (notModified : desk.session.modified = none)
    (guarded : desk.Guarded operations)
    {earlier later : List Operation}
    {operation : Operation}
    (parts : operations = earlier ++ operation :: later) :
    (desk.run earlier).KeepsOriginal operation := by
  induction earlier generalizing desk operations with
  | nil =>
      rw [parts] at guarded
      exact keepsOriginal_of_guards notModified guarded.1
  | cons first rest inductionHypothesis =>
      rw [parts] at guarded
      exact inductionHypothesis (keepsOriginal_of_guards notModified guarded.1).leavesNotModified
        guarded.2 rfl

/--
Setting the gate says where it has been set, and changes no other reply of a run that never applies
changes but what suggestions tell of it; such runs, with the gate set here or there or not at all,
leave desks that differ in the gate at most. While the gate is on, applying fails because of it,
whatever else there is or is missing. In a run with the gate on whenever changes could be applied,
nothing is ever modified, and each export writes the loaded repository, which is then read at the
path that its report names.
-/
theorem gate_only_guards_applying :
    (∀ (desk : Desk) (flag : String),
        desk.perform (.setDryRun flag) =
          (desk.setGate (readFlag flag), .ok (.dryRun (readFlag flag)))) ∧
      (∀ (first second : Desk) (operations others : List Operation),
        first.SameButGate second →
          (∀ operation ∈ operations, operation.mayApply = false) →
            operationsBesideGate operations = operationsBesideGate others →
              repliesBesideGate (first.replies operations) =
                  repliesBesideGate (second.replies others) ∧
                (first.run operations).SameButGate (second.run others)) ∧
      (∀ session : Session, session.dryRun = true → session.apply = .error .dryRunEnabled) ∧
      ∀ (desk : Desk) (operations : List Operation),
        desk.session.modified = none →
          desk.Guarded operations →
            ∀ earlier operation later,
              operations = earlier ++ operation :: later →
                (desk.run earlier).KeepsOriginal operation := by
  refine ⟨fun _ _ => rfl, ?_, fun _ => Session.apply_of_dryRun, ?_⟩
  · intro first second operations others same neverApplies sameOperations
    exact same_beside_gate same neverApplies sameOperations
  · intro desk operations notModified guarded earlier operation later parts
    exact keepsOriginal_of_guarded notModified guarded parts

/-- A page is previewed with the gate on or off, and kept from being changed while it is on. -/
theorem gate_only_guards_applying_router :
    let desk := Desk.mk Session.routerSession .empty
    let other := desk.setGate false
    let operations := [.generate, .setDryRun "no", .suggest]
    let others := [.setDryRun "off", .generate, .suggest, .setDryRun "yes"]
    let guarded := [.setDryRun "yes", .generate, .apply, .exportTo "out.json"]
    desk.SameButGate other ∧
      (∀ operation ∈ operations, operation.mayApply = false) ∧
      operationsBesideGate operations = operationsBesideGate others ∧
      repliesBesideGate (desk.replies operations) = repliesBesideGate (other.replies others) ∧
      (desk.run operations).SameButGate (other.run others) ∧
      desk.session.dryRun = true ∧
      desk.session.apply = .error .dryRunEnabled ∧
      desk.session.modified = none ∧
      desk.Guarded guarded ∧
      (desk.run [.setDryRun "yes", .generate]).KeepsOriginal .apply := by
  intro desk other operations others guarded
  have same : desk.SameButGate other := ⟨false, rfl⟩
  have neverApplies : ∀ operation ∈ operations, operation.mayApply = false := by
    decide
  have sameOperations : operationsBesideGate operations = operationsBesideGate others := by
    decide
  have notModified : desk.session.modified = none := rfl
  have isGuarded : desk.Guarded guarded :=
    ⟨trivial, trivial, by change _ = true; decide +kernel, trivial, trivial⟩
  obtain ⟨-, twoRuns, refuses, oneRun⟩ := gate_only_guards_applying
  obtain ⟨sameReplies, sameDesks⟩ :=
    twoRuns desk other operations others same neverApplies sameOperations
  exact
    ⟨same, neverApplies, sameOperations, sameReplies, sameDesks, rfl, refuses _ rfl, notModified,
      isGuarded, oneRun desk guarded notModified isGuarded _ _ _ rfl⟩

end Desk

end SourceUpgrade
