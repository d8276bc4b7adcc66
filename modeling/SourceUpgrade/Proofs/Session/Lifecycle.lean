import SourceUpgrade.Proofs.Session.Action

namespace SourceUpgrade

/-!
# The lifecycle of a session

The state of a session, its inputs, its previewed changes and its modified repository are set by
different operations. `Session.Coherent` says how they belong together; it holds of every reachable
session. What follows from it is that a session only ever moves to allowed states, and that a wrong
move is never the reason why an operation fails.
-/

namespace State

/-- Staying is always allowed. -/
theorem self_mem_allowed (state : State) : state ∈ state.allowed := by
  cases state <;> decide

/-- Going back to loaded inputs is always allowed. -/
theorem loaded_mem_allowed (state : State) : .loaded ∈ state.allowed := by
  cases state <;> decide

/-- A preview is allowed in every state but the first. -/
theorem previewed_mem_allowed
    {state : State}
    (notEmpty : state ≠ .empty) :
    .previewed ∈ state.allowed := by
  cases state with
  | empty =>
      exact absurd rfl notEmpty
  | loaded | previewed | applied =>
      decide

end State

namespace Session

/-- How the state of a session, its inputs and what was derived from them belong together. -/
structure Coherent (session : Session) : Prop where
  empty_iff :
    session.state = .empty ↔ session.repository = none ∨ session.analysis = none
  derived :
    session.diffs ≠ [] ∨ session.modified ≠ none →
      session.state = .previewed ∨ session.state = .applied
  applied :
    session.state = .applied → session.modified ≠ none ∧ session.diffs ≠ []

namespace Coherent

/-- A new session is coherent. -/
theorem ofSetup (setup : Setup) : (Session.ofSetup setup).Coherent where
  empty_iff := by
    simp [Session.ofSetup]
  derived := by
    simp [Session.ofSetup]
  applied := by
    simp [Session.ofSetup]

/-- Loading an input makes any session coherent, whatever it was before. -/
theorem afterLoad (session : Session) : session.afterLoad.Coherent where
  empty_iff := by
    unfold Session.afterLoad stateAfterLoad
    cases session.repository <;> cases session.analysis <;> simp
  derived := by
    simp [Session.afterLoad]
  applied := by
    unfold Session.afterLoad stateAfterLoad
    cases session.repository <;> cases session.analysis <;> simp

/-- A preview of loaded inputs leaves a coherent session. -/
theorem previewed
    {session : Session}
    {repository : Snapshot}
    {analysis : Analysis}
    (hasRepository : session.repository = some repository)
    (hasAnalysis : session.analysis = some analysis) :
    (session.previewed repository analysis).Coherent where
  empty_iff := by
    simp [Session.previewed, hasRepository, hasAnalysis]
  derived := by
    simp [Session.previewed]
  applied := by
    simp [Session.previewed]

/-- Applying changes that are there to loaded inputs leaves a coherent session. -/
theorem applied_of_diffs
    {session : Session}
    {repository : Snapshot}
    {analysis : Analysis}
    (hasRepository : session.repository = some repository)
    (hasAnalysis : session.analysis = some analysis)
    (someDiffs : session.diffs ≠ []) :
    (session.applied repository analysis).Coherent where
  empty_iff := by
    simp [Session.applied, hasRepository, hasAnalysis]
  derived := by
    simp [Session.applied]
  applied := by
    simp [Session.applied, someDiffs]

/-- Every reachable session is coherent. -/
theorem of_reachable
    {session : Session}
    (reached : session.Reachable) :
    session.Coherent := by
  induction reached with
  | start setup =>
      exact .ofSetup setup
  | loadSnapshot reached snapshot inductionHypothesis =>
      exact .afterLoad _
  | loadAnalysis reached analysis inductionHypothesis =>
      exact .afterLoad _
  | addRule reached spec inductionHypothesis =>
      exact ⟨inductionHypothesis.empty_iff, inductionHypothesis.derived,
        inductionHypothesis.applied⟩
  | setDryRun reached dryRun inductionHypothesis =>
      exact ⟨inductionHypothesis.empty_iff, inductionHypothesis.derived,
        inductionHypothesis.applied⟩
  | generate reached done inductionHypothesis =>
      obtain ⟨repository, analysis, hasRepository, hasAnalysis, -, rfl, -⟩ :=
        generate_ok_iff.mp done
      exact .previewed hasRepository hasAnalysis
  | apply reached done inductionHypothesis =>
      obtain ⟨-, someDiffs, repository, analysis, hasRepository, hasAnalysis, -, rfl, -⟩ :=
        apply_ok_iff.mp done
      exact .applied_of_diffs hasRepository hasAnalysis someDiffs

/-- With both inputs loaded, a preview succeeds. -/
theorem generate_ok
    {session : Session}
    {repository : Snapshot}
    {analysis : Analysis}
    (coherent : session.Coherent)
    (hasRepository : session.repository = some repository)
    (hasAnalysis : session.analysis = some analysis) :
    session.generate =
      .ok (session.previewed repository analysis,
        (session.previewed repository analysis).diffSummary) := by
  have notEmpty : session.state ≠ .empty := by
    intro empty
    rcases coherent.empty_iff.mp empty with missing | missing
    · simp [hasRepository] at missing
    · simp [hasAnalysis] at missing
  exact generate_ok_iff.mpr
    ⟨repository, analysis, hasRepository, hasAnalysis, State.previewed_mem_allowed notEmpty,
      rfl, rfl⟩

/-- Previewed changes have inputs from which they come. -/
theorem inputs_of_diffs
    {session : Session}
    (coherent : session.Coherent)
    (someDiffs : session.diffs ≠ []) :
    ∃ repository analysis,
      session.repository = some repository ∧ session.analysis = some analysis := by
  have notEmpty : session.state ≠ .empty := by
    rcases coherent.derived (.inl someDiffs) with previewed | applied
    · simp [previewed]
    · simp [applied]
  cases hasRepository : session.repository with
  | none =>
      exact absurd (coherent.empty_iff.mpr (.inl hasRepository)) notEmpty
  | some repository =>
      cases hasAnalysis : session.analysis with
      | none =>
          exact absurd (coherent.empty_iff.mpr (.inr hasAnalysis)) notEmpty
      | some analysis =>
          exact ⟨repository, analysis, rfl, rfl⟩

/-- With the gate off, previewed changes can be applied. -/
theorem apply_ok
    {session : Session}
    {repository : Snapshot}
    {analysis : Analysis}
    (coherent : session.Coherent)
    (off : session.dryRun = false)
    (someDiffs : session.diffs ≠ [])
    (hasRepository : session.repository = some repository)
    (hasAnalysis : session.analysis = some analysis) :
    session.apply =
      .ok (session.applied repository analysis,
        ⟨(session.newContents repository analysis).map Prod.fst⟩) := by
  have allowed : .applied ∈ session.state.allowed := by
    rcases coherent.derived (.inl someDiffs) with previewed | applied
    · rw [previewed]
      decide
    · rw [applied]
      decide
  exact apply_ok_iff.mpr
    ⟨off, someDiffs, repository, analysis, hasRepository, hasAnalysis, allowed, rfl, rfl⟩

/-- An action moves a coherent session to an allowed state. -/
theorem act_state_mem_allowed
    {session : Session}
    (coherent : session.Coherent)
    (action : Action) :
    (session.act action).state ∈ session.state.allowed := by
  -- A load goes to `loaded` unless the other input is missing, and then the state was `empty`.
  cases action with
  | loadSnapshot snapshot =>
      change stateAfterLoad { session with repository := some snapshot } ∈ _
      cases hasAnalysis : session.analysis with
      | none =>
          rw [coherent.empty_iff.mpr (.inr hasAnalysis)]
          simp [stateAfterLoad, State.allowed]
      | some analysis =>
          simpa [stateAfterLoad, hasAnalysis] using session.state.loaded_mem_allowed
  | loadAnalysis analysis =>
      change (if session.repository.isSome && true then State.loaded else .empty) ∈ _
      cases hasRepository : session.repository with
      | none =>
          rw [coherent.empty_iff.mpr (.inl hasRepository)]
          simp [State.allowed]
      | some repository =>
          simpa using session.state.loaded_mem_allowed
  | addRule spec =>
      exact session.state.self_mem_allowed
  | setDryRun dryRun =>
      exact session.state.self_mem_allowed
  | generate =>
      cases done : session.generate with
      | error error =>
          rw [act_generate_error done]
          exact session.state.self_mem_allowed
      | ok answer =>
          obtain ⟨repository, analysis, -, -, allowed, next, -⟩ := generate_ok_iff.mp done
          rw [act_generate_ok done, next]
          exact allowed
  | apply =>
      cases done : session.apply with
      | error error =>
          rw [act_apply_error done]
          exact session.state.self_mem_allowed
      | ok answer =>
          obtain ⟨-, -, repository, analysis, -, -, allowed, next, -⟩ := apply_ok_iff.mp done
          rw [act_apply_ok done, next]
          exact allowed

/-- A preview fails in a coherent session only because an input is missing. -/
theorem generate_error
    {session : Session}
    {error : SessionError}
    (coherent : session.Coherent)
    (failed : session.generate = .error error) :
    error = .repositoryNotLoaded ∨ error = .analysisNotLoaded := by
  cases hasRepository : session.repository with
  | none =>
      simp [generate, inputs, hasRepository, bind, Except.bind] at failed
      exact .inl failed.symm
  | some repository =>
      cases hasAnalysis : session.analysis with
      | none =>
          simp [generate, inputs, hasRepository, hasAnalysis, bind, Except.bind] at failed
          exact .inr failed.symm
      | some analysis =>
          rw [coherent.generate_ok hasRepository hasAnalysis] at failed
          simp at failed

/-- Applying fails in a coherent session only because of the gate or for want of changes. -/
theorem apply_error
    {session : Session}
    {error : SessionError}
    (coherent : session.Coherent)
    (failed : session.apply = .error error) :
    session.dryRun = true ∧ error = .dryRunEnabled ∨
      session.dryRun = false ∧ session.diffs = [] ∧ error = .noDiffs := by
  cases gate : session.dryRun with
  | true =>
      simp [apply, gate, bind, Except.bind, throw, throwThe, MonadExceptOf.throw] at failed
      exact .inl ⟨rfl, failed.symm⟩
  | false =>
      by_cases empty : session.diffs = []
      · simp [apply, gate, empty, bind, Except.bind, throw, throwThe,
          MonadExceptOf.throw] at failed
        exact .inr ⟨rfl, empty, failed.symm⟩
      · obtain ⟨repository, analysis, hasRepository, hasAnalysis⟩ :=
          coherent.inputs_of_diffs empty
        rw [coherent.apply_ok gate empty hasRepository hasAnalysis] at failed
        simp at failed

end Coherent

end Session

/-! ## Runs of operations -/

/-- Whether an operation is a single one; the composite one is made of several. -/
def Operation.isPrimitive : Operation → Bool
  | .full _ _ _ => false
  | _ => true

/-- A single operation stands for at most one action. -/
theorem Operation.actions_of_isPrimitive
    {operation : Operation}
    (primitive : operation.isPrimitive) :
    operation.actions = [] ∨ ∃ action, operation.actions = [action] := by
  cases operation with
  | loadRepository payload =>
      simp only [actions]
      cases Snapshot.read payload <;> simp
  | loadAnalysis payload =>
      simp only [actions]
      cases Analysis.read payload <;> simp
  | addRule payload =>
      simp only [actions]
      cases CustomRuleSpec.read payload <;> simp
  | setDryRun flag =>
      exact .inr ⟨_, rfl⟩
  | suggest =>
      exact .inl rfl
  | generate =>
      exact .inr ⟨_, rfl⟩
  | apply =>
      exact .inr ⟨_, rfl⟩
  | exportTo path =>
      exact .inl rfl
  | full repository analysis flag =>
      simp [isPrimitive] at primitive

/-- The errors that a reply tells: its own, or that of the attempt to apply within it. -/
def Reply.errors : Reply → List SessionError
  | .error error => [error]
  | .ok (.diffs _ (some (.error error))) => [error]
  | .ok _ => []

namespace Session

/-- A settled operation tells an error exactly as the operation itself gives it. -/
theorem error_of_settle
    {α : Type}
    {session : Session}
    {result : α → Result}
    {outcome : Except SessionError (Session × α)}
    {error : SessionError}
    (quiet : ∀ value, Reply.errors (.ok (result value)) = [])
    (told : error ∈ Reply.errors (session.settle result outcome).2) :
    outcome = .error error := by
  cases outcome with
  | error reason =>
      simp only [settle, Reply.errors, List.mem_singleton] at told
      rw [told]
  | ok answer =>
      simp [settle, quiet] at told

/-- Suggestions fail only because an input is missing. -/
theorem suggest_error
    {session : Session}
    {error : SessionError}
    (failed : session.suggest = .error error) :
    error = .repositoryNotLoaded ∨ error = .analysisNotLoaded := by
  unfold suggest inputs at failed
  cases hasRepository : session.repository with
  | none =>
      simp [hasRepository, bind, Except.bind] at failed
      exact .inl failed.symm
  | some repository =>
      cases hasAnalysis : session.analysis with
      | none =>
          simp [hasRepository, hasAnalysis, bind, Except.bind] at failed
          exact .inr failed.symm
      | some analysis =>
          simp [hasRepository, hasAnalysis, bind, Except.bind, pure, Except.pure] at failed

/-- An export fails only for want of a repository or because it could not be written. -/
theorem exportTo_error
    {session : Session}
    {disk : Disk}
    {path : Option String}
    {error : SessionError}
    (failed : session.exportTo disk path = .error error) :
    error = .repositoryNotLoaded ∨ ∃ target, error = .notWritten target := by
  unfold exportTo exportRequest at failed
  cases held : session.modified.or session.repository with
  | none =>
      simp [held, bind, Except.bind] at failed
      exact .inl failed.symm
  | some snapshot =>
      simp only [held, bind, Except.bind] at failed
      split at failed
      · simp only [throw, throwThe, MonadExceptOf.throw, Except.error.injEq] at failed
        exact .inr ⟨_, failed.symm⟩
      · simp [pure, Except.pure] at failed

/-- The attempt to apply within the composite operation fails only for want of changes. -/
theorem applyUnlessDry_error
    {session : Session}
    {error : SessionError}
    (coherent : session.Coherent)
    (failed : session.applyUnlessDry.2 = some (.error error)) :
    error = .noDiffs := by
  unfold applyUnlessDry at failed
  split at failed
  · simp at failed
  · rename_i off
    cases done : session.apply with
    | ok answer =>
        simp [done] at failed
    | error reason =>
        simp only [done, Option.some.injEq, Except.error.injEq] at failed
        subst reason
        rcases coherent.apply_error done with ⟨on, -⟩ | ⟨-, -, empty⟩
        · exact absurd on off
        · exact empty

/-- The composite operation fails only because of what it is given to read. -/
theorem full_errors
    {session : Session}
    {repository analysis flag : String}
    {error : SessionError}
    (told : error ∈ Reply.errors (session.full repository analysis flag).2) :
    (∃ reason, error = .repository reason) ∨
      (∃ reason, error = .analysis reason) ∨
        error = .noDiffs := by
  cases goodRepository : Snapshot.read repository with
  | error reason =>
      rw [full_of_bad_repository goodRepository] at told
      exact .inl ⟨reason, List.mem_singleton.mp told⟩
  | ok snapshot =>
      cases goodAnalysis : Analysis.read analysis with
      | error reason =>
          rw [full_of_bad_analysis goodRepository goodAnalysis] at told
          exact .inr (.inl ⟨reason, List.mem_singleton.mp told⟩)
      | ok read =>
          rw [full_of_read goodRepository goodAnalysis] at told
          have coherent :
              ((session.reloaded snapshot read (readFlag flag)).previewed snapshot read).Coherent :=
            .previewed rfl rfl
          refine .inr (.inr ?_)
          cases tried :
              ((session.reloaded snapshot read (readFlag flag)).previewed
                snapshot read).applyUnlessDry.2 with
          | none =>
              simp [tried, Reply.errors] at told
          | some attempt =>
              cases attempt with
              | ok report =>
                  simp [tried, Reply.errors] at told
              | error reason =>
                  simp only [tried, Reply.errors, List.mem_singleton] at told
                  subst reason
                  exact applyUnlessDry_error coherent tried

end Session

namespace Desk

/-- No error that is told in a coherent session says that a move was illegal. -/
theorem perform_errors_code
    {desk : Desk}
    (coherent : desk.session.Coherent)
    (operation : Operation) :
    ∀ error ∈ (desk.perform operation).2.errors, error.code ≠ "illegal_transition" := by
  intro error told
  cases operation with
  | loadRepository payload =>
      have failed := Session.error_of_settle (fun _ => rfl) told
      unfold Session.loadRepository at failed
      split at failed
      · simp [← Except.error.inj failed, SessionError.code]
      · simp at failed
  | loadAnalysis payload =>
      have failed := Session.error_of_settle (fun _ => rfl) told
      unfold Session.loadAnalysis at failed
      split at failed
      · simp [← Except.error.inj failed, SessionError.code]
      · simp at failed
  | addRule payload =>
      have failed := Session.error_of_settle (fun _ => rfl) told
      unfold Session.readRule at failed
      split at failed
      · simp [← Except.error.inj failed, SessionError.code]
      · simp at failed
  | setDryRun flag =>
      simp [perform, withSession, Reply.errors] at told
  | suggest =>
      change error ∈ Reply.errors (desk.session.suggest.map .suggestion) at told
      cases done : desk.session.suggest with
      | ok suggestion =>
          simp [done, Except.map, Reply.errors] at told
      | error reason =>
          simp only [done, Except.map, Reply.errors, List.mem_singleton] at told
          rcases Session.suggest_error (told ▸ done) with rfl | rfl <;> decide
  | generate =>
      have failed := Session.error_of_settle (fun _ => rfl) told
      rcases coherent.generate_error failed with rfl | rfl <;> decide
  | apply =>
      have failed := Session.error_of_settle (fun _ => rfl) told
      rcases coherent.apply_error failed with ⟨-, rfl⟩ | ⟨-, -, rfl⟩ <;> decide
  | exportTo path =>
      change error ∈ (desk.exportTo path).2.errors at told
      unfold exportTo at told
      cases done : desk.session.exportTo desk.disk (requestedPath path) with
      | ok answer =>
          simp [done, Reply.errors] at told
      | error reason =>
          simp only [done, Reply.errors, List.mem_singleton] at told
          rcases Session.exportTo_error (told ▸ done) with rfl | ⟨target, rfl⟩
          · decide
          · simp [SessionError.code]
  | full repository analysis flag =>
      rcases Session.full_errors told with ⟨reason, rfl⟩ | ⟨reason, rfl⟩ | rfl
      · simp [SessionError.code]
      · simp [SessionError.code]
      · decide

/--
After any run of operations from a new session: the state is `empty` exactly while an input is
missing; previewed changes and a modified repository are there only once a preview was made;
having applied means that both are there; a single operation moves to an allowed state; and no
operation tells that a move was illegal.
-/
theorem run_lifecycle
    (setup : Setup)
    (disk : Disk)
    (operations : List Operation) :
    let desk := (Desk.mk (.ofSetup setup) disk).run operations
    desk.session.Coherent ∧
      (∀ operation : Operation,
        operation.isPrimitive →
          (desk.perform operation).1.session.state ∈ desk.session.state.allowed) ∧
      ∀ operation : Operation,
        ∀ error ∈ (desk.perform operation).2.errors, error.code ≠ "illegal_transition" := by
  intro desk
  have coherent : desk.session.Coherent :=
    .of_reachable (run_reachable (.start setup) operations)
  refine ⟨coherent, ?_, perform_errors_code coherent⟩
  intro operation primitive
  rw [perform_session]
  rcases operation.actions_of_isPrimitive primitive with none | ⟨action, single⟩
  · rw [none]
    exact desk.session.state.self_mem_allowed
  · rw [single]
    exact coherent.act_state_mem_allowed action

end Desk

end SourceUpgrade
