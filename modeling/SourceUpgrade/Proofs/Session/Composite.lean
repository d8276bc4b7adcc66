import SourceUpgrade.Proofs.Session.Agreement

namespace SourceUpgrade

/-!
# The composite operation on input that is not accepted

The composite operation loads a repository and then an analysis. It fails exactly if one of them
cannot be read. A bad repository is found before anything has happened. A bad analysis is found
after the repository has been loaded, and loading has replaced the repository of before and has
forgotten what was derived from it. `Desk.full_of_rejected` says what is left in each case, and when
it is what was there before.
-/

namespace Session

/-- What loading a repository leaves: everything that does not come from the one before. -/
theorem loadSnapshot_session
    (session : Session)
    (snapshot : Snapshot) :
    (session.loadSnapshot snapshot).1 =
      { session with
        repository := some snapshot
        diffs := []
        modified := none
        state := if session.analysis.isSome then .loaded else .empty } :=
  rfl

/-- In a coherent session without previewed changes the inputs tell the state, up to a preview. -/
theorem Coherent.state_eq
    {session : Session}
    (coherent : session.Coherent)
    (hasRepository : session.repository.isSome)
    (noDiffs : session.diffs = [])
    (notPreviewed : session.state ≠ .previewed) :
    session.state = if session.analysis.isSome then .loaded else .empty := by
  have someRepository : session.repository ≠ none := Option.isSome_iff_ne_none.mp hasRepository
  cases state : session.state with
  | empty =>
      have noAnalysis : session.analysis = none :=
        (coherent.empty_iff.mp state).resolve_left someRepository
      rw [noAnalysis]
      rfl
  | loaded =>
      have someAnalysis : session.analysis ≠ none := by
        intro none
        have empty := coherent.empty_iff.mpr (.inr none)
        rw [state] at empty
        exact absurd empty (by decide)
      rw [if_pos (Option.isSome_iff_ne_none.mpr someAnalysis)]
  | previewed =>
      exact absurd state notPreviewed
  | applied =>
      exact absurd noDiffs (coherent.applied state).2

/-- Loading a repository leaves a coherent session as it was just if it had that one, unused. -/
theorem Coherent.loadSnapshot_eq_self_iff
    {session : Session}
    (coherent : session.Coherent)
    (snapshot : Snapshot) :
    (session.loadSnapshot snapshot).1 = session ↔
      session.repository = some snapshot ∧
        session.diffs = [] ∧ session.modified = none ∧ session.state ≠ .previewed := by
  rw [loadSnapshot_session]
  constructor
  · intro same
    have notPreviewed : session.state ≠ .previewed := by
      rw [← same]
      dsimp only
      split <;> decide
    exact
      ⟨(congrArg repository same).symm, (congrArg diffs same).symm,
        (congrArg modified same).symm, notPreviewed⟩
  · rintro ⟨hasRepository, noDiffs, noCopy, notPreviewed⟩
    have stays := coherent.state_eq (by rw [hasRepository]; rfl) noDiffs notPreviewed
    rw [← hasRepository, ← stays, ← noCopy, ← noDiffs]

end Session

namespace Desk

/-- A bad repository ends the composite operation before anything has happened. -/
theorem perform_full_of_bad_repository
    {repository : String}
    {reason : SnapshotError}
    (bad : Snapshot.read repository = .error reason)
    (desk : Desk)
    (analysis flag : String) :
    desk.perform (.full repository analysis flag) = (desk, .error (.repository reason)) := by
  change desk.withSession (desk.session.full repository analysis flag) = _
  rw [Session.full_of_bad_repository bad]
  rfl

/-- A bad analysis ends the composite operation with the repository loaded. -/
theorem perform_full_of_bad_analysis
    {repository analysis : String}
    {snapshot : Snapshot}
    {reason : AnalysisError}
    (good : Snapshot.read repository = .ok snapshot)
    (bad : Analysis.read analysis = .error reason)
    (desk : Desk)
    (flag : String) :
    desk.perform (.full repository analysis flag) =
      ({ desk with session := (desk.session.loadSnapshot snapshot).1 },
        .error (.analysis reason)) := by
  change desk.withSession (desk.session.full repository analysis flag) = _
  rw [Session.full_of_bad_analysis good bad]
  rfl

/-- With both inputs read, the composite operation succeeds. -/
theorem perform_full_of_read
    {repository analysis : String}
    {snapshot : Snapshot}
    {read : Analysis}
    (goodRepository : Snapshot.read repository = .ok snapshot)
    (goodAnalysis : Analysis.read analysis = .ok read)
    (desk : Desk)
    (flag : String) :
    ∃ result, (desk.perform (.full repository analysis flag)).2 = .ok result := by
  change ∃ result, (desk.withSession (desk.session.full repository analysis flag)).2 = .ok result
  rw [Session.full_of_read goodRepository goodAnalysis]
  exact ⟨_, rfl⟩

/--
The composite operation fails exactly if the repository or the analysis cannot be read. With a bad
repository the desk stays as it was. With a bad analysis the repository is loaded all the same: what
was previewed and modified before is forgotten, and the session stays as it was only if it had this
very repository and nothing was derived from it.
-/
theorem full_of_rejected
    {desk : Desk}
    (reached : desk.session.Reachable)
    (repository analysis flag : String) :
    let performed := desk.perform (.full repository analysis flag)
    (∀ reason,
      Snapshot.read repository = .error reason →
        performed = (desk, .error (.repository reason))) ∧
      (∀ snapshot reason,
        Snapshot.read repository = .ok snapshot →
          Analysis.read analysis = .error reason →
            performed.2 = .error (.analysis reason) ∧
              performed.1.disk = desk.disk ∧
              performed.1.session =
                { desk.session with
                  repository := some snapshot
                  diffs := []
                  modified := none
                  state := if desk.session.analysis.isSome then .loaded else .empty } ∧
              (performed.1.session = desk.session ↔
                desk.session.repository = some snapshot ∧
                  desk.session.diffs = [] ∧
                  desk.session.modified = none ∧
                  desk.session.state ≠ .previewed)) ∧
      ∀ snapshot read,
        Snapshot.read repository = .ok snapshot →
          Analysis.read analysis = .ok read →
            ∃ result, performed.2 = .ok result := by
  intro performed
  refine ⟨?_, ?_, ?_⟩
  · intro reason bad
    exact perform_full_of_bad_repository bad desk analysis flag
  · intro snapshot reason good bad
    have left := perform_full_of_bad_analysis good bad desk flag
    rw [show performed = _ from left]
    exact ⟨rfl, rfl, desk.session.loadSnapshot_session snapshot,
      (Session.Coherent.of_reachable reached).loadSnapshot_eq_self_iff snapshot⟩
  · intro snapshot read goodRepository goodAnalysis
    exact perform_full_of_read goodRepository goodAnalysis desk flag

/-- A page that was previewed is gone after a good repository and a bad analysis. -/
theorem full_of_rejected_router :
    let session := Session.routerSession.previewed Session.routerRepository Session.routerUpgrade
    let desk := Desk.mk session .empty
    desk.session.Reachable ∧
      Snapshot.read "\x7b\"files\":[]\x7d" = .ok .empty ∧
      Analysis.read "[]" = .error .notAnObject ∧
      (desk.perform (.full "\x7b\"files\":[]\x7d" "[]" "yes")).2 =
        .error (.analysis .notAnObject) ∧
      (desk.perform (.full "\x7b\"files\":[]\x7d" "[]" "yes")).1.session.repository =
        some .empty := by
  intro session desk
  have done :=
    Session.generate_reloaded
      (.ofSetup (.ofSettings .standard .failing Session.standard_selector_isOk))
      Session.routerRepository Session.routerUpgrade true
  have reached : desk.session.Reachable := Session.routerSession_reachable.generate done
  have goodRepository : Snapshot.read "\x7b\"files\":[]\x7d" = .ok .empty := by
    decide +kernel
  have badAnalysis : Analysis.read "[]" = .error .notAnObject := by
    decide +kernel
  obtain ⟨failed, -, left, -⟩ :=
    (full_of_rejected reached "\x7b\"files\":[]\x7d" "[]" "yes").2.1 .empty .notAnObject
      goodRepository badAnalysis
  exact ⟨reached, goodRepository, badAnalysis, failed, congrArg Session.repository left⟩

/--
Not every input that is refused leaves the session alone: after a page has been loaded and its
change previewed, a bad analysis beside another repository takes both away.
-/
theorem full_forgets_on_bad_analysis :
    let new :=
      Desk.mk (.ofSetup (.ofSettings .standard .failing Session.standard_selector_isOk)) .empty
    let desk :=
      new.run
        [.loadRepository
            ("\x7b\"files\":[\x7b\"path\":\"a.ts\"," ++
              "\"content\":\"import\x7buseRouter\x7dfrom'next/router'\"\x7d]\x7d"),
          .loadAnalysis "\x7b\"package\":\"next\"\x7d",
          .generate]
    let performed := desk.perform (.full "\x7b\"files\":[]\x7d" "[]" "yes")
    desk.session.Reachable ∧
      performed.2 = .error (.analysis .notAnObject) ∧
      desk.session.repository.map Snapshot.paths = some ["a.ts"] ∧
      performed.1.session.repository.map Snapshot.paths = some [] ∧
      desk.session.diffs.map ChangeRecord.file = ["a.ts"] ∧
      performed.1.session.diffs = [] ∧
      desk.session.state = .previewed ∧
      performed.1.session.state = .loaded := by
  intro new desk performed
  have reached : desk.session.Reachable := run_reachable (.start _) _
  have paths : desk.session.repository.map Snapshot.paths = some ["a.ts"] := by
    decide +kernel
  have files : desk.session.diffs.map ChangeRecord.file = ["a.ts"] := by
    decide +kernel
  have previewed : desk.session.state = .previewed := by
    decide +kernel
  have hasAnalysis : desk.session.analysis.isSome := by
    decide +kernel
  have left :
      performed =
        ({ desk with session := (desk.session.loadSnapshot .empty).1 },
          .error (.analysis .notAnObject)) :=
    perform_full_of_bad_analysis (by decide +kernel) (by decide +kernel) desk "yes"
  clear_value performed desk
  rw [left]
  exact ⟨reached, rfl, paths, rfl, files, rfl, previewed, if_pos hasAnalysis⟩

end Desk

end SourceUpgrade
