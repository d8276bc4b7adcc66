import SourceUpgrade.Proofs.Session.Agreement

namespace SourceUpgrade

/-!
# What applying writes

Between a preview and its application rules may be added, which extend, undo or redirect the
previewed changes. Applying writes into a copy of the loaded repository, and `apply_writes_reported`
says that the copy differs from it in the reported files and nowhere else, and that applying once
more does the same again: the rules never run on what they have written.
-/

namespace Session

/-- The previewed files of a reachable session are files of its repository, in its order. -/
theorem diffs_files_sublist
    {session : Session}
    {repository : Snapshot}
    (reached : session.Reachable)
    (hasRepository : session.repository = some repository) :
    (session.diffs.map ChangeRecord.file).Sublist repository.paths := by
  induction reached with
  | start setup =>
      exact List.nil_sublist _
  | loadSnapshot reached snapshot inductionHypothesis =>
      exact List.nil_sublist _
  | loadAnalysis reached analysis inductionHypothesis =>
      exact List.nil_sublist _
  | addRule reached spec inductionHypothesis =>
      exact inductionHypothesis hasRepository
  | setDryRun reached dryRun inductionHypothesis =>
      exact inductionHypothesis hasRepository
  | @generate session next summary reached done inductionHypothesis =>
      obtain ⟨loaded, analysis, hasLoaded, -, -, rfl, -⟩ := generate_ok_iff.mp done
      obtain rfl : loaded = repository := Option.some.inj (hasLoaded.symm.trans hasRepository)
      exact session.batch_files_sublist loaded analysis
  | apply reached done inductionHypothesis =>
      obtain ⟨-, -, loaded, analysis, -, -, -, rfl, -⟩ := apply_ok_iff.mp done
      exact inductionHypothesis hasRepository

section

variable {session : Session} {repository : Snapshot} {analysis : Analysis}

/-- The reported files are previewed ones that the rules change by now. -/
theorem mem_newContents_files_iff
    {path : String} :
    path ∈ (session.newContents repository analysis).map Prod.fst ↔
      path ∈ session.diffs.map ChangeRecord.file ∧
        ∃ before,
          repository.get? path = some before ∧
            (session.transformed analysis path before).content ≠ before := by
  rw [newContents_files, List.mem_filter]
  cases found : repository.get? path with
  | none =>
      simp [rewrites, found]
  | some before =>
      simp [rewrites, output, found]

/-- The modified repository differs from the loaded one at the reported files and nowhere else. -/
theorem mem_newContents_files_iff_differs
    {path : String} :
    path ∈ (session.newContents repository analysis).map Prod.fst ↔
      (withContents repository (session.newContents repository analysis)).get? path ≠
        repository.get? path := by
  rw [mem_newContents_files_iff, get?_withContents]
  cases found : repository.get? path with
  | none =>
      simp
  | some before =>
      by_cases previewed : path ∈ session.diffs.map ChangeRecord.file
      · simp [previewed]
      · simp [previewed]

end

/-- How a copy of a repository relates to it and to the report of the application that wrote it. -/
structure Writes
    (session : Session)
    (repository : Snapshot)
    (analysis : Analysis)
    (copy : Snapshot)
    (report : ApplyReport) :
    Prop where
  outline : repository.SameOutline copy
  reported_iff : ∀ path, path ∈ report.files ↔ copy.get? path ≠ repository.get? path
  written :
    ∀ path ∈ report.files,
      ∃ before,
        repository.get? path = some before ∧
          copy.get? path =
            some (session.registry.run (.ofAnalysis analysis session.guidance) path before).content
  sublist : report.files.Sublist (session.diffs.map ChangeRecord.file)
  distinct : report.files.Nodup
  count_eq : report.count = report.files.length

/-- A reachable session writes what it reports. -/
theorem writes_newContents
    {session : Session}
    {repository : Snapshot}
    (reached : session.Reachable)
    (hasRepository : session.repository = some repository)
    (analysis : Analysis) :
    session.Writes repository analysis
      (withContents repository (session.newContents repository analysis))
      ⟨(session.newContents repository analysis).map Prod.fst⟩ where
  outline := by
    rw [withContents_newContents]
    exact repository.sameOutline_mapContents _
  reported_iff := fun _ => mem_newContents_files_iff_differs
  written := by
    intro path reported
    obtain ⟨previewed, before, found, -⟩ := mem_newContents_files_iff.mp reported
    refine ⟨before, found, ?_⟩
    rw [get?_withContents, found, Option.map_some, if_pos previewed]
    rfl
  sublist := by
    rw [newContents_files]
    exact List.filter_sublist
  distinct := by
    rw [newContents_files]
    exact ((diffs_files_sublist reached hasRepository).nodup repository.distinctPaths).filter _
  count_eq := rfl

/--
An application that succeeds in a reachable session changes nothing but the modified repository and
the state. The copy differs from the loaded repository in the contents of the reported files only,
which are different previewed files in their order and have there what the current rules make of the
loaded contents. Applying at once again gives the same session and the same report.
-/
theorem apply_writes_reported
    {session next : Session}
    {report : ApplyReport}
    (reached : session.Reachable)
    (done : session.apply = .ok (next, report)) :
    ∃ repository analysis copy,
      session.repository = some repository ∧
        session.analysis = some analysis ∧
        next = { session with modified := some copy, state := .applied } ∧
        session.Writes repository analysis copy report ∧
        next.apply = .ok (next, report) := by
  obtain ⟨off, someDiffs, repository, analysis, hasRepository, hasAnalysis, -, rfl, rfl⟩ :=
    apply_ok_iff.mp done
  -- What has been applied is not an input of the next application, so this is the same session.
  have again :
      (session.applied repository analysis).apply =
        .ok (session.applied repository analysis,
          ⟨(session.newContents repository analysis).map Prod.fst⟩) := by
    refine apply_ok_iff.mpr
      ⟨off, someDiffs, repository, analysis, hasRepository, hasAnalysis, ?_, rfl, rfl⟩
    exact State.self_mem_allowed .applied
  exact
    ⟨repository, analysis, _, hasRepository, hasAnalysis, rfl,
      writes_newContents reached hasRepository analysis, again⟩

/-- A repository with a page that imports the router and one that imports the image component. -/
def twoPages : Snapshot where
  files :=
    [⟨"page.ts", "import \x7buseRouter\x7d from 'next/router'", []⟩,
      ⟨"logo.ts", "import I from 'next/legacy/image'", [("mode", .string "strict")]⟩]
  label := "two pages"
  extra := []
  distinctPaths := by decide

/-- A rule that was added after the preview undoes one of two changes; the other one is written. -/
theorem apply_writes_reported_undone :
    let session :=
      ((ofSetup (.ofSettings .standard .failing standard_selector_isOk)).reloaded
        twoPages routerUpgrade false).actAll
          [.generate, .addRule ⟨"keep legacy images", "next/image", "next/legacy/image"⟩]
    let next := session.applied twoPages routerUpgrade
    let report : ApplyReport := ⟨["page.ts"]⟩
    session.Reachable ∧
      session.diffs.map ChangeRecord.file = ["page.ts", "logo.ts"] ∧
      session.apply = .ok (next, report) ∧
      ∃ repository analysis copy,
        session.repository = some repository ∧
          session.analysis = some analysis ∧
          next = { session with modified := some copy, state := .applied } ∧
          session.Writes repository analysis copy report ∧
          next.apply = .ok (next, report) := by
  intro session next report
  have reached : session.Reachable :=
    ((((Reachable.start _).loadSnapshot twoPages).loadAnalysis routerUpgrade).setDryRun
      false).actAll _
  have previewed : session.diffs.map ChangeRecord.file = ["page.ts", "logo.ts"] := by
    decide +kernel
  have someDiffs : session.diffs ≠ [] := by
    intro none
    rw [none] at previewed
    exact absurd previewed (by decide)
  have files :
      (session.newContents twoPages routerUpgrade).map Prod.fst = ["page.ts"] := by
    rw [newContents_files, previewed]
    decide +kernel
  have done : session.apply = .ok (next, report) := by
    have applies :
        session.apply = .ok (next, ⟨(session.newContents twoPages routerUpgrade).map Prod.fst⟩) :=
      (Coherent.of_reachable reached).apply_ok rfl someDiffs rfl rfl
    rw [files] at applies
    exact applies
  exact ⟨reached, previewed, done, apply_writes_reported reached done⟩

end Session

end SourceUpgrade
