import SourceUpgrade.CommandLine.Run
import SourceUpgrade.Proofs.Disk
import SourceUpgrade.Proofs.Session.Accepted
import SourceUpgrade.Proofs.Session.Gate

namespace SourceUpgrade.CommandLine

/-!
# What commands work on

An invocation that can read all its files works on a session with rules, a repository and an
analysis. What comes of it is settled by them: a batch of changes, and the repository with the files
of the batch rewritten. Commands reach the batch on two ways, by the operations of a session one
after the other and by the composite one, and one equation for each command says where it gets.
-/

/-- A session with its rules, and the two inputs that are to be loaded into it. -/
structure Work where
  session : Session
  repository : Snapshot
  analysis : Analysis

/-- Whether two texts are the inputs of a work. -/
structure Inputs.Give (inputs : Inputs) (work : Work) : Prop where
  repository : Snapshot.read inputs.repository = .ok work.repository
  analysis : Analysis.read inputs.analysis = .ok work.analysis

/-- Whether an invocation can use all its files, and what it works on then. -/
structure Invocation.Loads (invocation : Invocation) (files : Files) (work : Work) : Prop where
  prepared : prepare files invocation = .ok work.session
  inputs :
    ∃ inputs : Inputs,
      files invocation.repository = some inputs.repository ∧
        files invocation.analysis = some inputs.analysis ∧ inputs.Give work

namespace Work

/-- The session with both inputs loaded and the gate set. -/
def loaded (work : Work) (dryRun : Bool) : Session :=
  work.session.reloaded work.repository work.analysis dryRun

/-- The changes that the rules make of the repository. -/
def batch (work : Work) : List ChangeRecord :=
  (work.loaded false).batch work.repository work.analysis

/-- The repository with the files of the batch rewritten. -/
def rewritten (work : Work) : Snapshot :=
  work.repository.mapContents fun path content =>
    if path ∈ work.batch.map ChangeRecord.file then
      ((work.loaded false).transformed work.analysis path content).content
    else content

/-- Where the settings have results exported to. -/
def exportPath (work : Work) : String :=
  work.session.setup.settings.exportPath

/-- The session after a preview. -/
def previewed (work : Work) (dryRun : Bool) : Session :=
  (work.loaded dryRun).previewed work.repository work.analysis

/-- The session after applying what was previewed. -/
def applied (work : Work) : Session :=
  (work.previewed false).applied work.repository work.analysis

/-- What is previewed is the batch, however the gate is set. -/
theorem previewed_diffs (work : Work) (dryRun : Bool) :
    (work.previewed dryRun).diffs = work.batch :=
  Session.batch_congr rfl rfl rfl work.repository work.analysis

/-- Applying leaves the repository with the files of the batch rewritten. -/
theorem applied_modified (work : Work) : work.applied.modified = some work.rewritten := by
  change some (Session.withContents _ _) = _
  rw [Session.withContents_newContents, previewed_diffs]
  rfl

theorem previewed_upToDate (work : Work) (dryRun : Bool) :
    (work.previewed dryRun).UpToDate work.repository work.analysis :=
  .previewed rfl rfl

theorem previewed_coherent (work : Work) (dryRun : Bool) : (work.previewed dryRun).Coherent :=
  .previewed rfl rfl

/-- Nothing keeps the changes from being previewed. -/
theorem generate_loaded (work : Work) (dryRun : Bool) :
    (work.loaded dryRun).generate =
      .ok (work.previewed dryRun, (work.previewed dryRun).diffSummary) :=
  Session.generate_reloaded work.session work.repository work.analysis dryRun

/-- With the gate off, a batch is applied, all of it. -/
theorem apply_previewed
    {work : Work}
    (changes : work.batch ≠ []) :
    (work.previewed false).apply = .ok (work.applied, ⟨work.batch.map ChangeRecord.file⟩) := by
  have upToDate := work.previewed_upToDate false
  have done :=
    (work.previewed_coherent false).apply_ok rfl (by rwa [previewed_diffs])
      upToDate.repository_eq upToDate.analysis_eq
  rw [upToDate.newContents_files, previewed_diffs] at done
  exact done

/-- What an export writes once the batch has been applied. -/
theorem exportRequest_applied (work : Work) (path : Option String) :
    work.applied.exportRequest path =
      .ok ⟨path.getD work.exportPath, work.rewritten.write, work.rewritten.size⟩ := by
  rw [Session.exportRequest, applied_modified]
  rfl

end Work

/-- Where an invocation writes: as it was told, or else where the settings have it. -/
def Invocation.destination (invocation : Invocation) (work : Work) : String :=
  match invocation.command with
  | .run => (requestedPath (invocation.out.getD "")).getD work.exportPath
  | _ => invocation.out.getD work.exportPath

/-! ## Loading -/

section

variable {inputs : Inputs} {work : Work}

/-- Inputs that can be read are loaded. -/
theorem load_of_give (give : inputs.Give work) :
    load work.session inputs = .ok (work.loaded work.session.dryRun) := by
  simp [load, Session.loadRepository, Session.loadAnalysis, give.repository, give.analysis, bind,
    Except.bind, pure, Except.pure]
  rfl

/-- Inputs of which one cannot be read are not loaded, in neither way. -/
theorem load_error_of_not_give
    {session : Session}
    (bad : ∀ work : Work, work.session = session → ¬ inputs.Give work) :
    (∃ error, load session inputs = .error error) ∧
      ∀ flag, ∃ left error,
        session.full inputs.repository inputs.analysis flag = (left, .error error) := by
  cases goodRepository : Snapshot.read inputs.repository with
  | error reason =>
      refine ⟨⟨.repository reason, ?_⟩, fun flag =>
        ⟨_, _, Session.full_of_bad_repository goodRepository⟩⟩
      simp [load, Session.loadRepository, goodRepository, bind, Except.bind]
  | ok repository =>
      cases goodAnalysis : Analysis.read inputs.analysis with
      | error reason =>
          refine ⟨⟨.analysis reason, ?_⟩, fun flag =>
            ⟨_, _, Session.full_of_bad_analysis goodRepository goodAnalysis⟩⟩
          simp [load, Session.loadRepository, Session.loadAnalysis, goodRepository, goodAnalysis,
            bind, Except.bind]
      | ok analysis =>
          exact absurd ⟨goodRepository, goodAnalysis⟩ (bad ⟨session, repository, analysis⟩ rfl)

end

/-! ## Commands -/

section

variable {invocation : Invocation} {inputs : Inputs} {work : Work}

/-- A command that was kept from its work ends in failure. -/
def Step.Fails (step : Step) : Prop :=
  ∃ failure output, step = .finish (.failed failure output)

/-- No command gets to its work without its inputs. -/
theorem Step.fails_of_not_give
    (invocation : Invocation)
    {session : Session}
    (bad : ∀ work : Work, work.session = session → ¬ inputs.Give work) :
    (suggest invocation session inputs).Fails ∧
      (diff invocation session inputs).Fails ∧
        (apply invocation session inputs).Fails ∧ (run invocation session inputs).Fails := by
  obtain ⟨⟨error, notLoaded⟩, notPerformed⟩ := load_error_of_not_give bad
  refine ⟨⟨.session error, "", ?_⟩, ⟨.session error, "", ?_⟩, ⟨.session error, "", ?_⟩, ?_⟩
  · simp [suggest, notLoaded, Except.bind]
  · simp [diff, notLoaded, Except.bind]
  · simp [apply, applied, notLoaded, bind, Except.bind]
  · obtain ⟨left, reason, failed⟩ := notPerformed (if invocation.dryRun then "true" else "false")
    exact ⟨.refused, line reason.toJson.pretty, by simp [run, failed]⟩

/-- What a preview prints in text is the batch. -/
theorem diff_of_give (give : inputs.Give work) :
    diff invocation work.session inputs =
      .finish (.success
        (if invocation.json then
          printJson (work.previewed work.session.dryRun).diffSummary.toFields
        else printRecords work.batch)) := by
  have previewed :
      (load work.session inputs).bind Session.generate =
        .ok (work.previewed work.session.dryRun,
          (work.previewed work.session.dryRun).diffSummary) := by
    rw [load_of_give give]
    exact work.generate_loaded work.session.dryRun
  rw [diff, previewed, ← work.previewed_diffs work.session.dryRun]

/-- Applying from the start comes to applying what is previewed. -/
theorem applied_of_give (give : inputs.Give work) :
    applied invocation work.session inputs =
      (work.previewed invocation.dryRun).apply.bind fun (session, report) =>
        (session.exportRequest invocation.out).map fun request => (report, request) := by
  rw [applied, bind_of_ok (load_of_give give)]
  change ((work.loaded invocation.dryRun).generate >>= _) = _
  rw [bind_of_ok (work.generate_loaded invocation.dryRun)]
  rfl

/-- With the gate off, changes are applied, and the result is written as the last step. -/
theorem apply_of_changes
    (give : inputs.Give work)
    (off : invocation.dryRun = false)
    (changes : work.batch ≠ []) :
    let report : ApplyReport := ⟨work.batch.map ChangeRecord.file⟩
    let exported : ExportReport := ⟨invocation.out.getD work.exportPath, work.rewritten.size⟩
    apply invocation work.session inputs =
      .write exported.written work.rewritten.write fun written =>
        if written then
          .success
            (if invocation.json then
              printJson
                [("apply", .record report.toFields), ("export", .record exported.toFields)]
            else printApplied report exported)
        else .failed (.session (.notWritten exported.written)) "" := by
  intro report exported
  have done :
      applied invocation work.session inputs =
        .ok (report, ⟨exported.written, work.rewritten.write, work.rewritten.size⟩) := by
    rw [applied_of_give give, off, Work.apply_previewed changes]
    change (work.applied.exportRequest invocation.out).map _ = _
    rw [work.exportRequest_applied]
    rfl
  rw [apply, done]
  refine congrArg (Step.write _ _) (funext fun written => ?_)
  cases written with
  | false =>
      rfl
  | true =>
      cases invocation.json <;> rfl

/-- What the composite operation of a whole run comes to. -/
theorem full_of_give
    (give : inputs.Give work)
    (dryRun : Bool) :
    work.session.full inputs.repository inputs.analysis (if dryRun then "true" else "false") =
      ((work.previewed dryRun).applyUnlessDry.1,
        .ok
          (.diffs (work.previewed dryRun).diffSummary
            (work.previewed dryRun).applyUnlessDry.2)) := by
  have flag : readFlag (if dryRun then "true" else "false") = dryRun := by
    cases dryRun <;> decide
  rw [Session.full_of_read give.repository give.analysis, flag]
  rfl

/-- With the gate on or without changes, a whole run ends with the preview. -/
theorem run_of_blocked
    (give : inputs.Give work)
    (blocked : invocation.dryRun = true ∨ work.batch = []) :
    ∃ reply,
      run invocation work.session inputs =
        .finish (runOutcome invocation (work.previewed invocation.dryRun) reply none) := by
  rw [run, full_of_give give]
  cases gate : invocation.dryRun with
  | true =>
      have left : (work.previewed true).applyUnlessDry = (work.previewed true, none) := rfl
      rw [left]
      exact ⟨_, rfl⟩
  | false =>
      have noChanges : work.batch = [] :=
        blocked.resolve_left (gate ▸ Bool.false_ne_true)
      have left :
          (work.previewed false).applyUnlessDry =
            (work.previewed false, some (.error .noDiffs)) :=
        Session.applyUnlessDry_of_no_diffs rfl ((work.previewed_diffs false).trans noChanges)
      rw [left]
      exact ⟨_, rfl⟩

/-- With the gate off, a whole run applies changes and writes the result as its last step. -/
theorem run_of_changes
    (give : inputs.Give work)
    (off : invocation.dryRun = false)
    (changes : work.batch ≠ []) :
    ∃ (reply : Json.Fields) (exported : Bool → Json.Value),
      run invocation work.session inputs =
        .write ((requestedPath (invocation.out.getD "")).getD work.exportPath)
          work.rewritten.write fun written =>
            runOutcome invocation work.applied reply (some (exported written)) := by
  have left :
      (work.previewed false).applyUnlessDry =
        (work.applied, some (.ok ⟨(work.previewed false).diffs.map ChangeRecord.file⟩)) :=
    (work.previewed_upToDate false).applyUnlessDry (work.previewed_coherent false) rfl
      (by rwa [work.previewed_diffs])
  rw [run, full_of_give give, off, left]
  dsimp only
  rw [work.exportRequest_applied]
  dsimp only
  exact ⟨_, _, rfl⟩

end

/-! ## Invocations -/

section

variable {invocation : Invocation} {files : Files}

/-- What a command does with a session and inputs. -/
def Invocation.perform (invocation : Invocation) (session : Session) (inputs : Inputs) : Step :=
  match invocation.command with
  | .suggest => suggest invocation session inputs
  | .diff => diff invocation session inputs
  | .apply => apply invocation session inputs
  | .run => run invocation session inputs

/-- An invocation that can read and prepare what it needs performs its command. -/
theorem Invocation.step_of_prepared
    {inputs : Inputs}
    {session : Session}
    (repository : files invocation.repository = some inputs.repository)
    (analysis : files invocation.analysis = some inputs.analysis)
    (prepared : prepare files invocation = .ok session) :
    invocation.step files = invocation.perform session inputs := by
  cases inputs
  cases command : invocation.command with
  | suggest | diff | apply | run =>
      simp [step, perform, readFile, repository, analysis, prepared, command, bind, Except.bind,
        pure, Except.pure]

/-- An invocation that cannot read or prepare what it needs fails. -/
theorem Invocation.step_cases (invocation : Invocation) (files : Files) :
    (invocation.step files).Fails ∨
      ∃ session inputs,
        files invocation.repository = some inputs.repository ∧
          files invocation.analysis = some inputs.analysis ∧
            prepare files invocation = .ok session ∧
              invocation.step files = invocation.perform session inputs := by
  cases repository : files invocation.repository with
  | none =>
      refine .inl ⟨.unreadable invocation.repository, "", ?_⟩
      simp [step, readFile, repository, bind, Except.bind]
  | some text =>
      cases analysis : files invocation.analysis with
      | none =>
          refine .inl ⟨.unreadable invocation.analysis, "", ?_⟩
          simp [step, readFile, repository, analysis, bind, Except.bind]
      | some other =>
          cases prepared : prepare files invocation with
          | error failure =>
              refine .inl ⟨failure, "", ?_⟩
              simp [step, readFile, repository, analysis, prepared, bind, Except.bind]
          | ok session =>
              let inputs : Inputs := ⟨text, other⟩
              have performs : invocation.step files = invocation.perform session inputs :=
                step_of_prepared repository analysis prepared
              exact .inr ⟨session, inputs, rfl, rfl, rfl, performs⟩

/-- An invocation that loads its inputs performs its command on them. -/
theorem Invocation.Loads.step_eq
    {work : Work}
    (loads : invocation.Loads files work) :
    ∃ inputs,
      inputs.Give work ∧ invocation.step files = invocation.perform work.session inputs := by
  obtain ⟨inputs, repository, analysis, give⟩ := loads.inputs
  exact ⟨inputs, give, step_of_prepared repository analysis loads.prepared⟩

/-- An invocation that does not load its inputs fails. -/
theorem Invocation.step_fails
    (bad : ∀ work, ¬ invocation.Loads files work) :
    (invocation.step files).Fails := by
  rcases invocation.step_cases files with
    fails | ⟨session, inputs, repository, analysis, prepared, performs⟩
  · exact fails
  · have notGiven : ∀ work : Work, work.session = session → ¬ inputs.Give work := by
      rintro work rfl give
      exact bad work ⟨prepared, inputs, repository, analysis, give⟩
    obtain ⟨suggestFails, diffFails, applyFails, runFails⟩ :=
      Step.fails_of_not_give invocation notGiven
    rw [performs, perform]
    cases invocation.command with
    | suggest =>
        exact suggestFails
    | diff =>
        exact diffFails
    | apply =>
        exact applyFails
    | run =>
        exact runFails

end

/-! ### A disk with both inputs -/

/-- A disk with a repository and an analysis in the working folder. -/
def inputDisk (repository analysis : String) : Disk where
  files := [(["work", "repo.json"], repository), (["work", "analysis.json"], analysis)]
  here := ["work"]

/-- An invocation on such a disk, with nothing but the standard settings and rules. -/
def plainInvocation (command : Command) (out : Option String) : Invocation where
  command := command
  repository := "repo.json"
  analysis := "analysis.json"
  rules := []
  settings := none
  guidance := none
  out := out
  dryRun := false
  json := false

/-- The arguments for a command on such a disk. -/
def plainArguments (command : Command) (further : List String) : List String :=
  [command.name, "--repo", "repo.json", "--artifact", "analysis.json"] ++ further

/-- The session of such an invocation, with nothing loaded. -/
def plainSession : Session :=
  .ofSetup (.ofSettings .standard (.ofMatches []) Session.standard_selector_isOk)

/-- What such an invocation works on. -/
def plainWork (repository : Snapshot) (analysis : Analysis) : Work where
  session := plainSession
  repository := repository
  analysis := analysis

theorem inputDisk_read?_repository (repository analysis : String) :
    (inputDisk repository analysis).read? "repo.json" = some repository := by
  have place :
      (inputDisk repository analysis).place? "repo.json" = some ["work", "repo.json"] := rfl
  rw [Disk.read?, place]
  simp [Folder.textAt?, inputDisk]

theorem inputDisk_read?_analysis (repository analysis : String) :
    (inputDisk repository analysis).read? "analysis.json" = some analysis := by
  have place :
      (inputDisk repository analysis).place? "analysis.json" = some ["work", "analysis.json"] := rfl
  rw [Disk.read?, place]
  simp [Folder.textAt?, inputDisk, List.lookup_cons]

/-- A session can be started with the standard settings. -/
theorem start_standard (source : GuidanceSource) :
    Session.start .standard source =
      .ok (.ofSetup (.ofSettings .standard source Session.standard_selector_isOk)) := by
  have noFault : Settings.standard.fault? = none := by
    decide
  unfold Session.start Setup.ofSettings
  rw [noFault]
  dsimp only
  -- The same selector is matched on both sides.
  split
  · rename_i error found
    have usable := Session.standard_selector_isOk
    rw [found] at usable
    cases usable
  · rename_i selector found
    split
    · rename_i other again
      obtain rfl : selector = other := Except.ok.inj (found.symm.trans again)
      rfl
    · rename_i error again
      cases found.symm.trans again

theorem plainSession_source : plainSession.setup.source = .ofMatches [] := by
  change (Setup.ofSettings _ _ _).source = _
  unfold Setup.ofSettings
  split
  · rfl
  · rename_i error found
    have usable := Session.standard_selector_isOk
    rw [found] at usable
    cases usable

/-- Plain invocations load the inputs on such a disk. -/
theorem plainInvocation_loads
    {repositoryText analysisText : String}
    {repository : Snapshot}
    {analysis : Analysis}
    (goodRepository : Snapshot.read repositoryText = .ok repository)
    (goodAnalysis : Analysis.read analysisText = .ok analysis)
    (command : Command)
    (out : Option String) :
    (plainInvocation command out).Loads (inputDisk repositoryText analysisText).read?
      (plainWork repository analysis) := by
  refine ⟨?_, ⟨repositoryText, analysisText⟩, ?_, ?_, goodRepository, goodAnalysis⟩
  · have prepared :
        prepare (inputDisk repositoryText analysisText).read? (plainInvocation command out) =
          .ok
            { plainSession with
              setup := { plainSession.setup with source := .ofMatches [] } } := by
      simp only [prepare, plainInvocation, readSettings, start_standard, List.mapM_nil, bind,
        Except.bind]
      rfl
    rw [prepared, ← plainSession_source]
    rfl
  · exact inputDisk_read?_repository ..
  · exact inputDisk_read?_analysis ..

/-- A disk with one page that is out of date, and with the upgrade that concerns it. -/
def routerDisk : Disk :=
  inputDisk Session.routerText Session.upgradeText

/-- What plain invocations on this disk work on. -/
def routerWork : Work :=
  plainWork Session.routerRepository Session.routerUpgrade

theorem routerWork_loads (command : Command) (out : Option String) :
    (plainInvocation command out).Loads routerDisk.read? routerWork :=
  plainInvocation_loads Session.read_routerText Session.read_upgradeText command out

/-- The page is out of date. -/
theorem routerWork_changes : routerWork.batch ≠ [] := by
  apply List.isEmpty_eq_false_iff.mp
  decide +kernel

/-- Beside both inputs there is room for a result. -/
theorem routerDisk_write? (text : String) :
    routerDisk.write? "out.json" text = some (routerDisk.put ["work", "out.json"] text) := by
  refine Disk.write?_eq_some_iff.mpr ⟨["work", "out.json"], ?_, rfl⟩
  decide +kernel

end SourceUpgrade.CommandLine
