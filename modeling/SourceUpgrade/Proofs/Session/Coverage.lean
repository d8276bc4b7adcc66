import SourceUpgrade.Proofs.Fingerprint
import SourceUpgrade.Proofs.Rule.Account
import SourceUpgrade.Proofs.Session.Application
import SourceUpgrade.Proofs.Session.Guidance

namespace SourceUpgrade

/-!
# What a preview covers

A file may be left out of a preview because it is not selected, because no change is counted or
because its content stays the same. Since a run of the rules counts every change it makes, only the
first and the last matter: `Session.Covers` says that a batch has a record for every selected file
that the rules change and for no other, and `Session.generate_covers` that previews are such batches
in every session with both inputs. Which paths an analysis names matters to them, but not in which of
its lists, in which order and how often.
-/

/-! ## Selected files -/

/-- Whether a path is one of code: it has a known extension, or the pattern for others matches. -/
def Settings.IsCode (settings : Settings) (path : String) : Prop :=
  (∃ extension ∈ settings.codeExtensions, extension.toList <:+ path.toList) ∨
    ∃ program,
      Pattern.Program.ofText false settings.configFilePattern = .ok program ∧
        program.isMatch path = true

namespace PrioritizedFiles

/-- Whether a path is named, as far as any path is. -/
def Admits (files : PrioritizedFiles) (path : String) : Prop :=
  files.riskyFirst ≠ [] ∨ files.allPackageFiles ≠ [] →
    path ∈ files.riskyFirst ∨ path ∈ files.allPackageFiles

/-- Whether two analyses name the same paths, in whichever list and order and however often. -/
def SamePaths (first second : PrioritizedFiles) : Prop :=
  ∀ path,
    path ∈ first.riskyFirst ∨ path ∈ first.allPackageFiles ↔
      path ∈ second.riskyFirst ∨ path ∈ second.allPackageFiles

variable {files first second : PrioritizedFiles}

theorem isEmpty_iff : files.isEmpty = true ↔ ∀ path, path ∉ files.paths := by
  rw [isEmpty, Bool.and_eq_true, List.isEmpty_iff, List.isEmpty_iff,
    ← List.eq_nil_iff_forall_not_mem, paths, List.append_eq_nil_iff]

/-- A path is admitted if none is named or it is one of those that are. -/
theorem admits_iff {path : String} :
    files.Admits path ↔ (files.isEmpty || files.paths.contains path) = true := by
  rw [Admits, isEmpty, paths]
  cases files.riskyFirst <;> cases files.allPackageFiles <;> simp [or_assoc]

/-- Only which paths are named decides on what is admitted. -/
theorem SamePaths.admits_iff
    (same : first.SamePaths second)
    {path : String} :
    first.Admits path ↔ second.Admits path := by
  have samePaths (path : String) : path ∈ first.paths ↔ path ∈ second.paths := by
    simpa [paths] using same path
  have sameEmpty : first.isEmpty = second.isEmpty := by
    rw [Bool.eq_iff_iff, isEmpty_iff, isEmpty_iff]
    simp only [samePaths]
  rw [PrioritizedFiles.admits_iff, PrioritizedFiles.admits_iff, sameEmpty, Bool.or_eq_true,
    Bool.or_eq_true, List.contains_iff_mem, List.contains_iff_mem, samePaths]

end PrioritizedFiles

namespace Setup

/-- The selector of a setup takes for code what its settings say. -/
theorem isCodeFile_iff (setup : Setup) (path : String) :
    setup.selector.isCodeFile path = true ↔ setup.settings.IsCode path := by
  have built := setup.selector_eq
  rw [Settings.selector, FileSelector.ofPattern] at built
  cases compiled : Pattern.Program.ofText false setup.settings.configFilePattern with
  | error reason =>
      rw [compiled] at built
      cases built
  | ok program =>
      rw [compiled] at built
      have selector : setup.selector = ⟨setup.settings.codeExtensions, program⟩ :=
        (Except.ok.inj built).symm
      simp [selector, FileSelector.isCodeFile, Settings.IsCode, compiled]

/-- A path of a repository is selected if it is one of code and admitted. -/
theorem mem_select_iff
    (setup : Setup)
    (repository : Snapshot)
    (files : PrioritizedFiles)
    (path : String) :
    path ∈ setup.selector.select repository files ↔
      path ∈ repository.paths ∧ setup.settings.IsCode path ∧ files.Admits path := by
  rw [FileSelector.select, List.mem_filter, FileSelector.selects, Bool.and_eq_true,
    isCodeFile_iff, PrioritizedFiles.admits_iff]
  exact and_congr_right fun _ => and_comm

/-- Only which paths are named decides on what is selected. -/
theorem select_congr
    (setup : Setup)
    (repository : Snapshot)
    {first second : PrioritizedFiles}
    (same : first.SamePaths second) :
    setup.selector.select repository first = setup.selector.select repository second := by
  refine List.filter_congr fun path _ => ?_
  rw [FileSelector.selects, FileSelector.selects, Bool.eq_iff_iff, Bool.and_eq_true,
    Bool.and_eq_true, ← PrioritizedFiles.admits_iff, ← PrioritizedFiles.admits_iff,
    same.admits_iff]

end Setup

namespace Session

/-! ## Records of selected files -/

section

variable {session : Session} {repository : Snapshot} {analysis : Analysis}

/-- There is a record of a file exactly if the rules change it: then a change is counted. -/
theorem isSome_record?_iff {path before : String} (found : repository.get? path = some before) :
    (session.record? repository analysis path).isSome = true ↔
      (session.transformed analysis path before).content ≠ before := by
  rw [record?, found, Option.getD_some, Option.isSome_iff_exists]
  simp only [RecordStyle.record?_eq_some_iff]
  constructor
  · rintro ⟨record, -, differ, -⟩
    exact differ.symm
  · intro differ
    refine ⟨_, ?_, differ.symm, rfl⟩
    intro none
    exact differ (Registry.content_eq_of_changes_eq_zero none)

/--
Whether a batch has exactly the records that it should have: in the repository's order and once each,
those of the files that are of code and admitted by the analysis and that the rules change. The two
fingerprints of a record are the same only if the full hashes of both contents are.
-/
structure Covers
    (session : Session)
    (repository : Snapshot)
    (analysis : Analysis)
    (batch : List ChangeRecord) :
    Prop where
  listed_iff :
    ∀ path,
      path ∈ batch.map ChangeRecord.file ↔
        ∃ before,
          repository.get? path = some before ∧
            session.setup.settings.IsCode path ∧
              analysis.prioritized.Admits path ∧
                (session.registry.run (.ofAnalysis analysis session.guidance) path before).content ≠
                  before
  inOrder : (batch.map ChangeRecord.file).Sublist repository.paths
  once : (batch.map ChangeRecord.file).Nodup
  describes :
    ∀ record ∈ batch,
      ∃ before after,
        repository.get? record.file = some before ∧
          after =
              (session.registry.run (.ofAnalysis analysis session.guidance) record.file
                before).content ∧
            record.Describes session.setup.settings before after ∧
              (record.beforeHash = record.afterHash ↔
                Digest.sha256 before.toUTF8.toList = Digest.sha256 after.toUTF8.toList)

/-- What a preview finds are the records that there should be. -/
theorem covers_batch (session : Session) (repository : Snapshot) (analysis : Analysis) :
    session.Covers repository analysis (session.batch repository analysis) where
  listed_iff := by
    intro path
    rw [batch_files, List.mem_filter, Setup.mem_select_iff, Snapshot.mem_paths_iff]
    constructor
    · rintro ⟨⟨⟨before, found⟩, isCode, admitted⟩, recorded⟩
      exact ⟨before, found, isCode, admitted, (isSome_record?_iff found).mp recorded⟩
    · rintro ⟨before, found, isCode, admitted, differ⟩
      exact ⟨⟨⟨before, found⟩, isCode, admitted⟩, (isSome_record?_iff found).mpr differ⟩
  inOrder := session.batch_files_sublist repository analysis
  once := session.batch_files_nodup repository analysis
  describes := by
    intro record member
    obtain ⟨before, found, made⟩ := exists_of_mem_batch member
    refine ⟨before, _, found, rfl, describes_of_record? made, ?_⟩
    obtain ⟨-, -, parts⟩ := RecordStyle.record?_eq_some_iff.mp made
    rw [parts]
    exact RecordStyle.fingerprints_eq_iff

/-! ## Which paths are named -/

/-- What the rules make of a file depends neither on guidance nor on the named paths. -/
theorem record?_congr
    {other : Session}
    {files : PrioritizedFiles}
    (setup : other.setup = session.setup)
    (registry : other.registry = session.registry) :
    other.record? repository { analysis with prioritized := files } =
      session.record? repository analysis := by
  have sameTransform (path before : String) :
      other.transformed { analysis with prioritized := files } path before =
        session.transformed analysis path before := by
    rw [transformed, transformed, registry]
    exact Registry.run_guidance _ (.ofAnalysis analysis session.guidance) other.guidance _ _
  funext path
  rw [record?, record?, sameTransform, setup]

/-- Only which paths an analysis names decides on what a preview finds. -/
theorem batch_of_samePaths
    {other : Session}
    {files : PrioritizedFiles}
    (setup : other.setup = session.setup)
    (registry : other.registry = session.registry)
    (same : files.SamePaths analysis.prioritized) :
    other.batch repository { analysis with prioritized := files } =
      session.batch repository analysis := by
  rw [batch, batch, record?_congr setup registry, setup, Setup.select_congr _ _ same]

end

/-- With both inputs loaded, a suggestion lists the first of the selected files. -/
theorem suggest_of_inputs
    {session : Session}
    {repository : Snapshot}
    {analysis : Analysis}
    (hasRepository : session.repository = some repository)
    (hasAnalysis : session.analysis = some analysis) :
    session.suggest =
      .ok
        { files :=
            (session.setup.selector.select repository analysis.prioritized).take
              session.setup.settings.candidateLimit
          rules := session.registry.names
          guidance := session.guidance
          dryRun := session.dryRun } :=
  bind_of_ok (inputs_ok_iff.mpr ⟨hasRepository, hasAnalysis⟩)

/-- The selected paths: those of the repository that are of code and admitted, in its order. -/
structure Selects
    (session : Session)
    (repository : Snapshot)
    (analysis : Analysis)
    (selected : List String) :
    Prop where
  inOrder : selected.Sublist repository.paths
  mem_iff :
    ∀ path,
      path ∈ selected ↔
        path ∈ repository.paths ∧
          session.setup.settings.IsCode path ∧ analysis.prioritized.Admits path

theorem selects_select (session : Session) (repository : Snapshot) (analysis : Analysis) :
    session.Selects repository analysis
      (session.setup.selector.select repository analysis.prioritized) where
  inOrder := List.filter_sublist
  mem_iff := session.setup.mem_select_iff repository analysis.prioritized

/--
In every session with both inputs the preview succeeds and covers the files that the rules change.
The suggestion for the same inputs lists the first of the selected files, up to the limit in the
settings, and the previewed files are among all of these, in the same order. With an analysis that
names the same paths in another way, the preview and the suggested files are the same.
-/
theorem generate_covers
    {session : Session}
    {repository : Snapshot}
    {analysis : Analysis}
    (reached : session.Reachable)
    (hasRepository : session.repository = some repository)
    (hasAnalysis : session.analysis = some analysis) :
    ∃ next summary suggestion selected,
      session.generate = .ok (next, summary) ∧
        summary.files = next.diffs.map ChangeRecord.file ∧
        session.Covers repository analysis next.diffs ∧
        session.suggest = .ok suggestion ∧
        session.Selects repository analysis selected ∧
        suggestion.files = selected.take session.setup.settings.candidateLimit ∧
        (next.diffs.map ChangeRecord.file).Sublist selected ∧
        ∀ files : PrioritizedFiles,
          files.SamePaths analysis.prioritized →
            let renewed := (session.loadReadAnalysis { analysis with prioritized := files }).1
            ∃ again suggestionAgain,
              renewed.generate = .ok (again, summary) ∧
                again.diffs = next.diffs ∧
                renewed.suggest = .ok suggestionAgain ∧
                suggestionAgain.files = suggestion.files := by
  have coherent : session.Coherent := .of_reachable reached
  refine ⟨session.previewed repository analysis, _, _, _,
    coherent.generate_ok hasRepository hasAnalysis, rfl, session.covers_batch repository analysis,
    suggest_of_inputs hasRepository hasAnalysis, session.selects_select repository analysis, rfl,
    ?_, ?_⟩
  · change ((session.batch repository analysis).map ChangeRecord.file).Sublist _
    rw [batch_files]
    exact List.filter_sublist
  · intro files same renewed
    have renewedCoherent : renewed.Coherent := .of_reachable (reached.loadAnalysis _)
    have sameBatch :
        renewed.batch repository { analysis with prioritized := files } =
          session.batch repository analysis :=
      batch_of_samePaths rfl rfl same
    have sameSummary :
        (renewed.previewed repository { analysis with prioritized := files }).diffSummary =
          (session.previewed repository analysis).diffSummary := by
      simp only [diffSummary, previewed, sameBatch]
      rfl
    refine ⟨renewed.previewed repository { analysis with prioritized := files }, _, ?_, sameBatch,
      suggest_of_inputs hasRepository rfl, ?_⟩
    · rw [renewedCoherent.generate_ok hasRepository rfl, sameSummary]
    · change List.take _ (session.setup.selector.select repository files) = _
      rw [Setup.select_congr _ _ same]
      rfl

/-- An upgrade that names one page in each list, and a path that the repository lacks. -/
def twoPagesUpgrade : Analysis :=
  { routerUpgrade with prioritized := ⟨["logo.ts"], ["page.ts", "gone.ts"]⟩ }

/-- With all names in one list, one of them twice, both pages are previewed and suggested again. -/
theorem generate_covers_twoPages :
    let session :=
      ((ofSetup (.ofSettings .standard .failing standard_selector_isOk)).reloaded
        twoPages twoPagesUpgrade true)
    let files : PrioritizedFiles := ⟨["page.ts", "gone.ts", "logo.ts", "page.ts"], []⟩
    let renewed := (session.loadReadAnalysis { twoPagesUpgrade with prioritized := files }).1
    session.Reachable ∧
      session.repository = some twoPages ∧
      session.analysis = some twoPagesUpgrade ∧
      files.SamePaths twoPagesUpgrade.prioritized ∧
      ∃ next summary again,
        session.generate = .ok (next, summary) ∧
          next.diffs.map ChangeRecord.file = ["page.ts", "logo.ts"] ∧
          renewed.generate = .ok (again, summary) ∧
          again.diffs = next.diffs := by
  intro session files renewed
  have reached : session.Reachable :=
    (((Reachable.start _).loadSnapshot twoPages).loadAnalysis twoPagesUpgrade).setDryRun true
  have hasRepository : session.repository = some twoPages := rfl
  have hasAnalysis : session.analysis = some twoPagesUpgrade := rfl
  have same : files.SamePaths twoPagesUpgrade.prioritized := by
    intro path
    simp only [files, twoPagesUpgrade, List.mem_cons, List.not_mem_nil]
    tauto
  have listed :
      (session.batch twoPages twoPagesUpgrade).map ChangeRecord.file = ["page.ts", "logo.ts"] := by
    decide +kernel
  have previewed : session.generate = .ok (session.previewed twoPages twoPagesUpgrade, _) :=
    (Coherent.of_reachable reached).generate_ok hasRepository hasAnalysis
  obtain ⟨next, summary, _, _, done, -, -, -, -, -, -, unaffected⟩ :=
    generate_covers reached hasRepository hasAnalysis
  obtain rfl : next = session.previewed twoPages twoPagesUpgrade :=
    (Prod.mk.inj (Except.ok.inj (done.symm.trans previewed))).1
  obtain ⟨again, _, doneAgain, sameDiffs, -, -⟩ := unaffected files same
  exact
    ⟨reached, hasRepository, hasAnalysis, same, _, summary, again, done, listed, doneAgain,
      sameDiffs⟩

end Session

end SourceUpgrade
