import SourceUpgrade.Analysis.Codec
import SourceUpgrade.Disk
import SourceUpgrade.Rule.Registry
import SourceUpgrade.Session.Error
import SourceUpgrade.Snapshot.Codec

namespace SourceUpgrade

/-!
# Sessions

A session holds what one upgrade needs: a repository, an analysis with its guidance, rules, a gate
against applying by mistake, the previewed changes and the modified repository.

The loaded repository never changes: applying writes into a copy. Loading either input forgets the
previewed changes and the copy. Applying runs the rules again, with those that were added meanwhile.
An operation that fails gives no session, so that the one before it stays in use.
-/

/-- What a session keeps from its start to its end. -/
structure Setup where
  settings : Settings
  selector : FileSelector
  source : GuidanceSource
  selector_eq : settings.selector = .ok selector

/-- A session. -/
structure Session where
  setup : Setup
  registry : Registry
  repository : Option Snapshot
  analysis : Option Analysis
  guidance : Guidance
  dryRun : Bool
  diffs : List ChangeRecord
  modified : Option Snapshot
  state : State
  asked : List GuidanceQuery

/-! ## Results -/

/-- What loading a repository gives. -/
structure RepositorySummary where
  files : Nat
  label : String
deriving Repr, DecidableEq

/-- What loading an analysis gives. -/
structure AnalysisSummary where
  package : String
  currentVersion : String
  targetVersion : String
  topics : List String
deriving Repr, DecidableEq

/-- What an upgrade would look at. -/
structure Suggestion where
  files : List String
  rules : List String
  guidance : Guidance
  dryRun : Bool
deriving Repr, DecidableEq

/-- What a preview gives: all files that change, and the first of the records. -/
structure DiffSummary where
  files : List String
  preview : List ChangeRecord
deriving Repr, DecidableEq

/-- How many files change. -/
def DiffSummary.count (summary : DiffSummary) : Nat :=
  summary.files.length

/-- What applying gives: the files that were changed. -/
structure ApplyReport where
  files : List String
deriving Repr, DecidableEq

/-- How many files were changed. -/
def ApplyReport.count (report : ApplyReport) : Nat :=
  report.files.length

/-- What is to be written by an export: where, the text, and how many files it holds. -/
structure ExportRequest where
  path : String
  text : String
  files : Nat
deriving Repr, DecidableEq

/-- What an export gives. -/
structure ExportReport where
  written : String
  files : Nat
deriving Repr, DecidableEq

/-- The report on an export that has been written. -/
def ExportRequest.report (request : ExportRequest) : ExportReport :=
  ⟨request.path, request.files⟩

/-! ## Guidance -/

namespace Setup

/-- The question that goes with an analysis, if it names a package and a version to go to. -/
def question? (setup : Setup) (analysis : Analysis) : Option GuidanceQuery :=
  if analysis.package.isEmpty || analysis.targetVersion.isEmpty then
    none
  else
    some
      { text := upgradeQuestion analysis.package analysis.currentVersion analysis.targetVersion
        limit := setup.settings.supplementalLimit
        framework := frameworkHint analysis.package }

/-- The answers of the source to the question that goes with an analysis. -/
def answers (setup : Setup) (analysis : Analysis) : List GuidanceMatch :=
  match setup.question? analysis with
  | none => []
  | some question => setup.source.ask question

/-- The guidance of an analysis, compacted, with what the source answers. -/
def guidance (setup : Setup) (analysis : Analysis) : Guidance :=
  let compacted := setup.settings.vocabulary.compact analysis.guidance
  let answers := setup.answers analysis
  if answers.isEmpty then compacted
  else compacted.addSupplemental (answers.map GuidanceMatch.url)

end Setup

namespace Session

/-! ## Start -/

/-- A session with a setup and nothing loaded. -/
def ofSetup (setup : Setup) : Session where
  setup := setup
  registry := .standard
  repository := none
  analysis := none
  guidance := []
  dryRun := setup.settings.dryRun
  diffs := []
  modified := none
  state := .empty
  asked := []

/-- A session with settings and a guidance source. -/
def start (settings : Settings) (source : GuidanceSource) : Except SessionError Session :=
  match settings.fault? with
  | some error => .error (.settings error)
  | none =>
      match found : settings.selector with
      | .error error => .error (.settings error)
      | .ok selector => .ok (ofSetup ⟨settings, selector, source, found⟩)

/-! ## Loading -/

/-- The state after loading, which depends on whether both inputs are there. -/
def stateAfterLoad (session : Session) : State :=
  if session.repository.isSome && session.analysis.isSome then .loaded else .empty

/-- Forget what was derived from the inputs before. -/
def afterLoad (session : Session) : Session :=
  { session with diffs := [], modified := none, state := session.stateAfterLoad }

/-- Load a repository. -/
def loadSnapshot (session : Session) (snapshot : Snapshot) : Session × RepositorySummary :=
  (afterLoad { session with repository := some snapshot }, ⟨snapshot.size, snapshot.label⟩)

/-- Read a repository and load it. -/
def loadRepository
    (session : Session)
    (payload : String) :
    Except SessionError (Session × RepositorySummary) :=
  match Snapshot.read payload with
  | .error error => .error (.repository error)
  | .ok snapshot => .ok (session.loadSnapshot snapshot)

/-- Load an analysis, with the guidance for it. -/
def loadReadAnalysis (session : Session) (analysis : Analysis) : Session × AnalysisSummary :=
  let guidance := session.setup.guidance analysis
  let loaded :=
    { session with
      analysis := some analysis
      guidance := guidance
      asked := session.asked ++ (session.setup.question? analysis).toList }
  (loaded.afterLoad,
    { package := analysis.package
      currentVersion := analysis.currentVersion
      targetVersion := analysis.targetVersion
      topics := guidance.topics })

/-- Read an analysis and load it. -/
def loadAnalysis
    (session : Session)
    (payload : String) :
    Except SessionError (Session × AnalysisSummary) :=
  match Analysis.read payload with
  | .error error => .error (.analysis error)
  | .ok analysis => .ok (session.loadReadAnalysis analysis)

/-! ## Rules and the gate -/

/-- Add a custom rule after all others. -/
def addRule (session : Session) (spec : CustomRuleSpec) : Session :=
  { session with registry := session.registry.register spec }

/-- Read a custom rule and add it; the number of custom rules is given back. -/
def readRule (session : Session) (payload : String) : Except SessionError (Session × Nat) :=
  match CustomRuleSpec.read payload with
  | .error error => .error (.rule error)
  | .ok spec =>
      let added := session.addRule spec
      .ok (added, added.registry.customs.length)

/-- Set the gate: while it is on, nothing is applied. -/
def setDryRun (session : Session) (dryRun : Bool) : Session :=
  { session with dryRun := dryRun }

/-! ## Changes -/

/-- Both inputs. -/
def inputs (session : Session) : Except SessionError (Snapshot × Analysis) :=
  match session.repository, session.analysis with
  | none, _ => .error .repositoryNotLoaded
  | some _, none => .error .analysisNotLoaded
  | some repository, some analysis => .ok (repository, analysis)

/-- List the files and rules of an upgrade, without running a rule. -/
def suggest (session : Session) : Except SessionError Suggestion := do
  let (repository, analysis) ← session.inputs
  return {
    files :=
      session.setup.selector.candidates repository analysis.prioritized
        session.setup.settings.candidateLimit
    rules := session.registry.names
    guidance := session.guidance
    dryRun := session.dryRun }

/-- What the rules make of a file. -/
def transformed
    (session : Session)
    (analysis : Analysis)
    (path content : String) :
    FileTransform :=
  session.registry.run (.ofAnalysis analysis session.guidance) path content

/-- The record of a file of a repository, if the rules change it. -/
def record?
    (session : Session)
    (repository : Snapshot)
    (analysis : Analysis)
    (path : String) :
    Option ChangeRecord :=
  let before := (repository.get? path).getD ""
  let done := session.transformed analysis path before
  session.setup.settings.recordStyle.record? path before done.content done.changes done.notes

/-- The records of all selected files that the rules change. -/
def batch (session : Session) (repository : Snapshot) (analysis : Analysis) : List ChangeRecord :=
  (session.setup.selector.select repository analysis.prioritized).filterMap
    (session.record? repository analysis)

/-- The summary of the previewed changes. -/
def diffSummary (session : Session) : DiffSummary where
  files := session.diffs.map ChangeRecord.file
  preview := session.diffs.take session.setup.settings.previewLimit

/-- Preview the changes. -/
def generate (session : Session) : Except SessionError (Session × DiffSummary) := do
  let (repository, analysis) ← session.inputs
  let diffs := session.batch repository analysis
  let state ← session.state.moveTo .previewed
  let previewed := { session with diffs := diffs, state := state }
  return (previewed, previewed.diffSummary)

/-- The new contents of the previewed files that the rules change now. -/
def newContents
    (session : Session)
    (repository : Snapshot)
    (analysis : Analysis) :
    List (String × String) :=
  session.diffs.filterMap fun record => do
    let before ← repository.get? record.file
    let after := (session.transformed analysis record.file before).content
    if after = before then none else some (record.file, after)

/-- A snapshot with new contents for some files. -/
def withContents (repository : Snapshot) (contents : List (String × String)) : Snapshot :=
  contents.foldl (fun copy file => copy.setContent file.1 file.2) repository

/-- Apply the previewed changes to a copy of the repository. -/
def apply (session : Session) : Except SessionError (Session × ApplyReport) := do
  if session.dryRun then
    throw .dryRunEnabled
  if session.diffs.isEmpty then
    throw .noDiffs
  let (repository, analysis) ← session.inputs
  let contents := session.newContents repository analysis
  let state ← session.state.moveTo .applied
  return ({ session with modified := some (withContents repository contents), state := state },
    ⟨contents.map Prod.fst⟩)

/-! ## Export -/

/-- What an export writes: the modified repository if there is one, otherwise the loaded one. -/
def exportRequest
    (session : Session)
    (path : Option String) :
    Except SessionError ExportRequest :=
  match session.modified.or session.repository with
  | none => .error .repositoryNotLoaded
  | some snapshot =>
      .ok
        { path := path.getD session.setup.settings.exportPath
          text := snapshot.write
          files := snapshot.size }

/-- Export to a disk, to a path or else to the one in the settings. -/
def exportTo
    (session : Session)
    (disk : Disk)
    (path : Option String) :
    Except SessionError (Disk × ExportReport) := do
  let request ← session.exportRequest path
  match disk.write? request.path request.text with
  | none => throw (.notWritten request.path)
  | some disk => return (disk, request.report)

end Session

end SourceUpgrade
