import SourceUpgrade.Flag
import SourceUpgrade.Session.Basic

namespace SourceUpgrade

/-!
# Operations

What can be asked of a session, with the arguments as texts. Every operation has a reply, a result
or an error. Operations are performed at a desk: a session beside the disk to which it exports.
-/

/-- What can be asked of a session. -/
inductive Operation where
  | loadRepository (payload : String)
  | loadAnalysis (payload : String)
  | addRule (payload : String)
  | setDryRun (flag : String)
  | suggest
  | generate
  | apply
  | exportTo (path : String)
  /-- Load both inputs, set the gate, preview, and apply unless the gate is on. -/
  | full (repository analysis flag : String)
deriving Repr, DecidableEq

/-- What came of an attempt to apply changes. -/
abbrev ApplyReply : Type := Except SessionError ApplyReport

/-- The result of an operation. -/
inductive Result where
  | repository (summary : RepositorySummary)
  | analysis (summary : AnalysisSummary)
  | rules (count : Nat)
  | dryRun (flag : Bool)
  | suggestion (suggestion : Suggestion)
  | diffs (summary : DiffSummary) (applied : Option ApplyReply)
  | applied (report : ApplyReport)
  | exported (report : ExportReport)

/-- The reply to an operation. -/
abbrev Reply : Type := Except SessionError Result

namespace Session

/-- Go on with the session that an operation gives; if it gives none, the one before stays. -/
def settle
    {α : Type}
    (session : Session)
    (result : α → Result)
    (outcome : Except SessionError (Session × α)) :
    Session × Reply :=
  match outcome with
  | .error error => (session, .error error)
  | .ok (next, value) => (next, .ok (result value))

/-- Apply the previewed changes unless the gate is on; the reply to that, if it was tried. -/
def applyUnlessDry (session : Session) : Session × Option ApplyReply :=
  if session.dryRun then
    (session, none)
  else
    match session.apply with
    | .error error => (session, some (.error error))
    | .ok (next, report) => (next, some (.ok report))

/-- Load both inputs, set the gate, preview, and apply unless the gate is on. -/
def full (session : Session) (repository analysis flag : String) : Session × Reply :=
  match session.loadRepository repository with
  | .error error => (session, .error error)
  | .ok (session, _) =>
      match session.loadAnalysis analysis with
      | .error error => (session, .error error)
      | .ok (session, _) =>
          let session := session.setDryRun (readFlag flag)
          match session.generate with
          | .error error => (session, .error error)
          | .ok (session, summary) =>
              let (session, applied) := session.applyUnlessDry
              (session, .ok (.diffs summary applied))

end Session

/-- The path that a text asks for; a blank text asks for none. -/
def requestedPath (text : String) : Option String :=
  let path := Text.trimString text
  if path.isEmpty then none else some path

/-- A session beside the disk to which it exports. -/
structure Desk where
  session : Session
  disk : Disk

namespace Desk

/-- All files of a desk. -/
def folder (desk : Desk) : Folder := desk.disk.toFolder

/-- The desk with another session. -/
def withSession (desk : Desk) (answer : Session × Reply) : Desk × Reply :=
  ({ desk with session := answer.1 }, answer.2)

/-- Export to the disk. -/
def exportTo (desk : Desk) (path : String) : Desk × Reply :=
  match desk.session.exportTo desk.disk (requestedPath path) with
  | .error error => (desk, .error error)
  | .ok (disk, report) => ({ desk with disk := disk }, .ok (.exported report))

/-- Perform an operation. -/
def perform (desk : Desk) (operation : Operation) : Desk × Reply :=
  let session := desk.session
  match operation with
  | .loadRepository payload =>
      desk.withSession (session.settle .repository (session.loadRepository payload))
  | .loadAnalysis payload =>
      desk.withSession (session.settle .analysis (session.loadAnalysis payload))
  | .addRule payload => desk.withSession (session.settle .rules (session.readRule payload))
  | .setDryRun flag =>
      desk.withSession (session.setDryRun (readFlag flag), .ok (.dryRun (readFlag flag)))
  | .suggest => (desk, session.suggest.map .suggestion)
  | .generate =>
      desk.withSession (session.settle (fun summary => .diffs summary none) session.generate)
  | .apply => desk.withSession (session.settle .applied session.apply)
  | .exportTo path => desk.exportTo path
  | .full repository analysis flag => desk.withSession (session.full repository analysis flag)

end Desk

end SourceUpgrade
