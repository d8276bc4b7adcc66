import SourceUpgrade.CommandLine.Arguments
import SourceUpgrade.Guidance.Collection
import SourceUpgrade.Json.Printer
import SourceUpgrade.Session.Reply
import SourceUpgrade.Settings.Codec

namespace SourceUpgrade.CommandLine

/-!
# Running commands

A command reads the files it was given, loads them into a session and prints what comes of one
operation. It writes at most one file, as its last step. A run is therefore either finished or one
write away from its outcome, which may depend on whether the write succeeds.
-/

/-- What the program leaves behind: an exit code, a text, and the message of an error. -/
structure Outcome where
  code : Nat
  output : String
  error : Option String
deriving Repr, DecidableEq

/-- Why a command failed. -/
inductive Failure where
  | unreadable (path : String)
  | badRuleFile (path : String)
  | badRule (path : String)
  | badGuidance (path : String)
  | settings (error : SettingsError)
  | session (error : SessionError)
  | refused
deriving Repr, DecidableEq

/-- The wording of a failure. -/
def Failure.message : Failure → String
  | .unreadable path => "failed to read " ++ path
  | .badRuleFile path => path ++ " is not valid JSON"
  | .badRule path => "invalid rule in " ++ path
  | .badGuidance path => "invalid guidance file " ++ path
  | .settings error => error.message
  | .session error => error.message
  | .refused => "codemod failed"

namespace Outcome

/-- A command that succeeded and printed a text. -/
def success (output : String) : Outcome :=
  ⟨0, output, none⟩

/-- A command that failed, after printing a text. -/
def failed (failure : Failure) (output : String) : Outcome :=
  ⟨1, output, some failure.message⟩

/-- Arguments that ask for nothing the program can do. -/
def misuse : Outcome :=
  ⟨2, "", none⟩

/-- What is printed about an error. -/
def errorText (outcome : Outcome) : Option String :=
  outcome.error.map fun message => "Error: " ++ message

end Outcome

/-- A run: finished, or about to write a text to a path and then to finish in one of two ways. -/
inductive Step where
  | finish (outcome : Outcome)
  | write (path text : String) (next : Bool → Outcome)

/-! ## Printing -/

/-- A line. -/
def line (text : String) : String :=
  text ++ "\n"

/-- All lines one after the other. -/
def lines (texts : List String) : String :=
  String.join (texts.map line)

/-- A value on lines of its own. -/
def printJson (fields : Json.Fields) : String :=
  line (Json.Value.record fields).pretty

/-- The heading of a record. -/
def recordHeading (record : ChangeRecord) : String :=
  "# " ++ record.file ++ " (" ++ Text.decimal record.changes ++ " changes, " ++
    record.beforeHash ++ " -> " ++ record.afterHash ++ ")"

/-- A record with its notes and its patch. -/
def printRecord (record : ChangeRecord) : String :=
  line (recordHeading record) ++ lines (record.notes.map ("#   " ++ ·)) ++ record.patch

/-- All records. -/
def printRecords (records : List ChangeRecord) : String :=
  String.join (records.map printRecord)

/-- A suggestion. -/
def printSuggestion (suggestion : Suggestion) : String :=
  line ("Rules: " ++ ", ".intercalate suggestion.rules) ++
    line ("Considering " ++ Text.decimal suggestion.files.length ++ " files:") ++
    lines (suggestion.files.map ("  " ++ ·)) ++
    lines (suggestion.guidance.map fun (topic, held) =>
      "Guidance [" ++ topic ++ "]: " ++ ", ".intercalate held.hints)

/-- What applying and exporting came to. -/
def printApplied (report : ApplyReport) (exported : ExportReport) : String :=
  lines (report.files.map ("applied " ++ ·)) ++
    line ("Wrote " ++ Text.decimal exported.files ++ " files to " ++ exported.written)

/-- The last line of a whole run. -/
def runLine (count : Nat) (applied : Bool) : String :=
  line (Text.decimal count ++ " files changed" ++ if applied then ", applied" else " (dry run)")

/-! ## Preparing a session -/

/-- How files are read: the text to which a path leads. -/
abbrev Files : Type := String → Option String

/-- Read a file. -/
def readFile (files : Files) (path : String) : Except Failure String :=
  match files path with
  | none => .error (.unreadable path)
  | some text => .ok text

/-- The entries of a rule file: the items of a list, or the one value that there is. -/
def ruleEntries : Json.Value → List Json.Value
  | .array entries => entries
  | entry => [entry]

/-- Read the rules in a file, which holds one or a list of them. -/
def readRules (files : Files) (path : String) : Except Failure (List CustomRuleSpec) := do
  let text ← readFile files path
  match Json.read text with
  | .error _ => throw (.badRuleFile path)
  | .ok value =>
      match (ruleEntries value).mapM CustomRuleSpec.ofJson with
      | .error _ => throw (.badRule path)
      | .ok specs => return specs

/-- The settings in a file, or the standard ones. -/
def readSettings (files : Files) : Option String → Except Failure Settings
  | none => .ok .standard
  | some path =>
      match files path with
      | none => .error (.settings (.unreadable path))
      | some text => (Settings.read text).mapError .settings

/-- The guidance source that answers from a file, or one that has no answers. -/
def readSource (files : Files) : Option String → Except Failure GuidanceSource
  | none => .ok (.ofMatches [])
  | some path => do
      let text ← readFile files path
      match readGuidance text with
      | .error _ => throw (.badGuidance path)
      | .ok found => return .ofMatches found

/-- The session of an invocation, with its rules and with nothing loaded. -/
def prepare (files : Files) (invocation : Invocation) : Except Failure Session := do
  let settings ← readSettings files invocation.settings
  let started ← (Session.start settings (.ofMatches [])).mapError .session
  let source ← readSource files invocation.guidance
  let specs ← invocation.rules.mapM (readRules files)
  let session := { started with setup := { started.setup with source := source } }
  return specs.flatten.foldl Session.addRule session

/-- The two inputs as they are read. -/
structure Inputs where
  repository : String
  analysis : String
deriving Repr, DecidableEq

/-- A session with both inputs loaded. -/
def load (session : Session) (inputs : Inputs) : Except SessionError Session := do
  let (session, _) ← session.loadRepository inputs.repository
  let (session, _) ← session.loadAnalysis inputs.analysis
  return session

/-! ## Commands -/

/-- List the files, rules and guidance of an upgrade. -/
def suggest (invocation : Invocation) (session : Session) (inputs : Inputs) : Step :=
  match (load session inputs).bind Session.suggest with
  | .error error => .finish (.failed (.session error) "")
  | .ok suggestion =>
      .finish (.success
        (if invocation.json then printJson suggestion.toFields else printSuggestion suggestion))

/-- Preview the changes. -/
def diff (invocation : Invocation) (session : Session) (inputs : Inputs) : Step :=
  match (load session inputs).bind Session.generate with
  | .error error => .finish (.failed (.session error) "")
  | .ok (session, summary) =>
      .finish (.success
        (if invocation.json then printJson summary.toFields else printRecords session.diffs))

/-- Preview the changes, apply them and say what is to be exported. -/
def applied
    (invocation : Invocation)
    (session : Session)
    (inputs : Inputs) :
    Except SessionError (ApplyReport × ExportRequest) := do
  let session ← load session inputs
  let (session, _) ← (session.setDryRun invocation.dryRun).generate
  let (session, report) ← session.apply
  let request ← session.exportRequest invocation.out
  return (report, request)

/-- Apply the changes and export the result. -/
def apply (invocation : Invocation) (session : Session) (inputs : Inputs) : Step :=
  match applied invocation session inputs with
  | .error error => .finish (.failed (.session error) "")
  | .ok (report, request) =>
      .write request.path request.text fun written =>
        if !written then
          .failed (.session (.notWritten request.path)) ""
        else if invocation.json then
          .success (printJson
            [("apply", .record report.toFields), ("export", .record request.report.toFields)])
        else
          .success (printApplied report request.report)

/-- What a whole run prints at its end; the export has a reply if it was tried. -/
def runOutcome
    (invocation : Invocation)
    (session : Session)
    (reply : Json.Fields)
    (exported : Option Json.Value) :
    Outcome :=
  if invocation.json then
    .success (printJson (reply ++ (exported.map (("export", ·))).toList))
  else
    .success (printRecords session.diffs ++ runLine session.diffs.length exported.isSome)

/-- Preview, apply unless told otherwise, and export what was applied. -/
def run (invocation : Invocation) (session : Session) (inputs : Inputs) : Step :=
  let flag := if invocation.dryRun then "true" else "false"
  match session.full inputs.repository inputs.analysis flag with
  | (_, .error error) => .finish (.failed .refused (line error.toJson.pretty))
  | (session, .ok result) =>
      let reply := ("status", .string "ok") :: result.toFields
      match result with
      | .diffs _ (some (.ok _)) =>
          match session.exportRequest (requestedPath (invocation.out.getD "")) with
          | .error error => .finish (runOutcome invocation session reply (some error.toJson))
          | .ok request =>
              .write request.path request.text fun written =>
                runOutcome invocation session reply
                  (some
                    (if written then successJson request.report.toFields
                      else (SessionError.notWritten request.path).toJson))
      | _ => .finish (runOutcome invocation session reply none)

/-- Do what an invocation says. -/
def Invocation.step (invocation : Invocation) (files : Files) : Step :=
  let prepared := do
    let repository ← readFile files invocation.repository
    let analysis ← readFile files invocation.analysis
    let session ← prepare files invocation
    return (session, (⟨repository, analysis⟩ : Inputs))
  match prepared with
  | .error failure => .finish (.failed failure "")
  | .ok (session, inputs) =>
      match invocation.command with
      | .suggest => suggest invocation session inputs
      | .diff => diff invocation session inputs
      | .apply => apply invocation session inputs
      | .run => run invocation session inputs

/-- The paths of the files that an invocation may read. -/
def Invocation.paths (invocation : Invocation) : List String :=
  invocation.repository :: invocation.analysis :: invocation.settings.toList ++
    invocation.guidance.toList ++ invocation.rules

/-! ## The program -/

/-- The name of the program and its version. -/
def versionText : String :=
  "codemod 0.1.0\n"

/-- How the program is used. -/
def usageText : String :=
  lines
    ["Usage: codemod [--log-json] COMMAND --repo FILE --artifact FILE [OPTIONS]",
      "",
      "Commands:",
      "  suggest  List candidate files, rules and guidance hints",
      "  diff     Generate diffs without touching the snapshot",
      "  apply    Generate diffs, apply them and export the result",
      "  run      Load, suggest, diff and apply in one step",
      "",
      "Options:",
      "  --rule FILE      Custom rule or list of custom rules (repeatable)",
      "  --config FILE    Settings",
      "  --guidance FILE  Answers to the supplemental question",
      "  --out FILE       Export destination",
      "  --dry-run        Keep dry-run on",
      "  --json           Print JSON"]

/-- The step for what arguments ask for. -/
def Request.step (request : Request) (files : Files) : Step :=
  match request with
  | .misuse => .finish .misuse
  | .help => .finish (.success usageText)
  | .version => .finish (.success versionText)
  | .invoke invocation => invocation.step files

/-- Take a step on a disk: what the program leaves behind, and the disk after it. -/
def Step.takeIn (disk : Disk) : Step → Outcome × Disk
  | .finish outcome => (outcome, disk)
  | .write path text next =>
      match disk.write? path text with
      | none => (next false, disk)
      | some written => (next true, written)

/-- Run the program with arguments on a disk. -/
def runIn (disk : Disk) (arguments : List String) : Outcome × Disk :=
  ((readArguments arguments).step disk.read?).takeIn disk

end SourceUpgrade.CommandLine
