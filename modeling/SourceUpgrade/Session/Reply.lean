import SourceUpgrade.Json.Value
import SourceUpgrade.Session.Operation

namespace SourceUpgrade

/-!
# Replies as JSON

A reply is an object that says whether the operation succeeded, beside the fields of its result or
the code and the message of its error.
-/

/-- A record of a change as an object. -/
def ChangeRecord.toJson (record : ChangeRecord) : Json.Value :=
  .record
    [("file", .string record.file),
      ("before_hash", .string record.beforeHash),
      ("after_hash", .string record.afterHash),
      ("changes", .ofNat record.changes),
      ("notes", .ofStrings record.notes),
      ("patch", .string record.patch)]

/-- The guidance on a topic as an object. -/
def GuidanceTopic.toJson (topic : GuidanceTopic) : Json.Value :=
  .record [("urls", .ofStrings topic.urls), ("hints", .ofStrings topic.hints)]

/-- Guidance as an object with a field for each topic. -/
def Guidance.toJson (guidance : Guidance) : Json.Value :=
  .record (guidance.map fun (topic, held) => (topic, held.toJson))

/-- The fields of a summary of a repository. -/
def RepositorySummary.toFields (summary : RepositorySummary) : Json.Fields :=
  [("files", .ofNat summary.files), ("label", .string summary.label)]

/-- The fields of a summary of an analysis. -/
def AnalysisSummary.toFields (summary : AnalysisSummary) : Json.Fields :=
  [("package", .string summary.package),
    ("current_version", .string summary.currentVersion),
    ("target_version", .string summary.targetVersion),
    ("topics", .ofStrings summary.topics)]

/-- The fields of a suggestion. -/
def Suggestion.toFields (suggestion : Suggestion) : Json.Fields :=
  [("considering_files", .ofStrings suggestion.files),
    ("rules", .ofStrings suggestion.rules),
    ("guidance_hints", suggestion.guidance.toJson),
    ("dry_run", .bool suggestion.dryRun)]

/-- The fields of a summary of a preview. -/
def DiffSummary.toFields (summary : DiffSummary) : Json.Fields :=
  [("diff_count", .ofNat summary.count),
    ("files_changed", .ofStrings summary.files),
    ("preview", .array (summary.preview.map ChangeRecord.toJson))]

/-- The fields of a report on applied changes. -/
def ApplyReport.toFields (report : ApplyReport) : Json.Fields :=
  [("applied_files", .ofStrings report.files), ("count", .ofNat report.count)]

/-- The fields of a report on an export. -/
def ExportReport.toFields (report : ExportReport) : Json.Fields :=
  [("written", .string report.written), ("files", .ofNat report.files)]

/-- A reply with the fields of a result. -/
def successJson (fields : Json.Fields) : Json.Value :=
  .record (("status", .string "ok") :: fields)

/-- A reply with an error. -/
def SessionError.toJson (error : SessionError) : Json.Value :=
  .record
    [("status", .string "error"), ("code", .string error.code), ("message", .string error.message)]

/-- The reply to an attempt to apply changes. -/
def ApplyReply.toJson : ApplyReply → Json.Value
  | .error error => error.toJson
  | .ok report => successJson report.toFields

/-- The fields of a result. -/
def Result.toFields : Result → Json.Fields
  | .repository summary => summary.toFields
  | .analysis summary => summary.toFields
  | .rules count => [("custom_rules", .ofNat count)]
  | .dryRun flag => [("dry_run", .bool flag)]
  | .suggestion found => found.toFields
  | .diffs summary none => summary.toFields
  | .diffs summary (some attempt) => summary.toFields ++ [("apply", attempt.toJson)]
  | .applied report => report.toFields
  | .exported report => report.toFields

/-- A reply as an object. -/
def Reply.toJson : Reply → Json.Value
  | .error error => error.toJson
  | .ok result => successJson result.toFields

end SourceUpgrade
