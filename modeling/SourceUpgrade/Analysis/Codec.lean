import SourceUpgrade.Analysis.Basic
import SourceUpgrade.Json.Printer
import SourceUpgrade.Json.Reader

namespace SourceUpgrade

/-!
# Analysis artifacts as JSON

Every named field may be missing or null and then has its default. A group of fields may also be
given as a list of their values in order, from which values at the end may be missing; only the
analysis itself and references, which keep fields without a meaning here, have to be objects.
-/

namespace Analysis

/-- The meaning of a field that may be missing or null. -/
def optional?
    {α : Type}
    (meaning? : Json.Value → Option α)
    (default : α) :
    Option Json.Value → Option α
  | none => some default
  | some .null => some default
  | some value => meaning? value

/-- The list of meanings that an array has. -/
def list?
    {α : Type}
    (meaning? : Json.Value → Option α) :
    Json.Value → Option (List α)
  | .array items => items.mapM meaning?
  | _ => none

/-- The two fields with the given names: from an object, or from a list of at most two values. -/
def pairOf?
    (first second : String) :
    Json.Value → Option (Option Json.Value × Option Json.Value)
  | .object fields => some (Json.Fields.get? fields first, Json.Fields.get? fields second)
  | .array items =>
      if items.length ≤ 2 then some (items[0]?, items[1]?) else none
  | _ => none

end Analysis

open Analysis in
/-- The prioritized files that a value describes. -/
def PrioritizedFiles.ofJson? (value : Json.Value) : Option PrioritizedFiles := do
  let (risky, all) ← pairOf? "risky_first" "all_package_files" value
  return ⟨← optional? (list? Json.Value.string?) [] risky,
    ← optional? (list? Json.Value.string?) [] all⟩

open Analysis in
/-- The reference that a value describes; fields without a meaning here are kept. -/
def Reference.ofJson? : Json.Value → Option Reference
  | .object fields => do
      let url ← optional? Json.Value.string? "" (Json.Fields.get? fields "url")
      let snippet ← optional? Json.Value.string? "" (Json.Fields.get? fields "snippet")
      return ⟨url, snippet, Json.Fields.erase (Json.Fields.erase fields "url") "snippet"⟩
  | _ => none

open Analysis in
/-- The entry that a value describes. -/
def GuidanceEntry.ofJson? (value : Json.Value) : Option GuidanceEntry := do
  let (topic, references) ← pairOf? "topic" "references" value
  return ⟨← optional? Json.Value.string? defaultTopic topic,
    ← optional? (list? Reference.ofJson?) [] references⟩

namespace Analysis

/-- The analysis that an object describes. -/
def ofFields? (fields : Json.Fields) : Option Analysis := do
  let text := fun (key : String) => optional? Json.Value.string? "" (Json.Fields.get? fields key)
  let package ← text "package"
  let current ← text "current_version"
  let target ← text "target_version"
  let prioritized ←
    optional? PrioritizedFiles.ofJson? .none (Json.Fields.get? fields "prioritized_files")
  let guidance ← optional? (list? GuidanceEntry.ofJson?) [] (Json.Fields.get? fields "rag_guidance")
  return ⟨package, current, target, prioritized, guidance⟩

/-- The analysis that a value describes. -/
def ofJson : Json.Value → Except AnalysisError Analysis
  | .object fields =>
      match ofFields? fields with
      | none => .error .badJson
      | some analysis => .ok analysis
  | _ => .error .notAnObject

/-- Read an analysis. -/
def read (payload : String) : Except AnalysisError Analysis :=
  match Json.read payload with
  | .error _ => .error .badJson
  | .ok value => ofJson value

end Analysis

/-- The prioritized files as an object. -/
def PrioritizedFiles.toJson (files : PrioritizedFiles) : Json.Value :=
  .object
    [("risky_first", .ofStrings files.riskyFirst),
      ("all_package_files", .ofStrings files.allPackageFiles)]

/-- A reference as an object, its further fields after the named ones. -/
def Reference.toJson (reference : Reference) : Json.Value :=
  .object
    (("url", .string reference.url) :: ("snippet", .string reference.snippet) :: reference.extra)

/-- An entry as an object. -/
def GuidanceEntry.toJson (entry : GuidanceEntry) : Json.Value :=
  .object
    [("topic", .string entry.topic),
      ("references", .array (entry.references.map Reference.toJson))]

/-- An analysis as an object. -/
def Analysis.toJson (analysis : Analysis) : Json.Value :=
  .object
    [("package", .string analysis.package),
      ("current_version", .string analysis.currentVersion),
      ("target_version", .string analysis.targetVersion),
      ("prioritized_files", analysis.prioritized.toJson),
      ("rag_guidance", .array (analysis.guidance.map GuidanceEntry.toJson))]

/-- The text of an analysis. -/
def Analysis.write (analysis : Analysis) : String :=
  analysis.toJson.pretty

end SourceUpgrade
