import SourceUpgrade.Json.Printer
import SourceUpgrade.Json.Reader
import SourceUpgrade.Snapshot.Basic

namespace SourceUpgrade

/-!
# Snapshots as JSON

A snapshot is read from an object with a list of files. Entries of the list that are no files are
left out, fields without a meaning here are kept, and so is a label that is no text, which then
counts as a further field. Writing gives the label, the files and the further fields.
-/

/-- The file that an entry describes: it needs a text as path and a text or null as content. -/
def SourceFile.ofJson? : Json.Value → Option SourceFile
  | .object fields => do
      let path ← (Json.Fields.get? fields "path").bind Json.Value.string?
      let content ←
        match Json.Fields.get? fields "content" with
        | some (.string content) => some content
        | some .null => some ""
        | _ => none
      return ⟨path, content, Json.Fields.erase (Json.Fields.erase fields "path") "content"⟩
  | _ => none

/-- A file as an object. -/
def SourceFile.toJson (file : SourceFile) : Json.Value :=
  .object (("path", .string file.path) :: ("content", .string file.content) :: file.extra)

namespace Snapshot

/-- The snapshot that an object describes. -/
def ofFields (fields : Json.Fields) : Except SnapshotError Snapshot :=
  match Json.Fields.get? fields "files" with
  | some (.array entries) =>
      let files := entries.filterMap SourceFile.ofJson?
      let rest := Json.Fields.erase fields "files"
      match Json.Fields.get? fields "label" with
      | some (.string label) => ofFiles files label (Json.Fields.erase rest "label")
      | _ => ofFiles files "" rest
  | _ => .error .missingFiles

/-- The snapshot that a value describes. -/
def ofJson : Json.Value → Except SnapshotError Snapshot
  | .object fields => ofFields fields
  | _ => .error .notAnObject

/-- Read a snapshot. -/
def read (payload : String) : Except SnapshotError Snapshot :=
  match Json.read payload with
  | .error _ => .error .badJson
  | .ok value => ofJson value

/-- The fields of a snapshot in the order in which they are written; an empty label is left out. -/
def toFields (snapshot : Snapshot) : Json.Fields :=
  let files : Json.Fields := [("files", .array (snapshot.files.map SourceFile.toJson))]
  (if snapshot.label.isEmpty then [] else [("label", .string snapshot.label)]) ++ files ++
    snapshot.extra

/-- A snapshot as an object. -/
def toJson (snapshot : Snapshot) : Json.Value :=
  .object snapshot.toFields

/-- The text of a snapshot. -/
def write (snapshot : Snapshot) : String :=
  snapshot.toJson.pretty

end Snapshot

end SourceUpgrade
