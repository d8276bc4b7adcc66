import Std.Data.ExtHashMap
import SourceUpgrade.Snapshot.Codec

namespace SourceUpgrade

/-!
# Snapshots in storage

How a snapshot is held: its files in a row, and beside them an index from paths to positions. Files
are put in one after the other. A content is looked up and set at the position that the index tells,
without a look at the paths of the files.
-/

/-- Files in a row, with an index from paths to positions, a label and further fields. -/
structure Store where
  files : Array SourceFile
  label : String
  extra : Json.Fields
  index : Std.ExtHashMap String Nat

namespace Store

/-- A store without files. -/
def empty (label : String) : Store where
  files := #[]
  label := label
  extra := []
  index := ∅

/-- The position that the index has for a path. -/
def position? (store : Store) (path : String) : Option Nat :=
  store.index[path]?

/-- Whether the index has a path. -/
def contains (store : Store) (path : String) : Bool :=
  store.index.contains path

/-- Put a file in last and enter its position into the index. -/
def put (store : Store) (file : SourceFile) : Store :=
  { store with
    files := store.files.push file
    index := store.index.insert file.path store.files.size }

/-- Put a file in last, unless the index has its path. -/
def add (store : Store) (file : SourceFile) : Except SnapshotError Store :=
  if store.contains file.path then .error (.duplicatePath file.path)
  else .ok (store.put file)

/-- The store with the given files, put in one after the other, unless a path occurs twice. -/
def ofFiles (files : List SourceFile) (label : String) : Except SnapshotError Store :=
  files.foldlM add (empty label)

/-- Take the label out of the fields beside the files; one that is no text stays among them. -/
def takeLabel (fields : Json.Fields) : String × Json.Fields :=
  match Json.Fields.get? fields "label" with
  | some (.string label) => (label, Json.Fields.erase fields "label")
  | _ => ("", fields)

/-- The store that an object describes. -/
def ofFields (fields : Json.Fields) : Except SnapshotError Store :=
  match Json.Fields.get? fields "files" with
  | some (.array entries) =>
      let (label, extra) := takeLabel (Json.Fields.erase fields "files")
      (ofFiles (entries.filterMap SourceFile.ofJson?) label).map fun store =>
        { store with extra := extra }
  | _ => .error .missingFiles

/-- Read a snapshot into a store. -/
def read (payload : String) : Except SnapshotError Store :=
  match Json.read payload with
  | .error _ => .error .badJson
  | .ok (.object fields) => ofFields fields
  | .ok _ => .error .notAnObject

/-- The paths in order. -/
def paths (store : Store) : List String :=
  store.files.toList.map SourceFile.path

/-- The content of the file at the position that the index has for a path. -/
def get? (store : Store) (path : String) : Option String :=
  (store.position? path).bind fun position => (store.files[position]?).map SourceFile.content

/--
Overwrite the content of the file at the position that the index has for a path, and tell whether it
has one. Without one nothing changes.
-/
def setContent (store : Store) (path content : String) : Store × Bool :=
  match store.position? path with
  | some position =>
      let written :=
        store.files.modify position fun file => { file with content := content }
      ({ store with files := written }, true)
  | none => (store, false)

/-- Set contents one after the other. -/
def setContents (store : Store) (changes : List (String × String)) : Store :=
  changes.foldl (fun store change => (store.setContent change.1 change.2).1) store

end Store

end SourceUpgrade
