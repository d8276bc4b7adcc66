import SourceUpgrade.Cause
import SourceUpgrade.Json.Value

namespace SourceUpgrade

/-!
# Repository snapshots

A snapshot is an ordered collection of files with different paths. Each file has a text; files and
the snapshot itself may carry further fields, which are kept as they are. Contents can be replaced,
but the paths, their order and everything else stay.
-/

/-- A file of a repository. -/
structure SourceFile where
  path : String
  content : String
  extra : Json.Fields
deriving Repr, DecidableEq

/-- Files with different paths, a label and further fields. -/
structure Snapshot where
  files : List SourceFile
  label : String
  extra : Json.Fields
  distinctPaths : (files.map SourceFile.path).Nodup
deriving Repr, DecidableEq

/-- What keeps a text from being a snapshot. -/
inductive SnapshotError where
  | badJson
  | notAnObject
  | missingFiles
  | duplicatePath (path : String)
deriving Repr, DecidableEq

/-- The wording of an error. -/
def SnapshotError.message : SnapshotError → String
  | .badJson => "invalid repository JSON: " ++ causeMark
  | .notAnObject => "repository JSON must be an object"
  | .missingFiles => "repository JSON must include 'files'"
  | .duplicatePath path => "duplicate file path: " ++ path

/-- The first entry of a list that occurs earlier in it, given the entries before it. -/
def firstRepeatedFrom
    {α : Type}
    [DecidableEq α]
    (seen : List α) :
    List α → Option α
  | [] => none
  | entry :: rest =>
      if entry ∈ seen then some entry else firstRepeatedFrom (entry :: seen) rest

/-- The first entry of a list that occurs earlier in it. -/
def firstRepeated?
    {α : Type}
    [DecidableEq α]
    (entries : List α) :
    Option α :=
  firstRepeatedFrom [] entries

/-- No repeated entry is found exactly if the entries differ from each other and from those seen. -/
theorem firstRepeatedFrom_eq_none_iff
    {α : Type}
    [DecidableEq α]
    (seen entries : List α) :
    firstRepeatedFrom seen entries = none ↔
      entries.Nodup ∧ ∀ entry ∈ entries, entry ∉ seen := by
  induction entries generalizing seen with
  | nil => simp [firstRepeatedFrom]
  | cons entry rest inductionHypothesis =>
      by_cases known : entry ∈ seen
      · simp [firstRepeatedFrom, known]
      · rw [firstRepeatedFrom, if_neg known, inductionHypothesis, List.nodup_cons]
        constructor
        · rintro ⟨distinct, fresh⟩
          refine ⟨⟨fun member => fresh entry member (List.mem_cons_self), distinct⟩, ?_⟩
          intro other member
          rcases List.mem_cons.mp member with rfl | member
          · exact known
          · exact fun seenOther => fresh other member (List.mem_cons_of_mem _ seenOther)
        · rintro ⟨⟨notLater, distinct⟩, fresh⟩
          refine ⟨distinct, ?_⟩
          intro other member seenOther
          rcases List.mem_cons.mp seenOther with rfl | seenOther
          · exact notLater member
          · exact fresh other (List.mem_cons_of_mem _ member) seenOther

/-- No repeated entry is found exactly if the entries differ from each other. -/
theorem firstRepeated?_eq_none_iff
    {α : Type}
    [DecidableEq α]
    (entries : List α) :
    firstRepeated? entries = none ↔ entries.Nodup := by
  simp [firstRepeated?, firstRepeatedFrom_eq_none_iff]

namespace Snapshot

/-- A snapshot without files. -/
def empty : Snapshot where
  files := []
  label := ""
  extra := []
  distinctPaths := List.nodup_nil

/-- The snapshot with the given files, unless a path occurs twice. -/
def ofFiles
    (files : List SourceFile)
    (label : String)
    (extra : Json.Fields) :
    Except SnapshotError Snapshot :=
  match repeated : firstRepeated? (files.map SourceFile.path) with
  | some path => .error (.duplicatePath path)
  | none => .ok ⟨files, label, extra, (firstRepeated?_eq_none_iff _).mp repeated⟩

/-- The paths in order. -/
def paths (snapshot : Snapshot) : List String :=
  snapshot.files.map SourceFile.path

/-- The position of a path. -/
def position? (snapshot : Snapshot) (path : String) : Option Nat :=
  snapshot.files.findIdx? fun file => file.path == path

/-- The content of the file with a path. -/
def get? (snapshot : Snapshot) (path : String) : Option String :=
  (snapshot.files.find? fun file => file.path == path).map SourceFile.content

/-- Replace the content of a file that has the given path; other files stay. -/
def replaceIn (path content : String) (file : SourceFile) : SourceFile :=
  if file.path = path then { file with content := content } else file

/-- Replacing contents keeps paths. -/
@[simp] theorem replaceIn_path
    (path content : String)
    (file : SourceFile) :
    (replaceIn path content file).path = file.path := by
  unfold replaceIn
  split <;> rfl

/-- The snapshot with another content for a path; a path that it lacks changes nothing. -/
def setContent (snapshot : Snapshot) (path content : String) : Snapshot where
  files := snapshot.files.map (replaceIn path content)
  label := snapshot.label
  extra := snapshot.extra
  distinctPaths := by
    have samePaths :
        (snapshot.files.map (replaceIn path content)).map SourceFile.path =
          snapshot.files.map SourceFile.path := by
      rw [List.map_map]
      exact List.map_congr_left fun file _ => replaceIn_path path content file
    rw [samePaths]
    exact snapshot.distinctPaths

/-- Whether the snapshot has a file with this path. -/
def has (snapshot : Snapshot) (path : String) : Bool :=
  snapshot.files.any fun file => file.path == path

/-- How many files there are. -/
def size (snapshot : Snapshot) : Nat :=
  snapshot.files.length

/-- Whether there are no files. -/
def isEmpty (snapshot : Snapshot) : Bool :=
  snapshot.files.isEmpty

end Snapshot

end SourceUpgrade
