import SourceUpgrade.Cause
import SourceUpgrade.Json.Value

namespace SourceUpgrade

/-!
# Analysis artifacts

What an analysis of a dependency upgrade hands over: the package and its versions, the files to look
at first, and references to guidance, grouped by topic.
-/

/-- The files that an upgrade concerns. -/
structure PrioritizedFiles where
  riskyFirst : List String
  allPackageFiles : List String
deriving Repr, DecidableEq

namespace PrioritizedFiles

/-- No files. -/
def none : PrioritizedFiles := ⟨[], []⟩

/-- All paths of both lists. -/
def paths (files : PrioritizedFiles) : List String :=
  files.riskyFirst ++ files.allPackageFiles

/-- Whether both lists are empty. -/
def isEmpty (files : PrioritizedFiles) : Bool :=
  files.riskyFirst.isEmpty && files.allPackageFiles.isEmpty

end PrioritizedFiles

/-- A reference to guidance: where it is found, what it says and further fields. -/
structure Reference where
  url : String
  snippet : String
  extra : Json.Fields
deriving Repr, DecidableEq

/-- References on one topic. -/
structure GuidanceEntry where
  topic : String
  references : List Reference
deriving Repr, DecidableEq

/-- The topic of an entry that names none. -/
def GuidanceEntry.defaultTopic : String := "misc"

/-- An analysis of a dependency upgrade. -/
structure Analysis where
  package : String
  currentVersion : String
  targetVersion : String
  prioritized : PrioritizedFiles
  guidance : List GuidanceEntry
deriving Repr, DecidableEq

/-- What keeps a text from being an analysis. -/
inductive AnalysisError where
  | badJson
  | notAnObject
deriving Repr, DecidableEq

/-- The wording of an error. -/
def AnalysisError.message : AnalysisError → String
  | .badJson => "invalid artifacts JSON: " ++ causeMark
  | .notAnObject => "artifacts JSON must be an object"

end SourceUpgrade
