import SourceUpgrade.Analysis.Basic
import SourceUpgrade.Cause
import SourceUpgrade.Pattern.Search
import SourceUpgrade.Snapshot.Basic

namespace SourceUpgrade

/-!
# Selecting files

Rules are run on code files only: those with a known extension, and those whose path a pattern
matches. If an analysis names files, only these are selected, otherwise all code files are.
-/

/-- Which paths belong to code files. -/
structure FileSelector where
  extensions : List String
  configFiles : Pattern.Program
deriving Repr, DecidableEq

/-- What keeps a selector from being built: a pattern that does not compile. -/
structure SelectorError where
  pattern : String
deriving Repr, DecidableEq

/-- The wording of the error. -/
def SelectorError.message (error : SelectorError) : String :=
  "invalid selector pattern '" ++ error.pattern ++ "': " ++ causeMark

namespace FileSelector

/-- The extensions of code files unless others are configured. -/
def standardExtensions : List String :=
  [".js", ".jsx", ".ts", ".tsx", ".mjs", ".cjs", ".cts", ".mts"]

/-- The pattern for the paths of configuration files unless another is configured. -/
def standardPattern : String := "next\\.config\\.m?js$"

/-- The selector with given extensions and a pattern for further paths. -/
def ofPattern (extensions : List String) (pattern : String) : Except SelectorError FileSelector :=
  match Pattern.Program.ofText false pattern with
  | .error _ => .error ⟨pattern⟩
  | .ok program => .ok ⟨extensions, program⟩

/-- Whether a path belongs to a code file. -/
def isCodeFile (selector : FileSelector) (path : String) : Bool :=
  (selector.extensions.any fun extension => extension.toList.isSuffixOf path.toList) ||
    selector.configFiles.isMatch path

/-- Whether a path is selected, given the files that an analysis names. -/
def selects (selector : FileSelector) (prioritized : PrioritizedFiles) (path : String) : Bool :=
  (prioritized.isEmpty || prioritized.paths.contains path) && selector.isCodeFile path

/-- The selected paths of a snapshot in its order. -/
def select
    (selector : FileSelector)
    (snapshot : Snapshot)
    (prioritized : PrioritizedFiles) :
    List String :=
  snapshot.paths.filter (selector.selects prioritized)

/-- The first selected paths of a snapshot. -/
def candidates
    (selector : FileSelector)
    (snapshot : Snapshot)
    (prioritized : PrioritizedFiles)
    (limit : Nat) :
    List String :=
  (selector.select snapshot prioritized).take limit

end FileSelector

end SourceUpgrade
