import SourceUpgrade.Analysis.Basic
import SourceUpgrade.Rule.Custom
import SourceUpgrade.Session.State
import SourceUpgrade.Settings.Basic
import SourceUpgrade.Snapshot.Basic

namespace SourceUpgrade

/-!
# Errors of a session

An operation fails because of what it was given, because it came at the wrong time, or because a
file could not be written. Every error has a code for programs and a message for people.
-/

/-- Why an operation failed. -/
inductive SessionError where
  | repository (error : SnapshotError)
  | analysis (error : AnalysisError)
  | rule (error : CustomRuleError)
  | settings (error : SettingsError)
  | repositoryNotLoaded
  | analysisNotLoaded
  | dryRunEnabled
  | noDiffs
  | illegalTransition (source target : State)
  | notWritten (path : String)
deriving Repr, DecidableEq

namespace SessionError

/-- The code of an error. -/
def code : SessionError → String
  | .repository _ => "invalid_repository"
  | .analysis _ => "invalid_artifact"
  | .rule _ => "invalid_rule"
  | .settings _ => "invalid_config"
  | .repositoryNotLoaded => "repository_not_loaded"
  | .analysisNotLoaded => "artifact_not_loaded"
  | .dryRunEnabled => "dry_run_enabled"
  | .noDiffs => "no_diffs"
  | .illegalTransition _ _ => "illegal_transition"
  | .notWritten _ => "io"

/-- The wording of an error. -/
def message : SessionError → String
  | .repository error => error.message
  | .analysis error => error.message
  | .rule error => error.message
  | .settings error => "configuration error: " ++ error.message
  | .repositoryNotLoaded => "no repository loaded; load a repository first"
  | .analysisNotLoaded => "no analysis artifact loaded; load an artifact first"
  | .dryRunEnabled => "dry_run is true; set dry-run to false to apply"
  | .noDiffs => "no diffs; run generate-diffs first"
  | .illegalTransition source target =>
      "illegal session transition: " ++ source.title ++ " -> " ++ target.title
  | .notWritten path => "failed to write " ++ path ++ ": " ++ causeMark

end SessionError

/-- Move from one state to another, if that is allowed. -/
def State.moveTo (source target : State) : Except SessionError State :=
  if target ∈ source.allowed then .ok target else .error (.illegalTransition source target)

end SourceUpgrade
