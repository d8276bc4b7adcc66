import SourceUpgrade.Change
import SourceUpgrade.Guidance.Match
import SourceUpgrade.Guidance.Topic
import SourceUpgrade.Selection

namespace SourceUpgrade

/-!
# Settings

What a user may choose about a run. Every setting has a default. Fingerprints may be neither too
short nor longer than a whole hash, and an extension has at least one character.
-/

/-- The settings of a run. -/
structure Settings where
  codeExtensions : List String
  configFilePattern : String
  vocabulary : Vocabulary
  fingerprintLength : Nat
  contextRadius : Nat
  previewLimit : Nat
  candidateLimit : Nat
  supplementalLimit : Nat
  exportPath : String
  dryRun : Bool
deriving Repr, DecidableEq

/-- What keeps settings from being used. -/
inductive SettingsError where
  | unreadable (path : String)
  | badText
  | fingerprintLength (length : Nat)
  | emptyExtension
  | selector (error : SelectorError)
deriving Repr, DecidableEq

namespace Settings

/-- The settings of a user who chooses nothing. -/
def standard : Settings where
  codeExtensions := FileSelector.standardExtensions
  configFilePattern := FileSelector.standardPattern
  vocabulary := Vocabulary.standard
  fingerprintLength := RecordStyle.standard.fingerprintLength
  contextRadius := RecordStyle.standard.contextRadius
  previewLimit := 5
  candidateLimit := 2000
  supplementalLimit := 4
  exportPath := "./codemod_repo.json"
  dryRun := true

/-- The length of the shortest fingerprints that may be chosen. -/
def leastFingerprint : Nat := 8

/-- The length of a whole hash. -/
def greatestFingerprint : Nat := 64

/-- What is wrong with the values of the settings, if anything is. -/
def fault? (settings : Settings) : Option SettingsError :=
  if settings.fingerprintLength < leastFingerprint ∨
      greatestFingerprint < settings.fingerprintLength then
    some (.fingerprintLength settings.fingerprintLength)
  else if settings.codeExtensions.any String.isEmpty then
    some .emptyExtension
  else
    none

/-- The settings, unless something is wrong with their values. -/
def checked (settings : Settings) : Except SettingsError Settings :=
  match settings.fault? with
  | some error => .error error
  | none => .ok settings

/-- The selector of code files. -/
def selector (settings : Settings) : Except SettingsError FileSelector :=
  (FileSelector.ofPattern settings.codeExtensions settings.configFilePattern).mapError .selector

/-- How records of changes are made. -/
def recordStyle (settings : Settings) : RecordStyle where
  fingerprintLength := settings.fingerprintLength
  contextRadius := settings.contextRadius

end Settings

/-- The wording of an error. -/
def SettingsError.message : SettingsError → String
  | .unreadable path => "failed to read " ++ path ++ ": " ++ causeMark
  | .badText => "invalid config: " ++ causeMark
  | .fingerprintLength length =>
      "invalid value for 'fingerprint_len': " ++ Text.decimal length ++ " is outside " ++
        Text.decimal Settings.leastFingerprint ++ "..=" ++
        Text.decimal Settings.greatestFingerprint
  | .emptyExtension => "invalid value for 'code_extensions': extensions must not be empty"
  | .selector error => error.message

end SourceUpgrade
