import SourceUpgrade.Json.Value
import SourceUpgrade.Settings.Basic
import SourceUpgrade.Toml.Reader

namespace SourceUpgrade.Settings

/-!
# Settings as texts

Settings are read from a plain TOML document in which every entry is a setting and has a value of
the setting's kind. What the document does not mention keeps its default.
-/

/-- The natural number that a value is, if it is one. -/
def natural? : Toml.Value → Option Nat
  | .integer value => if value < 0 then none else some value.toNat
  | _ => none

/-- The settings with a value given to the one that has a name; a wrong name or kind has none. -/
def assign? (settings : Settings) (entry : String × Toml.Value) : Option Settings :=
  match entry with
  | ("code_extensions", .texts values) => some { settings with codeExtensions := values }
  | ("config_file_pattern", .text value) => some { settings with configFilePattern := value }
  | ("hint_vocabulary", .texts values) => some { settings with vocabulary := values }
  | ("fingerprint_len", value) =>
      (natural? value).map fun n => { settings with fingerprintLength := n }
  | ("context_radius", value) => (natural? value).map fun n => { settings with contextRadius := n }
  | ("preview_limit", value) => (natural? value).map fun n => { settings with previewLimit := n }
  | ("candidate_cap", value) => (natural? value).map fun n => { settings with candidateLimit := n }
  | ("supplemental_top_k", value) =>
      (natural? value).map fun n => { settings with supplementalLimit := n }
  | ("export_path", .text value) => some { settings with exportPath := value }
  | ("dry_run", .flag value) => some { settings with dryRun := value }
  | _ => none

/-- The settings that entries describe. -/
def ofEntries? (entries : Toml.Entries) : Option Settings :=
  entries.foldlM assign? standard

/-- Read settings and check their values. -/
def read (text : String) : Except SettingsError Settings :=
  match (Toml.read text).bind ofEntries? with
  | none => .error .badText
  | some settings => settings.checked

/-- The settings as an object. -/
def toJson (settings : Settings) : Json.Value :=
  .record
    [("code_extensions", .ofStrings settings.codeExtensions),
      ("config_file_pattern", .string settings.configFilePattern),
      ("hint_vocabulary", .ofStrings settings.vocabulary),
      ("fingerprint_len", .ofNat settings.fingerprintLength),
      ("context_radius", .ofNat settings.contextRadius),
      ("preview_limit", .ofNat settings.previewLimit),
      ("candidate_cap", .ofNat settings.candidateLimit),
      ("supplemental_top_k", .ofNat settings.supplementalLimit),
      ("export_path", .string settings.exportPath),
      ("dry_run", .bool settings.dryRun)]

end SourceUpgrade.Settings
