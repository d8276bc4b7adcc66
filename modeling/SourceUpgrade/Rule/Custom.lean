import SourceUpgrade.Cause
import SourceUpgrade.Json.Reader
import SourceUpgrade.Rule.Basic
import SourceUpgrade.Rule.Replacement

namespace SourceUpgrade

/-!
# Custom rules

A user's rule puts a replacement in the place of every match of a pattern. Its pattern is compiled
once. A pattern that does not compile keeps the rule from doing anything, and every file says so.
-/

/-- A rule as a user gives it. -/
structure CustomRuleSpec where
  name : String
  pattern : String
  replacement : String
deriving Repr, DecidableEq

/-- What keeps a payload from being a rule. -/
inductive CustomRuleError where
  | badJson
  | notAnObject
  | missingField (field : String)
deriving Repr, DecidableEq

/-- The wording of an error. -/
def CustomRuleError.message : CustomRuleError → String
  | .badJson => "invalid rule payload: " ++ causeMark
  | .notAnObject => "invalid rule payload: rule must be an object"
  | .missingField field =>
      "rule must have name, pattern, replacement (missing '" ++ field ++ "')"

namespace CustomRuleSpec

/-- The text of a field of a rule. -/
def field (fields : Json.Fields) (key : String) : Except CustomRuleError String :=
  match (Json.Fields.get? fields key).bind Json.Value.string? with
  | none => .error (.missingField key)
  | some text => .ok text

/-- The rule that a value describes. -/
def ofJson : Json.Value → Except CustomRuleError CustomRuleSpec
  | .object fields => do
      let name ← field fields "name"
      let pattern ← field fields "pattern"
      let replacement ← field fields "replacement"
      return ⟨name, pattern, replacement⟩
  | _ => .error .notAnObject

/-- Read a rule. -/
def read (payload : String) : Except CustomRuleError CustomRuleSpec :=
  match Json.read payload with
  | .error _ => .error .badJson
  | .ok value => ofJson value

end CustomRuleSpec

/-- A rule with its compiled pattern, in which lines have ends of their own, and its template. -/
structure CustomRule where
  spec : CustomRuleSpec
  compiled : Except Pattern.Fault Pattern.Program
  template : List Char
  compiled_eq : compiled = Pattern.Program.ofText true spec.pattern
  template_eq : template = Replacement.template spec.replacement.toList

namespace CustomRule

/-- Compile a rule. -/
def ofSpec (spec : CustomRuleSpec) : CustomRule where
  spec := spec
  compiled := Pattern.Program.ofText true spec.pattern
  template := Replacement.template spec.replacement.toList
  compiled_eq := rfl
  template_eq := rfl

/-- The name of the rule. -/
def name (rule : CustomRule) : String :=
  rule.spec.name

/-- What every custom rule is for. -/
def description : String :=
  "User-supplied pattern replacement"

/-- The note that a rule leaves on a file that it changes. -/
def appliedNote (name : String) : String :=
  "Custom rule applied: " ++ name

/-- The note that a rule leaves if its pattern does not compile. -/
def errorNote (name : String) : String :=
  "Custom rule error (" ++ name ++ "): " ++ causeMark

/-- Apply a rule to the content of a file. -/
def transform (rule : CustomRule) (content : String) : RuleOutcome :=
  match rule.compiled with
  | .error _ => .broken content (errorNote rule.name)
  | .ok program =>
      let replaced := String.ofList (program.replaceAll rule.template content.toList)
      if replaced = content then .unchanged content
      else .changed replaced (appliedNote rule.name)

end CustomRule

end SourceUpgrade
