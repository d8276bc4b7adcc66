import SourceUpgrade.Rule.BuiltIn
import SourceUpgrade.Rule.Custom

namespace SourceUpgrade

/-!
# Applying rules

A registry lists built-in rules and then custom rules in the order of their registration. Running it
on a file applies every applicable rule to what the rules before it have left; changes are counted
and notes collected on the way.
-/

/-- A rule of either kind. -/
inductive Rule where
  | builtIn (rule : BuiltInRule)
  | custom (rule : CustomRule)

namespace Rule

/-- The name of a rule. -/
def name : Rule → String
  | .builtIn rule => rule.name
  | .custom rule => rule.name

/-- What a rule is for. -/
def description : Rule → String
  | .builtIn rule => rule.description
  | .custom _ => CustomRule.description

/-- Whether a rule is to be applied to a file; a custom rule always is. -/
def applicable (rule : Rule) (context : RuleContext) (path content : String) : Bool :=
  match rule with
  | .builtIn rule => rule.applicable context path content
  | .custom _ => true

/-- Apply a rule to the content of a file. -/
def transform (rule : Rule) (context : RuleContext) (content : String) : RuleOutcome :=
  match rule with
  | .builtIn rule => rule.transform context content
  | .custom rule => rule.transform content

end Rule

/-- Rules in the order in which they are applied. -/
structure Registry where
  builtIns : List BuiltInRule
  customs : List CustomRule

/-- What became of a file: its content, how many changes were made, and the notes in order. -/
structure FileTransform where
  content : String
  changes : Nat
  notes : List String
deriving Repr, DecidableEq

/-- The greatest number of changes that is counted. -/
def changeLimit : Nat := 0xFFFFFFFF

namespace FileTransform

/-- The file before any rule has been applied. -/
def start (content : String) : FileTransform :=
  ⟨content, 0, []⟩

/-- Take the outcome of one more rule into account. -/
def followedBy (done : FileTransform) (outcome : RuleOutcome) : FileTransform where
  content := outcome.content
  changes := min (done.changes + outcome.changes) changeLimit
  notes := done.notes ++ outcome.notes

/-- Apply one more rule, if it is applicable to what is there by now. -/
def apply
    (context : RuleContext)
    (path : String)
    (done : FileTransform)
    (rule : Rule) :
    FileTransform :=
  if rule.applicable context path done.content then
    done.followedBy (rule.transform context done.content)
  else
    done

/-- Whether any change was counted. -/
def isChange (done : FileTransform) : Bool :=
  0 < done.changes

end FileTransform

namespace Registry

/-- No rules. -/
def empty : Registry := ⟨[], []⟩

/-- The built-in rules alone. -/
def standard : Registry := ⟨BuiltInRule.all, []⟩

/-- Register a custom rule after all others. -/
def register (registry : Registry) (spec : CustomRuleSpec) : Registry :=
  { registry with customs := registry.customs ++ [.ofSpec spec] }

/-- All rules in order. -/
def rules (registry : Registry) : List Rule :=
  registry.builtIns.map Rule.builtIn ++ registry.customs.map Rule.custom

/-- How many rules there are. -/
def size (registry : Registry) : Nat :=
  registry.rules.length

/-- Whether there are no rules. -/
def isEmpty (registry : Registry) : Bool :=
  registry.rules.isEmpty

/-- The names of the rules, those of custom ones marked as such. -/
def names (registry : Registry) : List String :=
  registry.builtIns.map BuiltInRule.name ++
    registry.customs.map fun rule => "custom:" ++ rule.name

/-- Run all rules on a file. -/
def run (registry : Registry) (context : RuleContext) (path content : String) : FileTransform :=
  registry.rules.foldl (FileTransform.apply context path) (.start content)

end Registry

end SourceUpgrade
