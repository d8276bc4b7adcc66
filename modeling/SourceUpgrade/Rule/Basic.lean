import SourceUpgrade.Guidance.Topic

namespace SourceUpgrade

/-!
# Rules

A rule looks at one file in the context of an upgrade. It may change the content, and it says how
many changes it made and what a reader should know about them.
-/

/-- What rules may look at beside a file: the upgrade, and the guidance there is for it. -/
structure RuleContext where
  package : String
  currentVersion : String
  targetVersion : String
  guidance : Guidance
deriving Repr, DecidableEq

/-- The context of an analysis with compacted guidance. -/
def RuleContext.ofAnalysis (analysis : Analysis) (guidance : Guidance) : RuleContext where
  package := analysis.package
  currentVersion := analysis.currentVersion
  targetVersion := analysis.targetVersion
  guidance := guidance

/-- Whether the package belongs to the family whose names begin in a certain way. -/
def RuleContext.concerns (context : RuleContext) (family : String) : Bool :=
  Text.beginsWith context.package family

/-- What a rule did to a file. -/
structure RuleOutcome where
  content : String
  changes : Nat
  notes : List String
  failed : Bool
deriving Repr, DecidableEq

namespace RuleOutcome

/-- The rule had nothing to do. -/
def unchanged (content : String) : RuleOutcome :=
  ⟨content, 0, [], false⟩

/-- The rule made one change, with a note. -/
def changed (content note : String) : RuleOutcome :=
  ⟨content, 1, [note], false⟩

/-- The rule could not be applied, with a note; the content stays. -/
def broken (content note : String) : RuleOutcome :=
  ⟨content, 0, [note], true⟩

end RuleOutcome

end SourceUpgrade
