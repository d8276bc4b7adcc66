import SourceUpgrade.Proofs.Rule.Account

namespace SourceUpgrade

/-!
# Rules that do not compile

A custom rule whose pattern does not compile leaves every content, counts nothing and makes its one
note. So a run can be cut at any rule: `run_of_parts` says how what the rules before and after make
of a file goes together, `run_withRule` what another rule between them adds if it does not compile,
and `run_compiling` that all such rules together have no say in content and count.
-/

namespace RuleStep

variable {context : RuleContext} {path content : String}

/-- The steps of rules in two groups: the second group goes on with what the first one has left. -/
theorem inTurn_append
    (context : RuleContext)
    (path : String)
    (first second : List Rule)
    (content : String) :
    inTurn context path (first ++ second) content =
      inTurn context path first content ++
        inTurn context path second (leftOf content (inTurn context path first content)) := by
  induction first generalizing content with
  | nil =>
      rfl
  | cons rule rest inductionHypothesis =>
      rw [List.cons_append, inTurn, inductionHypothesis]
      rfl

theorem leftOf_append
    (content : String)
    (first second : List RuleStep) :
    leftOf content (first ++ second) = leftOf (leftOf content first) second :=
  List.foldl_append

/-- What is left by a rule that fails is what it found. -/
theorem output_of_failure
    {rule : Rule}
    (fails : rule.failure?.isSome)
    (content : String) :
    rule.output context path content = content := by
  have among : of context path rule content ∈ inTurn context path [rule] content :=
    List.mem_singleton.mpr rfl
  have quiet : (of context path rule content).changes = false := not_changes_of_failure among fails
  simpa [changes, of] using quiet

/-- Leaving out the rules that fail leaves out their steps, and nothing else. -/
theorem inTurn_filter
    (context : RuleContext)
    (path : String)
    (rules : List Rule)
    (content : String) :
    inTurn context path (rules.filter (·.failure?.isNone)) content =
      (inTurn context path rules content).filter (·.rule.failure?.isNone) := by
  induction rules generalizing content with
  | nil =>
      rfl
  | cons rule rest inductionHypothesis =>
      rw [inTurn]
      cases failure : rule.failure? with
      | none =>
          rw [List.filter_cons_of_pos (by simp [failure]),
            List.filter_cons_of_pos (by simp [of, failure]), inTurn, inductionHypothesis]
      | some note =>
          -- What fails leaves what it found, so the rules behind it find the same without it.
          rw [List.filter_cons_of_neg (by simp [failure]),
            List.filter_cons_of_neg (by simp [of, failure]),
            output_of_failure (by simp [failure]), inductionHypothesis]

/-- Without the steps of rules that fail, the same is left. -/
theorem leftOf_inTurn_filter
    (rules : List Rule)
    (content : String) :
    leftOf content ((inTurn context path rules content).filter (·.rule.failure?.isNone)) =
      leftOf content (inTurn context path rules content) := by
  induction rules generalizing content with
  | nil =>
      rfl
  | cons rule rest inductionHypothesis =>
      rw [inTurn]
      cases failure : rule.failure? with
      | none =>
          rw [List.filter_cons_of_pos (by simp [of, failure])]
          exact inductionHypothesis (rule.output context path content)
      | some note =>
          have same : rule.output context path content = content :=
            output_of_failure (by simp [failure]) content
          rw [List.filter_cons_of_neg (by simp [of, failure]), same, inductionHypothesis]
          simp [leftOf, of, same]

/-- Without the steps of rules that fail, as many change something. -/
theorem countP_inTurn_filter
    (rules : List Rule)
    (content : String) :
    ((inTurn context path rules content).filter (·.rule.failure?.isNone)).countP changes =
      (inTurn context path rules content).countP changes := by
  rw [List.countP_filter]
  refine List.countP_congr fun step member => ?_
  cases failure : step.rule.failure? with
  | none =>
      simp
  | some note =>
      simp [not_changes_of_failure member (by simp [failure])]

end RuleStep

namespace Registry

variable {registry first second : Registry} {context : RuleContext} {path content : String}

/-! ## Parts of a registry -/

/-- The built-in rules and the first so many custom ones. -/
def upTo (registry : Registry) (position : Nat) : Registry :=
  { registry with customs := registry.customs.take position }

/-- The custom rules from a position on. -/
def after (registry : Registry) (position : Nat) : Registry :=
  ⟨[], registry.customs.drop position⟩

/-- A registry with another custom rule at a position. -/
def withRule (registry : Registry) (position : Nat) (rule : CustomRule) : Registry :=
  { registry with
    customs := registry.customs.take position ++ rule :: registry.customs.drop position }

/-- A registry without the custom rules that do not compile. -/
def compiling (registry : Registry) : Registry :=
  { registry with customs := registry.customs.filter CustomRule.compiles }

/-- The rules of two registries in a row act on a file one group after the other. -/
theorem run_of_parts
    (parts : registry.rules = first.rules ++ second.rules)
    (context : RuleContext)
    (path content : String) :
    let begun := first.run context path content
    let rest := second.run context path begun.content
    registry.run context path content =
      ⟨rest.content, min (begun.changes + rest.changes) changeLimit, begun.notes ++ rest.notes⟩ := by
  simp only [run_eq_steps, steps, parts, RuleStep.inTurn_append, RuleStep.leftOf_append,
    List.countP_append, List.flatMap_append, FileTransform.mk.injEq, and_true, true_and]
  omega

theorem rules_eq_upTo_after
    (registry : Registry)
    (position : Nat) :
    registry.rules = (registry.upTo position).rules ++ (registry.after position).rules := by
  simp [rules, upTo, after]

/-- A run makes the notes of the rules before a position and then those of the rules after it. -/
theorem notes_run
    (registry : Registry)
    (position : Nat)
    (context : RuleContext)
    (path content : String) :
    let begun := (registry.upTo position).run context path content
    (registry.run context path content).notes =
      begun.notes ++ ((registry.after position).run context path begun.content).notes := by
  intro begun
  rw [run_of_parts (registry.rules_eq_upTo_after position)]

/-- A rule that fails in front of others adds its note and nothing else. -/
theorem run_cons_of_not_compiles
    {broken : CustomRule}
    (fails : broken.compiles = false)
    (rest : List CustomRule) :
    (Registry.mk [] (broken :: rest)).run context path content =
      { (Registry.mk [] rest).run context path content with
        notes :=
          CustomRule.errorNote broken.name ::
            ((Registry.mk [] rest).run context path content).notes } := by
  have failure : (Rule.custom broken).failure? = some (CustomRule.errorNote broken.name) := by
    simp [Rule.failure?, fails]
  have same : (Rule.custom broken).output context path content = content :=
    RuleStep.output_of_failure (by simp [failure]) content
  have quiet : (RuleStep.of context path (.custom broken) content).changes = false := by
    simp [RuleStep.of, RuleStep.changes, same]
  have noted :
      (RuleStep.of context path (.custom broken) content).notes context =
        [CustomRule.errorNote broken.name] := by
    rw [RuleStep.notes, quiet]
    simp [RuleStep.of, failure]
  have ownSteps :
      (Registry.mk [] (broken :: rest)).steps context path content =
        .of context path (.custom broken) content ::
          (Registry.mk [] rest).steps context path content := by
    change RuleStep.inTurn context path (.custom broken :: rest.map Rule.custom) content = _
    rw [RuleStep.inTurn, same]
    rfl
  rw [run_eq_steps, run_eq_steps, ownSteps, List.countP_cons_of_neg (by simp [quiet]),
    List.flatMap_cons, noted]
  simp [RuleStep.leftOf, RuleStep.of, same]

/-- A rule that does not compile adds its note between the others, wherever it is registered. -/
theorem run_withRule
    {broken : CustomRule}
    (fails : broken.compiles = false)
    (registry : Registry)
    (position : Nat)
    (context : RuleContext)
    (path content : String) :
    let begun := (registry.upTo position).run context path content
    let rest := (registry.after position).run context path begun.content
    (registry.withRule position broken).run context path content =
      { registry.run context path content with
        notes := begun.notes ++ CustomRule.errorNote broken.name :: rest.notes } := by
  have parts :
      (registry.withRule position broken).rules =
        (registry.upTo position).rules ++
          (Registry.mk [] (broken :: registry.customs.drop position)).rules := by
    simp [rules, withRule, upTo]
  intro begun rest
  rw [run_of_parts parts, run_of_parts (registry.rules_eq_upTo_after position)]
  simp only [run_cons_of_not_compiles fails]
  rfl

/-! ## Rules that compile -/

theorem rules_compiling (registry : Registry) :
    registry.compiling.rules = registry.rules.filter (·.failure?.isNone) := by
  have allBuiltIns :
      (registry.builtIns.map Rule.builtIn).filter (·.failure?.isNone) =
        registry.builtIns.map Rule.builtIn := by
    simp [List.filter_eq_self, Rule.failure?]
  have sameCustoms :
      (registry.customs.map Rule.custom).filter (·.failure?.isNone) =
        (registry.customs.filter CustomRule.compiles).map Rule.custom := by
    rw [List.filter_map]
    refine congrArg _ (List.filter_congr fun rule _ => ?_)
    cases compiles : rule.compiles <;> simp [Rule.failure?, compiles]
  rw [rules, rules, List.filter_append, allBuiltIns, sameCustoms]
  rfl

/-- The rules that do not compile have no say in what is left and in what is counted. -/
theorem run_compiling
    (registry : Registry)
    (context : RuleContext)
    (path content : String) :
    (registry.compiling.run context path content).content =
        (registry.run context path content).content ∧
      (registry.compiling.run context path content).changes =
        (registry.run context path content).changes := by
  simp only [run_eq_steps, steps, rules_compiling, RuleStep.inTurn_filter,
    RuleStep.leftOf_inTurn_filter, RuleStep.countP_inTurn_filter, and_self]

/-- A rule that does not compile makes its note on every file. -/
theorem errorNote_mem_run
    {broken : CustomRule}
    (fails : broken.compiles = false)
    (registered : broken ∈ registry.customs)
    (context : RuleContext)
    (path content : String) :
    CustomRule.errorNote broken.name ∈ (registry.run context path content).notes := by
  obtain ⟨earlier, later, parts⟩ := List.append_of_mem registered
  -- A registry with the rule is one without it to which it has been added at its place.
  let others : Registry := ⟨registry.builtIns, earlier ++ later⟩
  have asAdded : registry = others.withRule earlier.length broken := by
    simp [others, withRule, ← parts]
  rw [asAdded, run_withRule fails]
  simp

theorem compiling_withRule
    {broken : CustomRule}
    (fails : broken.compiles = false)
    (registry : Registry)
    (position : Nat) :
    (registry.withRule position broken).compiling = registry.compiling := by
  have sameCustoms :
      (registry.customs.take position ++ broken :: registry.customs.drop position).filter
          CustomRule.compiles =
        registry.customs.filter CustomRule.compiles := by
    rw [List.filter_append, List.filter_cons_of_neg (by simp [fails]), ← List.filter_append,
      List.take_append_drop]
  rw [compiling, withRule, sameCustoms, compiling]

theorem compiling_compiling (registry : Registry) :
    registry.compiling.compiling = registry.compiling := by
  simp [compiling]

end Registry

end SourceUpgrade
