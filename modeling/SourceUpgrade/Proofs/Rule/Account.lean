import SourceUpgrade.Proofs.Rule.Firing

namespace SourceUpgrade

/-!
# What a run counts and notes

Every rule reports a count and notes beside the content that it leaves. A run is told step by step,
one step for each rule in order: what the rule found and what it left. The count of the run is the
number of steps that left something else, up to the greatest number that is counted, and its notes
are those of these steps and of the custom rules that do not compile. `Registry.run_accounts` says so
for every registry.
-/

/-- An outcome that reports one change with a note just if it has another content than before. -/
def RuleOutcome.Reports (outcome : RuleOutcome) (before note : String) : Prop :=
  outcome =
    if outcome.content = before then .unchanged before else .changed outcome.content note

namespace RuleOutcome.Reports

theorem of_unchanged (content note : String) :
    (unchanged content).Reports content note := by
  rw [Reports, unchanged, if_pos rfl]

theorem of_changed
    {before after : String}
    (differs : after ≠ before)
    (note : String) :
    (changed after note).Reports before note := by
  have otherContent : (changed after note).content ≠ before := differs
  rw [Reports, if_neg otherContent]
  rfl

end RuleOutcome.Reports

namespace BuiltInRule

theorem reports_substitute
    (phrase : Phrase)
    (replacement note content : String) :
    (substitute phrase replacement note content).Reports content note := by
  unfold substitute
  dsimp only
  split
  · exact .of_unchanged content note
  · rename_i differs
    exact .of_changed differs note

/-- A comment that is not empty makes another content. -/
theorem reports_annotate
    {comment : String}
    (notEmpty : comment ≠ "")
    (marker note content : String) :
    (annotate marker comment note content).Reports content note := by
  unfold annotate
  split
  · exact .of_unchanged content note
  · refine .of_changed ?_ note
    intro same
    have sameChars : comment.toList ++ content.toList = content.toList := by
      rw [← String.toList_append, same]
    exact notEmpty (String.toList_eq_nil_iff.mp (List.append_left_eq_self.mp sameChars))

theorem configComment_ne_empty (targetVersion : String) : configComment targetVersion ≠ "" := by
  unfold configComment configMarker
  simp [String.append_eq_empty_iff]

/-- Every built-in rule reports a change just if it leaves another content. -/
theorem reports_transform
    (rule : BuiltInRule)
    (context : RuleContext)
    (content : String) :
    (rule.transform context content).Reports content (rule.note context) := by
  cases rule with
  | routerNamedImport =>
      exact reports_substitute _ _ _ content
  | routerDefaultImport =>
      exact reports_annotate (by decide +kernel) _ _ content
  | legacyImage =>
      exact reports_substitute _ _ _ content
  | configExperimental =>
      rw [transform]
      split
      · exact reports_annotate (configComment_ne_empty _) _ _ content
      · exact .of_unchanged content _
  | createRoot =>
      exact reports_annotate (by decide +kernel) _ _ content

end BuiltInRule

namespace CustomRule

/-- Whether the pattern of a rule compiles. -/
def compiles (rule : CustomRule) : Bool :=
  rule.compiled.isOk

/-- A custom rule that compiles reports a change just if it leaves another content. -/
theorem reports_transform
    {rule : CustomRule}
    (compiles : rule.compiles = true)
    (content : String) :
    (rule.transform content).Reports content (appliedNote rule.name) := by
  unfold CustomRule.compiles at compiles
  unfold transform
  cases compiled : rule.compiled with
  | error fault =>
      simp [compiled, Except.isOk, Except.toBool] at compiles
  | ok program =>
      dsimp only
      split
      · exact .of_unchanged content _
      · rename_i differs
        exact .of_changed differs _

/-- A custom rule that does not compile leaves every content and says what is wrong. -/
theorem transform_of_not_compiles
    {rule : CustomRule}
    (broken : rule.compiles = false)
    (content : String) :
    rule.transform content = .broken content (errorNote rule.name) := by
  unfold compiles at broken
  unfold transform
  cases compiled : rule.compiled with
  | error fault =>
      rfl
  | ok program =>
      simp [compiled, Except.isOk, Except.toBool] at broken

end CustomRule

namespace Rule

/-- The note of a rule on a file that it changes. -/
def note (rule : Rule) (context : RuleContext) : String :=
  match rule with
  | .builtIn rule => rule.note context
  | .custom rule => CustomRule.appliedNote rule.name

/-- The note of a rule that fails on every file, as a custom rule does that does not compile. -/
def failure? : Rule → Option String
  | .builtIn _ => none
  | .custom rule => if rule.compiles then none else some (CustomRule.errorNote rule.name)

/-- The content that a rule leaves of a file, be it applicable or not. -/
def output (rule : Rule) (context : RuleContext) (path content : String) : String :=
  if rule.applicable context path content then (rule.transform context content).content
  else content

end Rule

/-- What one rule found of a file in a run, and what it left. -/
structure RuleStep where
  rule : Rule
  before : String
  after : String

namespace RuleStep

/-- The step of a rule on a content. -/
def of (context : RuleContext) (path : String) (rule : Rule) (content : String) : RuleStep :=
  ⟨rule, content, rule.output context path content⟩

/-- Whether the rule left something else than it found. -/
def changes (step : RuleStep) : Bool :=
  step.after != step.before

/-- The notes of a step: one if the rule changed the content, and one if the rule fails. -/
def notes (context : RuleContext) (step : RuleStep) : List String :=
  (if step.changes then [step.rule.note context] else []) ++ step.rule.failure?.toList

/-- The steps of rules, each on what the one before it has left. -/
def inTurn (context : RuleContext) (path : String) : List Rule → String → List RuleStep
  | [], _ => []
  | rule :: rest, content =>
      of context path rule content ::
        inTurn context path rest (rule.output context path content)

/-- What the last of several steps has left of a content. -/
def leftOf (content : String) (steps : List RuleStep) : String :=
  steps.foldl (fun _ step => step.after) content

/-- There is a step for every rule, in order. -/
theorem map_rule_inTurn
    (context : RuleContext)
    (path : String)
    (rules : List Rule)
    (content : String) :
    (inTurn context path rules content).map rule = rules := by
  induction rules generalizing content with
  | nil =>
      rfl
  | cons rule rest inductionHypothesis =>
      rw [inTurn, List.map_cons, inductionHypothesis]
      rfl

/-- Every step is the step of its rule on what it found. -/
theorem eq_of_of_mem_inTurn
    {context : RuleContext}
    {path content : String}
    {rules : List Rule}
    {step : RuleStep}
    (member : step ∈ inTurn context path rules content) :
    step = of context path step.rule step.before := by
  induction rules generalizing content with
  | nil =>
      simp [inTurn] at member
  | cons rule rest inductionHypothesis =>
      rw [inTurn] at member
      rcases List.mem_cons.mp member with rfl | later
      · rfl
      · exact inductionHypothesis later

/-- A rule that fails leaves what it found. -/
theorem not_changes_of_failure
    {context : RuleContext}
    {path content : String}
    {rules : List Rule}
    {step : RuleStep}
    (member : step ∈ inTurn context path rules content)
    (fails : step.rule.failure?.isSome) :
    step.changes = false := by
  rw [eq_of_of_mem_inTurn member]
  cases named : step.rule with
  | builtIn rule =>
      simp [named, Rule.failure?] at fails
  | custom rule =>
      cases compiles : rule.compiles with
      | true =>
          simp [named, Rule.failure?, compiles] at fails
      | false =>
          simp [of, changes, Rule.output, Rule.applicable, Rule.transform,
            CustomRule.transform_of_not_compiles compiles, RuleOutcome.broken]

/-- Steps of which none changes anything leave the content. -/
theorem leftOf_inTurn_of_no_change
    {context : RuleContext}
    {path content : String}
    {rules : List Rule}
    (none : (inTurn context path rules content).countP changes = 0) :
    leftOf content (inTurn context path rules content) = content := by
  induction rules with
  | nil =>
      rfl
  | cons rule rest inductionHypothesis =>
      rw [inTurn] at none ⊢
      have quiet : (of context path rule content).changes = false :=
        Bool.eq_false_iff.mpr (List.countP_eq_zero.mp none _ List.mem_cons_self)
      have same : rule.output context path content = content := by
        simpa [changes, of] using quiet
      rw [List.countP_cons_of_neg (by simp [quiet]), same] at none
      calc
        _ = leftOf content (inTurn context path rest content) := by
          rw [leftOf, List.foldl_cons, of, same, leftOf]
        _ = content := inductionHypothesis none

/-- There are as many notes as steps that change something and rules that fail. -/
theorem length_flatMap_notes
    (context : RuleContext)
    (steps : List RuleStep) :
    (steps.flatMap (notes context)).length =
      steps.countP changes + (steps.map rule).countP (·.failure?.isSome) := by
  induction steps with
  | nil =>
      rfl
  | cons step rest inductionHypothesis =>
      have ofStep :
          (step.notes context).length =
            (if step.changes then 1 else 0) + (if step.rule.failure?.isSome then 1 else 0) := by
        unfold notes
        cases step.rule.failure? <;> cases step.changes <;> rfl
      rw [List.flatMap_cons, List.length_append, inductionHypothesis, ofStep, List.map_cons,
        List.countP_cons, List.countP_cons]
      omega

end RuleStep

namespace FileTransform

/-- An outcome that reports its change makes the count one greater just if the content differs. -/
theorem followedBy_of_reports
    {done : FileTransform}
    {outcome : RuleOutcome}
    {note : String}
    (reports : outcome.Reports done.content note) :
    done.followedBy outcome =
      ⟨outcome.content,
        min (done.changes + if outcome.content != done.content then 1 else 0) changeLimit,
        done.notes ++ if outcome.content != done.content then [note] else []⟩ := by
  by_cases same : outcome.content = done.content
  · rw [RuleOutcome.Reports, if_pos same] at reports
    simp [followedBy, reports, RuleOutcome.unchanged]
  · rw [RuleOutcome.Reports, if_neg same] at reports
    rw [reports]
    simp [followedBy, RuleOutcome.changed, same]

/-- Applying a rule accounts for its step, whatever the rule. -/
theorem apply_eq_step
    {done : FileTransform}
    (counted : done.changes ≤ changeLimit)
    (context : RuleContext)
    (path : String)
    (rule : Rule) :
    apply context path done rule =
      ⟨rule.output context path done.content,
        min (done.changes + if (RuleStep.of context path rule done.content).changes then 1 else 0)
          changeLimit,
        done.notes ++ (RuleStep.of context path rule done.content).notes context⟩ := by
  cases rule with
  | builtIn rule =>
      by_cases applicable : rule.applicable context path done.content = true
      · rw [apply, Rule.applicable, if_pos applicable, Rule.transform,
          followedBy_of_reports (rule.reports_transform context done.content)]
        simp [RuleStep.of, RuleStep.changes, RuleStep.notes, Rule.output, Rule.applicable,
          Rule.transform, Rule.failure?, Rule.note, applicable]
      · rw [apply, Rule.applicable, if_neg applicable]
        simp [RuleStep.of, RuleStep.changes, RuleStep.notes, Rule.output, Rule.applicable,
          Rule.failure?, applicable, counted]
  | custom rule =>
      cases compiles : rule.compiles with
      | true =>
          rw [apply, Rule.applicable, if_pos rfl, Rule.transform,
            followedBy_of_reports (CustomRule.reports_transform compiles done.content)]
          simp [RuleStep.of, RuleStep.changes, RuleStep.notes, Rule.output, Rule.applicable,
            Rule.transform, Rule.failure?, Rule.note, compiles]
      | false =>
          rw [apply, Rule.applicable, if_pos rfl, Rule.transform,
            CustomRule.transform_of_not_compiles compiles]
          simp [RuleStep.of, RuleStep.changes, RuleStep.notes, Rule.output, Rule.applicable,
            Rule.transform, Rule.failure?, CustomRule.transform_of_not_compiles compiles,
            followedBy, RuleOutcome.broken, compiles, counted]

/-- Applying rules in turn accounts for all their steps. -/
theorem foldl_apply_eq_steps
    {done : FileTransform}
    (counted : done.changes ≤ changeLimit)
    (context : RuleContext)
    (path : String)
    (rules : List Rule) :
    rules.foldl (apply context path) done =
      ⟨RuleStep.leftOf done.content (RuleStep.inTurn context path rules done.content),
        min (done.changes + (RuleStep.inTurn context path rules done.content).countP
          RuleStep.changes) changeLimit,
        done.notes ++
          (RuleStep.inTurn context path rules done.content).flatMap (RuleStep.notes context)⟩ := by
  induction rules generalizing done with
  | nil =>
      simp [RuleStep.inTurn, RuleStep.leftOf, counted]
  | cons rule rest inductionHypothesis =>
      have oneMore (own later : Nat) :
          min (min (done.changes + own) changeLimit + later) changeLimit =
            min (done.changes + (later + own)) changeLimit := by
        omega
      rw [List.foldl_cons, apply_eq_step counted, inductionHypothesis (Nat.min_le_right _ _)]
      simp only [RuleStep.inTurn, List.countP_cons, List.flatMap_cons, oneMore, List.append_assoc]
      rfl

end FileTransform

namespace Registry

/-- The steps of a run, one for each rule. -/
def steps
    (registry : Registry)
    (context : RuleContext)
    (path content : String) :
    List RuleStep :=
  RuleStep.inTurn context path registry.rules content

/-- The rules that fail on every file are the custom ones that do not compile. -/
theorem countP_failure (registry : Registry) :
    registry.rules.countP (·.failure?.isSome) = registry.customs.countP (!·.compiles) := by
  have noBuiltIn (rules : List BuiltInRule) :
      (rules.map Rule.builtIn).countP (·.failure?.isSome) = 0 := by
    simp [List.countP_eq_zero, Rule.failure?]
  have sameCustom :
      (fun rule : Rule => rule.failure?.isSome) ∘ Rule.custom = fun rule => !rule.compiles := by
    funext rule
    cases compiles : rule.compiles <;> simp [Rule.failure?, compiles]
  rw [rules, List.countP_append, noBuiltIn, List.countP_map, sameCustom, Nat.zero_add]

/-- A run accounts for all its steps. -/
theorem run_eq_steps
    (registry : Registry)
    (context : RuleContext)
    (path content : String) :
    registry.run context path content =
      ⟨RuleStep.leftOf content (registry.steps context path content),
        min ((registry.steps context path content).countP RuleStep.changes) changeLimit,
        (registry.steps context path content).flatMap (RuleStep.notes context)⟩ := by
  have counted : (FileTransform.start content).changes ≤ changeLimit := Nat.zero_le _
  rw [run, FileTransform.foldl_apply_eq_steps counted]
  simp [FileTransform.start, steps]

/-- Where no change is counted, none is made. -/
theorem content_eq_of_changes_eq_zero
    {registry : Registry}
    {context : RuleContext}
    {path content : String}
    (none : (registry.run context path content).changes = 0) :
    (registry.run context path content).content = content := by
  rw [run_eq_steps] at none ⊢
  have noChange : (registry.steps context path content).countP RuleStep.changes = 0 :=
    (Nat.min_eq_zero_iff.mp none).resolve_right (by decide)
  exact RuleStep.leftOf_inTurn_of_no_change noChange

/--
A run takes one step for each rule. It counts the steps that leave something else, and its notes are
theirs and those of the custom rules that do not compile, in the order of the rules. So a content
that is left differently is counted, and every note is of a rule that changed the text or failed.
-/
theorem run_accounts
    (registry : Registry)
    (context : RuleContext)
    (path content : String) :
    let steps := registry.steps context path content
    let done := registry.run context path content
    steps.map RuleStep.rule = registry.rules ∧
      done.content = RuleStep.leftOf content steps ∧
      done.changes = min (steps.countP RuleStep.changes) changeLimit ∧
      done.notes = steps.flatMap (RuleStep.notes context) ∧
      done.notes.length =
        steps.countP RuleStep.changes + registry.customs.countP (!·.compiles) ∧
      (∀ step ∈ steps, step.rule.failure?.isSome → step.changes = false) ∧
      (done.content ≠ content → done.changes ≠ 0) ∧
      (done.changes = 0 → done.content = content) ∧
      ∀ note ∈ done.notes,
        ∃ step ∈ steps,
          step.changes ∧ note = step.rule.note context ∨ step.rule.failure? = some note := by
  intro steps done
  have told :
      done =
        ⟨RuleStep.leftOf content steps, min (steps.countP RuleStep.changes) changeLimit,
          steps.flatMap (RuleStep.notes context)⟩ :=
    registry.run_eq_steps context path content
  have sameRules : steps.map RuleStep.rule = registry.rules :=
    RuleStep.map_rule_inTurn context path registry.rules content
  have unchangedOfZero : done.changes = 0 → done.content = content := by
    intro zero
    rw [told] at zero ⊢
    have noChange : steps.countP RuleStep.changes = 0 := by
      rcases Nat.min_eq_zero_iff.mp zero with none | bad
      · exact none
      · exact absurd bad (by decide)
    exact RuleStep.leftOf_inTurn_of_no_change noChange
  refine ⟨sameRules, by rw [told], by rw [told], by rw [told], ?_, ?_, ?_, unchangedOfZero, ?_⟩
  · rw [told]
    change (steps.flatMap (RuleStep.notes context)).length = _
    rw [RuleStep.length_flatMap_notes, sameRules, countP_failure]
  · intro step member fails
    exact RuleStep.not_changes_of_failure member fails
  · intro differs zero
    exact differs (unchangedOfZero zero)
  · rw [told]
    intro note member
    obtain ⟨step, among, noted⟩ := List.mem_flatMap.mp member
    refine ⟨step, among, ?_⟩
    rcases List.mem_append.mp noted with ofChange | ofFailure
    · left
      cases changed : step.changes with
      | true => simpa [changed] using ofChange
      | false => simp [changed] at ofChange
    · right
      simpa using ofFailure

/-- A rule whose pattern does not compile is noted and not counted, and a later rule is both. -/
example :
    ((standard.register ⟨"bad", "[", "x"⟩).register ⟨"good", "foo", "bar"⟩).run
        ⟨"next", "13.4.0", "14.0.0", []⟩ "a.ts" "foo" =
      ⟨"bar", 1, ["Custom rule error (bad): <cause>", "Custom rule applied: good"]⟩ := by
  decide +kernel

end Registry

end SourceUpgrade
