import SourceUpgrade.Proofs.Rule.Occurrence
import SourceUpgrade.Rule.Registry

namespace SourceUpgrade

/-!
# Rules that fire

Whether a built-in rule changes a content can be read off the content. A run applies the rules to
what earlier ones have left; when no rule has a say in whether a later one fires, the rules that
fire are those that fire on the content the run begins with.
-/

/-- What a built-in rule does to a content. -/
inductive Edit where
  /-- Put a replacement in the place of every occurrence of a phrase. -/
  | replace (phrase : Phrase) (replacement : String)
  /-- Put a comment in front. -/
  | prepend (comment : String)

/-- The content that an edit leaves. -/
def Edit.write : Edit → String → String
  | .replace phrase replacement, content =>
      .ofList (phrase.replaceAll replacement.toList content.toList)
  | .prepend comment, content => comment ++ content

namespace BuiltInRule

/-- The family of packages that a rule is for. -/
def family : BuiltInRule → String
  | .routerNamedImport => "next"
  | .routerDefaultImport => "next"
  | .legacyImage => "next"
  | .configExperimental => "next"
  | .createRoot => "react"

/-- The phrases on whose occurrences it depends whether a rule fires. -/
def looksFor : BuiltInRule → List Phrase
  | .routerNamedImport => [routerNamedPhrase]
  | .routerDefaultImport => [routerDefaultPhrase, [.word routerMarker]]
  | .legacyImage => [legacyImagePhrase]
  | .configExperimental => [[.word "experimental"], [.word configMarker]]
  | .createRoot => [renderPhrase, [.word renderMarker]]

/-- Whether a rule changes the content of a file. -/
def fires (rule : BuiltInRule) (context : RuleContext) (path content : String) : Bool :=
  context.concerns rule.family &&
    match rule with
    | .routerNamedImport => routerNamedPhrase.occursIn content.toList
    | .routerDefaultImport =>
        routerDefaultPhrase.occursIn content.toList && !Text.contains content routerMarker
    | .legacyImage => legacyImagePhrase.occursIn content.toList
    | .configExperimental =>
        isConfigPath path && Text.contains content "experimental" &&
          !Text.contains content configMarker
    | .createRoot => renderPhrase.occursIn content.toList && !Text.contains content renderMarker

/-- What a rule does to a content when it fires. -/
def edit (rule : BuiltInRule) (context : RuleContext) : Edit :=
  match rule with
  | .routerNamedImport => .replace routerNamedPhrase routerNamedReplacement
  | .routerDefaultImport => .prepend routerComment
  | .legacyImage => .replace legacyImagePhrase legacyImageReplacement
  | .configExperimental => .prepend (configComment context.targetVersion)
  | .createRoot => .prepend renderComment

/-- The note that a rule makes when it fires. -/
def note (rule : BuiltInRule) (context : RuleContext) : String :=
  match rule with
  | .routerNamedImport => "Switched useRouter import to next/navigation (App Router)."
  | .routerDefaultImport =>
      "Annotated legacy default Router import; manual refactor recommended."
  | .legacyImage => "Replaced next/legacy/image with next/image."
  | .configExperimental =>
      "Annotated experimental flags for Next " ++ context.targetVersion ++ "."
  | .createRoot => "Annotated ReactDOM.render usage with createRoot guidance."

/-- Only contents in which its phrases occur differently can tell a rule apart. -/
theorem fires_congr
    {rule : BuiltInRule}
    {context : RuleContext}
    {path first second : String}
    (same :
      ∀ phrase ∈ rule.looksFor,
        phrase.occursIn first.toList = phrase.occursIn second.toList) :
    rule.fires context path first = rule.fires context path second := by
  cases rule <;>
    simp only [looksFor, List.forall_mem_cons] at same <;>
    simp [fires, Phrase.contains_eq_occursIn, same]

/-- A rule fires for packages of its family only. -/
theorem concerns_of_fires
    {rule : BuiltInRule}
    {context : RuleContext}
    {path content : String}
    (firing : rule.fires context path content = true) :
    context.concerns rule.family = true :=
  (Bool.and_eq_true_iff.mp firing).1

/-- A substitution changes every content in which its phrase occurs. -/
theorem substitute_of_occursIn
    {phrase : Phrase}
    {replacement content : String}
    (needsText : phrase.drop? [] = none)
    (clashing : Slot.clash phrase.slots (Phrase.slots [.word replacement]) = true)
    (occurs : phrase.occursIn content.toList = true)
    (note : String) :
    substitute phrase replacement note content =
      .changed (.ofList (phrase.replaceAll replacement.toList content.toList)) note := by
  have differs : String.ofList (phrase.replaceAll replacement.toList content.toList) ≠ content := by
    intro same
    have sameChars : phrase.replaceAll replacement.toList content.toList = content.toList := by
      rw [← String.toList_ofList (l := phrase.replaceAll _ _), same]
    have absent := (Phrase.replaceAll_eq_self_iff needsText clashing content.toList).mp sameChars
    exact absurd (occurs.symm.trans absent) Bool.true_eq_false.mp
  rw [substitute, if_neg differs]

/-- A comment is put in front where its marker does not occur. -/
theorem annotate_of_not_contains
    {marker content : String}
    (unmarked : Text.contains content marker = false)
    (comment note : String) :
    annotate marker comment note content = .changed (comment ++ content) note := by
  rw [annotate, unmarked]
  rfl

/-- No comment is put in front where its marker occurs. -/
theorem annotate_of_contains
    {marker content : String}
    (marked : Text.contains content marker = true)
    (comment note : String) :
    annotate marker comment note content = .unchanged content := by
  rw [annotate, marked]
  rfl

/-- A rule that fires is applicable and makes its one change. -/
theorem transform_of_fires
    {rule : BuiltInRule}
    {context : RuleContext}
    {path content : String}
    (firing : rule.fires context path content = true) :
    rule.applicable context path content = true ∧
      rule.transform context content =
        .changed ((rule.edit context).write content) (rule.note context) := by
  obtain ⟨concerned, found⟩ := Bool.and_eq_true_iff.mp firing
  cases rule with
  | routerNamedImport =>
      refine ⟨Bool.and_eq_true_iff.mpr ⟨concerned, found⟩, ?_⟩
      exact substitute_of_occursIn (by decide +kernel) (by decide +kernel) found _
  | routerDefaultImport =>
      obtain ⟨occurs, unmarked⟩ := Bool.and_eq_true_iff.mp found
      refine ⟨Bool.and_eq_true_iff.mpr ⟨concerned, occurs⟩, ?_⟩
      exact annotate_of_not_contains (by simpa using unmarked) _ _
  | legacyImage =>
      refine ⟨Bool.and_eq_true_iff.mpr ⟨concerned, found⟩, ?_⟩
      exact substitute_of_occursIn (by decide +kernel) (by decide +kernel) found _
  | configExperimental =>
      obtain ⟨mentioned, unmarked⟩ := Bool.and_eq_true_iff.mp found
      obtain ⟨isConfig, experimental⟩ := Bool.and_eq_true_iff.mp mentioned
      refine ⟨Bool.and_eq_true_iff.mpr ⟨concerned, isConfig⟩, ?_⟩
      rw [transform, experimental]
      exact annotate_of_not_contains (by simpa using unmarked) _ _
  | createRoot =>
      obtain ⟨occurs, unmarked⟩ := Bool.and_eq_true_iff.mp found
      refine ⟨Bool.and_eq_true_iff.mpr ⟨concerned, occurs⟩, ?_⟩
      exact annotate_of_not_contains (by simpa using unmarked) _ _

/-- A rule that is applicable but does not fire leaves the content as it is. -/
theorem transform_of_not_fires
    {rule : BuiltInRule}
    {context : RuleContext}
    {path content : String}
    (idle : rule.fires context path content = false)
    (applicable : rule.applicable context path content = true) :
    rule.transform context content = .unchanged content := by
  cases rule with
  | routerNamedImport =>
      exact absurd (applicable.symm.trans idle) Bool.true_eq_false.mp
  | routerDefaultImport =>
      obtain ⟨concerned, occurs⟩ := Bool.and_eq_true_iff.mp applicable
      have marked : Text.contains content routerMarker = true := by
        simpa [fires, family, concerned, occurs] using idle
      exact annotate_of_contains marked _ _
  | legacyImage =>
      exact absurd (applicable.symm.trans idle) Bool.true_eq_false.mp
  | configExperimental =>
      obtain ⟨concerned, isConfig⟩ := Bool.and_eq_true_iff.mp applicable
      by_cases experimental : Text.contains content "experimental" = true
      · have marked : Text.contains content configMarker = true := by
          simpa [fires, family, concerned, isConfig, experimental] using idle
        rw [transform, if_pos experimental]
        exact annotate_of_contains marked _ _
      · rw [transform, if_neg experimental]
  | createRoot =>
      obtain ⟨concerned, occurs⟩ := Bool.and_eq_true_iff.mp applicable
      have marked : Text.contains content renderMarker = true := by
        simpa [fires, family, concerned, occurs] using idle
      exact annotate_of_contains marked _ _

end BuiltInRule

namespace FileTransform

/-- Applying a built-in rule counts one change when the rule fires and nothing otherwise. -/
theorem apply_builtIn
    {context : RuleContext}
    {path : String}
    {done : FileTransform}
    (counted : done.changes ≤ changeLimit)
    (rule : BuiltInRule) :
    apply context path done (.builtIn rule) =
      if rule.fires context path done.content then
        ⟨(rule.edit context).write done.content, min (done.changes + 1) changeLimit,
          done.notes ++ [rule.note context]⟩
      else
        done := by
  by_cases firing : rule.fires context path done.content = true
  · obtain ⟨applicable, outcome⟩ := BuiltInRule.transform_of_fires firing
    rw [if_pos firing, apply, Rule.applicable, if_pos applicable, Rule.transform, outcome]
    rfl
  · rw [if_neg firing, apply, Rule.applicable]
    by_cases applicable : rule.applicable context path done.content = true
    · have outcome :=
        BuiltInRule.transform_of_not_fires (Bool.eq_false_iff.mpr firing) applicable
      rw [if_pos applicable, Rule.transform, outcome]
      simp [followedBy, RuleOutcome.unchanged, counted]
    · rw [if_neg applicable]

end FileTransform

namespace BuiltInRule

/-- A rule that fires has no say in whether another one fires afterwards. -/
def Independent (context : RuleContext) (path : String) (earlier later : BuiltInRule) : Prop :=
  ∀ content,
    earlier.fires context path content = true →
      later.fires context path ((earlier.edit context).write content) =
        later.fires context path content

/-- The rules that fire on a content, in order. -/
def firing
    (rules : List BuiltInRule)
    (context : RuleContext)
    (path content : String) :
    List BuiltInRule :=
  rules.filter fun rule => rule.fires context path content

/-- What rules that fire leave of a content, one after the other. -/
def writtenAll
    (rules : List BuiltInRule)
    (context : RuleContext)
    (content : String) :
    String :=
  rules.foldl (fun content rule => (rule.edit context).write content) content

/-- When independent rules run, those have an effect that fire on the content at the begin. -/
theorem foldl_apply
    {context : RuleContext}
    {path : String}
    {rules : List BuiltInRule}
    (independent : rules.Pairwise (Independent context path))
    {done : FileTransform}
    (counted : done.changes ≤ changeLimit) :
    (rules.map Rule.builtIn).foldl (FileTransform.apply context path) done =
      ⟨writtenAll (firing rules context path done.content) context done.content,
        min (done.changes + (firing rules context path done.content).length) changeLimit,
        done.notes ++ (firing rules context path done.content).map (·.note context)⟩ := by
  induction rules generalizing done with
  | nil =>
      simp [firing, writtenAll, counted]
  | cons rule rules inductionHypothesis =>
      obtain ⟨ofHead, ofTail⟩ := List.pairwise_cons.mp independent
      rw [List.map_cons, List.foldl_cons, FileTransform.apply_builtIn counted]
      by_cases fired : rule.fires context path done.content = true
      · have sameFiring :
            firing rules context path ((rule.edit context).write done.content) =
              firing rules context path done.content := by
          refine List.filter_congr ?_
          intro later member
          exact ofHead later member done.content fired
        have headFires :
            firing (rule :: rules) context path done.content =
              rule :: firing rules context path done.content :=
          List.filter_cons_of_pos fired
        have oneMore (later : Nat) :
            min (min (done.changes + 1) changeLimit + later) changeLimit =
              min (done.changes + (later + 1)) changeLimit := by
          omega
        rw [if_pos fired, inductionHypothesis ofTail (Nat.min_le_right _ _), sameFiring,
          headFires]
        simp [writtenAll, oneMore]
      · have headIdle :
            firing (rule :: rules) context path done.content =
              firing rules context path done.content :=
          List.filter_cons_of_neg fired
        rw [if_neg fired, inductionHypothesis ofTail counted, headIdle]

end BuiltInRule

end SourceUpgrade
