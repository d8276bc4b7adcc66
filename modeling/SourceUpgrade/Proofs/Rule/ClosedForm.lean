import SourceUpgrade.Proofs.Rule.Firing

namespace SourceUpgrade

/-!
# The built-in rules in closed form

No built-in rule triggers, suppresses or rewrites what an earlier one does. So a run can be told
from the content it begins with: which rules fire, and that the comments of those that put one in
front precede the content with its imports replaced.
-/

/-- Whether a phrase is seen to occur after an edit just when it did before. -/
def Edit.spares : Edit → Phrase → Bool
  | .replace other replacement, phrase => phrase.apart other && phrase.apart [.word replacement]
  | .prepend comment, phrase => phrase.misses [.word comment]

/-- A phrase that an edit spares occurs in what this leaves just when it occurred before. -/
theorem Edit.occursIn_write
    {edit : Edit}
    {phrase : Phrase}
    (spared : edit.spares phrase = true)
    (content : String) :
    phrase.occursIn (edit.write content).toList = phrase.occursIn content.toList := by
  cases edit with
  | replace other replacement =>
      obtain ⟨fromOther, fromReplacement⟩ := Bool.and_eq_true_iff.mp spared
      rw [write, String.toList_ofList]
      exact Phrase.occursIn_replaceAll fromOther fromReplacement content.toList
  | prepend comment =>
      rw [write, String.toList_append]
      exact Phrase.occursIn_word_append spared content.toList

/-- Replacing what does not occur leaves a content as it is. -/
theorem Edit.write_replace_of_not_occursIn
    {phrase : Phrase}
    {content : String}
    (absent : phrase.occursIn content.toList = false)
    (replacement : String) :
    (Edit.replace phrase replacement).write content = content := by
  rw [write, Phrase.replaceAll_of_not_occursIn absent, String.ofList_toList]

/-- What is replaced behind a comment in which the phrase misses does not touch the comment. -/
theorem Edit.write_replace_append
    {phrase : Phrase}
    {comment : String}
    (missing : phrase.misses [.word comment] = true)
    (replacement content : String) :
    (Edit.replace phrase replacement).write (comment ++ content) =
      comment ++ (Edit.replace phrase replacement).write content := by
  refine String.toList_injective ?_
  simp only [write, String.toList_append, String.toList_ofList]
  exact Phrase.replaceAll_word_append missing replacement.toList content.toList

namespace BuiltInRule

/-- Replacing imports of `useRouter` spares all that the other rules look for. -/
theorem routerNamedImport_spares
    (context : RuleContext) :
    ∀ other ∈ all, other ≠ routerNamedImport →
      ∀ phrase ∈ other.looksFor, (routerNamedImport.edit context).spares phrase = true := by
  rw [edit]
  decide +kernel

/-- The comment on a default import of the router spares all that the other rules look for. -/
theorem routerDefaultImport_spares
    (context : RuleContext) :
    ∀ other ∈ all, other ≠ routerDefaultImport →
      ∀ phrase ∈ other.looksFor, (routerDefaultImport.edit context).spares phrase = true := by
  rw [edit]
  decide +kernel

/-- Replacing imports of the image component spares all that the other rules look for. -/
theorem legacyImage_spares
    (context : RuleContext) :
    ∀ other ∈ all, other ≠ legacyImage →
      ∀ phrase ∈ other.looksFor, (legacyImage.edit context).spares phrase = true := by
  rw [edit]
  decide +kernel

/-- A rule that spares all that another one looks for has no say in whether that fires. -/
theorem independent_of_spares
    {context : RuleContext}
    {earlier later : BuiltInRule}
    (spared : ∀ phrase ∈ later.looksFor, (earlier.edit context).spares phrase = true)
    (path : String) :
    Independent context path earlier later := by
  intro content _
  refine fires_congr ?_
  intro phrase member
  exact Edit.occursIn_write (spared phrase member) content

/-- A package of the one family does not belong to the other. -/
theorem not_concerns_react
    {context : RuleContext}
    (concerned : context.concerns "next" = true) :
    context.concerns "react" = false := by
  unfold RuleContext.concerns Text.beginsWith at concerned ⊢
  cases chars : context.package.toList with
  | nil =>
      rfl
  | cons c rest =>
      rw [chars] at concerned
      obtain ⟨rfl, -⟩ : 'n' = c ∧ ['e', 'x', 't'] <+: rest := by
        simpa using concerned
      simp [List.isPrefixOf]

/-- A rule for another family does not fire. -/
theorem not_fires_of_not_concerns
    {rule : BuiltInRule}
    {context : RuleContext}
    (otherFamily : context.concerns rule.family = false)
    (path content : String) :
    rule.fires context path content = false := by
  refine Bool.eq_false_iff.mpr ?_
  intro firing
  exact absurd ((concerns_of_fires firing).symm.trans otherFamily) Bool.true_eq_false.mp

/-- The comment on a configuration file is for another family than the rule that comes next. -/
theorem independent_configExperimental
    (context : RuleContext)
    (path : String) :
    Independent context path .configExperimental .createRoot := by
  intro content firing
  have otherFamily : context.concerns createRoot.family = false :=
    not_concerns_react (concerns_of_fires firing)
  rw [not_fires_of_not_concerns otherFamily, not_fires_of_not_concerns otherFamily]

/-- No built-in rule has a say in whether a later one fires. -/
theorem all_independent
    (context : RuleContext)
    (path : String) :
    all.Pairwise (Independent context path) := by
  refine .cons ?named (.cons ?default (.cons ?legacy (.cons ?config (.cons ?root .nil))))
  case named =>
    intro later member
    have isOther : later ∈ all ∧ later ≠ routerNamedImport := by
      revert later
      decide
    exact independent_of_spares (routerNamedImport_spares context later isOther.1 isOther.2) path
  case default =>
    intro later member
    have isOther : later ∈ all ∧ later ≠ routerDefaultImport := by
      revert later
      decide
    exact independent_of_spares (routerDefaultImport_spares context later isOther.1 isOther.2) path
  case legacy =>
    intro later member
    have isOther : later ∈ all ∧ later ≠ legacyImage := by
      revert later
      decide
    exact independent_of_spares (legacyImage_spares context later isOther.1 isOther.2) path
  case config =>
    intro later member
    rw [List.mem_singleton.mp member]
    exact independent_configExperimental context path
  case root =>
    exact List.forall_mem_nil _

/-! ## The content that is left -/

/-- The comment that a rule puts in front, if it fires. -/
def block (rule : BuiltInRule) (context : RuleContext) (path content comment : String) : String :=
  if rule.fires context path content then comment else ""

/-- A content with the outdated imports replaced, those of `useRouter` first. -/
def renewed (content : String) : String :=
  (Edit.replace legacyImagePhrase legacyImageReplacement).write
    ((Edit.replace routerNamedPhrase routerNamedReplacement).write content)

/-- A content as a rule leaves it, if it fires on the content a run begins with. -/
def writtenBy
    (context : RuleContext)
    (path content : String)
    (current : String)
    (rule : BuiltInRule) :
    String :=
  if rule.fires context path content then (rule.edit context).write current else current

/-- The rules that fire leave what all rules leave when the others do nothing. -/
theorem writtenAll_firing
    (rules : List BuiltInRule)
    (context : RuleContext)
    (path content current : String) :
    writtenAll (firing rules context path content) context current =
      rules.foldl (writtenBy context path content) current :=
  List.foldl_filter

/-- A rule that puts a comment in front puts its block there. -/
theorem writtenBy_of_prepend
    (rule : BuiltInRule)
    {context : RuleContext}
    {comment : String}
    (isPrepend : rule.edit context = .prepend comment)
    (path content current : String) :
    writtenBy context path content current rule =
      rule.block context path content comment ++ current := by
  unfold writtenBy block
  rw [isPrepend]
  split
  · rfl
  · simp

/-- A rule for another family leaves everything as it is. -/
theorem writtenBy_of_not_concerns
    (rule : BuiltInRule)
    {context : RuleContext}
    (otherFamily : context.concerns rule.family = false)
    (path content current : String) :
    writtenBy context path content current rule = current := by
  rw [writtenBy, not_fires_of_not_concerns otherFamily]
  rfl

/-- The rule for imports of `useRouter` replaces them. -/
theorem writtenBy_routerNamedImport
    {context : RuleContext}
    (concerned : context.concerns "next" = true)
    (path content : String) :
    writtenBy context path content content .routerNamedImport =
      (Edit.replace routerNamedPhrase routerNamedReplacement).write content := by
  have firesIff :
      routerNamedImport.fires context path content =
        routerNamedPhrase.occursIn content.toList := by
    rw [fires, family, concerned]
    rfl
  unfold writtenBy
  rw [firesIff]
  split
  · rfl
  · rename_i absent
    exact (Edit.write_replace_of_not_occursIn (Bool.eq_false_iff.mpr absent) _).symm

/-- The rule for imports of the image component replaces them, behind the block before. -/
theorem writtenBy_legacyImage
    {context : RuleContext}
    (concerned : context.concerns "next" = true)
    (path content : String) :
    writtenBy context path content
        (routerDefaultImport.block context path content routerComment ++
          (Edit.replace routerNamedPhrase routerNamedReplacement).write content)
        .legacyImage =
      routerDefaultImport.block context path content routerComment ++ renewed content := by
  have lookedFor : legacyImagePhrase ∈ legacyImage.looksFor := List.mem_singleton.mpr rfl
  have missing : legacyImagePhrase.misses [.word routerComment] = true :=
    routerDefaultImport_spares context legacyImage (by decide) (by decide) legacyImagePhrase
      lookedFor
  have spared : (routerNamedImport.edit context).spares legacyImagePhrase = true :=
    routerNamedImport_spares context legacyImage (by decide) (by decide) legacyImagePhrase lookedFor
  have firesIff :
      legacyImage.fires context path content =
        legacyImagePhrase.occursIn
          ((Edit.replace routerNamedPhrase routerNamedReplacement).write content).toList := by
    rw [fires, family, concerned]
    exact (Edit.occursIn_write spared content).symm
  unfold writtenBy renewed
  rw [firesIff]
  split
  · unfold block
    split
    · exact Edit.write_replace_append missing _ _
    · rw [String.empty_append, String.empty_append]
      rfl
  · rename_i absent
    rw [Edit.write_replace_of_not_occursIn (Bool.eq_false_iff.mpr absent)]

end BuiltInRule

namespace Registry

open BuiltInRule

/-- What the built-in rules make of a file, told from its content. -/
def closedForm (context : RuleContext) (path content : String) : FileTransform where
  content :=
    if context.concerns "next" then
      configExperimental.block context path content (configComment context.targetVersion) ++
        (routerDefaultImport.block context path content routerComment ++ renewed content)
    else if context.concerns "react" then
      createRoot.block context path content renderComment ++ content
    else
      content
  changes := (firing all context path content).length
  notes := (firing all context path content).map (·.note context)

/-- The rules that fire leave the content of the closed form. -/
theorem foldl_writtenBy
    (context : RuleContext)
    (path content : String) :
    all.foldl (writtenBy context path content) content =
      (closedForm context path content).content := by
  simp only [all, List.foldl_cons, List.foldl_nil, closedForm]
  by_cases concerned : context.concerns "next" = true
  · rw [if_pos concerned, writtenBy_routerNamedImport concerned,
      writtenBy_of_prepend routerDefaultImport rfl, writtenBy_legacyImage concerned,
      writtenBy_of_prepend configExperimental rfl,
      writtenBy_of_not_concerns createRoot (not_concerns_react concerned)]
  · have notConcerned : context.concerns "next" = false := Bool.eq_false_iff.mpr concerned
    rw [if_neg concerned, writtenBy_of_not_concerns routerNamedImport notConcerned,
      writtenBy_of_not_concerns routerDefaultImport notConcerned,
      writtenBy_of_not_concerns legacyImage notConcerned,
      writtenBy_of_not_concerns configExperimental notConcerned]
    by_cases concernedToo : context.concerns "react" = true
    · rw [if_pos concernedToo, writtenBy_of_prepend createRoot rfl]
    · have notConcernedEither : context.concerns "react" = false :=
        Bool.eq_false_iff.mpr concernedToo
      rw [if_neg concernedToo, writtenBy_of_not_concerns createRoot notConcernedEither]

/-- A run of the built-in rules is one of those that fire on the content it begins with. -/
theorem run_standard
    (context : RuleContext)
    (path content : String) :
    standard.run context path content =
      ⟨writtenAll (firing all context path content) context content,
        (firing all context path content).length,
        (firing all context path content).map (·.note context)⟩ := by
  have counted : (FileTransform.start content).changes ≤ changeLimit := Nat.zero_le _
  have fewRules : (firing all context path content).length ≤ changeLimit :=
    Nat.le_trans (List.length_filter_le _ all) (by decide)
  have ran := foldl_apply (all_independent context path) counted
  simp only [FileTransform.start, Nat.zero_add, List.nil_append, Nat.min_eq_left fewRules] at ran
  calc
    standard.run context path content =
        (all.map Rule.builtIn).foldl (FileTransform.apply context path) ⟨content, 0, []⟩ := by
      rw [run, rules, standard, List.map_nil, List.append_nil]
      rfl
    _ = _ := ran

/-- Running the built-in rules leaves the content of the closed form. -/
theorem run_standard_content
    (context : RuleContext)
    (path content : String) :
    (standard.run context path content).content = (closedForm context path content).content := by
  rw [run_standard, writtenAll_firing, foldl_writtenBy]

/-- Running the built-in rules gives the closed form. -/
theorem run_standard_eq_closedForm
    (context : RuleContext)
    (path content : String) :
    standard.run context path content = closedForm context path content := by
  rw [run_standard, writtenAll_firing, foldl_writtenBy]
  rfl

/-- A configuration file that imports the router as a default gets both comments. -/
example :
    (closedForm ⟨"next", "12.0.0", "14.0.0", []⟩ "next.config.js"
        "import Router from \"next/router\"\nexport default (experimental, Router)\n").content =
      configComment "14.0.0" ++ routerComment ++
        "import Router from \"next/router\"\nexport default (experimental, Router)\n" := by
  decide +kernel

end Registry

end SourceUpgrade
