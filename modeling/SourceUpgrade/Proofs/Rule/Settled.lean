import SourceUpgrade.Proofs.Rule.ClosedForm

namespace SourceUpgrade

/-!
# Settled contents

A content is settled when the built-in rules find nothing to do in it. What a run leaves is settled,
unless the comment on a configuration file quotes a target version that is itself an outdated
import. Even then the next run has nothing to comment on any more, and what it leaves is settled.
-/

namespace BuiltInRule

/-- The phrases of outdated imports that packages of the one family are searched for. -/
def importPhrases : List Phrase :=
  [routerNamedPhrase, routerDefaultPhrase, legacyImagePhrase]

/-- Whether a text has none of the outdated imports. -/
def FreeOfImports (text : String) : Prop :=
  ∀ phrase ∈ importPhrases, phrase.occursIn text.toList = false

/-! ## Behind the blocks of comments -/

/-- The comment on a configuration file up to the target version. -/
def configCommentStart : String :=
  configMarker ++ ": Check experimental flags against target version "

/-- The comment on a configuration file behind the target version. -/
def configCommentEnd : String :=
  ". Confirm replacements/renames in docs.\n"

theorem configComment_eq
    (targetVersion : String) :
    configComment targetVersion = configCommentStart ++ targetVersion ++ configCommentEnd :=
  rfl

theorem configComment_eq_marker_append
    (targetVersion : String) :
    ∃ tail, configComment targetVersion = configMarker ++ tail := by
  refine ⟨": Check experimental flags against target version " ++ targetVersion ++
    ". Confirm replacements/renames in docs.\n", ?_⟩
  simp only [configComment, String.append_assoc]

theorem routerComment_eq_marker_append :
    ∃ tail, routerComment = routerMarker ++ tail := by
  rw [routerComment, String.append_assoc, String.append_assoc]
  exact ⟨_, rfl⟩

theorem renderComment_eq_marker_append :
    ∃ tail, renderComment = renderMarker ++ tail :=
  ⟨_, rfl⟩

theorem importPhrases_miss_start :
    ∀ phrase ∈ importPhrases, phrase.misses [.word configCommentStart] = true := by
  decide +kernel

theorem importPhrases_apart_end :
    ∀ phrase ∈ importPhrases, phrase.apart [.word configCommentEnd] = true := by
  decide +kernel

/-- What is true of a comment and of no text at all is true of a block. -/
theorem occursIn_block_append
    {rule : BuiltInRule}
    {context : RuleContext}
    {path content comment : String}
    {phrase : Phrase}
    {rest : List Char}
    (behind :
      rule.fires context path content = true →
        phrase.occursIn (comment.toList ++ rest) = phrase.occursIn rest) :
    phrase.occursIn ((rule.block context path content comment).toList ++ rest) =
      phrase.occursIn rest := by
  unfold block
  split
  · rename_i firing
    exact behind firing
  · rfl

/-- An outdated import occurs behind the block on a configuration file, if not in the version. -/
theorem occursIn_configBlock_append
    {context : RuleContext}
    {path content : String}
    (plain :
      configExperimental.fires context path content = true →
        FreeOfImports context.targetVersion)
    {phrase : Phrase}
    (member : phrase ∈ importPhrases)
    (rest : List Char) :
    phrase.occursIn
        ((configExperimental.block context path content
          (configComment context.targetVersion)).toList ++ rest) =
      phrase.occursIn rest := by
  refine occursIn_block_append ?_
  intro firing
  have split :
      (configComment context.targetVersion).toList ++ rest =
        configCommentStart.toList ++
          (context.targetVersion.toList ++ (configCommentEnd.toList ++ rest)) := by
    rw [configComment_eq, String.toList_append, String.toList_append, List.append_assoc,
      List.append_assoc]
  rw [split, Phrase.occursIn_word_append (importPhrases_miss_start phrase member),
    Phrase.occursIn_append_of_apart (importPhrases_apart_end phrase member)
      (Phrase.drop?_word configCommentEnd rest),
    plain firing phrase member, Bool.false_or]

theorem occursIn_routerBlock_append
    {context : RuleContext}
    {phrase : Phrase}
    (spared : (routerDefaultImport.edit context).spares phrase = true)
    (path content : String)
    (rest : List Char) :
    phrase.occursIn
        ((routerDefaultImport.block context path content routerComment).toList ++ rest) =
      phrase.occursIn rest :=
  occursIn_block_append fun _ => Phrase.occursIn_word_append spared rest

theorem occursIn_marker_block
    {rule : BuiltInRule}
    {context : RuleContext}
    {path content comment marker : String}
    (firing : rule.fires context path content = true)
    (marked : ∃ tail, comment = marker ++ tail)
    (rest : List Char) :
    Phrase.occursIn [.word marker]
        ((rule.block context path content comment).toList ++ rest) = true := by
  obtain ⟨tail, rfl⟩ := marked
  rw [block, if_pos firing, String.toList_append, List.append_assoc]
  exact Phrase.occursIn_word_self marker _

/-! ## In the renewed content -/

theorem not_occursIn_renewed_routerNamed
    (context : RuleContext)
    (content : String) :
    routerNamedPhrase.occursIn (renewed content).toList = false := by
  have spared : (legacyImage.edit context).spares routerNamedPhrase = true :=
    legacyImage_spares context routerNamedImport (by decide) (by decide) _ (by decide)
  rw [renewed]
  refine (Edit.occursIn_write spared _).trans ?_
  rw [Edit.write, String.toList_ofList]
  exact Phrase.not_occursIn_replaceAll (by decide +kernel) (by decide +kernel) content.toList

theorem not_occursIn_renewed_legacyImage
    (content : String) :
    legacyImagePhrase.occursIn (renewed content).toList = false := by
  rw [renewed, Edit.write, String.toList_ofList]
  exact Phrase.not_occursIn_replaceAll (by decide +kernel) (by decide +kernel) _

/-- What the rules that put comments in front look for occurs in a renewed content as before. -/
theorem occursIn_renewed
    (context : RuleContext)
    (rule : BuiltInRule)
    (notNamed : rule ≠ routerNamedImport)
    (notLegacy : rule ≠ legacyImage)
    {phrase : Phrase}
    (lookedFor : phrase ∈ rule.looksFor)
    (content : String) :
    phrase.occursIn (renewed content).toList = phrase.occursIn content.toList := by
  have member : rule ∈ all := by
    cases rule <;> decide
  rw [renewed]
  calc
    _ = phrase.occursIn
          ((Edit.replace routerNamedPhrase routerNamedReplacement).write content).toList :=
      Edit.occursIn_write (legacyImage_spares context rule member notLegacy phrase lookedFor) _
    _ = phrase.occursIn content.toList :=
      Edit.occursIn_write
        (routerNamedImport_spares context rule member notNamed phrase lookedFor) content

end BuiltInRule

namespace Registry

open BuiltInRule

/-- Whether rules leave a content as it is, count nothing and note nothing. -/
def Settled (registry : Registry) (context : RuleContext) (path content : String) : Prop :=
  registry.run context path content = .start content

/-- The content that a number of runs leave, each on what the one before it left. -/
def afterRuns
    (registry : Registry)
    (context : RuleContext)
    (path content : String) :
    Nat → String
  | 0 => content
  | runs + 1 => (registry.run context path (registry.afterRuns context path content runs)).content

theorem settled_of_not_fires
    {context : RuleContext}
    {path content : String}
    (idle : ∀ rule ∈ all, rule.fires context path content = false) :
    standard.Settled context path content := by
  have noneFire : firing all context path content = [] := by
    refine List.filter_eq_nil_iff.mpr ?_
    intro rule member firing
    exact absurd (firing.symm.trans (idle rule member)) Bool.true_eq_false.mp
  rw [Settled, run_standard, noneFire]
  rfl

theorem closedForm_content_of_next
    {context : RuleContext}
    (concerned : context.concerns "next" = true)
    (path content : String) :
    (closedForm context path content).content.toList =
      (configExperimental.block context path content
          (configComment context.targetVersion)).toList ++
        ((routerDefaultImport.block context path content routerComment).toList ++
          (renewed content).toList) := by
  rw [closedForm, if_pos concerned, String.toList_append, String.toList_append]

/-- A run leaves a configuration file on which there is nothing to comment any more. -/
theorem not_fires_configExperimental
    (context : RuleContext)
    (path content : String) :
    configExperimental.fires context path (closedForm context path content).content = false := by
  by_cases concerned : context.concerns "next" = true
  · by_cases firing : configExperimental.fires context path content = true
    · have marked :
          Text.contains (closedForm context path content).content configMarker = true := by
        rw [Phrase.contains_eq_occursIn, closedForm_content_of_next concerned]
        exact occursIn_marker_block firing (configComment_eq_marker_append _) _
      simp [fires, marked]
    · have sameOccurrences :
          ∀ phrase ∈ configExperimental.looksFor,
            phrase.occursIn (closedForm context path content).content.toList =
              phrase.occursIn content.toList := by
        intro phrase lookedFor
        have spared : (routerDefaultImport.edit context).spares phrase = true :=
          routerDefaultImport_spares context configExperimental (by decide) (by decide) phrase
            lookedFor
        rw [closedForm_content_of_next concerned, block, if_neg firing, String.toList_empty,
          List.nil_append, occursIn_routerBlock_append spared,
          occursIn_renewed context configExperimental (by decide) (by decide) lookedFor]
      exact (fires_congr sameOccurrences).trans (Bool.eq_false_iff.mpr firing)
  · exact not_fires_of_not_concerns (Bool.eq_false_iff.mpr concerned) path _

section

variable {context : RuleContext} {path content : String}

/-- The rules that replace imports find none in what a run leaves. -/
theorem not_fires_of_replace
    (concerned : context.concerns "next" = true)
    (plain :
      configExperimental.fires context path content = true →
        FreeOfImports context.targetVersion) :
    routerNamedImport.fires context path (closedForm context path content).content = false ∧
      legacyImage.fires context path (closedForm context path content).content = false := by
  have named :
      routerNamedPhrase.occursIn (closedForm context path content).content.toList = false := by
    rw [closedForm_content_of_next concerned, occursIn_configBlock_append plain (by decide),
      occursIn_routerBlock_append (routerDefaultImport_spares context routerNamedImport
        (by decide) (by decide) _ (by decide)),
      not_occursIn_renewed_routerNamed context]
  have legacy :
      legacyImagePhrase.occursIn (closedForm context path content).content.toList = false := by
    rw [closedForm_content_of_next concerned, occursIn_configBlock_append plain (by decide),
      occursIn_routerBlock_append (routerDefaultImport_spares context legacyImage
        (by decide) (by decide) _ (by decide)),
      not_occursIn_renewed_legacyImage]
  exact ⟨by simp [fires, named], by simp [fires, legacy]⟩

/-- Default imports of the router need no comment any more in what a run leaves. -/
theorem not_fires_routerDefaultImport
    (concerned : context.concerns "next" = true)
    (plain :
      configExperimental.fires context path content = true →
        FreeOfImports context.targetVersion) :
    routerDefaultImport.fires context path (closedForm context path content).content = false := by
  by_cases firing : routerDefaultImport.fires context path content = true
  · have marked :
        Text.contains (closedForm context path content).content routerMarker = true := by
      rw [Phrase.contains_eq_occursIn, closedForm_content_of_next concerned]
      exact Phrase.occursIn_append_right
        (occursIn_marker_block firing routerComment_eq_marker_append _) _
    simp [fires, marked]
  · have unblocked :
        (closedForm context path content).content.toList =
          (configExperimental.block context path content
            (configComment context.targetVersion)).toList ++ (renewed content).toList := by
      rw [closedForm_content_of_next concerned, block.eq_1 routerDefaultImport, if_neg firing,
        String.toList_empty, List.nil_append]
    have importOccurs :
        routerDefaultPhrase.occursIn (closedForm context path content).content.toList =
          routerDefaultPhrase.occursIn content.toList := by
      rw [unblocked, occursIn_configBlock_append plain (by decide),
        occursIn_renewed context routerDefaultImport (by decide) (by decide) (by decide)]
    cases occurs : routerDefaultPhrase.occursIn content.toList with
    | false =>
        simp [fires, importOccurs, occurs]
    | true =>
        have marked : Text.contains content routerMarker = true := by
          simpa [fires, family, concerned, occurs] using firing
        have stillMarked :
            Text.contains (closedForm context path content).content routerMarker = true := by
          rw [Phrase.contains_eq_occursIn, unblocked]
          refine Phrase.occursIn_append_right ?_ _
          rw [occursIn_renewed context routerDefaultImport (by decide) (by decide) (by decide),
            ← Phrase.contains_eq_occursIn]
          exact marked
        simp [fires, stillMarked]

/-- Rendering in the outdated way needs no comment any more in what a run leaves. -/
theorem not_fires_createRoot
    (context : RuleContext)
    (path content : String) :
    createRoot.fires context path (closedForm context path content).content = false := by
  by_cases concerned : context.concerns "react" = true
  · have notNext : ¬ context.concerns "next" = true := by
      intro isNext
      exact absurd (concerned.symm.trans (not_concerns_react isNext)) Bool.true_eq_false.mp
    rw [closedForm]
    simp only [if_neg notNext, if_pos concerned]
    by_cases firing : createRoot.fires context path content = true
    · have marked :
          Text.contains (createRoot.block context path content renderComment ++ content)
            renderMarker = true := by
        rw [Phrase.contains_eq_occursIn, String.toList_append]
        exact occursIn_marker_block firing renderComment_eq_marker_append _
      simp [fires, marked]
    · rw [block, if_neg firing, String.empty_append]
      exact Bool.eq_false_iff.mpr firing
  · exact not_fires_of_not_concerns (Bool.eq_false_iff.mpr concerned) path _

/-- What a run leaves is settled, if a comment on a configuration file quotes no outdated import. -/
theorem settled_closedForm
    (plain :
      configExperimental.fires context path content = true →
        FreeOfImports context.targetVersion) :
    standard.Settled context path (closedForm context path content).content := by
  refine settled_of_not_fires ?_
  intro rule _
  by_cases concerned : context.concerns "next" = true
  · obtain ⟨named, legacy⟩ := not_fires_of_replace concerned plain
    cases rule with
    | routerNamedImport => exact named
    | routerDefaultImport => exact not_fires_routerDefaultImport concerned plain
    | legacyImage => exact legacy
    | configExperimental => exact not_fires_configExperimental context path content
    | createRoot => exact not_fires_createRoot context path content
  · have notNext : context.concerns "next" = false := Bool.eq_false_iff.mpr concerned
    cases rule with
    | createRoot => exact not_fires_createRoot context path content
    | routerNamedImport | routerDefaultImport | legacyImage | configExperimental =>
        exact not_fires_of_not_concerns notNext path _

end

/--
One run settles every content, unless the target version has an outdated import in it; two runs
settle it in any case.
-/
theorem settled_afterRuns
    (context : RuleContext)
    (path content : String) :
    (FreeOfImports context.targetVersion →
        standard.Settled context path (standard.afterRuns context path content 1)) ∧
      standard.Settled context path (standard.afterRuns context path content 2) := by
  simp only [afterRuns, run_standard_content]
  constructor
  · intro plain
    exact settled_closedForm fun _ => plain
  · -- The first run has left its comment, so the second one adds none that could be an import.
    refine settled_closedForm ?_
    intro firing
    exact absurd (firing.symm.trans (not_fires_configExperimental context path content))
      Bool.true_eq_false.mp

/-- A configuration file with every outdated import is settled after one run for a plain version. -/
theorem settled_afterRuns_plain_version :
    FreeOfImports "14.0.0" ∧
      standard.Settled ⟨"next", "12.0.0", "14.0.0", []⟩ "next.config.js"
        (standard.afterRuns ⟨"next", "12.0.0", "14.0.0", []⟩ "next.config.js"
          ("import Router from 'next/router'\nimport \x7buseRouter\x7d from 'next/router'\n" ++
            "import Image from 'next/legacy/image'\nexport default (experimental)\n") 1) := by
  have plain : FreeOfImports "14.0.0" := by
    unfold FreeOfImports
    decide +kernel
  exact ⟨plain, (settled_afterRuns ⟨"next", "12.0.0", "14.0.0", []⟩ "next.config.js" _).1 plain⟩

/-- A version that is itself an import of the router gives the second run something to do. -/
example :
    routerDefaultImport.fires ⟨"next", "12.0.0", "import Router from 'next/router'", []⟩
      "next.config.js"
      (closedForm ⟨"next", "12.0.0", "import Router from 'next/router'", []⟩ "next.config.js"
        "experimental").content = true := by
  decide +kernel

end Registry

end SourceUpgrade
