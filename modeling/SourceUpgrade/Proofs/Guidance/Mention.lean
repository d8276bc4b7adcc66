import SourceUpgrade.Guidance.Topic
import SourceUpgrade.Proofs.Unicode.Lowercase

namespace SourceUpgrade

open Unicode (HasOpenSigma Recased lower lowerSigma)

/-!
# Keywords that a text mentions

A keyword is searched for by its lower-case form in that of the text. It is found wherever it
stands, whatever the case of the ASCII letters around and in it, unless it has a capital sigma that
has one lower-case form in the keyword and another in the text. `Vocabulary.hintsIn_finds` says for
which keywords that can happen: those with an open capital sigma, as `aΣ` in `aΣa`.
-/

/-- A list of characters occurs in another if it is a part of it. -/
theorem Text.occursIn_iff
    {part text : List Char} :
    Text.occursIn part text = true ↔ part <:+: text := by
  induction text with
  | nil =>
      rw [occursIn, List.isEmpty_iff, List.infix_nil]
  | cons c rest inductionHypothesis =>
      rw [occursIn, Bool.or_eq_true, inductionHypothesis, List.isPrefixOf_iff_prefix,
        List.infix_cons_iff]

namespace Vocabulary

/-- A keyword is found if its lower-case form occurs in that of the text. -/
theorem mem_hintsIn_iff
    {vocabulary : Vocabulary}
    {keyword text : String} :
    keyword ∈ vocabulary.hintsIn text ↔
      keyword ∈ vocabulary ∧ lower keyword.toList <:+: lower text.toList := by
  rw [hintsIn, List.mem_filter, Text.occursIn_iff]

/-- Whether a keyword is found does not depend on the other keywords. -/
theorem hintsIn_eq_filter
    (vocabulary : Vocabulary)
    (text : String) :
    vocabulary.hintsIn text =
      vocabulary.filter fun keyword => decide (keyword ∈ hintsIn [keyword] text) := by
  refine List.filter_congr fun keyword _ => ?_
  rw [Bool.eq_iff_iff, decide_eq_true_iff, mem_hintsIn_iff, Text.occursIn_iff]
  exact (and_iff_right List.mem_cons_self).symm

/-- What is found does not depend on the case of the ASCII letters of the text. -/
theorem hintsIn_of_recased
    (vocabulary : Vocabulary)
    {text shown : String}
    (recased : List.Forall₂ Recased text.toList shown.toList) :
    vocabulary.hintsIn shown = vocabulary.hintsIn text := by
  rw [hintsIn, hintsIn, Unicode.lower_eq_of_recased recased]

/-- A keyword is found where its capital sigmas have the forms that they have in the keyword. -/
theorem mem_hintsIn_of_keeps
    {vocabulary : Vocabulary}
    {keyword text : String}
    {before after : List Char}
    (known : keyword ∈ vocabulary)
    (occurs : text.toList = before ++ keyword.toList ++ after)
    (keeps :
      ∀ head tail, keyword.toList = head ++ 'Σ' :: tail →
        lowerSigma (head.reverse ++ before.reverse) (tail ++ after) =
          lowerSigma head.reverse tail) :
    keyword ∈ vocabulary.hintsIn text := by
  refine mem_hintsIn_iff.mpr ⟨known, ?_⟩
  have sameForm :
      Unicode.lowerWithin before.reverse after keyword.toList = lower keyword.toList := by
    rw [lower, ← Unicode.lowerWithin_nil]
    refine Unicode.lowerWithin_congr fun head tail split => ?_
    rw [List.append_nil, List.append_nil]
    exact keeps head tail split
  rw [occurs, Unicode.lower_eq_append, sameForm]
  exact List.infix_append ..

/--
Whether a keyword is found in each text in which it occurs, with the case of any ASCII letters of
the text changed.
-/
def NeverMissed (keyword : String) : Prop :=
  ∀ (vocabulary : Vocabulary) (text shown : String),
    keyword ∈ vocabulary →
      List.Forall₂ Recased text.toList shown.toList →
        keyword.toList <:+: shown.toList →
          keyword ∈ vocabulary.hintsIn text

/-- The keywords that are never missed are those without open capital sigmas. -/
theorem neverMissed_iff
    {keyword : String} :
    NeverMissed keyword ↔ ¬ HasOpenSigma keyword.toList := by
  constructor
  · intro found isOpen
    obtain ⟨before, after, missed⟩ := Unicode.exists_not_infix_of_hasOpenSigma isOpen
    let text := String.ofList (before ++ keyword.toList ++ after)
    have characters : text.toList = before ++ keyword.toList ++ after := String.toList_ofList
    refine missed ?_
    rw [← characters]
    refine (mem_hintsIn_iff.mp (found [keyword] text text List.mem_cons_self ?_ ?_)).2
    · exact List.forall₂_same.mpr fun c _ => Or.inl rfl
    · rw [characters]
      exact List.infix_append ..
  · rintro closed vocabulary text shown known recased ⟨before, after, occurs⟩
    rw [← vocabulary.hintsIn_of_recased recased]
    refine mem_hintsIn_of_keeps known occurs.symm fun head tail split => ?_
    refine Unicode.lowerSigma_eq_of_not_isOpen (fun isOpen => closed ?_) _ _
    exact ⟨head, tail, split, isOpen⟩

/--
Keywords are found one by one, in the order of the vocabulary and as they are spelled there, if
their lower-case forms occur in that of the text. The case of the ASCII letters of a text does not
matter. The keywords that are never missed are those without open capital sigmas; one with open
capital sigmas is found at least where all its capital sigmas have the forms that they have in the
keyword alone.
-/
theorem hintsIn_finds
    (vocabulary : Vocabulary)
    (text : String) :
    vocabulary.hintsIn text =
        vocabulary.filter (fun keyword => decide (keyword ∈ hintsIn [keyword] text)) ∧
      (∀ keyword,
        keyword ∈ vocabulary.hintsIn text ↔
          keyword ∈ vocabulary ∧ lower keyword.toList <:+: lower text.toList) ∧
      (∀ shown : String,
        List.Forall₂ Recased text.toList shown.toList →
          vocabulary.hintsIn shown = vocabulary.hintsIn text) ∧
      (∀ keyword, NeverMissed keyword ↔ ¬ HasOpenSigma keyword.toList) ∧
      ∀ keyword ∈ vocabulary, ∀ before after,
        text.toList = before ++ keyword.toList ++ after →
          (∀ head tail, keyword.toList = head ++ 'Σ' :: tail →
            lowerSigma (head.reverse ++ before.reverse) (tail ++ after) =
              lowerSigma head.reverse tail) →
            keyword ∈ vocabulary.hintsIn text := by
  refine ⟨vocabulary.hintsIn_eq_filter text, fun _ => mem_hintsIn_iff, ?_,
    fun _ => neverMissed_iff, ?_⟩
  · intro shown recased
    exact vocabulary.hintsIn_of_recased recased
  · intro keyword known before after occurs keeps
    exact mem_hintsIn_of_keeps known occurs keeps

/-- The keyword `aΣ` stands in the text `aΣa` as it is spelled, and is not found. -/
theorem hintsIn_misses :
    let vocabulary : Vocabulary := ["aΣ"]
    "aΣ" ∈ vocabulary ∧ "aΣ".toList <:+: "aΣa".toList ∧ "aΣ" ∉ vocabulary.hintsIn "aΣa" := by
  refine ⟨List.mem_cons_self, ⟨[], ['a'], rfl⟩, ?_⟩
  decide +kernel

/-- A keyword without capital sigmas is never missed. -/
theorem neverMissed_of_not_mem
    {keyword : String}
    (noSigma : 'Σ' ∉ keyword.toList) :
    NeverMissed keyword := by
  refine neverMissed_iff.mpr ?_
  rintro ⟨head, tail, split, -⟩
  exact noSigma (split ▸ List.mem_append_right _ List.mem_cons_self)

/-- The keywords that are searched for unless others are configured are never missed. -/
theorem neverMissed_of_mem_standard
    {keyword : String}
    (known : keyword ∈ standard) :
    NeverMissed keyword := by
  have noSigma : ∀ keyword ∈ standard, 'Σ' ∉ keyword.toList := by
    decide
  exact neverMissed_of_not_mem (noSigma keyword known)

end Vocabulary

end SourceUpgrade
