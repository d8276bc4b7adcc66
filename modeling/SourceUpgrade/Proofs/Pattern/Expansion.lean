import SourceUpgrade.Pattern.Template
import SourceUpgrade.Proofs.Span

namespace SourceUpgrade.Pattern

/-!
# What templates expand to

Equations for the expansion of a template from its begin on: two dollar signs, a reference in
braces, any other character.
-/

variable {groups : Groups}

/-- Steps beyond the length of a template change nothing. -/
theorem expandTemplate_of_length_lt
    {fuel : Nat}
    {template : List Char}
    (enough : template.length < fuel) :
    expandTemplate groups (fuel + 1) template = expandTemplate groups fuel template := by
  induction fuel generalizing template with
  | zero =>
      exact absurd enough (Nat.not_lt_zero _)
  | succ fuel inductionHypothesis =>
      cases template with
      | nil =>
          rfl
      | cons c rest =>
          have shorter : rest.length < fuel := Nat.lt_of_succ_lt_succ enough
          have suffix {later : List Char} (isSuffix : later <:+ rest) :
              expandTemplate groups (fuel + 1) later = expandTemplate groups fuel later :=
            inductionHypothesis (Nat.lt_of_le_of_lt isSuffix.length_le shorter)
          unfold expandTemplate
          dsimp only
          split
          · split
            · rw [suffix (List.suffix_cons _ _)]
            · rename_i inner
              split
              · rename_i close later dropped
                have isSuffix : later <:+ '\x7b' :: inner := by
                  have dropSuffix := List.dropWhile_suffix (l := inner) (· != '\x7d')
                  rw [dropped] at dropSuffix
                  exact ((List.suffix_cons close later).trans dropSuffix).trans
                    (List.suffix_cons _ _)
                rw [suffix isSuffix]
              · rw [suffix (List.suffix_refl _)]
            · split
              · rw [suffix (List.suffix_refl _)]
              · rw [suffix (List.dropWhile_suffix _)]
          · rw [suffix (List.suffix_refl _)]

theorem expandTemplate_eq_expand
    {fuel : Nat}
    {template : List Char}
    (enough : template.length < fuel) :
    expandTemplate groups fuel template = expand groups template := by
  obtain ⟨more, rfl⟩ := Nat.exists_eq_add_of_lt enough
  induction more with
  | zero =>
      rfl
  | succ more inductionHypothesis =>
      have stillEnough : template.length < template.length + more + 1 := by omega
      exact (expandTemplate_of_length_lt stillEnough).trans (inductionHypothesis stillEnough)

theorem expand_nil : expand groups [] = [] :=
  rfl

theorem expand_dollar_dollar
    (rest : List Char) :
    expand groups ('$' :: '$' :: rest) = '$' :: expand groups rest := by
  have enough : rest.length < ('$' :: '$' :: rest).length :=
    Nat.lt_succ_of_lt (Nat.lt_succ_self _)
  rw [expand]
  unfold expandTemplate
  rw [if_pos (by decide)]
  exact congrArg ('$' :: ·) (expandTemplate_eq_expand enough)

theorem expand_cons
    {c : Char}
    (noDollar : c ≠ '$')
    (rest : List Char) :
    expand groups (c :: rest) = c :: expand groups rest := by
  have other : ¬ (c == '$') = true := by simpa using noDollar
  rw [expand]
  unfold expandTemplate
  dsimp only
  rw [if_neg other]
  rfl

/-- A reference in braces expands to the text of its group. -/
theorem expand_braces
    {reference : List Char}
    (noBrace : '\x7d' ∉ reference)
    (rest : List Char) :
    expand groups ('$' :: '\x7b' :: (reference ++ '\x7d' :: rest)) =
      groups.lookup reference ++ expand groups rest := by
  have inReference : ∀ c ∈ reference, (c != '\x7d') = true := by
    intro c member
    have differs : c ≠ '\x7d' := fun same => noBrace (same ▸ member)
    simpa using differs
  have brace : ∀ c ∈ ('\x7d' :: rest).head?, (c != '\x7d') = false := by
    rintro _ ⟨⟩
    decide
  have taken := takeWhile_append_of_stop inReference brace
  have dropped := dropWhile_append_of_stop inReference brace
  have enough : rest.length < ('$' :: '\x7b' :: (reference ++ '\x7d' :: rest)).length := by
    simp only [List.length_cons, List.length_append]
    omega
  rw [expand]
  unfold expandTemplate
  rw [if_pos (by decide)]
  simp only [taken, dropped]
  exact congrArg (groups.lookup reference ++ ·) (expandTemplate_eq_expand enough)

end SourceUpgrade.Pattern
