import Mathlib.Data.List.Induction

namespace SourceUpgrade

/-!
# First-seen order

`List.eraseDups` lists the different entries of a list where each stands first. Taken from the right
it is a fold: an entry that comes last is listed unless it was seen.
-/

variable {α : Type} [DecidableEq α]

/-- An entry that comes last is listed unless it was seen. -/
theorem eraseDups_concat
    (seen : List α)
    (entry : α) :
    (seen ++ [entry]).eraseDups =
      if entry ∈ seen then seen.eraseDups else seen.eraseDups ++ [entry] := by
  rw [List.eraseDups_append]
  by_cases known : entry ∈ seen
  · simp [known, List.removeAll]
  · simp [known, List.removeAll, List.eraseDups_cons]

theorem nodup_eraseDups (entries : List α) : entries.eraseDups.Nodup := by
  induction entries using List.reverseRecOn with
  | nil =>
      exact List.nodup_nil
  | append_singleton seen entry inductionHypothesis =>
      rw [eraseDups_concat]
      split
      · exact inductionHypothesis
      · rename_i unknown
        refine List.nodup_append.mpr ⟨inductionHypothesis, List.pairwise_singleton _ _, ?_⟩
        rintro other known _ here rfl
        obtain rfl := List.mem_singleton.mp here
        exact unknown (List.mem_eraseDups.mp known)

theorem eraseDups_filter
    (keeps : α → Bool)
    (entries : List α) :
    (entries.filter keeps).eraseDups = entries.eraseDups.filter keeps := by
  induction entries using List.reverseRecOn with
  | nil =>
      rfl
  | append_singleton seen entry inductionHypothesis =>
      rw [List.filter_append, eraseDups_concat]
      by_cases kept : keeps entry = true
      · rw [List.filter_cons_of_pos kept, List.filter_nil, eraseDups_concat, inductionHypothesis]
        by_cases known : entry ∈ seen
        · simp [known, kept]
        · simp [known, kept]
      · rw [List.filter_cons_of_neg kept, List.filter_nil, List.append_nil, inductionHypothesis]
        by_cases known : entry ∈ seen
        · simp [known]
        · simp [known, kept]

/-- The entries of a second list that were not seen in the first come after those of the first. -/
theorem eraseDups_append_eq
    (first second : List α) :
    (first ++ second).eraseDups =
      first.eraseDups ++ second.eraseDups.filter fun entry => decide (entry ∉ first.eraseDups) := by
  rw [List.eraseDups_append, List.removeAll, eraseDups_filter]
  refine congrArg _ (List.filter_congr fun entry _ => ?_)
  simp

/-- First-seen order is told part by part. -/
theorem eraseDups_append_congr
    {first second first' second' : List α}
    (sameFirst : first.eraseDups = first'.eraseDups)
    (sameSecond : second.eraseDups = second'.eraseDups) :
    (first ++ second).eraseDups = (first' ++ second').eraseDups := by
  rw [eraseDups_append_eq, eraseDups_append_eq, sameFirst, sameSecond]

/-- Entries that were seen at the start can be left out later. -/
theorem eraseDups_cons_filter
    (entry : α)
    (later : List α) :
    (entry :: later.filter fun other => decide (other ≠ entry)).eraseDups =
      (entry :: later).eraseDups := by
  rw [List.eraseDups_cons, List.eraseDups_cons, List.filter_filter]
  refine congrArg (fun rest => entry :: List.eraseDups rest) (List.filter_congr fun other _ => ?_)
  by_cases same : other = entry
  · simp [same]
  · simp [same]

end SourceUpgrade
