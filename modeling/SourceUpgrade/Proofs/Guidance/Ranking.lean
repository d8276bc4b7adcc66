import Mathlib.Algebra.Ring.Nat
import Mathlib.Data.List.Perm.Basic
import Mathlib.Order.Monotone.Basic
import SourceUpgrade.Guidance.Match

namespace SourceUpgrade

/-!
# Ranked guidance

Scores are ordered by the numbers that their bits stand for, minus zero before zero. Answers are
ranked if none comes after one with a lower score and those with one score have kept their order;
that leaves no choice (`Ranks.unique`). A collection answers a question with the first of the ranked
answers that belong to the framework (`GuidanceSource.ofMatches_ranks`).
-/

/-! ## The order of scores -/

namespace Score

open Floating (leadingBit)

/--
How many times the least positive number goes into the number with these bits, apart from a sign.

The bits of infinity and those of no number are taken for larger numbers.
-/
def multiple (bits : Nat) : Nat :=
  if bits < leadingBit then bits
  else (leadingBit + bits % leadingBit) * 2 ^ (bits / leadingBit - 1)

/-- The number of a score, in terms of the least positive one. -/
def number (score : Score) : Int :=
  if score.bits < signBit then multiple score.bits else -(multiple (score.bits - signBit) : Int)

/--
Whether a score comes before another or is the same in the total order of floating-point numbers:
numbers by their value, and minus zero before zero.
-/
def IsAtMost (left right : Score) : Prop :=
  left.number < right.number ∨
    left.number = right.number ∧ (signBit ≤ left.bits ∨ right.bits < signBit)

instance (left right : Score) : Decidable (left.IsAtMost right) :=
  inferInstanceAs (Decidable (_ ∨ _))

/-- The next bits have a larger number. -/
theorem multiple_lt_succ (bits : Nat) : multiple bits < multiple (bits + 1) := by
  have limit : leadingBit = 8388608 := rfl
  rw [multiple, multiple, limit]
  rcases Nat.lt_or_ge bits 8388608 with small | large
  · rw [if_pos small]
    split
    · exact Nat.lt_succ_self bits
    · -- The exponent starts to count, with the same unit as before.
      have next : bits + 1 = 8388608 := by omega
      rw [next]
      exact Nat.lt_of_succ_le (Nat.le_of_eq next)
  · rw [if_neg (Nat.not_lt.mpr large), if_neg (by omega)]
    rcases Nat.lt_or_ge (bits % 8388608 + 1) 8388608 with same | carry
    · have exponent : (bits + 1) / 8388608 = bits / 8388608 := by omega
      have significand : (bits + 1) % 8388608 = bits % 8388608 + 1 := by omega
      rw [exponent, significand]
      exact Nat.mul_lt_mul_of_pos_right (by omega) (Nat.two_pow_pos _)
    · have exponent : (bits + 1) / 8388608 - 1 = bits / 8388608 - 1 + 1 := by omega
      have significand : (bits + 1) % 8388608 = 0 := by omega
      have positive := Nat.two_pow_pos (bits / 8388608 - 1)
      rw [exponent, significand, Nat.pow_succ]
      generalize 2 ^ (bits / 8388608 - 1) = unit at positive ⊢
      have full : bits % 8388608 = 8388607 := by omega
      rw [full]
      omega

theorem multiple_strictMono : StrictMono multiple :=
  strictMono_nat_of_lt_succ multiple_lt_succ

/-- The ranks of scores are in the order of their numbers. -/
theorem rank_le_iff
    {left right : Score} :
    left.rank ≤ right.rank ↔ left.IsAtMost right := by
  have positive := multiple_strictMono.le_iff_le (a := left.bits) (b := right.bits)
  have negative :=
    multiple_strictMono.le_iff_le (a := right.bits - signBit) (b := left.bits - signBit)
  rw [rank, rank, IsAtMost, number, number]
  split <;> split <;> omega

/-- Scores of one rank are the same. -/
theorem rank_inj
    {left right : Score}
    (same : left.rank = right.rank) :
    left = right := by
  rw [rank, rank] at same
  have sameBits : left.bits = right.bits := by
    split at same <;> split at same <;> omega
  cases left
  cases right
  exact congrArg Score.mk sameBits

end Score

/-! ## Ranked answers -/

namespace GuidanceMatch

/-- Whether no answer comes after one with a lower score. -/
def Falling (answers : List GuidanceMatch) : Prop :=
  answers.Pairwise fun earlier later => later.score.IsAtMost earlier.score

/-- The answers with a score, in order. -/
def scored (score : Score) (answers : List GuidanceMatch) : List GuidanceMatch :=
  answers.filter fun found => found.score = score

/-- Whether answers are some answers ranked by their scores, those with one score as they were. -/
structure Ranks (ranked answers : List GuidanceMatch) : Prop where
  perm : ranked.Perm answers
  falling : Falling ranked
  stable : ∀ score, scored score ranked = scored score answers

/-- The first of falling answers has the best score. -/
theorem Falling.rank_le_head
    {first : GuidanceMatch}
    {rest : List GuidanceMatch}
    (falling : Falling (first :: rest))
    {found : GuidanceMatch}
    (member : found ∈ first :: rest) :
    found.score.rank ≤ first.score.rank := by
  rcases List.mem_cons.mp member with rfl | later
  · exact Int.le_refl _
  · exact Score.rank_le_iff.mpr ((List.pairwise_cons.mp falling).1 found later)

section

variable {answers others : List GuidanceMatch}

theorem mem_of_scored_eq
    (same : ∀ score, scored score answers = scored score others)
    {found : GuidanceMatch}
    (member : found ∈ answers) :
    found ∈ others := by
  refine List.mem_of_mem_filter (p := fun other => other.score = found.score) ?_
  have inScored : found ∈ scored found.score answers :=
    List.mem_filter.mpr ⟨member, decide_eq_true rfl⟩
  rw [same] at inScored
  exact inScored

/-- Falling answers are told by those with each score. -/
theorem Falling.eq_of_scored_eq
    (falling : Falling answers)
    (othersFalling : Falling others)
    (same : ∀ score, scored score answers = scored score others) :
    answers = others := by
  induction answers generalizing others with
  | nil =>
      refine (List.eq_nil_iff_forall_not_mem.mpr fun found member => ?_).symm
      exact List.not_mem_nil (mem_of_scored_eq (fun score => (same score).symm) member)
  | cons first rest inductionHypothesis =>
      cases others with
      | nil =>
          exact absurd (mem_of_scored_eq same List.mem_cons_self) List.not_mem_nil
      | cons other later =>
          -- Each head is among the answers of the other list, and so not above its head.
          have firstMember := mem_of_scored_eq same List.mem_cons_self
          have otherMember := mem_of_scored_eq (fun score => (same score).symm) List.mem_cons_self
          have sameScore : first.score = other.score :=
            Score.rank_inj
              (Int.le_antisymm (othersFalling.rank_le_head firstMember)
                (falling.rank_le_head otherMember))
          have heads := same first.score
          rw [scored, scored, List.filter_cons_of_pos (by simp),
            List.filter_cons_of_pos (by simp [sameScore])] at heads
          obtain ⟨rfl, -⟩ := List.cons.inj heads
          refine congrArg (first :: ·)
            (inductionHypothesis (List.Pairwise.of_cons falling)
              (List.Pairwise.of_cons othersFalling) fun score => ?_)
          have whole := same score
          rw [scored, scored, List.filter_cons, List.filter_cons] at whole
          split at whole
          · exact (List.cons.inj whole).2
          · exact whole

end

namespace Ranks

variable {ranked other answers : List GuidanceMatch}

/-- There is one way to rank answers. -/
theorem unique
    (ranks : Ranks ranked answers)
    (otherRanks : Ranks other answers) :
    ranked = other :=
  ranks.falling.eq_of_scored_eq otherRanks.falling fun score =>
    (ranks.stable score).trans (otherRanks.stable score).symm

/-- Answers that are left out do not change the order of the others. -/
theorem filter
    (ranks : Ranks ranked answers)
    (keeps : GuidanceMatch → Bool) :
    Ranks (ranked.filter keeps) (answers.filter keeps) where
  perm := ranks.perm.filter keeps
  falling := List.Pairwise.sublist List.filter_sublist ranks.falling
  stable := by
    intro score
    have whole := congrArg (List.filter keeps) (ranks.stable score)
    rwa [scored, scored, List.filter_comm keeps, List.filter_comm keeps] at whole

end Ranks

theorem notBelow_iff
    {left right : GuidanceMatch} :
    left.notBelow right = true ↔ right.score.rank ≤ left.score.rank :=
  decide_eq_true_iff

theorem notBelow_trans
    (first second third : GuidanceMatch)
    (above : first.notBelow second = true)
    (aboveNext : second.notBelow third = true) :
    first.notBelow third = true := by
  rw [notBelow_iff] at *
  exact Int.le_trans aboveNext above

theorem notBelow_total (left right : GuidanceMatch) :
    (left.notBelow right || right.notBelow left) = true := by
  rw [Bool.or_eq_true, notBelow_iff, notBelow_iff]
  exact Int.le_total ..

/-- Sorting by scores ranks answers. -/
theorem ranks_mergeSort (answers : List GuidanceMatch) :
    Ranks (answers.mergeSort notBelow) answers where
  perm := List.mergeSort_perm ..
  falling :=
    (List.pairwise_mergeSort notBelow_trans notBelow_total answers).imp fun above =>
      Score.rank_le_iff.mp (notBelow_iff.mp above)
  stable := by
    intro score
    have equal : (scored score answers).Pairwise fun earlier later =>
        earlier.notBelow later = true := by
      refine List.pairwise_of_forall_mem_list fun earlier early later late => ?_
      have earlyScore := of_decide_eq_true (List.mem_filter.mp early).2
      have lateScore := of_decide_eq_true (List.mem_filter.mp late).2
      rw [notBelow_iff, earlyScore, lateScore]
    have kept : (scored score answers).Sublist (answers.mergeSort notBelow) :=
      List.sublist_mergeSort notBelow_trans notBelow_total equal List.filter_sublist
    have among : (scored score answers).Sublist (scored score (answers.mergeSort notBelow)) := by
      have again := kept.filter fun found => found.score = score
      simpa only [scored, List.filter_filter, Bool.and_self] using again
    have perm : (scored score (answers.mergeSort notBelow)).Perm (scored score answers) :=
      (List.mergeSort_perm ..).filter _
    exact (among.eq_of_length perm.length_eq.symm).symm

end GuidanceMatch

/-! ## Snippets -/

/-- A snippet that is cut has three dots more than the limit. -/
theorem length_truncateSnippet (text : String) : (truncateSnippet text).length ≤ 403 := by
  have limit : snippetLimit = 400 := rfl
  rw [truncateSnippet]
  split
  · rw [String.length_ofList, List.length_append, List.length_take]
    simp only [List.length_cons, List.length_nil]
    omega
  · rw [← String.length_toList]
    omega

/-- Cutting a cut snippet takes the dots away and puts them there again. -/
theorem truncateSnippet_truncateSnippet (text : String) :
    truncateSnippet (truncateSnippet text) = truncateSnippet text := by
  by_cases long : snippetLimit < text.toList.length
  · have cut : truncateSnippet text =
        String.ofList (text.toList.take snippetLimit ++ ['.', '.', '.']) := if_pos long
    have kept : (text.toList.take snippetLimit).length = snippetLimit :=
      List.length_take_of_le (Nat.le_of_lt long)
    rw [cut, truncateSnippet, String.toList_ofList, if_pos, List.take_left' kept]
    rw [List.length_append, kept]
    simp
  · have whole : truncateSnippet text = text := if_neg long
    rw [whole, whole]

namespace GuidanceMatch

/-- Whether an answer was built with an address and a text; the rest may have been set later. -/
def IsBuilt (found : GuidanceMatch) : Prop :=
  ∃ text,
    found =
      { ofSnippet found.url text with
        score := found.score
        title := found.title
        framework := found.framework }

theorem truncated_of_isBuilt
    {found : GuidanceMatch}
    (built : found.IsBuilt) :
    found.truncated = found := by
  obtain ⟨text, whole⟩ := built
  have cut : found.snippet = truncateSnippet text := by
    rw [whole]
    rfl
  rw [truncated, cut, truncateSnippet_truncateSnippet, ← cut]

end GuidanceMatch

/-! ## Collections -/

open GuidanceMatch (Falling Ranks scored)

namespace GuidanceQuery

/-- Whether an answer belongs to the framework of a question, if it names one. -/
def admits (query : GuidanceQuery) (found : GuidanceMatch) : Bool :=
  match query.framework with
  | none => true
  | some framework => found.framework == framework

/-- Whether answers are the first of those stored that a question admits, ranked. -/
structure IsAnswered
    (query : GuidanceQuery)
    (stored found : List GuidanceMatch) :
    Prop where
  first : ∃ ranked, Ranks ranked (stored.filter query.admits) ∧ found = ranked.take query.limit
  falling : Falling found
  /-- Of the answers with one score, those are left out that are stored last. -/
  stable : ∀ score, scored score found <+: scored score (stored.filter query.admits)
  /-- No answer is left out that has a better score than one that is not. -/
  best :
    ∃ left,
      (found ++ left).Perm (stored.filter query.admits) ∧
        ∀ kept ∈ found, ∀ other ∈ left, other.score.IsAtMost kept.score

end GuidanceQuery

theorem bestMatches_eq (answers : List GuidanceMatch) (query : GuidanceQuery) :
    bestMatches answers query =
      ((answers.filter query.admits).mergeSort GuidanceMatch.notBelow).take query.limit := by
  obtain ⟨text, limit, framework⟩ := query
  cases framework with
  | none =>
      rfl
  | some framework =>
      rfl

/-- The first of ranked answers are the best of them. -/
theorem GuidanceQuery.isAnswered_take
    {query : GuidanceQuery}
    {stored ranked : List GuidanceMatch}
    (ranks : Ranks ranked (stored.filter query.admits)) :
    query.IsAnswered stored (ranked.take query.limit) where
  first := ⟨ranked, ranks, rfl⟩
  falling := List.Pairwise.sublist (List.take_sublist ..) ranks.falling
  stable := by
    intro score
    rw [← ranks.stable]
    exact (List.take_prefix ..).filter _
  best := by
    refine ⟨ranked.drop query.limit, ?_, ?_⟩
    · rw [List.take_append_drop]
      exact ranks.perm
    · have falling := ranks.falling
      rw [← List.take_append_drop query.limit ranked] at falling
      exact (List.pairwise_append.mp falling).2.2

/-- Of all answers ranked, those of a framework are its answers ranked. -/
theorem bestMatches_framework
    {answers : List GuidanceMatch}
    {query : GuidanceQuery}
    (unlimited : answers.length ≤ query.limit)
    (framework : String) :
    bestMatches answers { query with framework := some framework } =
      (bestMatches answers { query with framework := none }).filter fun found =>
        found.framework == framework := by
  have whole (eligible : List GuidanceMatch) (fewer : eligible.length ≤ answers.length) :
      (eligible.mergeSort GuidanceMatch.notBelow).take query.limit =
        eligible.mergeSort GuidanceMatch.notBelow := by
    refine List.take_of_length_le ?_
    rw [List.length_mergeSort]
    omega
  have all : answers.filter ({ query with framework := none } : GuidanceQuery).admits = answers :=
    List.filter_eq_self.mpr fun _ _ => rfl
  rw [bestMatches_eq, bestMatches_eq, all]
  dsimp only
  rw [whole _ (List.length_filter_le ..), whole _ (Nat.le_refl _)]
  exact (GuidanceMatch.ranks_mergeSort _).unique ((GuidanceMatch.ranks_mergeSort answers).filter _)

/--
A collection always answers, with the first of the ranked answers that belong to the framework. A
larger limit only adds answers at the end, and without a limit it makes no difference whether the
framework is looked at before or after ranking. Snippets have been cut, which leaves those alone
that had been cut before.
-/
theorem GuidanceSource.ofMatches_ranks (answers : List GuidanceMatch) (query : GuidanceQuery) :
    let source := GuidanceSource.ofMatches answers
    let found := source.ask query
    source query = some found ∧
      query.IsAnswered (answers.map GuidanceMatch.truncated) found ∧
        (∀ limit, query.limit ≤ limit → found <+: source.ask { query with limit := limit }) ∧
          (answers.length ≤ query.limit →
            ∀ framework,
              source.ask { query with framework := some framework } =
                (source.ask { query with framework := none }).filter fun answer =>
                  answer.framework == framework) ∧
            (∀ answer ∈ found, answer.snippet.length ≤ 403) ∧
              (∀ text, truncateSnippet (truncateSnippet text) = truncateSnippet text) ∧
                ∀ answer ∈ found, ∃ own ∈ answers,
                  answer = own.truncated ∧ (own.IsBuilt → answer = own) := by
  intro source found
  have foundIs : found = bestMatches (answers.map GuidanceMatch.truncated) query := rfl
  have origin : ∀ answer ∈ found, ∃ own ∈ answers, own.truncated = answer := by
    intro answer member
    rw [foundIs, bestMatches_eq] at member
    have stored := List.mem_of_mem_filter (List.mem_mergeSort.mp (List.mem_of_mem_take member))
    exact List.mem_map.mp stored
  refine ⟨rfl, ?_, ?_, ?_, ?_, truncateSnippet_truncateSnippet, ?_⟩
  · rw [foundIs, bestMatches_eq]
    exact GuidanceQuery.isAnswered_take (GuidanceMatch.ranks_mergeSort _)
  · intro limit more
    have longer : source.ask { query with limit := limit } =
        bestMatches (answers.map GuidanceMatch.truncated) { query with limit := limit } := rfl
    rw [longer, foundIs, bestMatches_eq, bestMatches_eq]
    exact List.take_prefix_take_left more
  · intro unlimited framework
    exact bestMatches_framework (by rwa [List.length_map]) framework
  · intro answer member
    obtain ⟨own, -, rfl⟩ := origin answer member
    exact length_truncateSnippet _
  · intro answer member
    obtain ⟨own, isOwn, rfl⟩ := origin answer member
    exact ⟨own, isOwn, rfl, GuidanceMatch.truncated_of_isBuilt⟩

/-- An answer to show how answers are ranked, with the bits of its score. -/
def GuidanceMatch.sample (url framework : String) (bits : Nat) : GuidanceMatch :=
  { ofSnippet url "useRouter moved" with score := ⟨bits⟩, framework := framework }

/--
One, zero and twice minus zero are in this order, whatever stands between them for another
framework. The question for three of them leaves out the minus zero that is stored last, and has its
answers as they were built.
-/
theorem GuidanceSource.ofMatches_ranks_zeros :
    let minus := GuidanceMatch.sample "minus" "nextjs" 0x80000000
    let zero := GuidanceMatch.sample "zero" "nextjs" 0
    let one := GuidanceMatch.sample "one" "nextjs" 0x3F800000
    let again := GuidanceMatch.sample "again" "nextjs" 0x80000000
    let source := GuidanceSource.ofMatches
      [minus, .sample "infinite" "react" 0x7F800000, zero, one, again]
    source ⟨"", 3, some "nextjs"⟩ = some [one, zero, minus] ∧
      3 ≤ 6 ∧ [one, zero, minus] <+: source.ask ⟨"", 6, some "nextjs"⟩ ∧
        source.ask ⟨"", 6, some "nextjs"⟩ =
            ((source.ask ⟨"", 6, none⟩).filter fun answer => answer.framework == "nextjs") ∧
          minus.IsBuilt ∧ minus.snippet.length ≤ 403 := by
  intro minus zero one again source
  have found : source.ask ⟨"", 3, some "nextjs"⟩ = [one, zero, minus] := by
    have admitted :
        ([minus, .sample "infinite" "react" 0x7F800000, zero, one, again].map
            GuidanceMatch.truncated).filter (GuidanceQuery.admits ⟨"", 3, some "nextjs"⟩) =
          [minus, zero, one, again] := by
      decide +kernel
    have ranked :
        [minus, zero, one, again].mergeSort GuidanceMatch.notBelow = [one, zero, minus, again] := by
      simp [List.mergeSort, List.MergeSort.Internal.splitInTwo, GuidanceMatch.notBelow, Score.rank,
        Score.signBit, GuidanceMatch.sample, minus, zero, one, again]
    refine (bestMatches_eq _ _).trans ?_
    rw [admitted, ranked]
    rfl
  obtain ⟨answers, -, longer, -, short, -⟩ :=
    ofMatches_ranks [minus, .sample "infinite" "react" 0x7F800000, zero, one, again]
      ⟨"", 3, some "nextjs"⟩
  obtain ⟨-, -, -, framework, -⟩ :=
    ofMatches_ranks [minus, .sample "infinite" "react" 0x7F800000, zero, one, again]
      ⟨"", 6, none⟩
  refine ⟨?_, by decide, ?_, framework (by decide) "nextjs", ?_, ?_⟩
  · exact answers.trans (congrArg some found)
  · rw [← found]
    exact longer 6 (by decide)
  · exact ⟨"useRouter moved", rfl⟩
  · refine short minus ?_
    change minus ∈ source.ask ⟨"", 3, some "nextjs"⟩
    rw [found]
    simp

end SourceUpgrade
