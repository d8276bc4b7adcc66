import SourceUpgrade.Crawl.Pool
import SourceUpgrade.Proofs.FirstSeen

namespace SourceUpgrade.Crawl

/-!
# Visits to addresses

A crawl visits every different address once. What comes of a visit depends on the answers to its
calls alone: where the first calls for an address fail and all later ones bring a page, the number
of failures tells whether the visit brings one and how many calls it makes.
-/

open Passage (Page)

/-! ## Different addresses -/

/-- Leaving out what has been seen keeps the first of each of the other addresses. -/
theorem distinctFrom_eq_eraseDups (seen urls : List String) :
    distinctFrom seen urls = (urls.filter fun url => decide (url ∉ seen)).eraseDups := by
  induction urls generalizing seen with
  | nil =>
      rfl
  | cons url rest inductionHypothesis =>
      rw [distinctFrom, List.filter_cons]
      by_cases known : url ∈ seen
      · simp [known, inductionHypothesis]
      · simp only [known, inductionHypothesis, if_false, not_false_eq_true, decide_true, if_true,
          List.eraseDups_cons, List.filter_filter]
        congr 3
        funext other
        by_cases same : other = url
        · simp [same]
        · simp [same]

/-- The different addresses are those of the list, each where it stands first. -/
theorem distinct_eq_eraseDups (urls : List String) : distinct urls = urls.eraseDups := by
  rw [distinct, distinctFrom_eq_eraseDups, List.filter_eq_self.mpr (by simp)]

theorem distinct_nodup (urls : List String) : (distinct urls).Nodup := by
  rw [distinct_eq_eraseDups]
  exact nodup_eraseDups urls

theorem mem_distinct
    {url : String}
    {urls : List String} :
    url ∈ distinct urls ↔ url ∈ urls := by
  rw [distinct_eq_eraseDups, List.mem_eraseDups]

/-! ## Calls -/

/-- What attempts came to, beside the waits between them. -/
def Attempts.outcome (attempts : Attempts) : Option Page × Nat :=
  (attempts.page, attempts.calls)

/-- A call that fails uses up an attempt. -/
theorem outcome_callUntilPage_of_none
    {answer : Nat → Option Page}
    {calls : Nat}
    (fails : answer calls = none)
    (left : Nat) :
    (callUntilPage answer (left + 1) calls).outcome =
      (callUntilPage answer left (calls + 1)).outcome := by
  rw [callUntilPage, fails]
  dsimp only
  split <;> rfl

theorem calls_callUntilPage_of_none
    {answer : Nat → Option Page}
    {calls : Nat}
    (fails : answer calls = none)
    (left : Nat) :
    (callUntilPage answer (left + 1) calls).calls =
      (callUntilPage answer left (calls + 1)).calls :=
  congrArg Prod.snd (outcome_callUntilPage_of_none fails left)

/-- A call that brings a page is the last one. -/
theorem callUntilPage_of_some
    {answer : Nat → Option Page}
    {calls : Nat}
    {page : Page}
    (succeeds : answer calls = some page)
    (left : Nat) :
    callUntilPage answer (left + 1) calls = ⟨some page, calls + 1, []⟩ := by
  rw [callUntilPage, succeeds]

/-- There are no more calls than attempts. -/
theorem callUntilPage_le (answer : Nat → Option Page) (left calls : Nat) :
    (callUntilPage answer left calls).calls ≤ calls + left := by
  induction left generalizing calls with
  | zero =>
      exact Nat.le_refl calls
  | succ left inductionHypothesis =>
      cases outcome : answer calls with
      | some page =>
          rw [callUntilPage_of_some outcome]
          exact Nat.add_le_add_left (Nat.le_add_left 1 left) calls
      | none =>
          rw [calls_callUntilPage_of_none outcome, Nat.add_comm left, ← Nat.add_assoc]
          exact inductionHypothesis (calls + 1)

theorem le_callUntilPage (answer : Nat → Option Page) (left calls : Nat) :
    calls ≤ (callUntilPage answer left calls).calls := by
  induction left generalizing calls with
  | zero =>
      exact Nat.le_refl calls
  | succ left inductionHypothesis =>
      cases outcome : answer calls with
      | some page =>
          rw [callUntilPage_of_some outcome]
          exact Nat.le_succ calls
      | none =>
          rw [calls_callUntilPage_of_none outcome]
          exact Nat.le_trans (Nat.le_succ calls) (inductionHypothesis (calls + 1))

/-- While there is an attempt left, there is another call. -/
theorem lt_callUntilPage (answer : Nat → Option Page) (left calls : Nat) :
    calls < (callUntilPage answer (left + 1) calls).calls := by
  cases outcome : answer calls with
  | some page =>
      rw [callUntilPage_of_some outcome]
      exact Nat.lt_succ_self calls
  | none =>
      rw [calls_callUntilPage_of_none outcome]
      exact le_callUntilPage answer left (calls + 1)

/-- There is a wait after each call but the last. -/
theorem waitedAfter_callUntilPage (answer : Nat → Option Page) (left calls : Nat) :
    (callUntilPage answer left calls).waitedAfter =
      List.range' calls ((callUntilPage answer left calls).calls - 1 - calls) := by
  induction left generalizing calls with
  | zero =>
      simp [callUntilPage]
  | succ left inductionHypothesis =>
      cases outcome : answer calls with
      | some page =>
          simp [callUntilPage_of_some outcome]
      | none =>
          rw [calls_callUntilPage_of_none outcome, callUntilPage, outcome]
          dsimp only
          cases left with
          | zero =>
              simp [callUntilPage]
          | succ left =>
              -- Another call is to come, so this one is not cut off.
              have another := lt_callUntilPage answer left (calls + 1)
              have number :
                  (callUntilPage answer (left + 1) (calls + 1)).calls - 1 - calls =
                    (callUntilPage answer (left + 1) (calls + 1)).calls - 1 - (calls + 1) + 1 := by
                omega
              rw [if_neg (Nat.succ_ne_zero left), inductionHypothesis, number, List.range'_succ]

theorem visit_calls_le (fetcher : Fetcher) (policy : RetryPolicy) (url : String) :
    (visit fetcher policy url).calls ≤ policy.attempts := by
  have within := callUntilPage_le (fetcher.answer url) policy.attempts 0
  rwa [Nat.zero_add] at within

/-- A visit waits for as many delays of the policy as it makes calls, but one. -/
theorem waits_visit (fetcher : Fetcher) (policy : RetryPolicy) (url : String) :
    (visit fetcher policy url).waits policy =
      (List.range ((visit fetcher policy url).calls - 1)).map policy.delay := by
  rw [Visit.waits, List.range_eq_range']
  exact congrArg (List.map policy.delay) (waitedAfter_callUntilPage ..)

/-! ## Failures at first -/

/-- Whether the first calls for each address fail, so many of them, and all later ones succeed. -/
def Fetcher.FailsFirst (fetcher : Fetcher) (failures : String → Nat) : Prop :=
  ∀ url call, fetcher.answer url call = none ↔ call < failures url

/-- Calls go on up to the first that succeeds, or up to the last attempt. -/
theorem callUntilPage_of_failsFirst
    {answer : Nat → Option Page}
    {failures : Nat}
    (fails : ∀ call, answer call = none ↔ call < failures)
    (left calls : Nat)
    (early : calls ≤ failures) :
    (callUntilPage answer left calls).outcome =
      if failures < calls + left then (answer failures, failures + 1)
      else (none, calls + left) := by
  induction left generalizing calls with
  | zero =>
      rw [if_neg (by omega)]
      rfl
  | succ left inductionHypothesis =>
      by_cases now : calls = failures
      · obtain ⟨page, succeeds⟩ : ∃ page, answer calls = some page := by
          refine Option.ne_none_iff_exists'.mp fun none => ?_
          have := (fails calls).mp none
          omega
        rw [callUntilPage_of_some succeeds, if_pos (by omega), ← now, succeeds]
        rfl
      · have later : calls < failures := by omega
        have limit : calls + 1 + left = calls + (left + 1) := by omega
        rw [outcome_callUntilPage_of_none ((fails calls).mpr later), inductionHypothesis _ later,
          limit]

section

variable {fetcher : Fetcher} {failures : String → Nat} (fails : fetcher.FailsFirst failures)

include fails

/-- What comes of a visit, told by the failures. -/
theorem outcome_visit (policy : RetryPolicy) (url : String) :
    (visit fetcher policy url).outcome =
      if failures url < policy.attempts then
        (fetcher.answer url (failures url), failures url + 1)
      else
        (none, policy.attempts) := by
  rw [visit, callUntilPage_of_failsFirst (fails url) policy.attempts 0 (Nat.zero_le _),
    Nat.zero_add]

/-- A visit brings the first answer that does not fail, as far as there are attempts. -/
theorem visit_page (policy : RetryPolicy) (url : String) :
    (visit fetcher policy url).page =
      if failures url < policy.attempts then fetcher.answer url (failures url) else none := by
  refine (congrArg Prod.fst (outcome_visit fails policy url)).trans ?_
  split <;> rfl

/-- A visit makes one call more than fail, as far as there are attempts. -/
theorem visit_calls (policy : RetryPolicy) (url : String) :
    (visit fetcher policy url).calls = min (failures url + 1) policy.attempts := by
  refine (congrArg Prod.snd (outcome_visit fails policy url)).trans ?_
  split
  · dsimp only
    omega
  · dsimp only
    omega

/-- The first call after the failures brings a page. -/
theorem exists_answer (url : String) : ∃ page, fetcher.answer url (failures url) = some page := by
  refine Option.ne_none_iff_exists'.mp fun none => ?_
  exact Nat.lt_irrefl _ ((fails url _).mp none)

/-- A visit fails exactly if all attempts do. -/
theorem visit_page_isNone (policy : RetryPolicy) (url : String) :
    (visit fetcher policy url).page.isNone = decide (policy.attempts ≤ failures url) := by
  obtain ⟨page, answered⟩ := exists_answer fails url
  rw [visit_page fails, answered]
  by_cases brings : failures url < policy.attempts
  · simp [brings]
  · simp [brings, Nat.le_of_not_lt brings]

/-- The pages of visits are the first answers that do not fail, as far as there are attempts. -/
theorem pages_of_visits (policy : RetryPolicy) (urls : List String) :
    ((urls.map (visit fetcher policy)).filterMap fun visit => visit.page).map some =
      (urls.filter fun url => decide (failures url < policy.attempts)).map fun url =>
        fetcher.answer url (failures url) := by
  rw [List.filterMap_map]
  induction urls with
  | nil =>
      rfl
  | cons url rest inductionHypothesis =>
      obtain ⟨page, answered⟩ := exists_answer fails url
      rw [List.filterMap_cons, Function.comp_apply, visit_page fails]
      by_cases brings : failures url < policy.attempts
      · rw [if_pos brings, answered, List.map_cons, inductionHypothesis,
          List.filter_cons_of_pos (by simpa using brings), List.map_cons, answered]
      · rw [if_neg brings, inductionHypothesis, List.filter_cons_of_neg (by simpa using brings)]

/-- The failures of visits are the addresses for which all attempts fail. -/
theorem failedUrls_of_visits (policy : RetryPolicy) (urls : List String) :
    ((urls.map (visit fetcher policy)).filter fun visit => visit.page.isNone).map Visit.url =
      urls.filter fun url => decide (policy.attempts ≤ failures url) := by
  rw [List.filter_map, List.map_map]
  have same : (fun visit => visit.page.isNone) ∘ visit fetcher policy =
      fun url => decide (policy.attempts ≤ failures url) :=
    funext (visit_page_isNone fails policy)
  rw [same]
  exact List.map_id' _

end

/--
Whether a report tells of each different address, in the order of the list, what follows from the
number of its failures: the page of the first call that succeeds, or that no attempt did.
-/
structure Report.AccountsFor
    (report : Report)
    (fetcher : Fetcher)
    (failures : String → Nat)
    (attempts : Nat)
    (framework : String)
    (urls : List String) :
    Prop where
  framework_eq : report.framework = framework
  total_eq : report.totalUrls = urls.eraseDups.length
  pages_eq :
    report.pages.map some =
      (urls.eraseDups.filter fun url => decide (failures url < attempts)).map fun url =>
        fetcher.answer url (failures url)
  failedUrls_eq :
    report.failedUrls = urls.eraseDups.filter fun url => decide (attempts ≤ failures url)
  all_told : report.pages.length + report.failedUrls.length = report.totalUrls

/-- The report on visits to all different addresses accounts for them. -/
theorem accountsFor_reportOf
    {fetcher : Fetcher}
    {failures : String → Nat}
    (fails : fetcher.FailsFirst failures)
    (policy : RetryPolicy)
    (framework : String)
    (urls : List String) :
    (reportOf framework ((distinct urls).map (visit fetcher policy))).AccountsFor fetcher failures
      policy.attempts framework urls := by
  have pages := pages_of_visits fails policy urls.eraseDups
  have failed := failedUrls_of_visits fails policy urls.eraseDups
  have told :=
    List.length_eq_countP_add_countP (fun url => decide (failures url < policy.attempts))
      (l := urls.eraseDups)
  have pagesCount := congrArg List.length pages
  have failedCount := congrArg List.length failed
  simp only [List.length_map, decide_eq_true_eq, Nat.not_lt, List.countP_eq_length_filter]
    at pagesCount failedCount told
  rw [distinct_eq_eraseDups]
  refine ⟨rfl, List.length_map .., pages, failed, ?_⟩
  simp only [reportOf, List.length_map, pagesCount, failedCount]
  exact told.symm

end SourceUpgrade.Crawl
