import Mathlib.Algebra.Order.BigOperators.Group.List
import Mathlib.Algebra.Order.Group.Nat
import SourceUpgrade.Proofs.Crawl.Schedule

namespace SourceUpgrade.Crawl

/-!
# Delays of a retry policy

A delay is the product of the first delay with a factor that has a limit, unless that is over the
longest delay of the policy. `RetryPolicy.delay_eq` makes this one minimum, in which powers of two
go on without end; where the limits show can be read off there. Nothing here depends on the unit in
which times are counted.

A visit waits after every call that fails, the last attempt apart. Its waits are the first delays of
the policy, one for each call but the last (`waits_visit`).
-/

namespace RetryPolicy

/-! ## Delays -/

/-- The factor is a power of two, as far as that is not over the limit. -/
theorem factor_eq (attempt : Nat) : factor attempt = min (2 ^ attempt) (2 ^ 32 - 1) := by
  rw [factor]
  split
  · have small : 2 ^ attempt ≤ 2 ^ 31 := Nat.pow_le_pow_right Nat.two_pos (by omega)
    exact (Nat.min_eq_left (Nat.le_trans small (by decide))).symm
  · have large : 2 ^ 32 ≤ 2 ^ attempt := Nat.pow_le_pow_right Nat.two_pos (by omega)
    exact (Nat.min_eq_right (Nat.le_trans (by decide) large)).symm

variable (policy : RetryPolicy) (attempt : Nat)

theorem delay_eq :
    policy.delay attempt =
      min (policy.baseDelay * 2 ^ attempt)
        (min (policy.baseDelay * (2 ^ 32 - 1)) policy.maxDelay) := by
  rw [delay, factor_eq, ← Nat.mul_min_mul_left, Nat.min_assoc]

theorem delay_le_maxDelay : policy.delay attempt ≤ policy.maxDelay :=
  Nat.min_le_right ..

theorem product_succ :
    policy.baseDelay * 2 ^ (attempt + 1) = 2 * (policy.baseDelay * 2 ^ attempt) := by
  rw [Nat.pow_succ', Nat.mul_left_comm]

/-- Up to its limit the factor makes no product larger than the limit does. -/
theorem product_le
    {attempt : Nat}
    (early : attempt ≤ 31) :
    policy.baseDelay * 2 ^ attempt ≤ policy.baseDelay * (2 ^ 32 - 1) := by
  have power : 2 ^ attempt ≤ 2 ^ 31 := Nat.pow_le_pow_right Nat.two_pos early
  exact Nat.mul_le_mul_left _ (Nat.le_trans power (by decide))

/-- Powers past the limit of the factor make larger products than the limit does. -/
theorem add_le_product
    {attempt : Nat}
    (late : 31 < attempt) :
    policy.baseDelay * (2 ^ 32 - 1) + policy.baseDelay ≤ policy.baseDelay * 2 ^ attempt := by
  rw [← Nat.mul_succ]
  exact Nat.mul_le_mul_left _ (Nat.pow_le_pow_right Nat.two_pos late)

/-- What holds of the delay after an attempt. -/
structure BacksOff : Prop where
  /-- A product that stops at the longest time there is comes to the same delay. -/
  counted :
    ∀ longest,
      policy.maxDelay ≤ longest →
        policy.delay attempt =
          min (min (policy.baseDelay * min (2 ^ attempt) (2 ^ 32 - 1)) longest) policy.maxDelay
  le_maxDelay : policy.delay attempt ≤ policy.maxDelay
  le_next : policy.delay attempt ≤ policy.delay (attempt + 1)
  next_le : policy.delay (attempt + 1) ≤ 2 * policy.delay attempt
  /-- The limit of the factor does not show before it is passed, or if it makes the longest delay. -/
  eq_min :
    attempt ≤ 31 ∨ policy.maxDelay ≤ policy.baseDelay * (2 ^ 32 - 1) →
      policy.delay attempt = min (policy.baseDelay * 2 ^ attempt) policy.maxDelay
  /-- Delays double until they are the longest. -/
  next_eq :
    attempt < 31 ∨ policy.maxDelay ≤ policy.baseDelay * (2 ^ 32 - 1) →
      policy.delay (attempt + 1) = min (2 * policy.delay attempt) policy.maxDelay
  /-- Where the limit of the factor shows, delays stay at what it makes, and fall short. -/
  stays :
    31 < attempt →
      policy.baseDelay * (2 ^ 32 - 1) < policy.maxDelay →
        policy.delay attempt = policy.baseDelay * (2 ^ 32 - 1) ∧
          (0 < policy.baseDelay →
            policy.delay attempt < min (policy.baseDelay * 2 ^ attempt) policy.maxDelay)

theorem backsOff : policy.BacksOff attempt where
  counted := by
    intro longest within
    rw [delay_eq, ← Nat.mul_min_mul_left]
    omega
  le_maxDelay := policy.delay_le_maxDelay attempt
  le_next := by
    rw [delay_eq, delay_eq, product_succ]
    omega
  next_le := by
    rw [delay_eq, delay_eq, product_succ]
    omega
  eq_min := by
    intro hidden
    rw [delay_eq]
    rcases hidden with early | enough
    · have within := policy.product_le early
      omega
    · omega
  next_eq := by
    intro hidden
    rw [delay_eq, delay_eq, product_succ]
    rcases hidden with early | enough
    · have within := policy.product_le early
      rw [product_succ] at within
      omega
    · omega
  stays := by
    intro late short
    have beyond := policy.add_le_product late
    rw [delay_eq]
    omega

end RetryPolicy

/-! ## Waits -/

/-- A visit waits no longer than the longest delay for each of its attempts but one. -/
theorem sum_waits_visit_le (fetcher : Fetcher) (policy : RetryPolicy) (url : String) :
    ((visit fetcher policy url).waits policy).sum ≤ (policy.attempts - 1) * policy.maxDelay := by
  have number : ((visit fetcher policy url).waits policy).length ≤ policy.attempts - 1 := by
    rw [waits_visit, List.length_map, List.length_range]
    exact Nat.sub_le_sub_right (visit_calls_le fetcher policy url) 1
  have each : ∀ wait ∈ (visit fetcher policy url).waits policy, wait ≤ policy.maxDelay :=
    List.forall_mem_map.mpr fun attempt _ => policy.delay_le_maxDelay attempt
  exact Nat.le_trans (List.sum_le_card_nsmul _ _ each) (Nat.mul_le_mul_right _ number)

/--
The delays of a policy back off, after however many attempts. A visit waits through as many of them
as it makes calls but one, and no longer than the longest delay for each of its attempts but one.
-/
theorem RetryPolicy.backsOff_and_sum_waits_le (policy : RetryPolicy) :
    (∀ attempt, policy.BacksOff attempt) ∧
      ∀ fetcher url,
        let calls := (visit fetcher policy url).calls
        let waits := (visit fetcher policy url).waits policy
        waits = (List.range (calls - 1)).map policy.delay ∧
          (visit fetcher policy url).duration fetcher policy =
              calls * fetcher.time + waits.sum ∧
            waits.sum ≤ (max 1 policy.maxAttempts - 1) * policy.maxDelay := by
  refine ⟨policy.backsOff, fun fetcher url => ?_⟩
  have bounded := sum_waits_visit_le fetcher policy url
  rw [attempts, Nat.max_comm] at bounded
  exact ⟨waits_visit fetcher policy url, rfl, bounded⟩

/--
Where the longest delay is out of reach, delays double through 32 attempts and stay at the limit of
the factor from then on.
-/
theorem RetryPolicy.backsOff_and_sum_waits_le_long_delay :
    let policy := RetryPolicy.mk 34 1 (2 ^ 40)
    policy.delay 31 = 2 ^ 31 ∧
      policy.delay 32 = 2 ^ 32 - 1 ∧
        policy.delay 33 = 2 ^ 32 - 1 ∧
          ((visit (.flaky fun _ => 100) policy "bad").waits policy).sum = 2 ^ 33 - 2 := by
  intro policy
  obtain ⟨delays, visits⟩ := policy.backsOff_and_sum_waits_le
  obtain ⟨waits, -, -⟩ := visits (.flaky fun _ => 100) "bad"
  refine ⟨?_, ?_, ?_, ?_⟩
  · exact ((delays 31).eq_min (.inl (by decide))).trans (by decide)
  · exact ((delays 32).stays (by decide) (by decide)).1.trans (Nat.one_mul _)
  · exact ((delays 33).stays (by decide) (by decide)).1.trans (Nat.one_mul _)
  · exact (congrArg List.sum waits).trans (by decide +kernel)

end SourceUpgrade.Crawl
