namespace SourceUpgrade.Crawl

/-!
# Backoff

After a failed attempt a fetch is tried again, after a delay that doubles with every attempt up to a
limit. The factor by which the first delay is multiplied has a limit of its own. Times are counted
in milliseconds.
-/

/-- How often a fetch is attempted and how long it waits in between. -/
structure RetryPolicy where
  maxAttempts : Nat
  baseDelay : Nat
  maxDelay : Nat
deriving Repr, DecidableEq

/-- The largest factor that a delay is multiplied with. -/
def factorLimit : Nat := 0xFFFFFFFF

namespace RetryPolicy

/-- Three attempts, a second apart at first and half a minute at most. -/
def standard : RetryPolicy where
  maxAttempts := 3
  baseDelay := 1000
  maxDelay := 30000

/-- The factor after an attempt, counted from zero; it doubles until it reaches its limit. -/
def factor (attempt : Nat) : Nat :=
  if attempt < 32 then Nat.pow 2 attempt else factorLimit

/-- The delay after an attempt, counted from zero. -/
def delay (policy : RetryPolicy) (attempt : Nat) : Nat :=
  min (policy.baseDelay * factor attempt) policy.maxDelay

/-- How often a fetch is attempted: at least once. -/
def attempts (policy : RetryPolicy) : Nat :=
  max policy.maxAttempts 1

end RetryPolicy

end SourceUpgrade.Crawl
