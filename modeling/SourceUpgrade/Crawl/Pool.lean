import SourceUpgrade.Crawl.Backoff
import SourceUpgrade.Passage.Record

namespace SourceUpgrade.Crawl

/-!
# Crawling with a pool of workers

Every different address is fetched once, with retries, by a pool of workers. A worker that has done
with an address takes the next one at once, and it stays with an address while it waits between
attempts. The report lists pages and failures in the order of the addresses, whatever the order in
which the workers come to an end.
-/

open Passage (Page)

/-- What fetches pages: the answer to the n-th call for an address, and how long a call takes. -/
structure Fetcher where
  answer : String → Nat → Option Page
  time : Nat

/-- How many workers there are and how they retry. -/
structure PoolStyle where
  workers : Nat
  retry : RetryPolicy
deriving Repr, DecidableEq

/-- Five workers with the standard retries. -/
def PoolStyle.standard : PoolStyle where
  workers := 5
  retry := .standard

/-- How many workers there are: at least one. -/
def PoolStyle.size (style : PoolStyle) : Nat :=
  max style.workers 1

/-- What came of attempts: the page if there is one, how many calls were made, and the calls among
them after which there was a wait. -/
structure Attempts where
  page : Option Page
  calls : Nat
  waitedAfter : List Nat
deriving Repr, DecidableEq

/--
Call until there is a page or no attempt is left, given the calls made so far.

A call that fails is followed by a wait, unless it is the last attempt.
-/
def callUntilPage (answer : Nat → Option Page) : Nat → Nat → Attempts
  | 0, calls => ⟨none, calls, []⟩
  | left + 1, calls =>
      match answer calls with
      | some page => ⟨some page, calls + 1, []⟩
      | none =>
          let later := callUntilPage answer left (calls + 1)
          if left = 0 then later else { later with waitedAfter := calls :: later.waitedAfter }

/-- What came of an address. -/
structure Visit extends Attempts where
  url : String
deriving Repr, DecidableEq

/-- Fetch an address with retries. -/
def visit (fetcher : Fetcher) (policy : RetryPolicy) (url : String) : Visit :=
  { callUntilPage (fetcher.answer url) policy.attempts 0 with url := url }

/-- The different entries of a list, each at its first place, given those seen before. -/
def distinctFrom (seen : List String) : List String → List String
  | [] => []
  | url :: rest =>
      if url ∈ seen then distinctFrom seen rest else url :: distinctFrom (url :: seen) rest

/-- The different addresses of a list, each at its first place. -/
def distinct (urls : List String) : List String :=
  distinctFrom [] urls

/-- What came of a crawl. -/
structure Report where
  framework : String
  totalUrls : Nat
  pages : List Page
  failedUrls : List String
deriving Repr, DecidableEq

/-- The report on the visits to all addresses. -/
def reportOf (framework : String) (visits : List Visit) : Report where
  framework := framework
  totalUrls := visits.length
  pages := visits.filterMap fun visit => visit.page
  failedUrls := (visits.filter fun visit => visit.page.isNone).map Visit.url

/-! ## Time -/

/-- Times taken together. -/
def totalTime (times : List Nat) : Nat :=
  times.foldr (· + ·) 0

/-- The waits of a visit, in order. -/
def Visit.waits (visit : Visit) (policy : RetryPolicy) : List Nat :=
  visit.waitedAfter.map policy.delay

/-- How long a visit keeps its worker. -/
def Visit.duration (visit : Visit) (fetcher : Fetcher) (policy : RetryPolicy) : Nat :=
  visit.calls * fetcher.time + totalTime (visit.waits policy)

/-- Put a time into an ascending list. -/
def insertTime (time : Nat) : List Nat → List Nat
  | [] => [time]
  | other :: rest => if time ≤ other then time :: other :: rest else other :: insertTime time rest

/--
When each of the tasks starts, given their durations and when each worker is free, ascending.

The next task always goes to the worker that is free first.
-/
def startTimes : List Nat → List Nat → List Nat
  | [], _ => []
  | _ :: durations, [] => 0 :: startTimes durations []
  | duration :: durations, free :: others =>
      free :: startTimes durations (insertTime (free + duration) others)

/-- The times at which the calls of a visit begin, if the visit starts at a given time. -/
def callTimes (fetcher : Fetcher) (policy : RetryPolicy) (start : Nat) (visit : Visit) : List Nat :=
  (List.range visit.calls).map fun call =>
    start + call * fetcher.time + totalTime ((visit.waits policy).take call)

/-- What happened in a crawl: its report, the visits, and when each of them started. -/
structure Course where
  report : Report
  visits : List Visit
  starts : List Nat
deriving Repr, DecidableEq

/-- Crawl addresses. -/
def crawl
    (fetcher : Fetcher)
    (framework : String)
    (urls : List String)
    (style : PoolStyle) :
    Course :=
  let visits := (distinct urls).map (visit fetcher style.retry)
  let durations := visits.map fun visit => visit.duration fetcher style.retry
  { report := reportOf framework visits
    visits := visits
    starts := startTimes durations (List.replicate style.size 0) }

namespace Course

/-- How long a crawl takes: until the last visit has come to its end. -/
def elapsed (course : Course) (fetcher : Fetcher) (policy : RetryPolicy) : Nat :=
  ((course.starts.zip course.visits).map fun (start, visit) =>
    start + visit.duration fetcher policy).foldl max 0

/-- The begins of all calls. -/
def calls (course : Course) (fetcher : Fetcher) (policy : RetryPolicy) : List Nat :=
  (course.starts.zip course.visits).flatMap fun (start, visit) =>
    callTimes fetcher policy start visit

/-- How many calls are under way at a time; a call that takes no time is never under way. -/
def inFlight (course : Course) (fetcher : Fetcher) (policy : RetryPolicy) (time : Nat) : Nat :=
  (course.calls fetcher policy).countP fun begin =>
    decide (begin ≤ time) && decide (time < begin + fetcher.time)

/-- The most calls that are under way at once; a call that takes no time counts for itself. -/
def maxInFlight (course : Course) (fetcher : Fetcher) (policy : RetryPolicy) : Nat :=
  let begins := course.calls fetcher policy
  if fetcher.time = 0 then min begins.length 1
  else (begins.map (course.inFlight fetcher policy)).foldl max 0

end Course

end SourceUpgrade.Crawl
