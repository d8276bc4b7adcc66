import Mathlib.Algebra.Order.BigOperators.Group.List
import Mathlib.Algebra.Order.Group.Nat
import Mathlib.Algebra.Ring.Nat
import Mathlib.Data.List.Sort
import SourceUpgrade.Proofs.Crawl.Visit

namespace SourceUpgrade.Crawl

/-!
# How busy the workers of a pool are

Tasks are given out in order, each to the worker that is free first. `startTimes` says when they
start, given when the workers are free. No more tasks run at a time than there are workers, and
while a task has to wait for its start no worker is free. So the work there is bounds the time until
all have ended from both sides (`load_lastStop`), and this is how long a crawl takes (`load_crawl`).
-/

/-! ## Ascending times -/

/-- The latest of times is at most a bound if all of them are. -/
theorem foldl_max_le_iff
    {times : List Nat}
    {first bound : Nat} :
    times.foldl max first ≤ bound ↔ first ≤ bound ∧ ∀ time ∈ times, time ≤ bound := by
  induction times generalizing first with
  | nil =>
      simp
  | cons time rest inductionHypothesis =>
      rw [List.foldl_cons, inductionHypothesis, Nat.max_le, List.forall_mem_cons, and_assoc]

theorem le_foldl_max
    {times : List Nat}
    {time : Nat}
    (member : time ∈ times)
    (first : Nat) :
    time ≤ times.foldl max first :=
  (foldl_max_le_iff.mp (Nat.le_refl _)).2 time member

theorem insertTime_eq_orderedInsert (time : Nat) (times : List Nat) :
    insertTime time times = times.orderedInsert (· ≤ ·) time := by
  induction times with
  | nil =>
      rfl
  | cons other rest inductionHypothesis =>
      rw [insertTime, List.orderedInsert_cons, inductionHypothesis]

theorem insertTime_perm (time : Nat) (times : List Nat) :
    (insertTime time times).Perm (time :: times) := by
  rw [insertTime_eq_orderedInsert]
  exact List.perm_orderedInsert ..

theorem insertTime_ne_nil (time : Nat) (times : List Nat) : insertTime time times ≠ [] := by
  rintro none
  have perm := insertTime_perm time times
  rw [none] at perm
  exact List.cons_ne_nil _ _ perm.symm.eq_nil

theorem pairwise_insertTime
    {times : List Nat}
    (ascending : times.Pairwise (· ≤ ·))
    (time : Nat) :
    (insertTime time times).Pairwise (· ≤ ·) := by
  rw [insertTime_eq_orderedInsert]
  exact ascending.orderedInsert time times

/-- If something may come first in an ascending list, then it does. -/
theorem eq_cons_of_perm
    {times others : List Nat}
    {time : Nat}
    (ascending : times.Pairwise (· ≤ ·))
    (perm : times.Perm (time :: others))
    (first : ∀ other ∈ others, time ≤ other) :
    ∃ rest, times = time :: rest ∧ rest.Perm others := by
  cases times with
  | nil =>
      exact absurd perm.symm.eq_nil (List.cons_ne_nil _ _)
  | cons head rest =>
      have same : head = time := by
        refine Nat.le_antisymm ?_ ?_
        · rcases List.mem_cons.mp (perm.mem_iff.mpr List.mem_cons_self) with same | later
          · exact Nat.le_of_eq same.symm
          · exact (List.pairwise_cons.mp ascending).1 time later
        · rcases List.mem_cons.mp (perm.mem_iff.mp List.mem_cons_self) with same | later
          · exact Nat.le_of_eq same.symm
          · exact first head later
      subst same
      exact ⟨rest, rfl, (List.perm_cons _).mp perm⟩

/-! ## Tasks and when they run -/

/-- When a task runs: from its start on, for its duration. -/
structure Stay where
  start : Nat
  duration : Nat
deriving DecidableEq

/-- When it ends. -/
def Stay.stop (stay : Stay) : Nat :=
  stay.start + stay.duration

/-- Whether it goes on at a time. -/
def Stay.goesOn (time : Nat) (stay : Stay) : Bool :=
  decide (stay.start ≤ time) && decide (time < stay.stop)

/-- When tasks run, given their durations and when each worker is free. -/
def stays (durations free : List Nat) : List Stay :=
  List.zipWith Stay.mk (startTimes durations free) durations

/-- When the last of tasks has ended. -/
def lastStop (durations free : List Nat) : Nat :=
  ((stays durations free).map Stay.stop).foldl max 0

/-- The next task goes to the worker that is free first. -/
theorem stays_cons (duration time : Nat) (durations others : List Nat) :
    stays (duration :: durations) (time :: others) =
      ⟨time, duration⟩ :: stays durations (insertTime (time + duration) others) :=
  rfl

/-- Every task runs for its duration. -/
theorem map_duration_stays (durations free : List Nat) :
    (stays durations free).map Stay.duration = durations := by
  induction durations generalizing free with
  | nil =>
      cases free <;> rfl
  | cons duration rest inductionHypothesis =>
      cases free with
      | nil =>
          exact congrArg (duration :: ·) (inductionHypothesis [])
      | cons time others =>
          exact congrArg (duration :: ·) (inductionHypothesis _)

theorem duration_mem_of_mem_stays
    {durations free : List Nat}
    {stay : Stay}
    (member : stay ∈ stays durations free) :
    stay.duration ∈ durations := by
  have among := List.mem_map_of_mem (f := Stay.duration) member
  rwa [map_duration_stays] at among

/-- A worker that has a task or is not free before it is not free before its end. -/
theorem goesOn_add_le (start duration time : Nat) :
    (if Stay.goesOn time ⟨start, duration⟩ = true then 1 else 0) +
        (if decide (time < start) = true then 1 else 0) ≤
      if decide (time < start + duration) = true then 1 else 0 := by
  rcases Nat.lt_or_ge time start with before | after
  · have still : time < start + duration := by omega
    simp [Stay.goesOn, before, still]
  · have notBefore : ¬ time < start := Nat.not_lt.mpr after
    by_cases still : time < start + duration
    · simp [Stay.goesOn, Stay.stop, after, notBefore, still]
    · simp [Stay.goesOn, Stay.stop, notBefore, still]

section

variable {free : List Nat} (someWorkers : free ≠ [])

include someWorkers

/-- At no time do more tasks run than there are workers, those left out that are free only later. -/
theorem countP_goesOn_stays_le (durations : List Nat) (time : Nat) :
    (stays durations free).countP (Stay.goesOn time) + free.countP (time < ·) ≤ free.length := by
  induction durations generalizing free with
  | nil =>
      rw [stays, List.zipWith_nil_right, List.countP_nil, Nat.zero_add]
      exact List.countP_le_length
  | cons duration rest inductionHypothesis =>
      obtain ⟨start, others, rfl⟩ := List.exists_cons_of_ne_nil someWorkers
      have later := inductionHypothesis (insertTime_ne_nil (start + duration) others)
      have perm := insertTime_perm (start + duration) others
      rw [perm.countP_eq, perm.length_eq, List.countP_cons, List.length_cons] at later
      rw [stays_cons, List.countP_cons, List.countP_cons, List.length_cons]
      have taken := goesOn_add_le start duration time
      omega

/-- The time up to a bound by which all is over is enough for all tasks. -/
theorem sum_durations_le
    {durations : List Nat}
    {bound : Nat}
    (early : ∀ time ∈ free, time ≤ bound)
    (ended : ∀ stay ∈ stays durations free, stay.stop ≤ bound) :
    free.sum + durations.sum ≤ free.length * bound := by
  induction durations generalizing free with
  | nil =>
      rw [List.sum_nil, Nat.add_zero]
      exact List.sum_le_card_nsmul free bound early
  | cons duration rest inductionHypothesis =>
      obtain ⟨start, others, rfl⟩ := List.exists_cons_of_ne_nil someWorkers
      rw [stays_cons] at ended
      obtain ⟨stops, later⟩ := List.forall_mem_cons.mp ended
      have perm := insertTime_perm (start + duration) others
      have earlyThen : ∀ time ∈ insertTime (start + duration) others, time ≤ bound := by
        intro time member
        rcases List.mem_cons.mp (perm.mem_iff.mp member) with rfl | other
        · exact stops
        · exact early time (List.mem_cons_of_mem _ other)
      have whole := inductionHypothesis (insertTime_ne_nil _ _) earlyThen later
      rw [perm.sum_eq, perm.length_eq, List.sum_cons, List.length_cons] at whole
      rw [List.sum_cons, List.sum_cons, List.length_cons]
      omega

/-- While a task waits for its start, all workers have tasks that come before it. -/
theorem mul_stop_le
    (ascending : free.Pairwise (· ≤ ·))
    {durations : List Nat}
    {stay : Stay}
    (member : stay ∈ stays durations free) :
    free.length * stay.stop ≤ free.sum + durations.sum + (free.length - 1) * stay.duration := by
  induction durations generalizing free with
  | nil =>
      rw [stays, List.zipWith_nil_right] at member
      cases member
  | cons duration rest inductionHypothesis =>
      obtain ⟨start, others, rfl⟩ := List.exists_cons_of_ne_nil someWorkers
      obtain ⟨first, ascendingOthers⟩ := List.pairwise_cons.mp ascending
      rw [stays_cons] at member
      rw [List.length_cons, List.sum_cons, List.sum_cons, Nat.add_sub_cancel]
      rcases List.mem_cons.mp member with rfl | later
      · have busy : others.length * start ≤ others.sum := List.card_nsmul_le_sum others start first
        simp only [Stay.stop, Nat.mul_add, Nat.succ_mul]
        omega
      · have perm := insertTime_perm (start + duration) others
        have whole := inductionHypothesis (insertTime_ne_nil (start + duration) others)
          (pairwise_insertTime ascendingOthers _) later
        rw [perm.sum_eq, perm.length_eq, List.sum_cons, List.length_cons, Nat.add_sub_cancel]
          at whole
        omega

/-- Tasks start at once while there are workers that have been free all the time. -/
theorem start_eq_zero
    (ascending : free.Pairwise (· ≤ ·))
    {durations : List Nat}
    (enough : durations.length ≤ free.count 0)
    {stay : Stay}
    (member : stay ∈ stays durations free) :
    stay.start = 0 := by
  induction durations generalizing free with
  | nil =>
      rw [stays, List.zipWith_nil_right] at member
      cases member
  | cons duration rest inductionHypothesis =>
      obtain ⟨start, others, rfl⟩ := List.exists_cons_of_ne_nil someWorkers
      obtain ⟨first, ascendingOthers⟩ := List.pairwise_cons.mp ascending
      have someFree : 0 ∈ start :: others := by
        refine List.count_pos_iff.mp ?_
        rw [List.length_cons] at enough
        omega
      have now : start = 0 := by
        rcases List.mem_cons.mp someFree with same | other
        · exact same.symm
        · exact Nat.le_zero.mp (first 0 other)
      rw [stays_cons] at member
      rcases List.mem_cons.mp member with rfl | later
      · exact now
      · refine inductionHypothesis (insertTime_ne_nil _ _) (pairwise_insertTime ascendingOthers _)
          ?_ later
        rw [(insertTime_perm ..).count_eq]
        rw [now, List.length_cons, List.count_cons_self] at enough
        have fewer := List.count_le_count_cons (a := 0) (b := start + duration) (l := others)
        omega

end

/-! ## The load of a pool -/

/-- What holds of the time that a pool of workers takes for tasks of some durations. -/
structure Load (workers : Nat) (durations : List Nat) (elapsed : Nat) : Prop where
  each_le : ∀ duration ∈ durations, duration ≤ elapsed
  work_le : durations.sum ≤ workers * elapsed
  le_work : workers * elapsed ≤ durations.sum + (workers - 1) * durations.foldl max 0
  alone : workers = 1 → elapsed = durations.sum
  enough : durations.length ≤ workers → elapsed = durations.foldl max 0

/-- Workers that are free from the begin on take between them no longer than they have to. -/
theorem load_lastStop
    {workers : Nat}
    (positive : 1 ≤ workers)
    (durations : List Nat) :
    Load workers durations (lastStop durations (List.replicate workers 0)) := by
  have someWorkers : List.replicate workers 0 ≠ [] := by
    rw [Ne, List.replicate_eq_nil_iff]
    omega
  have ascending : (List.replicate workers 0).Pairwise (· ≤ ·) :=
    List.pairwise_replicate.mpr (.inr (Nat.le_refl 0))
  have noneYet : (List.replicate workers 0).sum = 0 := by
    simp
  have stopped : ∀ stay ∈ stays durations (List.replicate workers 0),
      stay.stop ≤ lastStop durations (List.replicate workers 0) := fun stay member =>
    le_foldl_max (List.mem_map_of_mem member) 0
  have eachLe : ∀ duration ∈ durations,
      duration ≤ lastStop durations (List.replicate workers 0) := by
    intro duration member
    rw [← map_duration_stays durations (List.replicate workers 0)] at member
    obtain ⟨stay, isStay, rfl⟩ := List.mem_map.mp member
    exact Nat.le_trans (Nat.le_add_left ..) (stopped stay isStay)
  have workLe : durations.sum ≤ workers * lastStop durations (List.replicate workers 0) := by
    have whole := sum_durations_le someWorkers (fun time member => ?_) stopped
    · rwa [noneYet, Nat.zero_add, List.length_replicate] at whole
    · rw [List.eq_of_mem_replicate member]
      exact Nat.zero_le _
  have leWork :
      workers * lastStop durations (List.replicate workers 0) ≤
        durations.sum + (workers - 1) * durations.foldl max 0 := by
    rw [Nat.mul_comm, ← Nat.le_div_iff_mul_le positive]
    refine foldl_max_le_iff.mpr ⟨Nat.zero_le _, List.forall_mem_map.mpr fun stay member => ?_⟩
    rw [Nat.le_div_iff_mul_le positive, Nat.mul_comm]
    have own := mul_stop_le someWorkers ascending member
    rw [noneYet, Nat.zero_add, List.length_replicate] at own
    have longest := le_foldl_max (duration_mem_of_mem_stays member) 0
    exact Nat.le_trans own (Nat.add_le_add_left (Nat.mul_le_mul_left _ longest) _)
  refine ⟨eachLe, workLe, leWork, ?_, ?_⟩
  · rintro rfl
    omega
  · intro enough
    refine Nat.le_antisymm ?_ (foldl_max_le_iff.mpr ⟨Nat.zero_le _, eachLe⟩)
    refine foldl_max_le_iff.mpr ⟨Nat.zero_le _, List.forall_mem_map.mpr fun stay member => ?_⟩
    have atOnce := start_eq_zero someWorkers ascending (by simpa using enough) member
    rw [Stay.stop, atOnce, Nat.zero_add]
    exact le_foldl_max (duration_mem_of_mem_stays member) 0

/-! ## Visits -/

theorem totalTime_take_le_take
    {fewer more : Nat}
    (le : fewer ≤ more)
    (times : List Nat) :
    totalTime (times.take fewer) ≤ totalTime (times.take more) :=
  times.monotone_sum_take le

theorem totalTime_take_le (number : Nat) (times : List Nat) :
    totalTime (times.take number) ≤ totalTime times :=
  (times.take_sublist number).sum_le_sum fun _ _ => Nat.zero_le _

/-- How long an address keeps its worker: for its calls and the waits between them. -/
def Fetcher.timeFor (fetcher : Fetcher) (policy : RetryPolicy) (url : String) : Nat :=
  let calls := (visit fetcher policy url).calls
  calls * fetcher.time + ((List.range (calls - 1)).map policy.delay).sum

theorem duration_visit (fetcher : Fetcher) (policy : RetryPolicy) (url : String) :
    (visit fetcher policy url).duration fetcher policy = fetcher.timeFor policy url := by
  rw [Visit.duration, waits_visit]
  rfl

section

variable (fetcher : Fetcher) (policy : RetryPolicy) (start : Nat) (visit : Visit)

/-- A call begins when the one before has ended. -/
theorem pairwise_callTimes :
    (callTimes fetcher policy start visit).Pairwise fun call next =>
      call + fetcher.time ≤ next := by
  rw [callTimes, List.pairwise_map]
  refine List.pairwise_lt_range.imp fun {call next} before => ?_
  have calls : (call + 1) * fetcher.time ≤ next * fetcher.time := Nat.mul_le_mul_right _ before
  have waits := totalTime_take_le_take (Nat.le_of_lt before) (visit.waits policy)
  rw [Nat.succ_mul] at calls
  omega

/-- Calls of a visit are made while it goes on. -/
theorem goesOn_of_mem_callTimes
    {call time : Nat}
    (member : call ∈ callTimes fetcher policy start visit)
    (begun : call ≤ time)
    (underWay : time < call + fetcher.time) :
    Stay.goesOn time ⟨start, visit.duration fetcher policy⟩ = true := by
  obtain ⟨index, isIndex, rfl⟩ := List.mem_map.mp member
  have early := List.mem_range.mp isIndex
  have calls : (index + 1) * fetcher.time ≤ visit.calls * fetcher.time :=
    Nat.mul_le_mul_right _ early
  have waits := totalTime_take_le index (visit.waits policy)
  rw [Nat.succ_mul] at calls
  rw [Stay.goesOn, Stay.stop, Visit.duration, Bool.and_eq_true, decide_eq_true_iff,
    decide_eq_true_iff]
  dsimp only
  omega

/-- At any time there is at most one call for a visit, and none unless it goes on. -/
theorem countP_callTimes_le (time : Nat) :
    ((callTimes fetcher policy start visit).countP fun call =>
        decide (call ≤ time) && decide (time < call + fetcher.time)) ≤
      if Stay.goesOn time ⟨start, visit.duration fetcher policy⟩ = true then 1 else 0 := by
  have apart := (pairwise_callTimes fetcher policy start visit).filter fun call =>
    decide (call ≤ time) && decide (time < call + fetcher.time)
  rw [List.countP_eq_length_filter]
  cases underWay : (callTimes fetcher policy start visit).filter fun call =>
      decide (call ≤ time) && decide (time < call + fetcher.time) with
  | nil =>
      exact Nat.zero_le _
  | cons call others =>
      have isCall {other : Nat} (member : other ∈ call :: others) :
          other ∈ callTimes fetcher policy start visit ∧
            other ≤ time ∧ time < other + fetcher.time := by
        rw [← underWay] at member
        simpa using List.mem_filter.mp member
      obtain ⟨member, begun, notEnded⟩ := isCall List.mem_cons_self
      rw [if_pos (goesOn_of_mem_callTimes fetcher policy start visit member begun notEnded)]
      cases others with
      | nil =>
          exact Nat.le_refl 1
      | cons next rest =>
          obtain ⟨-, nextBegun, -⟩ := isCall (List.mem_cons_of_mem _ List.mem_cons_self)
          rw [underWay] at apart
          have ended := (List.pairwise_cons.mp apart).1 next List.mem_cons_self
          omega

end

/-! ## Crawls -/

/-- What is at most one for each of some entries that pass, and nothing for others, is no more. -/
theorem countP_flatMap_le
    {α β : Type}
    {entries : List α}
    {parts : α → List β}
    {counts : β → Bool}
    {passes : α → Bool}
    (atMostOne : ∀ entry ∈ entries, (parts entry).countP counts ≤ if passes entry then 1 else 0) :
    (entries.flatMap parts).countP counts ≤ entries.countP passes := by
  induction entries with
  | nil =>
      exact Nat.le_refl 0
  | cons entry rest inductionHypothesis =>
      obtain ⟨first, later⟩ := List.forall_mem_cons.mp atMostOne
      rw [List.flatMap_cons, List.countP_append, List.countP_cons, Nat.add_comm]
      exact Nat.add_le_add (inductionHypothesis later) first

section

variable (fetcher : Fetcher) (framework : String) (urls : List String) (style : PoolStyle)

theorem durations_crawl :
    ((crawl fetcher framework urls style).visits.map fun visit =>
        visit.duration fetcher style.retry) =
      (distinct urls).map (fetcher.timeFor style.retry) := by
  change ((distinct urls).map (visit fetcher style.retry)).map _ = _
  rw [List.map_map]
  exact List.map_congr_left fun url _ => duration_visit ..

theorem starts_crawl :
    (crawl fetcher framework urls style).starts =
      startTimes ((distinct urls).map (fetcher.timeFor style.retry))
        (List.replicate style.size 0) := by
  rw [← durations_crawl fetcher framework]
  rfl

/-- The visits of a crawl are the stays that the times for its addresses come to. -/
theorem stays_crawl :
    (((crawl fetcher framework urls style).starts.zip
          (crawl fetcher framework urls style).visits).map fun (start, visit) =>
        Stay.mk start (visit.duration fetcher style.retry)) =
      stays ((distinct urls).map (fetcher.timeFor style.retry))
        (List.replicate style.size 0) := by
  rw [stays, ← starts_crawl fetcher framework, ← durations_crawl fetcher framework,
    List.zipWith_map_right, ← List.map_uncurry_zip_eq_zipWith]
  rfl

theorem elapsed_crawl :
    (crawl fetcher framework urls style).elapsed fetcher style.retry =
      lastStop ((distinct urls).map (fetcher.timeFor style.retry))
        (List.replicate style.size 0) := by
  rw [lastStop, ← stays_crawl fetcher framework, List.map_map]
  rfl

/-- At no time are there more calls than workers. -/
theorem inFlight_crawl_le (time : Nat) :
    (crawl fetcher framework urls style).inFlight fetcher style.retry time ≤ style.size := by
  have someWorkers : List.replicate style.size 0 ≠ [] := by
    rw [Ne, List.replicate_eq_nil_iff, PoolStyle.size]
    omega
  have busy := countP_goesOn_stays_le someWorkers
    ((distinct urls).map (fetcher.timeFor style.retry)) time
  rw [← stays_crawl fetcher framework, List.countP_map, List.length_replicate] at busy
  refine Nat.le_trans (countP_flatMap_le fun entry _ => ?_)
    (Nat.le_trans (Nat.le_add_right _ _) busy)
  exact countP_callTimes_le fetcher style.retry entry.1 entry.2 time

theorem maxInFlight_crawl_le :
    (crawl fetcher framework urls style).maxInFlight fetcher style.retry ≤ style.size := by
  rw [Course.maxInFlight]
  split
  · exact Nat.le_trans (Nat.min_le_right ..) (Nat.le_max_right ..)
  · exact foldl_max_le_iff.mpr ⟨Nat.zero_le _, List.forall_mem_map.mpr fun time _ =>
      inFlight_crawl_le fetcher framework urls style time⟩

theorem load_crawl :
    Load style.size (urls.eraseDups.map (fetcher.timeFor style.retry))
      ((crawl fetcher framework urls style).elapsed fetcher style.retry) := by
  rw [elapsed_crawl, distinct_eq_eraseDups]
  exact load_lastStop (Nat.le_max_right ..) _

end

end SourceUpgrade.Crawl
