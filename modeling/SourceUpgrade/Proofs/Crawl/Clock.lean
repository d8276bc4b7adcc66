import Mathlib.Data.Set.Finite.Lemmas
import Mathlib.Data.Set.Finite.List
import Mathlib.Logic.Relation
import SourceUpgrade.Proofs.Crawl.Load
import SourceUpgrade.Proofs.Crawl.Schedule

namespace SourceUpgrade.Crawl

/-!
# Pools with a clock

A pool does what it can do at once, and only then does time pass, up to the next end of a call or of
a wait. `Timed.Step` still leaves open what comes first of all that can be done at one time.

`Timed.Sound` is kept by every step: each address is taken when `startTimes` says and keeps its
worker for `Fetcher.timeFor`. So all runs end, and the clock of a pool that is done shows the time
that a crawl takes, of which `Load` tells how busy the workers have been.
-/

open Passage (Page)

/-- A pool at work with a clock. -/
structure Timed where
  pool : Pool
  now : Nat
  /-- When a worker took each address. -/
  began : String → Nat
  /-- When each address that a worker holds can be gone on with: a call or a wait ends then. -/
  due : String → Nat

namespace Timed

/-- The pool before its work. -/
def start (urls : List String) : Timed where
  pool := .start urls
  now := 0
  began := fun _ => 0
  due := fun _ => 0

/-- What can happen next, and when. -/
inductive Step (fetcher : Fetcher) (style : PoolStyle) : Timed → Timed → Prop where
  /-- A worker that is free takes the next address at once. -/
  | take
      {timed : Timed}
      {url : String}
      {place : Nat}
      {rest : List (String × Nat)}
      (free : timed.pool.active.length < style.size)
      (next : timed.pool.waiting = (url, place) :: rest) :
      Step fetcher style timed
        { timed with
          pool :=
            { timed.pool with
              waiting := rest
              active := ⟨url, place, 0, .resting⟩ :: timed.pool.active }
          began := Function.update timed.began url timed.now
          due := Function.update timed.due url timed.now }
  /-- A call begins as soon as there is nothing to wait for. -/
  | call
      {timed : Timed}
      {before after : List Task}
      {task : Task}
      (held : timed.pool.active = before ++ task :: after)
      (resting : task.phase = .resting)
      (ready : timed.due task.url ≤ timed.now) :
      Step fetcher style timed
        { timed with
          pool :=
            { timed.pool with
              active :=
                before ++
                  { task with
                    phase := .calling (fetcher.answer task.url (timed.pool.calls task.url)) } ::
                    after
              calls :=
                Function.update timed.pool.calls task.url (timed.pool.calls task.url + 1) }
          due := Function.update timed.due task.url (timed.now + fetcher.time) }
  /-- A call ends without a page, and its address waits before the next one. -/
  | retry
      {timed : Timed}
      {before after : List Task}
      {task : Task}
      (held : timed.pool.active = before ++ task :: after)
      (fails : task.phase = .calling none)
      (left : task.failed + 1 < style.retry.attempts)
      (ready : timed.due task.url ≤ timed.now) :
      Step fetcher style timed
        { timed with
          pool :=
            { timed.pool with
              active :=
                before ++ { task with failed := task.failed + 1, phase := .resting } :: after }
          due :=
            Function.update timed.due task.url (timed.now + style.retry.delay task.failed) }
  /-- The last call ends without a page. -/
  | giveUp
      {timed : Timed}
      {before after : List Task}
      {task : Task}
      (held : timed.pool.active = before ++ task :: after)
      (fails : task.phase = .calling none)
      (last : style.retry.attempts ≤ task.failed + 1)
      (ready : timed.due task.url ≤ timed.now) :
      Step fetcher style timed
        { timed with
          pool :=
            { timed.pool with
              active := before ++ after
              arrived := timed.pool.arrived ++ [⟨task.url, task.place, none⟩] } }
  /-- A call ends with a page. -/
  | bring
      {timed : Timed}
      {before after : List Task}
      {task : Task}
      {page : Page}
      (held : timed.pool.active = before ++ task :: after)
      (succeeds : task.phase = .calling (some page))
      (ready : timed.due task.url ≤ timed.now) :
      Step fetcher style timed
        { timed with
          pool :=
            { timed.pool with
              active := before ++ after
              arrived := timed.pool.arrived ++ [⟨task.url, task.place, some page⟩] } }
  /-- Time passes if nothing can be done now, up to when something can. -/
  | pass
      {timed : Timed}
      {task : Task}
      (allBusy : timed.pool.waiting = [] ∨ style.size ≤ timed.pool.active.length)
      (nothingDue : ∀ other ∈ timed.pool.active, timed.now < timed.due other.url)
      (held : task ∈ timed.pool.active)
      (first : ∀ other ∈ timed.pool.active, timed.due task.url ≤ timed.due other.url) :
      Step fetcher style timed { timed with now := timed.due task.url }

/-- Whether something can be done with an address that a worker holds. -/
def IsDue (timed : Timed) : Prop :=
  ∃ task ∈ timed.pool.active, timed.due task.url ≤ timed.now

section

variable {fetcher : Fetcher} {style : PoolStyle} {timed next : Timed}

/-- Either the pool goes on, or time passes until it can. -/
theorem Step.forget (step : Step fetcher style timed next) :
    Pool.Step fetcher style timed.pool next.pool ∨
      next.pool = timed.pool ∧ ¬ timed.IsDue ∧ next.IsDue := by
  cases step with
  | take free next =>
      exact .inl (.take free next)
  | call held resting ready =>
      exact .inl (.call held resting)
  | retry held fails left ready =>
      exact .inl (.retry held fails left)
  | giveUp held fails last ready =>
      exact .inl (.giveUp held fails last)
  | bring held succeeds ready =>
      exact .inl (.bring held succeeds)
  | pass allBusy nothingDue held first =>
      refine .inr ⟨rfl, ?_, _, held, Nat.le_refl _⟩
      rintro ⟨other, member, ready⟩
      exact Nat.not_le.mpr (nothingDue other member) ready

/-! ## No run goes on for ever -/

open Classical in
/-- How much is left to do at most; when time has passed something is done next. -/
noncomputable def workLeft (attempts : Nat) (timed : Timed) : Nat :=
  2 * timed.pool.workLeft attempts + if timed.IsDue then 0 else 1

/-- Every step takes from what is left. -/
theorem Step.workLeft_lt (step : Step fetcher style timed next) :
    next.workLeft style.retry.attempts < timed.workLeft style.retry.attempts := by
  rw [workLeft, workLeft]
  rcases step.forget with goesOn | ⟨same, before, after⟩
  · have less := goesOn.workLeft_lt
    split <;> split <;> omega
  · rw [same, if_neg before, if_pos after]
    exact Nat.lt_succ_self _

theorem wellFounded_step (fetcher : Fetcher) (style : PoolStyle) :
    WellFounded fun next timed => Step fetcher style timed next :=
  Subrelation.wf Step.workLeft_lt (measure (workLeft style.retry.attempts)).wf

/-- What a worker holds can be gone on with when it is due. -/
theorem exists_step_of_isDue (due : timed.IsDue) : ∃ next, Step fetcher style timed next := by
  obtain ⟨task, member, ready⟩ := due
  obtain ⟨before, after, held⟩ := List.append_of_mem member
  cases phase : task.phase with
  | resting =>
      exact ⟨_, .call held phase ready⟩
  | calling answer =>
      cases answer with
      | some page =>
          exact ⟨_, .bring held phase ready⟩
      | none =>
          rcases Nat.lt_or_ge (task.failed + 1) style.retry.attempts with left | last
          · exact ⟨_, .retry held phase left ready⟩
          · exact ⟨_, .giveUp held phase last ready⟩

/-- As long as an address is left, something can be done now or time can pass. -/
theorem exists_step (unfinished : ¬ timed.pool.IsDone) :
    ∃ next, Step fetcher style timed next := by
  by_cases due : timed.IsDue
  · exact exists_step_of_isDue due
  by_cases allBusy : timed.pool.waiting = [] ∨ style.size ≤ timed.pool.active.length
  · have someHeld : timed.pool.active ≠ [] := by
      intro none
      rcases allBusy with noneWaits | full
      · exact unfinished ⟨noneWaits, none⟩
      · have positive : 1 ≤ style.size := Nat.le_max_right ..
        rw [none, List.length_nil] at full
        omega
    obtain ⟨task, held, first⟩ :=
      Set.exists_min_image _ (fun task : Task => timed.due task.url)
        timed.pool.active.finite_toSet (List.exists_mem_of_ne_nil _ someHeld)
    have nothingDue : ∀ other ∈ timed.pool.active, timed.now < timed.due other.url :=
      fun other member => Nat.not_le.mp fun ready => due ⟨other, member, ready⟩
    exact ⟨_, .pass allBusy nothingDue held first⟩
  · obtain ⟨someWait, free⟩ := not_or.mp allBusy
    obtain ⟨⟨url, place⟩, rest, next⟩ := List.exists_cons_of_ne_nil someWait
    exact ⟨_, .take (Nat.not_le.mp free) next⟩

/-- A pool can go on until no address is left. -/
theorem exists_isDone (fetcher : Fetcher) (style : PoolStyle) (timed : Timed) :
    ∃ last, Relation.ReflTransGen (Step fetcher style) timed last ∧ last.pool.IsDone := by
  induction timed using (wellFounded_step fetcher style).induction with
  | _ timed inductionHypothesis =>
      by_cases done : timed.pool.IsDone
      · exact ⟨timed, .refl, done⟩
      · obtain ⟨next, step⟩ : ∃ next, Step fetcher style timed next := exists_step done
        obtain ⟨last, run, finished⟩ := inductionHypothesis next step
        exact ⟨last, .head step run, finished⟩

end

end Timed

/-! ## How long an address keeps its worker -/

/-- The delays after the first so many attempts, taken together. -/
def RetryPolicy.totalDelay (policy : RetryPolicy) (attempts : Nat) : Nat :=
  ((List.range attempts).map policy.delay).sum

theorem RetryPolicy.totalDelay_succ (policy : RetryPolicy) (attempts : Nat) :
    policy.totalDelay (attempts + 1) = policy.totalDelay attempts + policy.delay attempts := by
  rw [totalDelay, List.range_succ, List.map_append, List.sum_append, List.map_singleton,
    List.sum_singleton]
  rfl

theorem RetryPolicy.totalDelay_mono (policy : RetryPolicy) : Monotone policy.totalDelay :=
  monotone_nat_of_le_succ fun attempts => by
    rw [policy.totalDelay_succ]
    exact Nat.le_add_right ..

/-- How long a visit takes up to the end of so many calls. -/
def Fetcher.timeOf (fetcher : Fetcher) (policy : RetryPolicy) (calls : Nat) : Nat :=
  calls * fetcher.time + policy.totalDelay (calls - 1)

theorem Fetcher.timeFor_eq (fetcher : Fetcher) (policy : RetryPolicy) (url : String) :
    fetcher.timeFor policy url = fetcher.timeOf policy (visit fetcher policy url).calls :=
  rfl

theorem Fetcher.timeOf_mono (fetcher : Fetcher) (policy : RetryPolicy) :
    Monotone (fetcher.timeOf policy) := fun _ _ le =>
  Nat.add_le_add (Nat.mul_le_mul_right _ le)
    (policy.totalDelay_mono (Nat.sub_le_sub_right le 1))

/-- How long a task has kept its worker when its wait or its call ends. -/
def Task.spent (task : Task) (fetcher : Fetcher) (policy : RetryPolicy) : Nat :=
  match task.phase with
  | .resting => task.failed * fetcher.time + policy.totalDelay task.failed
  | .calling _ => fetcher.timeOf policy (task.failed + 1)

section

variable {fetcher : Fetcher} {policy : RetryPolicy} {task : Task} {calls : Nat}

/-- A task that has failed so often makes another call, at least. -/
theorem Task.Sound.failed_lt_calls (sound : task.Sound fetcher policy calls) :
    task.failed < (visit fetcher policy task.url).calls := by
  have calls := congrArg Prod.snd sound.visit_eq
  rw [sound.attempts_sub] at calls
  exact (lt_callUntilPage ..).trans_eq calls.symm

/-- No task keeps its worker longer than its address does. -/
theorem Task.Sound.spent_le (sound : task.Sound fetcher policy calls) :
    task.spent fetcher policy ≤ fetcher.timeFor policy task.url := by
  have another : fetcher.timeOf policy (task.failed + 1) ≤ fetcher.timeFor policy task.url := by
    rw [fetcher.timeFor_eq]
    exact fetcher.timeOf_mono policy sound.failed_lt_calls
  refine Nat.le_trans ?_ another
  rw [Task.spent]
  split
  · exact Nat.add_le_add_right (Nat.mul_le_mul_right _ (Nat.le_succ _)) _
  · exact Nat.le_refl _

/-- A task that arrives has kept its worker as long as its address does. -/
theorem Task.Sound.spent_eq
    (sound : task.Sound fetcher policy calls)
    {answer : Option Page}
    (calling : task.phase = .calling answer)
    {page : Option Page}
    (ended : (Arrival.mk task.url task.place page).Sound fetcher policy calls) :
    task.spent fetcher policy = fetcher.timeFor policy task.url := by
  have made := sound.phase_eq
  rw [calling] at made
  have visited : (visit fetcher policy task.url).calls = calls := congrArg Prod.snd ended
  rw [fetcher.timeFor_eq, visited, made.1, Task.spent, calling]

end

/-! ## What clocks keep -/

namespace Timed

/-- When a worker has done with an address that it has taken. -/
def finish (timed : Timed) (fetcher : Fetcher) (policy : RetryPolicy) (url : String) : Nat :=
  timed.began url + fetcher.timeFor policy url

/-- When each worker is free. -/
def frees (timed : Timed) (fetcher : Fetcher) (style : PoolStyle) : List Nat :=
  timed.pool.active.map (fun task => timed.finish fetcher style.retry task.url) ++
    List.replicate (style.size - timed.pool.active.length) timed.now

/-- What holds of a pool with a clock throughout its work, given the addresses taken so far. -/
structure Sound
    (timed : Timed)
    (fetcher : Fetcher)
    (style : PoolStyle)
    (urls taken : List String) :
    Prop where
  pool : timed.pool.Sound fetcher style urls
  active_le : timed.pool.active.length ≤ style.size
  /-- Addresses are taken in their order. -/
  distinct_eq : distinct urls = taken ++ timed.pool.waiting.map Prod.fst
  mem_taken : ∀ task ∈ timed.pool.active, task.url ∈ taken
  due_eq :
    ∀ task ∈ timed.pool.active,
      timed.due task.url = timed.began task.url + task.spent fetcher style.retry
  /-- No end of a call or of a wait is missed. -/
  now_le_due : ∀ task ∈ timed.pool.active, timed.now ≤ timed.due task.url
  /-- What no worker holds any more is over. -/
  finish_le :
    ∀ url ∈ taken, url ∉ timed.pool.active.map Task.url →
      timed.finish fetcher style.retry url ≤ timed.now
  /-- Time passes only for an address. -/
  now_le : timed.now = 0 ∨ ∃ url ∈ taken, timed.now ≤ timed.finish fetcher style.retry url
  /-- Addresses have been taken when they should have been, and so will be those that wait. -/
  planned :
    ∃ free : List Nat,
      free.Pairwise (· ≤ ·) ∧
        free.Perm (timed.frees fetcher style) ∧
          startTimes ((distinct urls).map (fetcher.timeFor style.retry))
              (List.replicate style.size 0) =
            taken.map timed.began ++
              startTimes
                ((timed.pool.waiting.map Prod.fst).map (fetcher.timeFor style.retry)) free

section

variable {fetcher : Fetcher} {style : PoolStyle} {urls taken : List String} {timed : Timed}

theorem Sound.start (fetcher : Fetcher) (style : PoolStyle) (urls : List String) :
    (start urls).Sound fetcher style urls [] where
  pool := .start fetcher style urls
  active_le := Nat.zero_le _
  distinct_eq := (List.zipIdx_map_fst 0 _).symm
  mem_taken := nofun
  due_eq := nofun
  now_le_due := nofun
  finish_le := nofun
  now_le := .inl rfl
  planned := by
    refine ⟨_, List.pairwise_replicate.mpr (.inr (Nat.le_refl 0)), .refl _, ?_⟩
    simp [Timed.start, Pool.start, List.zipIdx_map_fst]

/-- The times at which workers are free are not over. -/
theorem Sound.now_le_finish
    (sound : timed.Sound fetcher style urls taken)
    {task : Task}
    (member : task ∈ timed.pool.active) :
    timed.now ≤ timed.finish fetcher style.retry task.url := by
  have onTime := sound.now_le_due task member
  have longest := (sound.pool.tasks task member).spent_le
  rw [sound.due_eq task member] at onTime
  rw [finish]
  omega

/-- Where not all workers are busy, one is free now. -/
theorem frees_perm
    (timed : Timed)
    (fetcher : Fetcher)
    (free : timed.pool.active.length < style.size) :
    (timed.frees fetcher style).Perm
      (timed.now ::
        (timed.pool.active.map (fun task => timed.finish fetcher style.retry task.url) ++
          List.replicate (style.size - (timed.pool.active.length + 1)) timed.now)) := by
  have oneMore : style.size - timed.pool.active.length =
      style.size - (timed.pool.active.length + 1) + 1 := by
    omega
  rw [frees, oneMore, List.replicate_succ]
  exact List.perm_middle

/-- Where a worker is free, the next address was to be taken now. -/
theorem Sound.starts_now
    (sound : timed.Sound fetcher style urls taken)
    (free : timed.pool.active.length < style.size)
    {url : String}
    {place : Nat}
    {rest : List (String × Nat)}
    (next : timed.pool.waiting = (url, place) :: rest) :
    ∃ others : List Nat,
      others.Pairwise (· ≤ ·) ∧
        others.Perm
            (timed.pool.active.map (fun task => timed.finish fetcher style.retry task.url) ++
              List.replicate (style.size - (timed.pool.active.length + 1)) timed.now) ∧
          startTimes ((distinct urls).map (fetcher.timeFor style.retry))
              (List.replicate style.size 0) =
            taken.map timed.began ++
              timed.now ::
                startTimes ((rest.map Prod.fst).map (fetcher.timeFor style.retry))
                  (insertTime (timed.now + fetcher.timeFor style.retry url) others) := by
  obtain ⟨times, ascending, perm, plan⟩ := sound.planned
  -- No worker is free before now, so the one that is free now comes first.
  obtain ⟨others, rfl, permOthers⟩ :=
    eq_cons_of_perm ascending (perm.trans (timed.frees_perm fetcher free)) fun time member => by
      rcases List.mem_append.mp member with busy | idle
      · obtain ⟨task, isTask, rfl⟩ := List.mem_map.mp busy
        exact sound.now_le_finish isTask
      · exact Nat.le_of_eq (List.eq_of_mem_replicate idle).symm
  refine ⟨others, (List.pairwise_cons.mp ascending).2, permOthers, ?_⟩
  rw [plan, next]
  rfl

/-- A worker that is free takes the next address when it should be taken. -/
theorem Sound.take
    (sound : timed.Sound fetcher style urls taken)
    (free : timed.pool.active.length < style.size)
    {url : String}
    {place : Nat}
    {rest : List (String × Nat)}
    (next : timed.pool.waiting = (url, place) :: rest) :
    ({ timed with
        pool :=
          { timed.pool with
            waiting := rest
            active := ⟨url, place, 0, .resting⟩ :: timed.pool.active }
        began := Function.update timed.began url timed.now
        due := Function.update timed.due url timed.now } : Timed).Sound
      fetcher style urls (taken ++ [url]) := by
  have order := sound.distinct_eq
  rw [next, List.map_cons] at order
  have fresh : url ∉ taken := by
    have apart := order ▸ distinct_nodup urls
    exact fun member => (List.nodup_append.mp apart).2.2 url member url List.mem_cons_self rfl
  have takenApart {other : String} (member : other ∈ taken) : other ≠ url :=
    fun same => fresh (same ▸ member)
  have taskApart {task : Task} (member : task ∈ timed.pool.active) : task.url ≠ url :=
    takenApart (sound.mem_taken task member)
  refine
    { pool := sound.pool.take next
      active_le := free
      distinct_eq := by rw [order, List.append_assoc]; rfl
      mem_taken := ?_
      due_eq := ?_
      now_le_due := ?_
      finish_le := ?_
      now_le := ?_
      planned := ?_ }
  · rintro task (_ | ⟨_, member⟩)
    · exact List.mem_append_right _ List.mem_cons_self
    · exact List.mem_append_left _ (sound.mem_taken task member)
  · rintro task (_ | ⟨_, member⟩)
    · simp [Task.spent, RetryPolicy.totalDelay]
    · simpa [Function.update_of_ne (taskApart member)] using sound.due_eq task member
  · rintro task (_ | ⟨_, member⟩)
    · simp
    · simpa [Function.update_of_ne (taskApart member)] using sound.now_le_due task member
  · intro other member notActive
    rcases List.mem_append.mp member with earlier | (_ | ⟨_, none⟩)
    · have gone := sound.finish_le other earlier fun held => notActive (List.mem_cons_of_mem _ held)
      simpa [finish, Function.update_of_ne (takenApart earlier)] using gone
    · exact absurd List.mem_cons_self notActive
    · cases none
  · rcases sound.now_le with begin | ⟨other, member, later⟩
    · exact .inl begin
    · refine .inr ⟨other, List.mem_append_left _ member, ?_⟩
      simpa [finish, Function.update_of_ne (takenApart member)] using later
  · obtain ⟨others, ascending, perm, plan⟩ := sound.starts_now free next
    refine
      ⟨insertTime (timed.now + fetcher.timeFor style.retry url) others,
        pairwise_insertTime ascending _, ?_, ?_⟩
    · refine (insertTime_perm ..).trans ((perm.cons _).trans ?_)
      have unchanged :
          (timed.pool.active.map fun task => timed.finish fetcher style.retry task.url) =
            timed.pool.active.map fun task =>
              Function.update timed.began url timed.now task.url +
                fetcher.timeFor style.retry task.url :=
        List.map_congr_left fun task member => by
          rw [finish, Function.update_of_ne (taskApart member)]
      rw [unchanged]
      simp [frees, finish]
    · have unchanged :
          taken.map timed.began = taken.map (Function.update timed.began url timed.now) :=
        List.map_congr_left fun other member => by
          rw [Function.update_of_ne (takenApart member)]
      rw [plan, unchanged]
      simp

/-- An address whose call or wait ends at its time is held for the next one. -/
theorem Sound.replace
    (sound : timed.Sound fetcher style urls taken)
    {before after : List Task}
    {task : Task}
    (held : timed.pool.active = before ++ task :: after)
    (ready : timed.due task.url ≤ timed.now)
    {failed wait : Nat}
    {phase : Phase}
    {calls : String → Nat}
    (pool :
      ({ timed.pool with
          active := before ++ { task with failed := failed, phase := phase } :: after
          calls := calls } : Pool).Sound fetcher style urls)
    (longer :
      { task with failed := failed, phase := phase }.spent fetcher style.retry =
        task.spent fetcher style.retry + wait) :
    ({ timed with
        pool :=
          { timed.pool with
            active := before ++ { task with failed := failed, phase := phase } :: after
            calls := calls }
        due := Function.update timed.due task.url (timed.now + wait) } : Timed).Sound
      fetcher style urls taken := by
  have member := Pool.mem_active_of_held held
  have dueNow : timed.now = timed.due task.url :=
    Nat.le_antisymm (sound.now_le_due task member) ready
  have othersApart := (sound.pool.url_ne held).1
  have names : (before ++ { task with failed := failed, phase := phase } :: after).map Task.url =
      timed.pool.active.map Task.url := by
    rw [held, List.map_append, List.map_append]
    rfl
  have each {property : Task → Prop}
      (others : ∀ other ∈ before ++ after, property other)
      (own : property { task with failed := failed, phase := phase }) :
      ∀ other ∈ before ++ { task with failed := failed, phase := phase } :: after,
        property other := by
    obtain ⟨early, late⟩ := List.forall_mem_append.mp others
    exact List.forall_mem_append.mpr ⟨early, List.forall_mem_cons.mpr ⟨own, late⟩⟩
  refine
    { pool := pool
      active_le := ?_
      distinct_eq := sound.distinct_eq
      mem_taken := ?_
      due_eq := ?_
      now_le_due := ?_
      finish_le := ?_
      now_le := sound.now_le
      planned := ?_ }
  · rw [← List.length_map Task.url, names, List.length_map]
    exact sound.active_le
  · exact each (fun other isOther => sound.mem_taken other (Pool.mem_active_of_others held isOther))
      (sound.mem_taken task member)
  · refine each (fun other isOther => ?_) ?_
    · dsimp only
      rw [Function.update_of_ne (othersApart other isOther)]
      exact sound.due_eq other (Pool.mem_active_of_others held isOther)
    · dsimp only
      rw [Function.update_self, longer, dueNow, sound.due_eq task member, Nat.add_assoc]
  · refine each (fun other isOther => ?_) ?_
    · dsimp only
      rw [Function.update_of_ne (othersApart other isOther)]
      exact sound.now_le_due other (Pool.mem_active_of_others held isOther)
    · dsimp only
      rw [Function.update_self]
      exact Nat.le_add_right ..
  · intro url isTaken notActive
    rw [names] at notActive
    exact sound.finish_le url isTaken notActive
  · simpa only [frees, finish, held, List.map_append, List.map_cons, List.length_append,
      List.length_cons] using sound.planned

/-- An address that arrives at its time sets its worker free when it should be. -/
theorem Sound.arrive
    (sound : timed.Sound fetcher style urls taken)
    {before after : List Task}
    {task : Task}
    (held : timed.pool.active = before ++ task :: after)
    (ready : timed.due task.url ≤ timed.now)
    {answer page : Option Page}
    (calling : task.phase = .calling answer)
    (ended :
      (Arrival.mk task.url task.place page).Sound fetcher style.retry
        (timed.pool.calls task.url)) :
    ({ timed with
        pool :=
          { timed.pool with
            active := before ++ after
            arrived := timed.pool.arrived ++ [⟨task.url, task.place, page⟩] } } : Timed).Sound
      fetcher style urls taken := by
  have member := Pool.mem_active_of_held held
  have finishNow : timed.finish fetcher style.retry task.url = timed.now := by
    have whole := (sound.pool.tasks task member).spent_eq calling ended
    rw [finish, ← whole, ← sound.due_eq task member]
    exact Nat.le_antisymm ready (sound.now_le_due task member)
  have stillHeld {other : Task} (isOther : other ∈ before ++ after) : other ∈ timed.pool.active :=
    Pool.mem_active_of_others held isOther
  have oneLess : (before ++ after).length + 1 = timed.pool.active.length := by
    rw [held, List.length_append, List.length_append, List.length_cons, Nat.add_assoc]
  refine
    { pool := sound.pool.arrive held ended
      active_le := ?_
      distinct_eq := sound.distinct_eq
      mem_taken := fun other isOther => sound.mem_taken other (stillHeld isOther)
      due_eq := fun other isOther => sound.due_eq other (stillHeld isOther)
      now_le_due := fun other isOther => sound.now_le_due other (stillHeld isOther)
      finish_le := ?_
      now_le := sound.now_le
      planned := ?_ }
  · have full := sound.active_le
    dsimp only
    omega
  · intro url isTaken notActive
    by_cases same : url = task.url
    · subst same
      exact Nat.le_of_eq finishNow
    · refine sound.finish_le url isTaken fun isActive => notActive ?_
      rw [held, List.map_append, List.map_cons] at isActive
      rw [List.map_append]
      rcases List.mem_append.mp isActive with early | late
      · exact List.mem_append_left _ early
      · exact List.mem_append_right _ ((List.mem_cons.mp late).resolve_left same)
  · -- The worker was to be free now, and so it is.
    obtain ⟨times, ascending, perm, plan⟩ := sound.planned
    refine ⟨times, ascending, perm.trans ?_, plan⟩
    have free : (before ++ after).length < style.size := by
      have full := sound.active_le
      omega
    refine List.Perm.trans ?_ (frees_perm { timed with pool := _ } fetcher free).symm
    rw [frees, ← oneLess, held, List.map_append, List.map_cons, finishNow]
    dsimp only
    rw [List.map_append]
    exact List.perm_middle.append_right _

/-- Time passes up to when the first of the workers can go on. -/
theorem Sound.pass
    (sound : timed.Sound fetcher style urls taken)
    {task : Task}
    (allBusy : timed.pool.waiting = [] ∨ style.size ≤ timed.pool.active.length)
    (held : task ∈ timed.pool.active)
    (first : ∀ other ∈ timed.pool.active, timed.due task.url ≤ timed.due other.url) :
    { timed with now := timed.due task.url }.Sound fetcher style urls taken := by
  have later := sound.now_le_due task held
  refine
    { pool := sound.pool
      active_le := sound.active_le
      distinct_eq := sound.distinct_eq
      mem_taken := sound.mem_taken
      due_eq := sound.due_eq
      now_le_due := first
      finish_le := fun url isTaken notActive =>
        Nat.le_trans (sound.finish_le url isTaken notActive) later
      now_le := ?_
      planned := ?_ }
  · refine .inr ⟨task.url, sound.mem_taken task held, ?_⟩
    have longest := (sound.pool.tasks task held).spent_le
    dsimp only
    rw [sound.due_eq task held]
    exact Nat.add_le_add_left longest _
  · rcases allBusy with noneWaits | full
    · -- Nothing is left of the plan, whenever workers are free.
      obtain ⟨times, -, -, plan⟩ := sound.planned
      rw [noneWaits] at plan
      refine ⟨_, List.pairwise_insertionSort (· ≤ ·) _, List.perm_insertionSort .., ?_⟩
      rw [plan, noneWaits]
      rfl
    · have noneFree : style.size - timed.pool.active.length = 0 := Nat.sub_eq_zero_of_le full
      simpa only [frees, finish, noneFree, List.replicate_zero] using sound.planned

/-- Every step keeps a pool with a clock sound. -/
theorem Sound.step
    {next : Timed}
    (sound : timed.Sound fetcher style urls taken)
    (step : Step fetcher style timed next) :
    ∃ takenThen, next.Sound fetcher style urls takenThen := by
  cases step with
  | take free next =>
      exact ⟨_, sound.take free next⟩
  | @call before after task held resting ready =>
      refine ⟨taken, sound.replace held ready (sound.pool.step (.call held resting)) ?_⟩
      simp only [Task.spent, resting, Fetcher.timeOf, Nat.succ_mul, Nat.add_sub_cancel]
      omega
  | retry held fails left ready =>
      refine ⟨taken, sound.replace held ready (sound.pool.step (.retry held fails left)) ?_⟩
      simp only [Task.spent, fails, Fetcher.timeOf, RetryPolicy.totalDelay_succ,
        Nat.add_sub_cancel, Nat.add_assoc]
  | giveUp held fails last ready =>
      have task := sound.pool.tasks _ (Pool.mem_active_of_held held)
      exact ⟨taken, sound.arrive held ready fails (task.giveUp fails last)⟩
  | bring held succeeds ready =>
      have task := sound.pool.tasks _ (Pool.mem_active_of_held held)
      exact ⟨taken, sound.arrive held ready succeeds (task.bring succeeds)⟩
  | pass allBusy nothingDue held first =>
      exact ⟨taken, sound.pass allBusy held first⟩

/-- Every run from the start keeps a pool with a clock sound. -/
theorem exists_sound
    (run : Relation.ReflTransGen (Step fetcher style) (Timed.start urls) timed) :
    ∃ taken, timed.Sound fetcher style urls taken := by
  induction run with
  | refl =>
      exact ⟨[], .start fetcher style urls⟩
  | tail _ step inductionHypothesis =>
      obtain ⟨taken, sound⟩ := inductionHypothesis
      exact sound.step step

/-! ## The end -/

section

variable (sound : timed.Sound fetcher style urls taken) (done : timed.pool.IsDone)

include sound done

/-- In the end all addresses have been taken. -/
theorem Sound.taken_eq : taken = distinct urls := by
  rw [sound.distinct_eq, done.1, List.map_nil, List.append_nil]

/-- The visits of a crawl start when workers have taken the addresses. -/
theorem Sound.starts_eq (framework : String) :
    (crawl fetcher framework urls style).starts = urls.eraseDups.map timed.began := by
  obtain ⟨times, -, -, plan⟩ := sound.planned
  rw [starts_crawl, plan, done.1, sound.taken_eq done, distinct_eq_eraseDups, List.map_nil,
    List.map_nil, startTimes, List.append_nil]

/-- In the end the clock shows how long a crawl takes. -/
theorem Sound.now_eq (framework : String) :
    timed.now = (crawl fetcher framework urls style).elapsed fetcher style.retry := by
  have stops :
      (stays ((distinct urls).map (fetcher.timeFor style.retry))
          (List.replicate style.size 0)).map Stay.stop =
        (distinct urls).map (timed.finish fetcher style.retry) := by
    rw [stays, ← starts_crawl fetcher framework, sound.starts_eq done framework,
      ← distinct_eq_eraseDups, List.zipWith_map, List.zipWith_self, List.map_map]
    rfl
  have allTaken := sound.taken_eq done
  rw [elapsed_crawl, lastStop, stops]
  refine Nat.le_antisymm ?_ (foldl_max_le_iff.mpr ⟨Nat.zero_le _, ?_⟩)
  · rcases sound.now_le with begin | ⟨url, isTaken, later⟩
    · rw [begin]
      exact Nat.zero_le _
    · rw [allTaken] at isTaken
      exact Nat.le_trans later (le_foldl_max (List.mem_map_of_mem isTaken) 0)
  · refine List.forall_mem_map.mpr fun url isTaken => ?_
    refine sound.finish_le url (allTaken ▸ isTaken) ?_
    rw [done.2]
    exact List.not_mem_nil

end

end

end Timed

/-! ## Crawls -/

/-- Whether a call is under way. -/
def Task.isCalling (task : Task) : Bool :=
  match task.phase with
  | .resting => false
  | .calling _ => true

/--
A crawl never has more calls under way than workers, and the time it takes is what `Load` says.

A pool with a clock comes to the same end, in whatever order things are done that can be done at one
time: no run goes on for ever, and when a pool is done the clock shows the time of the crawl, and
addresses have been taken and called as in the crawl.
-/
theorem crawl_load
    (fetcher : Fetcher)
    (framework : String)
    (urls : List String)
    (style : PoolStyle) :
    let workers := max 1 style.workers
    let course := crawl fetcher framework urls style
    let elapsed := course.elapsed fetcher style.retry
    (∀ time, course.inFlight fetcher style.retry time ≤ workers) ∧
      course.maxInFlight fetcher style.retry ≤ workers ∧
        Load workers (urls.eraseDups.map (fetcher.timeFor style.retry)) elapsed ∧
          WellFounded (fun next timed => Timed.Step fetcher style timed next) ∧
            ∀ timed,
              Relation.ReflTransGen (Timed.Step fetcher style) (Timed.start urls) timed →
                timed.pool.active.countP Task.isCalling ≤ workers ∧
                  (∃ last,
                    Relation.ReflTransGen (Timed.Step fetcher style) timed last ∧
                      last.pool.IsDone) ∧
                    (timed.pool.IsDone →
                      timed.now = elapsed ∧
                        course.starts = urls.eraseDups.map timed.began ∧
                          ∀ url,
                            timed.pool.calls url =
                              if url ∈ urls then (visit fetcher style.retry url).calls else 0) := by
  intro workers course elapsed
  have size : workers = style.size := Nat.max_comm ..
  clear_value workers
  subst size
  refine
    ⟨inFlight_crawl_le fetcher framework urls style,
      maxInFlight_crawl_le fetcher framework urls style,
      load_crawl fetcher framework urls style,
      Timed.wellFounded_step fetcher style, fun timed run => ?_⟩
  obtain ⟨taken, sound⟩ := Timed.exists_sound run
  refine
    ⟨Nat.le_trans List.countP_le_length sound.active_le, timed.exists_isDone fetcher style,
      fun done => ⟨sound.now_eq done framework, sound.starts_eq done framework,
        sound.pool.calls_eq done⟩⟩

/--
Two workers have an address that fails once, and one that fails at all of its three attempts: the
first takes two calls and the wait of 4 between them, the other three calls and waits of 4 and of 6.
-/
theorem crawl_load_flaky :
    let failures := fun url => if url = "bad" then 10 else if url = "slow" then 1 else 0
    let fetcher := Fetcher.flaky failures
    let urls := ["slow", "c", "bad", "slow", "a"]
    let style := PoolStyle.mk 2 ⟨3, 4, 6⟩
    ∃ last,
      Relation.ReflTransGen (Timed.Step fetcher style) (Timed.start urls) last ∧
        last.pool.IsDone ∧
          last.now = 22 ∧
            ["slow", "c", "bad", "a"].map last.began = [0, 0, 3, 10] ∧
              Load 2 [10, 3, 19, 3] 22 := by
  intro failures fetcher urls style
  obtain ⟨-, -, load, -, runs⟩ := crawl_load fetcher "nextjs" urls style
  obtain ⟨-, ⟨last, run, done⟩, -⟩ := runs _ .refl
  obtain ⟨-, -, outcome⟩ := runs last run
  obtain ⟨clock, starts, -⟩ := outcome done
  have times : urls.eraseDups.map (fetcher.timeFor style.retry) = [10, 3, 19, 3] := by
    decide +kernel
  have elapsed : (crawl fetcher "nextjs" urls style).elapsed fetcher style.retry = 22 := by
    decide +kernel
  have begins : (crawl fetcher "nextjs" urls style).starts = [0, 0, 3, 10] := by
    decide +kernel
  rw [times, elapsed] at load
  exact ⟨last, run, done, clock.trans elapsed, starts.symm.trans begins, load⟩

end SourceUpgrade.Crawl
