import Mathlib.Algebra.Ring.Nat
import Mathlib.Logic.Function.Basic
import SourceUpgrade.Proofs.Crawl.Visit

namespace SourceUpgrade.Crawl

/-!
# Schedules of the worker pool

The workers of a pool hold several addresses at a time, and how long calls and waits take decides in
which order calls begin, answers arrive and addresses are done with. `Pool.Step` leaves that order
open: any worker may go on next. The fetcher counts the calls for every address, and its answer
depends on that count. What came of the addresses is listed as they end and put into their order
afterwards.

`Pool.Sound` is kept by every step: no address is lost or held twice, and every call goes on with
the visit to its address where the calls before have left it. So all schedules end, and they end
with the calls and the report that visits one after the other have.
-/

open Passage (Page)

/-! ## Pools at work -/

/-- What goes on with an address: nothing until the next call, or a call with an answer to come. -/
inductive Phase where
  | resting
  | calling (answer : Option Page)

/-- An address that a worker holds: its place among all, and how many calls for it have failed. -/
structure Task where
  url : String
  place : Nat
  failed : Nat
  phase : Phase

/-- An address that is done with, and the page that was brought if any was. -/
structure Arrival where
  url : String
  place : Nat
  page : Option Page
deriving DecidableEq

/-- A pool at a moment of its work. -/
structure Pool where
  /-- The addresses that no worker has taken yet, with their places. -/
  waiting : List (String × Nat)
  active : List Task
  /-- The addresses that are done with, in the order in which they ended. -/
  arrived : List Arrival
  /-- How many calls the fetcher has had for each address. -/
  calls : String → Nat

namespace Pool

/-- The pool before its work. -/
def start (urls : List String) : Pool where
  waiting := (distinct urls).zipIdx
  active := []
  arrived := []
  calls := fun _ => 0

/-- Whether no address is left. -/
def IsDone (pool : Pool) : Prop :=
  pool.waiting = [] ∧ pool.active = []

/-- What a worker or the fetcher can do next. -/
inductive Step (fetcher : Fetcher) (style : PoolStyle) : Pool → Pool → Prop where
  /-- A worker that is free takes the next address. -/
  | take
      {pool : Pool}
      {url : String}
      {place : Nat}
      {rest : List (String × Nat)}
      (free : pool.active.length < style.size)
      (next : pool.waiting = (url, place) :: rest) :
      Step fetcher style pool
        { pool with waiting := rest, active := ⟨url, place, 0, .resting⟩ :: pool.active }
  /-- A call begins, and the fetcher counts it. -/
  | call
      {pool : Pool}
      {before after : List Task}
      {task : Task}
      (held : pool.active = before ++ task :: after)
      (resting : task.phase = .resting) :
      Step fetcher style pool
        { pool with
          active :=
            before ++
              { task with phase := .calling (fetcher.answer task.url (pool.calls task.url)) } ::
                after
          calls := Function.update pool.calls task.url (pool.calls task.url + 1) }
  /-- A call has failed, and there are attempts left. -/
  | retry
      {pool : Pool}
      {before after : List Task}
      {task : Task}
      (held : pool.active = before ++ task :: after)
      (fails : task.phase = .calling none)
      (left : task.failed + 1 < style.retry.attempts) :
      Step fetcher style pool
        { pool with
          active := before ++ { task with failed := task.failed + 1, phase := .resting } :: after }
  /-- The last attempt has failed. -/
  | giveUp
      {pool : Pool}
      {before after : List Task}
      {task : Task}
      (held : pool.active = before ++ task :: after)
      (fails : task.phase = .calling none)
      (last : style.retry.attempts ≤ task.failed + 1) :
      Step fetcher style pool
        { pool with
          active := before ++ after
          arrived := pool.arrived ++ [⟨task.url, task.place, none⟩] }
  /-- A call has brought a page. -/
  | bring
      {pool : Pool}
      {before after : List Task}
      {task : Task}
      {page : Page}
      (held : pool.active = before ++ task :: after)
      (succeeds : task.phase = .calling (some page)) :
      Step fetcher style pool
        { pool with
          active := before ++ after
          arrived := pool.arrived ++ [⟨task.url, task.place, some page⟩] }

/-- So many steps lead from one pool to another. -/
inductive Run (fetcher : Fetcher) (style : PoolStyle) (pool : Pool) : Nat → Pool → Prop where
  | none :
      Run fetcher style pool 0 pool
  | snoc
      {steps : Nat}
      {reached next : Pool}
      (run : Run fetcher style pool steps reached)
      (step : Step fetcher style reached next) :
      Run fetcher style pool (steps + 1) next

/-- The arrivals in the order of their places. -/
def inOrder (pool : Pool) : List Arrival :=
  pool.arrived.mergeSort fun first second => decide (first.place ≤ second.place)

/-- The report on a pool that is done. -/
def report (pool : Pool) (framework : String) (urls : List String) : Report where
  framework := framework
  totalUrls := (distinct urls).length
  pages := pool.inOrder.filterMap Arrival.page
  failedUrls := (pool.inOrder.filter fun arrival => arrival.page.isNone).map Arrival.url

end Pool

/-! ## All schedules end -/

/-- How many steps are left for an address at most. -/
def Task.workLeft (attempts : Nat) (task : Task) : Nat :=
  match task.phase with
  | .resting => 2 * (attempts - task.failed) + 2
  | .calling _ => 2 * (attempts - task.failed) + 1

namespace Pool

/-- How many steps are left for a pool at most. -/
def workLeft (attempts : Nat) (pool : Pool) : Nat :=
  pool.waiting.length * (2 * attempts + 3) + (pool.active.map (Task.workLeft attempts)).sum

section

variable {fetcher : Fetcher} {style : PoolStyle}

/-- Every step takes from the work that is left. -/
theorem Step.workLeft_lt
    {pool next : Pool}
    (step : Step fetcher style pool next) :
    next.workLeft style.retry.attempts < pool.workLeft style.retry.attempts := by
  cases step with
  | take free next =>
      simp only [workLeft, next, List.length_cons, List.map_cons, List.sum_cons, Task.workLeft,
        Nat.succ_mul]
      omega
  | call held resting =>
      simp only [workLeft, held, List.map_append, List.map_cons, List.sum_append, List.sum_cons,
        Task.workLeft, resting]
      omega
  | retry held fails left =>
      simp only [workLeft, held, List.map_append, List.map_cons, List.sum_append, List.sum_cons,
        Task.workLeft, fails]
      omega
  | giveUp held fails last =>
      simp only [workLeft, held, List.map_append, List.map_cons, List.sum_append, List.sum_cons,
        Task.workLeft, fails]
      omega
  | bring held succeeds =>
      simp only [workLeft, held, List.map_append, List.map_cons, List.sum_append, List.sum_cons,
        Task.workLeft, succeeds]
      omega

/-- The steps of a run come out of the work that there was. -/
theorem Run.steps_add_workLeft_le
    {pool reached : Pool}
    {steps : Nat}
    (run : Run fetcher style pool steps reached) :
    steps + reached.workLeft style.retry.attempts ≤ pool.workLeft style.retry.attempts := by
  induction run with
  | none =>
      omega
  | snoc run step inductionHypothesis =>
      have less := step.workLeft_lt
      omega

/-- As long as an address is left, something can be done next. -/
theorem exists_step
    {pool : Pool}
    (unfinished : ¬ pool.IsDone) :
    ∃ next, Step fetcher style pool next := by
  cases active : pool.active with
  | nil =>
      cases waiting : pool.waiting with
      | nil =>
          exact absurd ⟨waiting, active⟩ unfinished
      | cons first rest =>
          have free : pool.active.length < style.size := by
            rw [active]
            exact Nat.le_max_right _ _
          exact ⟨_, .take free waiting⟩
  | cons task rest =>
      have held : pool.active = [] ++ task :: rest := active
      cases phase : task.phase with
      | resting =>
          exact ⟨_, .call held phase⟩
      | calling answer =>
          cases answer with
          | some page =>
              exact ⟨_, .bring held phase⟩
          | none =>
              rcases Nat.lt_or_ge (task.failed + 1) style.retry.attempts with left | last
              · exact ⟨_, .retry held phase left⟩
              · exact ⟨_, .giveUp held phase last⟩

/-- A step can come before a run. -/
theorem Run.cons
    {pool next reached : Pool}
    {steps : Nat}
    (step : Step fetcher style pool next)
    (run : Run fetcher style next steps reached) :
    Run fetcher style pool (steps + 1) reached := by
  induction run with
  | none =>
      exact .snoc .none step
  | snoc run later inductionHypothesis =>
      exact .snoc inductionHypothesis later

/-- A pool can go on until no address is left. -/
theorem exists_run_isDone (pool : Pool) :
    ∃ steps last, Run fetcher style pool steps last ∧ last.IsDone := by
  -- Each step takes from the work left, so the work bounds how many there can be.
  induction work : pool.workLeft style.retry.attempts using Nat.strongRecOn generalizing pool with
  | ind work inductionHypothesis =>
      by_cases done : pool.IsDone
      · exact ⟨0, pool, .none, done⟩
      · obtain ⟨next, step⟩ : ∃ next, Step fetcher style pool next := exists_step done
        have less := step.workLeft_lt
        obtain ⟨steps, last, run, finished⟩ := inductionHypothesis _ (work ▸ less) next rfl
        exact ⟨steps + 1, last, run.cons step, finished⟩

/-- A pool starts with two steps for every attempt and three more for every address. -/
theorem workLeft_start (attempts : Nat) (urls : List String) :
    (start urls).workLeft attempts = urls.eraseDups.length * (2 * attempts + 3) := by
  simp [start, workLeft, distinct_eq_eraseDups]

end

/-! ## What schedules keep -/

/-- The addresses with their places, whether a worker holds them, they have arrived or they wait. -/
def entries (pool : Pool) : List (String × Nat) :=
  pool.active.map (fun task => (task.url, task.place)) ++
    pool.arrived.map (fun arrival => (arrival.url, arrival.place)) ++ pool.waiting

end Pool

/-- Whether a task goes on with the visit to its address, given the calls made so far. -/
structure Task.Sound
    (task : Task)
    (fetcher : Fetcher)
    (policy : RetryPolicy)
    (calls : Nat) :
    Prop where
  failed_lt : task.failed < policy.attempts
  visit_eq :
    (visit fetcher policy task.url).outcome =
      (callUntilPage (fetcher.answer task.url) (policy.attempts - task.failed) task.failed).outcome
  phase_eq :
    match task.phase with
    | .resting => calls = task.failed
    | .calling answer => calls = task.failed + 1 ∧ answer = fetcher.answer task.url task.failed

/-- Whether an arrival is the outcome of a visit with so many calls. -/
def Arrival.Sound
    (arrival : Arrival)
    (fetcher : Fetcher)
    (policy : RetryPolicy)
    (calls : Nat) :
    Prop :=
  (visit fetcher policy arrival.url).outcome = (arrival.page, calls)

/-- What holds of a pool throughout its work. -/
structure Pool.Sound
    (pool : Pool)
    (fetcher : Fetcher)
    (style : PoolStyle)
    (urls : List String) :
    Prop where
  /-- No address is lost, and none is held twice. -/
  entries_perm : pool.entries.Perm (distinct urls).zipIdx
  tasks : ∀ task ∈ pool.active, task.Sound fetcher style.retry (pool.calls task.url)
  arrivals : ∀ arrival ∈ pool.arrived, arrival.Sound fetcher style.retry (pool.calls arrival.url)
  /-- An address that no worker has taken has had no calls. -/
  untouched :
    ∀ url, url ∉ pool.active.map Task.url → url ∉ pool.arrived.map Arrival.url → pool.calls url = 0

section

variable {fetcher : Fetcher} {style : PoolStyle} {urls : List String}

/-! ### One task -/

namespace Task.Sound

variable {task : Task} {policy : RetryPolicy} {calls : Nat} (sound : task.Sound fetcher policy calls)

include sound

/-- Every task has an attempt left. -/
theorem attempts_sub :
    policy.attempts - task.failed = policy.attempts - (task.failed + 1) + 1 := by
  have := sound.failed_lt
  omega

/-- A call that begins has the answer that comes next in the visit. -/
theorem call (resting : task.phase = .resting) :
    { task with phase := .calling (fetcher.answer task.url calls) }.Sound fetcher policy
      (calls + 1) := by
  have made := sound.phase_eq
  rw [resting] at made
  rw [made]
  exact ⟨sound.failed_lt, sound.visit_eq, rfl, rfl⟩

/-- Another attempt goes on with the visit after the failed one. -/
theorem retry
    (fails : task.phase = .calling none)
    (left : task.failed + 1 < policy.attempts) :
    { task with failed := task.failed + 1, phase := .resting }.Sound fetcher policy calls := by
  have made := sound.phase_eq
  rw [fails] at made
  refine ⟨left, ?_, made.1⟩
  rw [sound.visit_eq, sound.attempts_sub, outcome_callUntilPage_of_none made.2.symm]

/-- A visit of which the last attempt fails comes to nothing. -/
theorem giveUp
    (fails : task.phase = .calling none)
    (last : policy.attempts ≤ task.failed + 1) :
    (Arrival.mk task.url task.place none).Sound fetcher policy calls := by
  have made := sound.phase_eq
  rw [fails] at made
  have noneLeft : policy.attempts - (task.failed + 1) = 0 := by
    omega
  rw [Arrival.Sound, sound.visit_eq, sound.attempts_sub,
    outcome_callUntilPage_of_none made.2.symm, noneLeft, callUntilPage, made.1]
  rfl

/-- A visit of which an attempt succeeds comes to that page. -/
theorem bring
    {page : Page}
    (succeeds : task.phase = .calling (some page)) :
    (Arrival.mk task.url task.place (some page)).Sound fetcher policy calls := by
  have made := sound.phase_eq
  rw [succeeds] at made
  rw [Arrival.Sound, sound.visit_eq, sound.attempts_sub,
    callUntilPage_of_some made.2.symm, made.1]
  rfl

end Task.Sound

/-! ### All addresses -/

namespace Pool

theorem Sound.start (fetcher : Fetcher) (style : PoolStyle) (urls : List String) :
    (Pool.start urls).Sound fetcher style urls where
  entries_perm := by
    simp [entries, Pool.start]
  tasks := nofun
  arrivals := nofun
  untouched := fun _ _ _ => rfl

/-- An address that stands in front of the others is not among them. -/
theorem Sound.not_mem_others
    {pool : Pool}
    (sound : pool.Sound fetcher style urls)
    {url : String}
    {place : Nat}
    {others : List (String × Nat)}
    (front : pool.entries.Perm ((url, place) :: others)) :
    url ∉ others.map Prod.fst := by
  have names : (((url, place) :: others).map Prod.fst).Perm (distinct urls) := by
    have moved := (front.symm.trans sound.entries_perm).map Prod.fst
    rwa [List.zipIdx_map_fst] at moved
  exact (List.nodup_cons.mp (names.nodup_iff.mpr (distinct_nodup urls))).1

/-- A task can stand in front of all other entries. -/
theorem entries_perm_of_active
    {pool : Pool}
    {before after : List Task}
    {task : Task}
    (held : pool.active = before ++ task :: after) :
    pool.entries.Perm
      ((task.url, task.place) :: { pool with active := before ++ after }.entries) := by
  simp only [entries, held, List.map_append, List.map_cons, List.append_assoc, List.cons_append]
  exact List.perm_middle

/-- The first address that waits can stand in front of all other entries. -/
theorem entries_perm_of_waiting
    {pool : Pool}
    {url : String}
    {place : Nat}
    {rest : List (String × Nat)}
    (next : pool.waiting = (url, place) :: rest) :
    pool.entries.Perm ((url, place) :: { pool with waiting := rest }.entries) := by
  simp only [entries, next]
  exact List.perm_middle

/-- An address that stands in no entry is that of no task and no arrival. -/
theorem not_mem_urls_of_not_mem_entries
    {pool : Pool}
    {url : String}
    (absent : url ∉ pool.entries.map Prod.fst) :
    url ∉ pool.active.map Task.url ∧ url ∉ pool.arrived.map Arrival.url := by
  simp only [entries, List.map_append, List.map_map, List.mem_append, not_or] at absent
  exact absent.1

/-- A task is the only one with its address, and its address has not arrived. -/
theorem Sound.url_ne
    {pool : Pool}
    (sound : pool.Sound fetcher style urls)
    {before after : List Task}
    {task : Task}
    (held : pool.active = before ++ task :: after) :
    (∀ other ∈ before ++ after, other.url ≠ task.url) ∧
      ∀ arrival ∈ pool.arrived, arrival.url ≠ task.url := by
  obtain ⟨notActive, notArrived⟩ :=
    not_mem_urls_of_not_mem_entries (sound.not_mem_others (entries_perm_of_active held))
  exact
    ⟨fun other member same => notActive (same ▸ List.mem_map_of_mem member),
      fun arrival member same => notArrived (same ▸ List.mem_map_of_mem member)⟩

theorem mem_active_of_held
    {pool : Pool}
    {before after : List Task}
    {task : Task}
    (held : pool.active = before ++ task :: after) :
    task ∈ pool.active := by
  rw [held]
  exact List.mem_append_right _ List.mem_cons_self

theorem mem_active_of_others
    {pool : Pool}
    {before after : List Task}
    {task other : Task}
    (held : pool.active = before ++ task :: after)
    (member : other ∈ before ++ after) :
    other ∈ pool.active := by
  rw [held]
  rcases List.mem_append.mp member with early | late
  · exact List.mem_append_left _ early
  · exact List.mem_append_right _ (List.mem_cons_of_mem _ late)

/-! ### One step -/

/-- An address that is taken has had no calls. -/
theorem Sound.take
    {pool : Pool}
    (sound : pool.Sound fetcher style urls)
    {url : String}
    {place : Nat}
    {rest : List (String × Nat)}
    (next : pool.waiting = (url, place) :: rest) :
    ({ pool with
        waiting := rest
        active := ⟨url, place, 0, .resting⟩ :: pool.active } : Pool).Sound fetcher style urls := by
  have front := entries_perm_of_waiting next
  obtain ⟨notActive, notArrived⟩ :=
    not_mem_urls_of_not_mem_entries (sound.not_mem_others front)
  have fresh : pool.calls url = 0 := sound.untouched url notActive notArrived
  refine
    { entries_perm := front.symm.trans sound.entries_perm
      tasks := ?_
      arrivals := sound.arrivals
      untouched := ?_ }
  · rintro task (_ | ⟨_, member⟩)
    · exact ⟨Nat.le_max_right _ _, rfl, fresh⟩
    · exact sound.tasks task member
  · intro other notActive
    exact sound.untouched other fun member => notActive (List.mem_cons_of_mem _ member)

/-- A task that changes what it waits for keeps its entry. -/
theorem Sound.replace
    {pool : Pool}
    (sound : pool.Sound fetcher style urls)
    {before after : List Task}
    {task : Task}
    (held : pool.active = before ++ task :: after)
    (failed : Nat)
    (phase : Phase)
    {calls : String → Nat}
    (elsewhere : ∀ url, url ≠ task.url → calls url = pool.calls url)
    (goesOn :
      { task with failed := failed, phase := phase }.Sound fetcher style.retry (calls task.url)) :
    ({ pool with
        active := before ++ { task with failed := failed, phase := phase } :: after
        calls := calls } : Pool).Sound fetcher style urls := by
  obtain ⟨otherTasks, otherArrivals⟩ := sound.url_ne held
  have others : ∀ other ∈ before ++ after, other.Sound fetcher style.retry (calls other.url) := by
    intro other member
    rw [elsewhere _ (otherTasks other member)]
    exact sound.tasks other (mem_active_of_others held member)
  have arrivals : ∀ arrival ∈ pool.arrived,
      arrival.Sound fetcher style.retry (calls arrival.url) := by
    intro arrival member
    rw [elsewhere _ (otherArrivals arrival member)]
    exact sound.arrivals arrival member
  refine
    { entries_perm := ?_
      tasks := ?_
      arrivals := arrivals
      untouched := ?_ }
  · have same := sound.entries_perm
    simpa only [entries, held, List.map_append, List.map_cons] using same
  · intro other member
    rcases List.mem_append.mp member with early | (_ | ⟨_, late⟩)
    · exact others other (List.mem_append_left _ early)
    · exact goesOn
    · exact others other (List.mem_append_right _ late)
  · intro url notActive notArrived
    have names : url ∉ pool.active.map Task.url := by
      simpa only [held, List.map_append, List.map_cons] using notActive
    have different : url ≠ task.url := by
      rintro rfl
      exact names (List.mem_map_of_mem (mem_active_of_held held))
    dsimp only
    rw [elsewhere url different]
    exact sound.untouched url names notArrived

/-- A task whose visit is over arrives. -/
theorem Sound.arrive
    {pool : Pool}
    (sound : pool.Sound fetcher style urls)
    {before after : List Task}
    {task : Task}
    (held : pool.active = before ++ task :: after)
    {page : Option Page}
    (ended :
      (Arrival.mk task.url task.place page).Sound fetcher style.retry (pool.calls task.url)) :
    ({ pool with
        active := before ++ after
        arrived := pool.arrived ++ [⟨task.url, task.place, page⟩] } : Pool).Sound
      fetcher style urls := by
  refine
    { entries_perm := ?_
      tasks := ?_
      arrivals := ?_
      untouched := ?_ }
  · refine List.Perm.trans ?_ ((entries_perm_of_active held).symm.trans sound.entries_perm)
    simp only [entries, List.map_append, List.map_cons, List.map_nil, ← List.append_assoc]
    rw [List.append_assoc _ [_] pool.waiting]
    exact List.perm_middle
  · intro other member
    exact sound.tasks other (mem_active_of_others held member)
  · intro arrival member
    rcases List.mem_append.mp member with earlier | (_ | ⟨_, none⟩)
    · exact sound.arrivals arrival earlier
    · exact ended
    · cases none
  · intro url notActive notArrived
    simp only [List.map_append, List.map_cons, List.map_nil, List.mem_append,
      List.mem_singleton, not_or] at notArrived notActive
    refine sound.untouched url ?_ notArrived.1
    rw [held]
    simp only [List.map_append, List.map_cons, List.mem_append, List.mem_cons, not_or]
    exact ⟨notActive.1, notArrived.2, notActive.2⟩

/-- Every step keeps a pool sound. -/
theorem Sound.step
    {pool next : Pool}
    (sound : pool.Sound fetcher style urls)
    (step : Step fetcher style pool next) :
    next.Sound fetcher style urls := by
  cases step with
  | take free next =>
      exact sound.take next
  | call held resting =>
      refine sound.replace held _ _ (fun url different => Function.update_of_ne different ..) ?_
      rw [Function.update_self]
      exact (sound.tasks _ (mem_active_of_held held)).call resting
  | retry held fails left =>
      have task := sound.tasks _ (mem_active_of_held held)
      exact sound.replace held _ _ (fun _ _ => rfl) (task.retry fails left)
  | giveUp held fails last =>
      have task := sound.tasks _ (mem_active_of_held held)
      exact sound.arrive held (task.giveUp fails last)
  | bring held succeeds =>
      have task := sound.tasks _ (mem_active_of_held held)
      exact sound.arrive held (task.bring succeeds)

/-- Every run keeps a pool sound. -/
theorem Sound.run
    {pool reached : Pool}
    {steps : Nat}
    (sound : pool.Sound fetcher style urls)
    (run : Run fetcher style pool steps reached) :
    reached.Sound fetcher style urls := by
  induction run with
  | none =>
      exact sound
  | snoc run step inductionHypothesis =>
      exact inductionHypothesis.step step

/-! ### The end -/

/-- What arrives for an address, going by a visit to it. -/
def arrivalOf (fetcher : Fetcher) (policy : RetryPolicy) (entry : String × Nat) : Arrival where
  url := entry.1
  place := entry.2
  page := (visit fetcher policy entry.1).page

theorem Sound.arrival_eq
    {pool : Pool}
    (sound : pool.Sound fetcher style urls)
    {arrival : Arrival}
    (member : arrival ∈ pool.arrived) :
    arrival = arrivalOf fetcher style.retry (arrival.url, arrival.place) := by
  have visited := congrArg Prod.fst (sound.arrivals arrival member)
  exact congrArg (Arrival.mk arrival.url arrival.place) visited.symm

/-- In a pool that is done, every address has arrived. -/
theorem Sound.arrived_perm
    {pool : Pool}
    (sound : pool.Sound fetcher style urls)
    (done : pool.IsDone) :
    pool.arrived.Perm ((distinct urls).zipIdx.map (arrivalOf fetcher style.retry)) := by
  have entries := sound.entries_perm
  rw [Pool.entries, done.1, done.2, List.map_nil, List.nil_append, List.append_nil] at entries
  have same : pool.arrived =
      pool.arrived.map fun arrival =>
        arrivalOf fetcher style.retry (arrival.url, arrival.place) := by
    refine (List.map_id' _).symm.trans (List.map_congr_left fun arrival member => ?_)
    exact sound.arrival_eq member
  have visits := entries.map (arrivalOf fetcher style.retry)
  rwa [List.map_map, Function.comp_def, ← same] at visits

theorem pairwise_inOrder (pool : Pool) :
    pool.inOrder.Pairwise fun first second => first.place ≤ second.place := by
  refine (List.pairwise_mergeSort ?_ ?_ pool.arrived).imp of_decide_eq_true
  · intro first second third le le'
    simp only [decide_eq_true_eq] at le le' ⊢
    exact Nat.le_trans le le'
  · intro first second
    simpa using Nat.le_total first.place second.place

theorem pairwise_arrivalOf (fetcher : Fetcher) (policy : RetryPolicy) (urls : List String) :
    (urls.zipIdx.map (arrivalOf fetcher policy)).Pairwise fun first second =>
      first.place ≤ second.place := by
  rw [List.pairwise_map]
  have places := List.pairwise_lt_range' (s := 0) (n := urls.length)
  rw [← List.zipIdx_map_snd, List.pairwise_map] at places
  exact places.imp Nat.le_of_lt

/-- The places tell different arrivals apart, so sorting by them has a single outcome. -/
theorem Sound.inOrder_eq
    {pool : Pool}
    (sound : pool.Sound fetcher style urls)
    (done : pool.IsDone) :
    pool.inOrder = (distinct urls).zipIdx.map (arrivalOf fetcher style.retry) := by
  have perm : pool.inOrder.Perm ((distinct urls).zipIdx.map (arrivalOf fetcher style.retry)) :=
    (List.mergeSort_perm ..).trans (sound.arrived_perm done)
  have antisymmetric :
      ∀ first second,
        first ∈ pool.inOrder →
          second ∈ (distinct urls).zipIdx.map (arrivalOf fetcher style.retry) →
            first.place ≤ second.place → second.place ≤ first.place → first = second := by
    intro first second one other le ge
    obtain ⟨⟨url, place⟩, member, rfl⟩ := List.mem_map.mp (perm.mem_iff.mp one)
    obtain ⟨⟨otherUrl, otherPlace⟩, otherMember, rfl⟩ := List.mem_map.mp other
    obtain rfl : place = otherPlace := Nat.le_antisymm le ge
    rw [(List.mem_zipIdx member).2.2, (List.mem_zipIdx otherMember).2.2]
  exact perm.eq_of_pairwise antisymmetric pool.pairwise_inOrder (pairwise_arrivalOf ..)

/-- The report on a pool that is done is the one on visits one after the other. -/
theorem Sound.report_eq
    {pool : Pool}
    (sound : pool.Sound fetcher style urls)
    (done : pool.IsDone)
    (framework : String) :
    pool.report framework urls = (crawl fetcher framework urls style).report := by
  have visits : (distinct urls).map (visit fetcher style.retry) =
      (distinct urls).zipIdx.map (visit fetcher style.retry ∘ Prod.fst) := by
    rw [← List.map_map, List.zipIdx_map_fst]
  rw [report, sound.inOrder_eq done, crawl, reportOf, visits, List.filterMap_map,
    List.filterMap_map, List.filter_map, List.filter_map, List.map_map, List.map_map,
    List.length_map, List.length_zipIdx]
  rfl

/-- The fetcher has had the calls of one visit for every address. -/
theorem Sound.calls_eq
    {pool : Pool}
    (sound : pool.Sound fetcher style urls)
    (done : pool.IsDone)
    (url : String) :
    pool.calls url = if url ∈ urls then (visit fetcher style.retry url).calls else 0 := by
  have arrived : url ∈ pool.arrived.map Arrival.url ↔ url ∈ urls := by
    have names : (pool.arrived.map Arrival.url).Perm ((distinct urls).zipIdx.map Prod.fst) := by
      have perm := (sound.arrived_perm done).map Arrival.url
      rwa [List.map_map] at perm
    rw [names.mem_iff, List.zipIdx_map_fst, mem_distinct]
  by_cases listed : url ∈ urls
  · obtain ⟨arrival, member, rfl⟩ := List.mem_map.mp (arrived.mpr listed)
    rw [if_pos listed]
    exact (congrArg Prod.snd (sound.arrivals arrival member)).symm
  · rw [if_neg listed]
    refine sound.untouched url ?_ (listed ∘ arrived.mp)
    rw [done.2]
    exact List.not_mem_nil

/-- A run from the start has a bounded length, can always be ended, and ends in one way. -/
theorem Run.of_start
    {steps : Nat}
    {pool : Pool}
    (run : Run fetcher style (Pool.start urls) steps pool)
    (framework : String) :
    steps ≤ urls.eraseDups.length * (2 * style.retry.attempts + 3) ∧
      (∃ more last, Run fetcher style pool more last ∧ last.IsDone) ∧
        (pool.IsDone →
          pool.report framework urls = (crawl fetcher framework urls style).report ∧
            ∀ url,
              pool.calls url =
                if url ∈ urls then (visit fetcher style.retry url).calls else 0) := by
  refine ⟨?_, pool.exists_run_isDone, fun done => ?_⟩
  · have spent := run.steps_add_workLeft_le
    rw [workLeft_start] at spent
    omega
  · have sound := (Sound.start fetcher style urls).run run
    exact ⟨sound.report_eq done framework, sound.calls_eq done⟩

end Pool

end

/-! ## Crawls -/

/--
Where the first calls for each address fail and all later ones succeed, a crawl makes one call more
than fail for each different address, as far as there are attempts, and its report accounts for all
of them in the order of the list.

Neither the number of workers nor the time that calls take has a say in this: in whatever order
calls begin, answer and end, the pool comes to its end, and with the same report and the same calls.
-/
theorem crawl_of_any_schedule
    {fetcher : Fetcher}
    {failures : String → Nat}
    (fails : fetcher.FailsFirst failures)
    (framework : String)
    (urls : List String)
    (style : PoolStyle) :
    let attempts := max 1 style.retry.maxAttempts
    let course := crawl fetcher framework urls style
    course.report.AccountsFor fetcher failures attempts framework urls ∧
      (course.visits.map fun visit => (visit.url, visit.calls)) =
        (urls.eraseDups.map fun url => (url, min (failures url + 1) attempts)) ∧
      ∀ (time workers : Nat),
        let other : Fetcher := { fetcher with time := time }
        let otherStyle : PoolStyle := { style with workers := workers }
        (crawl other framework urls otherStyle).report = course.report ∧
          ∀ steps pool,
            Pool.Run other otherStyle (Pool.start urls) steps pool →
              steps ≤ urls.eraseDups.length * (2 * attempts + 3) ∧
                (∃ more last, Pool.Run other otherStyle pool more last ∧ last.IsDone) ∧
                  (pool.IsDone →
                    pool.report framework urls = course.report ∧
                      ∀ url,
                        pool.calls url =
                          if url ∈ urls then min (failures url + 1) attempts else 0) := by
  intro attempts course
  have policy : attempts = style.retry.attempts := Nat.max_comm ..
  clear_value attempts
  subst policy
  refine ⟨accountsFor_reportOf fails style.retry framework urls, ?_, ?_⟩
  · change ((distinct urls).map (visit fetcher style.retry)).map _ = _
    rw [List.map_map, distinct_eq_eraseDups]
    refine List.map_congr_left fun url _ => ?_
    rw [Function.comp_apply, visit_calls fails]
    rfl
  · intro time workers other otherStyle
    refine ⟨rfl, fun steps pool run => ?_⟩
    obtain ⟨bounded, ends, outcome⟩ := run.of_start framework
    refine ⟨bounded, ends, fun done => ⟨(outcome done).1, fun url => ?_⟩⟩
    have otherFails : other.FailsFirst failures := fails
    rw [(outcome done).2 url, visit_calls otherFails]

/-- A fetcher that brings a page for each address after so many failures. -/
def Fetcher.flaky (failures : String → Nat) : Fetcher where
  answer := fun url call =>
    if call < failures url then none
    else some (Page.ofContent url "nextjs" "title" ("body of " ++ url))
  time := 3

theorem Fetcher.flaky_failsFirst (failures : String → Nat) :
    (Fetcher.flaky failures).FailsFirst failures := by
  intro url call
  simp [Fetcher.flaky]

/--
With two attempts for each, an address that fails once is fetched twice and one that fails ten times
is reported, and a pool without a number of workers comes to this end, too.
-/
theorem crawl_of_any_schedule_flaky :
    let failures := fun url => if url = "bad" then 10 else if url = "slow" then 1 else 0
    let fetcher := Fetcher.flaky failures
    let urls := ["slow", "c", "bad", "slow", "a"]
    let style := PoolStyle.mk 0 ⟨2, 0, 0⟩
    fetcher.FailsFirst failures ∧
      ∃ steps pool,
        Pool.Run fetcher style (Pool.start urls) steps pool ∧
          pool.IsDone ∧
            pool.report "nextjs" urls =
              ⟨"nextjs", 4,
                ["slow", "c", "a"].map fun url =>
                  Page.ofContent url "nextjs" "title" ("body of " ++ url),
                ["bad"]⟩ ∧
              ["slow", "c", "bad", "a", "b"].map pool.calls = [2, 1, 2, 1, 0] := by
  intro failures fetcher urls style
  have fails := Fetcher.flaky_failsFirst failures
  obtain ⟨-, -, schedules⟩ := crawl_of_any_schedule fails "nextjs" urls style
  obtain ⟨-, runs⟩ := schedules 3 0
  obtain ⟨-, ⟨steps, pool, run, done⟩, -⟩ := runs 0 _ .none
  obtain ⟨-, -, outcome⟩ := runs _ pool run
  refine ⟨fails, _, pool, run, done, ?_, ?_⟩
  · rw [(outcome done).1]
    rfl
  · simp only [List.map_cons, List.map_nil, (outcome done).2]
    rfl

end SourceUpgrade.Crawl
