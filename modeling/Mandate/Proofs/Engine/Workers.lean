import Mandate.Engine.Metrics
import Mandate.Engine.Pool
import Mathlib.Data.List.Nodup

/-! # A pool with its workers at work

Callers submit tasks and call for the shutdown while workers take tasks, execute them and stop, in
whatever order these steps happen. A worker that is done with a task goes on with the next one,
also if the task has panicked. Once the queue is closed and empty, workers stop, and a shutdown
returns when all workers for which it waits have stopped. Only the first one has any to wait for.

The submissions are numbered, so that two submissions of one task are told apart. One invariant
says of every order of steps that what has been accepted has been started in the order of its
submission or is still queued, and that what has been started has ended or is in somebody's hands.
-/

namespace Mandate

namespace Pool

variable {Task : Type}

/-- The task that a free worker takes next. -/
def taken? (pool : Pool Task) : Option Task :=
  if pool.running.length < pool.workers then pool.queue.head? else none

/-- The worker that holds the task at a place ends it, one way or the other. -/
def finishAt (pool : Pool Task) (place : Nat) : Pool Task :=
  match pool.running[place]? with
  | none => pool
  | some task =>
      { pool with running := pool.running.eraseIdx place, finished := pool.finished ++ [task] }

/-- Nothing is taken, or the oldest task of the queue. -/
theorem take_cases (pool : Pool Task) :
    (pool.taken? = none ∧ pool.take = pool ∧
      (pool.running.length < pool.workers → pool.queue = [])) ∨
    ∃ task rest, pool.taken? = some task ∧ pool.queue = task :: rest ∧
      pool.running.length < pool.workers ∧
      pool.take = { pool with queue := rest, running := pool.running ++ [task] } := by
  unfold taken? take
  cases hqueue : pool.queue with
  | nil =>
      refine Or.inl ⟨?_, rfl, fun _ => rfl⟩
      split <;> rfl
  | cons task rest =>
      by_cases hfree : pool.running.length < pool.workers
      · exact Or.inr ⟨task, rest, if_pos hfree, rfl, hfree, if_pos hfree⟩
      · exact Or.inl ⟨if_neg hfree, if_neg hfree, fun h => absurd h hfree⟩

/-- Nobody holds a task at the place, or the task is ended. -/
theorem finishAt_cases (pool : Pool Task) (place : Nat) :
    pool.finishAt place = pool ∨
    ∃ task before after, pool.running = before ++ task :: after ∧ pool.finishAt place =
      { pool with running := before ++ after, finished := pool.finished ++ [task] } := by
  unfold finishAt
  cases hplace : pool.running[place]? with
  | none => exact Or.inl rfl
  | some task =>
      obtain ⟨hlt, htask⟩ := List.getElem?_eq_some_iff.mp hplace
      refine Or.inr ⟨task, pool.running.take place, pool.running.drop (place + 1), ?_, ?_⟩
      · rw [← htask, List.getElem_cons_drop, List.take_append_drop]
      · rw [← List.eraseIdx_eq_take_drop_succ]

end Pool

/-- How the execution of a task ends. -/
inductive Ending where
  | normal
  | panic

/-- A step of a caller or of a worker. -/
inductive WorkshopMove (Task : Type) where
  /-- Somebody submits a task. -/
  | submit (task : Task)
  /-- A free worker takes the oldest task and begins to execute it. -/
  | take
  /-- The worker that holds the task at a place is done with it. -/
  | finish (place : Nat) (ending : Ending)
  /-- A free worker hears that the queue is closed and empty. -/
  | stop
  /-- Somebody calls for the shutdown. -/
  | shutdown

/-- Whether a step is one of the workers. -/
def WorkshopMove.isWork {Task : Type} : WorkshopMove Task → Bool
  | .take | .finish _ _ | .stop => true
  | .submit _ | .shutdown => false

/-- The task that a step submits. -/
def WorkshopMove.submission? {Task : Type} : WorkshopMove Task → Option Task
  | .submit task => some task
  | .take | .finish _ _ | .stop | .shutdown => none

/-- A pool with its workers, and what has been seen of them so far. -/
structure Workshop (Task : Type) where
  /-- The tasks stand in the pool under the numbers of their submissions. -/
  pool : Pool (Nat × Task)
  metrics : Metrics := {}
  /-- The number of workers that have stopped. -/
  stopped : Nat := 0
  /-- The number of workers for which a shutdown would wait. -/
  handles : Nat
  /-- The tasks that have been submitted, with the answers. -/
  submitted : List (Task × Bool) := []
  /-- The tasks whose execution has begun. -/
  started : List (Nat × Task) := []
  /-- For how many workers each shutdown waits. -/
  awaited : List Nat := []

namespace Workshop

variable {Task : Type}

/-- A pool whose workers have nothing to do yet. -/
def start (workers capacity : Nat) : Workshop Task where
  pool := .start workers capacity
  handles := max workers 1

/-- The answer to a submission, and the pool after it. -/
def trySubmit (s : Workshop Task) (task : Task) : Bool × Pool (Nat × Task) :=
  s.pool.submit (s.submitted.length, task)

/-- One step. A step that is not possible changes nothing. -/
def step (s : Workshop Task) : WorkshopMove Task → Workshop Task
  | .submit task =>
      let (answer, pool) := s.trySubmit task
      { s with
        pool
        metrics := if answer then s.metrics else s.metrics.dropped
        submitted := s.submitted ++ [(task, answer)] }
  | .take => { s with pool := s.pool.take, started := s.started ++ s.pool.taken?.toList }
  | .finish place _ => { s with pool := s.pool.finishAt place }
  | .stop =>
      if s.pool.closed ∧ s.pool.queue = [] ∧ s.pool.running.length + s.stopped < s.pool.workers then
        { s with stopped := s.stopped + 1 }
      else s
  | .shutdown =>
      { s with pool := s.pool.close, awaited := s.awaited ++ [s.handles], handles := 0 }

/-- A run of steps. -/
def run (s : Workshop Task) (moves : List (WorkshopMove Task)) : Workshop Task :=
  moves.foldl step s

/-- The tasks that have been accepted, in the order of their submission. -/
def accepted (s : Workshop Task) : List (Nat × Task) :=
  s.submitted.zipIdx.filterMap fun ((task, answer), number) =>
    if answer then some (number, task) else none

/-- Whether the first shutdown has returned. -/
def Returned (s : Workshop Task) : Prop :=
  ∃ workers, s.awaited.head? = some workers ∧ workers ≤ s.stopped

/-- How often a submission has been executed. -/
def executions (s : Workshop Task) (number : Nat) : Nat :=
  s.started.countP (·.1 == number)

/-- How much the workers still have to do until all of them have stopped. -/
def remaining (s : Workshop Task) : Nat :=
  2 * s.pool.queue.length + s.pool.running.length + (s.pool.workers - s.stopped)

variable {s : Workshop Task}

/-! ## Accepted tasks -/

theorem accepted_of_submitted {s next : Workshop Task} {task : Task} {answer : Bool}
    (hsubmitted : next.submitted = s.submitted ++ [(task, answer)]) :
    next.accepted =
      s.accepted ++ if answer then [(s.submitted.length, task)] else [] := by
  unfold accepted
  rw [hsubmitted, List.zipIdx_append, List.filterMap_append, List.zipIdx_singleton]
  cases answer <;> simp

theorem mem_accepted_iff {number : Nat} {task : Task} :
    (number, task) ∈ s.accepted ↔ s.submitted[number]? = some (task, true) := by
  unfold accepted
  rw [List.mem_filterMap]
  constructor
  · rintro ⟨⟨⟨task', answer⟩, number'⟩, hmem, hsome⟩
    have hplace := List.mem_zipIdx_iff_getElem?.mp hmem
    cases answer with
    | false => cases hsome
    | true =>
        cases hsome
        exact hplace
  · intro hplace
    exact ⟨((task, true), number), List.mem_zipIdx_iff_getElem?.mpr hplace, rfl⟩

/-- No two accepted tasks have one number. -/
theorem nodup_numbers_accepted (s : Workshop Task) : (s.accepted.map (·.1)).Nodup := by
  have hascending : (s.submitted.zipIdx.map (·.2)).Pairwise (· < ·) := by
    rw [List.zipIdx_map_snd]
    exact List.pairwise_lt_range'
  rw [List.Nodup, List.pairwise_map, accepted, List.pairwise_filterMap]
  refine (List.pairwise_map.mp hascending).imp ?_
  rintro ⟨⟨task, answer⟩, number⟩ ⟨⟨task', answer'⟩, number'⟩ hlt _ hsome _ hsome'
  cases answer with
  | false => cases hsome
  | true =>
      cases answer' with
      | false => cases hsome'
      | true =>
          cases hsome
          cases hsome'
          exact Nat.ne_of_lt hlt

/-! ## Every order of steps -/

/-- What holds after a run of steps, in whatever order. -/
structure Orderly (workers capacity : Nat) (s : Workshop Task) : Prop where
  workers : s.pool.workers = max workers 1
  capacity : s.pool.capacity = max capacity 1
  withinCapacity : s.pool.queue.length ≤ s.pool.capacity
  waits : if s.pool.closed then s.handles = 0 ∧ s.awaited.head? = some s.pool.workers
    else s.handles = s.pool.workers ∧ s.awaited = []
  queued : s.started ++ s.pool.queue = s.accepted
  held : s.started.Perm (s.pool.finished ++ s.pool.running)
  oneByOne : s.pool.workers = 1 → s.started = s.pool.finished ++ s.pool.running
  staffed : s.pool.running.length + s.stopped ≤ s.pool.workers
  stoppedAtEnd : 0 < s.stopped → s.pool.closed = true ∧ s.pool.queue = []
  dropped : s.metrics.droppedTasks = s.submitted.countP (!·.2)

variable {workers capacity : Nat}

theorem Orderly.start : Orderly workers capacity (start workers capacity : Workshop Task) where
  workers := rfl
  capacity := rfl
  withinCapacity := Nat.zero_le _
  waits := ⟨rfl, rfl⟩
  queued := rfl
  held := .nil
  oneByOne _ := rfl
  staffed := Nat.zero_le _
  stoppedAtEnd h := absurd h (Nat.lt_irrefl 0)
  dropped := rfl

/-- A submission is accepted and queued, or it is refused and counted. -/
theorem step_submit (s : Workshop Task) (task : Task) :
    (s.pool.accepts = true ∧ s.step (.submit task) =
      { s with
        pool := { s.pool with queue := s.pool.queue ++ [(s.submitted.length, task)] }
        submitted := s.submitted ++ [(task, true)] }) ∨
    (s.pool.accepts = false ∧ s.step (.submit task) =
      { s with metrics := s.metrics.dropped, submitted := s.submitted ++ [(task, false)] }) := by
  cases haccepts : s.pool.accepts with
  | true => exact Or.inl ⟨rfl, by simp [step, trySubmit, Pool.submit, haccepts]⟩
  | false => exact Or.inr ⟨rfl, by simp [step, trySubmit, Pool.submit, haccepts]⟩

theorem Orderly.submit (horderly : s.Orderly workers capacity) (task : Task) :
    (s.step (.submit task)).Orderly workers capacity := by
  rcases s.step_submit task with ⟨haccepts, hstep⟩ | ⟨-, hstep⟩
  · obtain ⟨hopen, hroom⟩ : s.pool.closed = false ∧ s.pool.queue.length < s.pool.capacity := by
      simpa [Pool.accepts] using haccepts
    rw [hstep]
    exact
      { horderly with
        withinCapacity := by
          rw [List.length_append]
          exact hroom
        queued := by
          rw [accepted_of_submitted rfl, ← horderly.queued, List.append_assoc]
          rfl
        stoppedAtEnd := fun hstopped => by
          cases hopen.symm.trans (horderly.stoppedAtEnd hstopped).1
        dropped := by
          rw [List.countP_append, horderly.dropped]
          rfl }
  · rw [hstep]
    exact
      { horderly with
        queued := by
          rw [accepted_of_submitted rfl, ← horderly.queued]
          simp
        dropped := by
          rw [List.countP_append, ← horderly.dropped]
          rfl }

theorem Orderly.take (horderly : s.Orderly workers capacity) :
    (s.step .take).Orderly workers capacity := by
  rcases s.pool.take_cases with ⟨hnothing, hsame, -⟩ | ⟨task, rest, htask, hqueue, hfree, htake⟩
  · rw [show s.step .take = s by simp [step, hnothing, hsame]]
    exact horderly
  · rw [show s.step .take = { s with
        pool := { s.pool with queue := rest, running := s.pool.running ++ [task] }
        started := s.started ++ [task] } by simp [step, htask, htake]]
    have hstopped : s.stopped = 0 := by
      by_contra hsome
      obtain ⟨-, hempty⟩ := horderly.stoppedAtEnd (Nat.pos_of_ne_zero hsome)
      cases hqueue.symm.trans hempty
    exact
      { horderly with
        withinCapacity := by
          have hwithin := horderly.withinCapacity
          rw [hqueue, List.length_cons] at hwithin
          exact Nat.le_of_succ_le hwithin
        queued := by
          rw [List.append_assoc, List.singleton_append, ← hqueue]
          exact horderly.queued
        held := by
          rw [← List.append_assoc]
          exact horderly.held.append_right [task]
        oneByOne := fun hone => by
          rw [horderly.oneByOne hone, List.append_assoc]
        staffed := by
          rw [hstopped, List.length_append, List.length_singleton]
          exact hfree
        stoppedAtEnd := fun hsome => absurd hstopped (Nat.ne_of_gt hsome) }

theorem Orderly.finish (horderly : s.Orderly workers capacity) (place : Nat) (ending : Ending) :
    (s.step (.finish place ending)).Orderly workers capacity := by
  rcases s.pool.finishAt_cases place with hsame | ⟨task, before, after, hrunning, hfinish⟩
  · rw [show s.step (.finish place ending) = s by simp [step, hsame]]
    exact horderly
  · rw [show s.step (.finish place ending) = { s with
        pool := { s.pool with
          running := before ++ after
          finished := s.pool.finished ++ [task] } } by simp [step, hfinish]]
    have hstaffed := horderly.staffed
    rw [hrunning, List.length_append, List.length_cons] at hstaffed
    have hleft : (before ++ after).length + s.stopped ≤ s.pool.workers := by
      rw [List.length_append]
      omega
    exact
      { horderly with
        held := by
          refine horderly.held.trans ?_
          rw [hrunning, List.append_assoc, List.singleton_append]
          exact List.perm_middle.append_left s.pool.finished
        oneByOne := fun hone => by
          -- the only worker has held nothing else
          have hone : s.pool.workers = 1 := hone
          obtain rfl : before = [] := List.eq_nil_of_length_eq_zero (by omega)
          rw [horderly.oneByOne hone, hrunning, List.nil_append, List.nil_append,
            List.append_assoc, List.singleton_append]
        staffed := hleft }

theorem Orderly.stop (horderly : s.Orderly workers capacity) :
    (s.step .stop).Orderly workers capacity := by
  unfold step
  dsimp only
  split
  next hend =>
    obtain ⟨hclosed, hempty, hfree⟩ := hend
    exact
      { horderly with
        staffed := hfree
        stoppedAtEnd := fun _ => ⟨hclosed, hempty⟩ }
  next => exact horderly

theorem Orderly.shutdown (horderly : s.Orderly workers capacity) :
    (s.step .shutdown).Orderly workers capacity :=
  { horderly with
    waits := by
      have hwaits := horderly.waits
      refine ⟨rfl, ?_⟩
      change (s.awaited ++ [s.handles]).head? = some s.pool.workers
      split at hwaits
      next => rw [List.head?_append, hwaits.2, Option.some_or]
      next =>
        rw [hwaits.1, hwaits.2]
        rfl
    stoppedAtEnd := fun hstopped => ⟨rfl, (horderly.stoppedAtEnd hstopped).2⟩ }

theorem Orderly.step (horderly : s.Orderly workers capacity) (move : WorkshopMove Task) :
    (s.step move).Orderly workers capacity := by
  cases move with
  | submit task => exact horderly.submit task
  | take => exact horderly.take
  | finish place ending => exact horderly.finish place ending
  | stop => exact horderly.stop
  | shutdown => exact horderly.shutdown

theorem Orderly.run (horderly : s.Orderly workers capacity) (moves : List (WorkshopMove Task)) :
    (s.run moves).Orderly workers capacity := by
  induction moves generalizing s with
  | nil => exact horderly
  | cons move rest ih => exact ih (horderly.step move)

theorem closed_step (s : Workshop Task) (move : WorkshopMove Task) :
    (s.step move).pool.closed = true ↔ s.pool.closed = true ∨ move = .shutdown := by
  cases move with
  | submit task => rcases s.step_submit task with ⟨-, hstep⟩ | ⟨-, hstep⟩ <;> simp [hstep]
  | take =>
      rcases s.pool.take_cases with ⟨-, htake, -⟩ | ⟨_, _, -, -, -, htake⟩ <;> simp [step, htake]
  | finish place ending =>
      rcases s.pool.finishAt_cases place with hfinish | ⟨_, _, _, -, hfinish⟩ <;>
        simp [step, hfinish]
  | stop =>
      unfold step
      dsimp only
      split <;> simp
  | shutdown => simp [step, Pool.close]

/-- The pool is closed once a shutdown has begun. -/
theorem closed_run (moves : List (WorkshopMove Task)) :
    (s.run moves).pool.closed = true ↔ s.pool.closed = true ∨ .shutdown ∈ moves := by
  induction moves generalizing s with
  | nil => simp [run]
  | cons move rest ih =>
      refine ih.trans ?_
      rw [closed_step, List.mem_cons, or_assoc, eq_comm (a := move)]

/-! ## The end of a shutdown -/

/-- When the first shutdown has returned, everything that has been accepted has ended. -/
theorem Orderly.of_returned (horderly : s.Orderly workers capacity) (hreturned : s.Returned) :
    s.pool.queue = [] ∧ s.pool.running = [] := by
  obtain ⟨awaited, hfirst, hstopped⟩ := hreturned
  have hwaits := horderly.waits
  split at hwaits
  next =>
    obtain rfl : s.pool.workers = awaited := Option.some.inj (hwaits.2.symm.trans hfirst)
    have hsome : 0 < s.pool.workers := by
      rw [horderly.workers]
      exact Nat.lt_of_lt_of_le Nat.zero_lt_one (Nat.le_max_right _ _)
    have hstaffed := horderly.staffed
    exact ⟨(horderly.stoppedAtEnd (by omega)).2, List.eq_nil_of_length_eq_zero (by omega)⟩
  next =>
    rw [hwaits.2] at hfirst
    cases hfirst

theorem Orderly.accepted_eq_started (horderly : s.Orderly workers capacity)
    (hreturned : s.Returned) : s.accepted = s.started := by
  rw [← horderly.queued, (horderly.of_returned hreturned).1, List.append_nil]

theorem Orderly.finished_of_returned (horderly : s.Orderly workers capacity)
    (hreturned : s.Returned) : s.pool.finished.Perm s.accepted := by
  have hheld := horderly.held
  rw [(horderly.of_returned hreturned).2, List.append_nil] at hheld
  rw [horderly.accepted_eq_started hreturned]
  exact hheld.symm

/-- No step gives the workers more to do once the pool is closed. -/
theorem remaining_step_le (hclosed : s.pool.closed = true) (move : WorkshopMove Task) :
    (s.step move).remaining ≤ s.remaining := by
  cases move with
  | submit task =>
      rcases s.step_submit task with ⟨haccepts, -⟩ | ⟨-, hstep⟩
      · simp [Pool.accepts, hclosed] at haccepts
      · rw [hstep]
        exact Nat.le_refl _
  | take =>
      rcases s.pool.take_cases with ⟨-, htake, -⟩ | ⟨_, _, -, hqueue, -, htake⟩
      · simp [step, remaining, htake]
      · simp [step, remaining, htake, hqueue]
        omega
  | finish place ending =>
      rcases s.pool.finishAt_cases place with hfinish | ⟨_, _, _, hrunning, hfinish⟩
      · simp [step, remaining, hfinish]
      · simp [step, remaining, hfinish, hrunning]
  | stop =>
      unfold step remaining
      dsimp only
      split
      · dsimp only
        omega
      · exact Nat.le_refl _
  | shutdown => exact Nat.le_refl _

/-- As long as a shutdown has not returned, some worker can go on and has less to do then. -/
theorem Orderly.exists_work (horderly : s.Orderly workers capacity)
    (hclosed : s.pool.closed = true) (hwaiting : ¬ s.Returned) :
    ∃ move : WorkshopMove Task, move.isWork = true ∧ (s.step move).remaining < s.remaining := by
  have hwaits := horderly.waits
  rw [if_pos hclosed] at hwaits
  have hworking : s.stopped < s.pool.workers := by
    by_contra hdone
    exact hwaiting ⟨_, hwaits.2, Nat.le_of_not_lt hdone⟩
  cases hrunning : s.pool.running with
  | cons task rest =>
      refine ⟨.finish 0 .normal, rfl, ?_⟩
      simp [Workshop.step, remaining, Pool.finishAt, hrunning]
  | nil =>
      cases hqueue : s.pool.queue with
      | nil =>
          refine ⟨.stop, rfl, ?_⟩
          simp [Workshop.step, remaining, hclosed, hqueue, hrunning, hworking]
          omega
      | cons task rest =>
          refine ⟨.take, rfl, ?_⟩
          have hsome : 0 < s.pool.workers := Nat.zero_lt_of_lt hworking
          simp [Workshop.step, remaining, Pool.take, hqueue, hrunning, hsome]
          omega

theorem accepted_run_of_closed (hclosed : s.pool.closed = true)
    (moves : List (WorkshopMove Task)) : (s.run moves).accepted = s.accepted := by
  induction moves generalizing s with
  | nil => rfl
  | cons move rest ih =>
      refine (ih ((closed_step s move).mpr (Or.inl hclosed))).trans ?_
      cases move with
      | submit task =>
          rcases s.step_submit task with ⟨haccepts, -⟩ | ⟨-, hstep⟩
          · simp [Pool.accepts, hclosed] at haccepts
          · rw [hstep]
            exact (accepted_of_submitted rfl).trans (List.append_nil _)
      | stop =>
          unfold step
          dsimp only
          split <;> rfl
      | _ => rfl

/-- A shutdown comes to the same as ending at once what is queued or in somebody's hands when it
begins, up to the order in which the tasks end. -/
theorem Orderly.finished_perm_shutdown (horderly : s.Orderly workers capacity)
    (later : List (WorkshopMove Task)) (hreturned : ((s.step .shutdown).run later).Returned) :
    ((s.step .shutdown).run later).pool.finished.Perm s.pool.shutdown.finished := by
  have hend := (horderly.shutdown.run later).finished_of_returned hreturned
  rw [accepted_run_of_closed rfl] at hend
  refine hend.trans ?_
  change s.accepted.Perm (s.pool.finished ++ s.pool.running ++ s.pool.queue)
  rw [← horderly.queued]
  exact horderly.held.append_right s.pool.queue

/-! ## Exactly once -/

theorem Orderly.trySubmit_eq_false_iff (horderly : s.Orderly workers capacity) (task : Task) :
    (s.trySubmit task).1 = false ↔
      s.pool.queue.length = max capacity 1 ∨ s.pool.closed = true := by
  have hwithin := horderly.withinCapacity
  rw [horderly.capacity] at hwithin
  unfold trySubmit Pool.submit Pool.accepts
  rw [horderly.capacity]
  cases hclosed : s.pool.closed with
  | true => simp
  | false =>
      by_cases hroom : s.pool.queue.length < max capacity 1
      · simp [hroom, Nat.ne_of_lt hroom]
      · simp [Nat.le_antisymm hwithin (Nat.le_of_not_lt hroom)]

theorem Orderly.mem_submitted (horderly : s.Orderly workers capacity) {number : Nat} {task : Task}
    (hstarted : (number, task) ∈ s.started) : s.submitted[number]? = some (task, true) := by
  rw [← mem_accepted_iff, ← horderly.queued]
  exact List.mem_append_left _ hstarted

theorem Orderly.nodup_started (horderly : s.Orderly workers capacity) :
    (s.started.map (·.1)).Nodup := by
  have hnodup := s.nodup_numbers_accepted
  rw [← horderly.queued, List.map_append] at hnodup
  exact (List.nodup_append.mp hnodup).1

theorem executions_eq_count (s : Workshop Task) (number : Nat) :
    s.executions number = (s.started.map (·.1)).count number := by
  rw [executions, List.count, List.countP_map]
  rfl

/-- What a run has seen submitted are the tasks of its submissions. -/
theorem submitted_run (moves : List (WorkshopMove Task)) : (s.run moves).submitted.map (·.1) =
    s.submitted.map (·.1) ++ moves.filterMap WorkshopMove.submission? := by
  induction moves generalizing s with
  | nil => exact (List.append_nil _).symm
  | cons move rest ih =>
      refine ih.trans ?_
      cases move with
      | submit task => simp [step, WorkshopMove.submission?]
      | stop =>
          unfold step
          dsimp only
          split <;> rfl
      | _ => rfl

/-- Whatever number of workers and places a pool has, and in whatever order callers and workers do
their steps: a submission is refused exactly if the queue is full or a shutdown has begun. Only what
has been accepted is executed, and nothing more than once; when the first shutdown has returned,
every accepted task has been executed once and has ended, also if tasks have panicked. What has been
refused is counted as dropped. Tasks begin in the order of their submission, and with one worker
each has ended before the next begins. After a shutdown another one returns at once and changes
nothing; workers can go on until the first one returns, and no step gives them more to do. -/
theorem accepted_tasks_run_once (workers capacity : Nat) (moves : List (WorkshopMove Task)) :
    let s := (start workers capacity : Workshop Task).run moves
    s.submitted.map (·.1) = moves.filterMap WorkshopMove.submission? ∧
    (∀ task, (s.trySubmit task).1 = false ↔
      s.pool.queue.length = max capacity 1 ∨ .shutdown ∈ moves) ∧
    (∀ number task, (number, task) ∈ s.started → s.submitted[number]? = some (task, true)) ∧
    (∀ number, s.executions number ≤ 1) ∧
    (∀ number task, s.submitted[number]? = some (task, false) → s.executions number = 0) ∧
    (s.Returned → ∀ number task, s.submitted[number]? = some (task, true) →
      s.executions number = 1 ∧ (number, task) ∈ s.pool.finished) ∧
    s.metrics.droppedTasks = s.submitted.countP (!·.2) ∧
    s.started ++ s.pool.queue = s.accepted ∧
    (max workers 1 = 1 →
      s.started = s.pool.finished ++ s.pool.running ∧ s.pool.running.length ≤ 1) ∧
    (.shutdown ∈ moves →
      s.step .shutdown = { s with awaited := s.awaited ++ [0] } ∧
      (∀ move, (s.step move).remaining ≤ s.remaining) ∧
      (s.Returned ∨ ∃ move : WorkshopMove Task, move.isWork = true ∧
        (s.step move).remaining < s.remaining)) := by
  intro s
  have horderly : s.Orderly workers capacity := Orderly.start.run moves
  have hclosed : s.pool.closed = true ↔ .shutdown ∈ moves :=
    (closed_run moves).trans (or_iff_right Bool.false_ne_true)
  refine ⟨submitted_run moves, fun task => ?_, fun number task => horderly.mem_submitted,
    fun number => ?_, fun number task hrefused => ?_, fun hreturned number task haccepted => ?_,
    horderly.dropped, horderly.queued, fun hone => ?_, fun hbegun => ?_⟩
  · rw [horderly.trySubmit_eq_false_iff, hclosed]
  · rw [executions_eq_count]
    exact List.nodup_iff_count_le_one.mp horderly.nodup_started number
  · rw [executions_eq_count, List.count_eq_zero]
    intro hmem
    obtain ⟨⟨_, task'⟩, hstarted, rfl⟩ := List.mem_map.mp hmem
    cases hrefused.symm.trans (horderly.mem_submitted hstarted)
  · have hmem := mem_accepted_iff.mpr haccepted
    refine ⟨?_, (horderly.finished_of_returned hreturned).mem_iff.mpr hmem⟩
    rw [horderly.accepted_eq_started hreturned] at hmem
    rw [executions_eq_count]
    exact List.count_eq_one_of_mem horderly.nodup_started (List.mem_map_of_mem hmem)
  · have hworkers := horderly.workers.trans hone
    have hstaffed := horderly.staffed
    exact ⟨horderly.oneByOne hworkers, by omega⟩
  · have hclosed := hclosed.mpr hbegun
    refine ⟨?_, fun move => remaining_step_le hclosed move, ?_⟩
    · have hwaits := horderly.waits
      rw [if_pos hclosed] at hwaits
      simp only [step, Pool.close, hwaits.1, ← hclosed]
    · rcases Classical.em s.Returned with hreturned | hwaiting
      · exact Or.inl hreturned
      · exact Or.inr (horderly.exists_work hclosed hwaiting)

/-- Two workers with one place in the queue. The second task panics, the third comes when the queue
is full, and the last one after the shutdown has begun. -/
def crowdedRun : List (WorkshopMove String) :=
  [.submit "a", .take, .submit "b", .submit "c", .shutdown, .submit "d", .take,
    .finish 1 .panic, .finish 0 .normal, .stop, .stop]

/-- The two tasks that are accepted are executed once, and the others never. -/
theorem crowded_run_executes_two :
    let s := (start 2 1).run crowdedRun
    s.Returned ∧ s.executions 0 = 1 ∧ s.executions 1 = 1 ∧ s.executions 2 = 0 ∧
      s.executions 3 = 0 ∧ s.metrics.droppedTasks = 2 := by
  intro s
  obtain ⟨-, -, -, -, hrefused, hend, hdropped, -⟩ := accepted_tasks_run_once 2 1 crowdedRun
  have hreturned : s.Returned := ⟨2, rfl, Nat.le_refl 2⟩
  exact ⟨hreturned, (hend hreturned 0 "a" rfl).1, (hend hreturned 1 "b" rfl).1,
    hrefused 2 "c" rfl, hrefused 3 "d" rfl, hdropped.trans rfl⟩

end Workshop

end Mandate
