import Mandate.Json.Value

/-!
# Background work

Work that nobody waits for goes through a bounded queue. A full queue, or one that has been
closed, drops what is submitted. Workers take tasks in the order of submission; closing lets them
finish what is queued. At most one task is in the hands of each worker.
-/

namespace Mandate

/-- A queue of tasks with its workers. -/
structure Pool (Task : Type) where
  /-- The number of workers, at least one. -/
  workers : Nat
  /-- The number of places in the queue, at least one. -/
  capacity : Nat
  queue : List Task := []
  /-- Tasks in the hands of workers. -/
  running : List Task := []
  /-- Tasks that workers are done with, in the order in which they ended. -/
  finished : List Task := []
  closed : Bool := false
  deriving DecidableEq, Repr

namespace Pool

variable {Task : Type}

/-- A pool with nothing to do. Zero workers or places count as one. -/
def start (workers capacity : Nat) : Pool Task where
  workers := max workers 1
  capacity := max capacity 1

/-- Whether a task submitted now would be accepted. -/
def accepts (pool : Pool Task) : Bool :=
  !pool.closed && pool.queue.length < pool.capacity

/-- Submit a task. The answer is whether it was accepted. -/
def submit (pool : Pool Task) (task : Task) : Bool × Pool Task :=
  if pool.accepts then (true, { pool with queue := pool.queue ++ [task] })
  else (false, pool)

/-- A free worker takes the oldest task. -/
def take (pool : Pool Task) : Pool Task :=
  match pool.queue with
  | [] => pool
  | task :: rest =>
      if pool.running.length < pool.workers then
        { pool with queue := rest, running := pool.running ++ [task] }
      else pool

/-- The worker that has held its task the longest ends it, one way or the other. -/
def finish (pool : Pool Task) : Pool Task :=
  match pool.running with
  | [] => pool
  | task :: rest => { pool with running := rest, finished := pool.finished ++ [task] }

/-- Close the queue. -/
def close (pool : Pool Task) : Pool Task :=
  { pool with closed := true }

/-- Let the workers end everything that is queued or in their hands. -/
def drain (pool : Pool Task) : Pool Task :=
  { pool with
    queue := []
    running := []
    finished := pool.finished ++ pool.running ++ pool.queue }

/-- Close the queue and wait until everything has ended. -/
def shutdown (pool : Pool Task) : Pool Task :=
  pool.close.drain

end Pool

end Mandate
