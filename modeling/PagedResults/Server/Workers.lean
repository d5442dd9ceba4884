import PagedResults.Failure
import PagedResults.Journal

/-! # Worker pools

A pool runs jobs on a fixed number of workers, which take them from one queue. A job that halts takes
its worker with it. A job is accepted as long as the pool is not stopped and a worker is left. Once the
pool is stopped, a worker that finds the queue empty ends.
-/

namespace PagedResults

/-- What a worker does, for jobs of type `ι`. -/
inductive Worker (ι : Type) where
  | idle
  | busy (job : ι)
  | ended
  /-- The job halted. -/
  | halted
deriving DecidableEq, Repr

/-- Whether a worker is still there. -/
def Worker.isAlive {ι : Type} : Worker ι → Bool
  | idle | busy _ => true
  | ended | halted => false

/-- A pool with its queue. -/
structure Workers (ι : Type) where
  workers : List (Worker ι)
  queue : List ι := []
  stopped : Bool := false
deriving DecidableEq, Repr

/-- What can happen to a pool. -/
inductive Workers.Happening (ι : Type) where
  /-- A job is handed in. -/
  | submit (job : ι)
  /-- A worker takes the first job of the queue. -/
  | take (worker : Nat)
  /-- The job of a worker returns, or halts. -/
  | finish (worker : Nat) (halts : Bool)
  /-- No more jobs are handed in. -/
  | stop
  /-- A worker sees that there is nothing more to do. -/
  | leave (worker : Nat)
deriving DecidableEq, Repr

namespace Workers

variable {ι : Type}

/-- A pool of so many workers, of which there must be one at least. -/
def ofSize (size : Nat) : Except Halt (Workers ι) :=
  if size = 0 then .error .emptyPool else .ok { workers := List.replicate size .idle }

/-- Whether a job would be accepted. -/
def accepts (pool : Workers ι) : Bool := !pool.stopped && pool.workers.any Worker.isAlive

/-- What happens next, if it can. -/
def step? (pool : Workers ι) : Happening ι → Option (Workers ι)
  | .submit job => if pool.accepts then some { pool with queue := pool.queue ++ [job] } else none
  | .take worker =>
      match pool.workers[worker]?, pool.queue with
      | some .idle, job :: rest =>
          some { pool with workers := pool.workers.set worker (.busy job), queue := rest }
      | _, _ => none
  | .finish worker halts =>
      match pool.workers[worker]? with
      | some (.busy _) =>
          some { pool with workers := pool.workers.set worker (if halts then .halted else .idle) }
      | _ => none
  | .stop => if pool.stopped then none else some { pool with stopped := true }
  | .leave worker =>
      match pool.workers[worker]?, pool.queue with
      | some .idle, [] =>
          if pool.stopped then some { pool with workers := pool.workers.set worker .ended } else none
      | _, _ => none

/-- A stopped pool is gone when its last worker is. -/
def isGone (pool : Workers ι) : Bool := pool.stopped && pool.workers.all (!·.isAlive)

/-- What is noted while a pool goes: its workers are waited for in order. -/
def farewell (pool : Workers ι) : List Event :=
  pool.workers.zipIdx.flatMap fun (worker, index) =>
    .workerStopping index ::
      match worker with
      | .halted => [.workerHalted index]
      | _ => []

end Workers

end PagedResults
