import Mathlib.Algebra.GroupWithZero.Nat
import Mathlib.Data.List.Count
import PagedResults.Server.Workers

/-! # Which jobs a worker pool runs

Workers take jobs from one queue, in any order among themselves. A `Ledger` keeps what the pool itself does
not: which jobs were accepted, started and finished, and how many of them halted. Each accepted job is
started at most once, in the order in which the jobs were handed in. As long as fewer jobs halt than there
are workers, each is started and finished, and a stopped pool is gone only when all of them are. A job that
halts takes its worker with it, though: once the last worker is lost, what is still in the queue is never
run, and no further job is accepted.
-/

namespace PagedResults

namespace Worker

variable {ι : Type}

/-- The job that a worker is busy with. -/
def job? : Worker ι → Option ι
  | busy job => some job
  | _ => none

def isHalted : Worker ι → Bool
  | halted => true
  | _ => false

/-- The steps that a worker can still take without a further job. -/
def steps : Worker ι → Nat
  | idle => 1
  | busy _ => 2
  | ended | halted => 0

/-- The jobs that workers are busy with. -/
def running (workers : List (Worker ι)) : List ι := workers.filterMap job?

private theorem running_busy {front back : List (Worker ι)} {job : ι} :
    (running (front ++ busy job :: back)).Perm (job :: running (front ++ back)) := by
  rw [running, running, List.filterMap_append, List.filterMap_append]
  exact List.perm_middle

private theorem running_of_none {front back : List (Worker ι)} {worker : Worker ι} (free : worker.job? = none) :
    running (front ++ worker :: back) = running (front ++ back) := by
  rw [running, running, List.filterMap_append, List.filterMap_append, List.filterMap_cons_none free]

end Worker

namespace Workers

variable {ι : Type}

/-! ## Steps of a pool -/

/-- What a step of a pool does. -/
inductive Step : Workers ι → Happening ι → Workers ι → Prop
  | submitted {pool : Workers ι} {job : ι} (accepted : pool.accepts = true) :
      Step pool (.submit job) { pool with queue := pool.queue ++ [job] }
  | took {front back : List (Worker ι)} {job : ι} {queue : List ι} {stopped : Bool} :
      Step ⟨front ++ .idle :: back, job :: queue, stopped⟩ (.take front.length)
        ⟨front ++ .busy job :: back, queue, stopped⟩
  | returned {front back : List (Worker ι)} {job : ι} {queue : List ι} {stopped : Bool} :
      Step ⟨front ++ .busy job :: back, queue, stopped⟩ (.finish front.length false)
        ⟨front ++ .idle :: back, queue, stopped⟩
  | halted {front back : List (Worker ι)} {job : ι} {queue : List ι} {stopped : Bool} :
      Step ⟨front ++ .busy job :: back, queue, stopped⟩ (.finish front.length true)
        ⟨front ++ .halted :: back, queue, stopped⟩
  | stopped {workers : List (Worker ι)} {queue : List ι} :
      Step ⟨workers, queue, false⟩ .stop ⟨workers, queue, true⟩
  | left {front back : List (Worker ι)} :
      Step ⟨front ++ .idle :: back, [], true⟩ (.leave front.length)
        ⟨front ++ .ended :: back, [], true⟩

/-- A worker stands between the others, where another one can be put in its place. -/
theorem exists_split {workers : List (Worker ι)} {index : Nat} {worker : Worker ι}
    (found : workers[index]? = some worker) :
    ∃ front back, workers = front ++ worker :: back ∧ front.length = index ∧
      ∀ other, workers.set index other = front ++ other :: back := by
  obtain ⟨inside, rfl⟩ := List.getElem?_eq_some_iff.mp found
  refine ⟨workers.take index, workers.drop (index + 1), ?_, ?_, ?_⟩
  · rw [← List.drop_eq_getElem_cons inside, List.take_append_drop]
  · exact List.length_take_of_le (Nat.le_of_lt inside)
  · intro other
    exact List.set_eq_take_append_cons_drop.trans (if_pos inside)

/-- A step that can be taken is one of these. -/
theorem step_of_step? {pool next : Workers ι} {happening : Happening ι}
    (stepped : pool.step? happening = some next) : Step pool happening next := by
  obtain ⟨workers, queue, stopped⟩ := pool
  cases happening with
  | submit job =>
    rw [step?, Option.ite_none_right_eq_some] at stepped
    obtain ⟨accepted, stepped⟩ := stepped
    cases stepped
    exact .submitted accepted
  | take worker =>
    rw [step?] at stepped
    split at stepped
    · next job rest found queued =>
      obtain ⟨front, back, rfl, rfl, replaced⟩ := exists_split found
      obtain rfl : queue = job :: rest := queued
      cases stepped
      rw [replaced]
      exact .took
    · cases stepped
  | finish worker halts =>
    rw [step?] at stepped
    split at stepped
    · next job found =>
      obtain ⟨front, back, rfl, rfl, replaced⟩ := exists_split found
      cases stepped
      rw [replaced]
      cases halts with
      | false => exact .returned
      | true => exact .halted
    · cases stepped
  | stop =>
    rw [step?, Option.ite_none_left_eq_some] at stepped
    obtain ⟨going, stepped⟩ := stepped
    obtain rfl : stopped = false := by simpa using going
    cases stepped
    exact .stopped
  | leave worker =>
    rw [step?] at stepped
    split at stepped
    · next found queued =>
      obtain ⟨front, back, rfl, rfl, replaced⟩ := exists_split found
      obtain rfl : queue = [] := queued
      rw [Option.ite_none_right_eq_some] at stepped
      obtain ⟨gone, stepped⟩ := stepped
      obtain rfl : stopped = true := gone
      cases stepped
      rw [replaced]
      exact .left
    · cases stepped

/-! ## What workers do by themselves -/

/-- Whether it is a worker that does this, and not the owner of the pool. -/
def Happening.byWorker : Happening ι → Bool
  | take _ | finish _ _ | leave _ => true
  | submit _ | stop => false

private theorem Step.byWorker {pool next : Workers ι} {happening : Happening ι} (step : Step pool happening next)
    (stopped : pool.stopped = true) : happening.byWorker = true := by
  cases step with
  | submitted acceptable =>
    rw [accepts, stopped] at acceptable
    cases acceptable
  | stopped => cases stopped
  | took | returned | halted | left => rfl

/-- No worker has anything to do. -/
def AtRest (pool : Workers ι) : Prop :=
  ∀ happening, happening.byWorker = true → pool.step? happening = none

private theorem atRest_iff {pool : Workers ι} :
    pool.AtRest ↔ ∀ worker ∈ pool.workers,
      worker.isAlive = true → worker = .idle ∧ pool.queue = [] ∧ pool.stopped = false := by
  obtain ⟨workers, queue, stopped⟩ := pool
  constructor
  · intro rest worker member alive
    obtain ⟨index, found⟩ := List.mem_iff_getElem?.mp member
    cases worker with
    | idle =>
      have waiting := rest (.take index) rfl
      have leaving := rest (.leave index) rfl
      cases queue with
      | nil => simpa [step?, found] using leaving
      | cons job jobs => simp [step?, found] at waiting
    | busy job => simpa [step?, found] using rest (.finish index false) rfl
    | ended | halted => cases alive
  · intro calm happening own
    refine Option.eq_none_iff_forall_not_mem.mpr fun next stepped => ?_
    cases step_of_step? stepped with
    | submitted | stopped => cases own
    | took =>
      obtain ⟨-, queued, -⟩ := calm .idle (by simp) rfl
      cases queued
    | @returned _ _ job | @halted _ _ job =>
      obtain ⟨idle, -⟩ := calm (.busy job) (by simp) rfl
      cases idle
    | left =>
      obtain ⟨-, -, going⟩ := calm .idle (by simp) rfl
      cases going

/-- A stopped pool is gone as soon as no worker has anything to do. -/
theorem isGone_iff {pool : Workers ι} (stopped : pool.stopped = true) : pool.isGone = true ↔ pool.AtRest := by
  simp [isGone, atRest_iff, stopped]

/-- How many steps the workers can take at most if nothing more is handed in. -/
def work (pool : Workers ι) : Nat := 3 * pool.queue.length + (pool.workers.map Worker.steps).sum

private theorem Step.work_lt {pool next : Workers ι} {happening : Happening ι} (step : Step pool happening next)
    (own : happening.byWorker = true) : next.work < pool.work := by
  cases step with
  | submitted | stopped => cases own
  | took | returned | halted | left =>
    simp only [work, Worker.steps, List.map_append, List.map_cons, List.sum_append, List.sum_cons,
      List.length_cons]
    omega

/-! ## The jobs of a pool -/

/-- The jobs of a pool so far, each in the order in which it came to this. -/
structure Ledger (ι : Type) where
  accepted : List ι := []
  started : List ι := []
  finished : List ι := []
  /-- The number of jobs that halted. -/
  halts : Nat := 0
deriving DecidableEq, Repr

/-- Enter what is about to happen to a pool. -/
def Ledger.enter (pool : Workers ι) (ledger : Ledger ι) : Happening ι → Ledger ι
  | .submit job => { ledger with accepted := ledger.accepted ++ [job] }
  | .take _ => { ledger with started := ledger.started ++ pool.queue.take 1 }
  | .finish worker halts => { ledger with
      finished := ledger.finished ++ (pool.workers[worker]?.bind Worker.job?).toList
      halts := ledger.halts + if halts then 1 else 0 }
  | .stop | .leave _ => ledger

/-- A pool and its ledger after one happening more, if it can happen. -/
def play (state : Workers ι × Ledger ι) (happening : Happening ι) : Option (Workers ι × Ledger ι) :=
  (state.1.step? happening).map fun next => (next, state.2.enter state.1 happening)

/-- A pool and its ledger after several happenings, if they can happen in this order. -/
def playAll (happenings : List (Happening ι)) (state : Workers ι × Ledger ι) :
    Option (Workers ι × Ledger ι) := happenings.foldlM play state

private theorem step_of_play {state next : Workers ι × Ledger ι} {happening : Happening ι}
    (played : play state happening = some next) :
    Step state.1 happening next.1 ∧ next.2 = state.2.enter state.1 happening := by
  obtain ⟨pool, stepped, rfl⟩ := Option.map_eq_some_iff.mp played
  exact ⟨step_of_step? stepped, rfl⟩

private theorem exists_of_playAll {happening : Happening ι} {rest : List (Happening ι)}
    {state last : Workers ι × Ledger ι} (played : playAll (happening :: rest) state = some last) :
    ∃ next, play state happening = some next ∧ playAll rest next = some last := by
  rw [playAll, List.foldlM_cons] at played
  exact Option.bind_eq_some_iff.mp played

/-- What every happening preserves, a whole schedule preserves. -/
theorem playAll_preserves (Inv : Workers ι × Ledger ι → Prop)
    (keeps : ∀ {state next happening}, Inv state → play state happening = some next → Inv next)
    {happenings : List (Happening ι)} {state last : Workers ι × Ledger ι} (start : Inv state)
    (played : playAll happenings state = some last) : Inv last := by
  induction happenings generalizing state with
  | nil =>
    cases played
    exact start
  | cons happening rest ih =>
    obtain ⟨next, first, played⟩ := exists_of_playAll played
    exact ih (keeps start first) played

private theorem Ledger.enter_finish {front back : List (Worker ι)} {job : ι} {queue : List ι} {stopped : Bool}
    {ledger : Ledger ι} {halts : Bool} :
    ledger.enter ⟨front ++ .busy job :: back, queue, stopped⟩ (.finish front.length halts) =
      { ledger with
        finished := ledger.finished ++ [job]
        halts := ledger.halts + if halts then 1 else 0 } := by
  simp [Ledger.enter, Worker.job?]

/-- The ledger of a pool of so many workers agrees with the pool. -/
structure Balanced (size : Nat) (pool : Workers ι) (ledger : Ledger ι) : Prop where
  size_eq : pool.workers.length = size
  accepted_eq : ledger.accepted = ledger.started ++ pool.queue
  started_perm : ledger.started.Perm (ledger.finished ++ Worker.running pool.workers)
  halts_eq : pool.workers.countP Worker.isHalted = ledger.halts
  ended : .ended ∈ pool.workers → pool.stopped = true ∧ pool.queue = []

private theorem exists_ofSize {size : Nat} (positive : 0 < size) : ∃ pool : Workers ι, ofSize size = .ok pool :=
  ⟨_, if_neg (Nat.ne_of_gt positive)⟩

private theorem balanced_ofSize {size : Nat} {pool : Workers ι} (created : ofSize size = .ok pool) :
    Balanced size pool {} := by
  rw [ofSize] at created
  split at created
  · cases created
  · cases created
    refine ⟨List.length_replicate, rfl, ?_, ?_, ?_⟩
    · simp [Worker.running, Worker.job?]
    · simp [Worker.isHalted, List.countP_replicate]
    · simp

/-- A job that a worker is done with moves from those that run to those that are finished. -/
theorem finished_perm {front back : List (Worker ι)} {job : ι} {worker : Worker ι} {started finished : List ι}
    (before : started.Perm (finished ++ Worker.running (front ++ .busy job :: back)))
    (free : worker.job? = none) :
    started.Perm (finished ++ [job] ++ Worker.running (front ++ worker :: back)) := by
  rw [Worker.running_of_none free, List.append_assoc]
  exact before.trans (Worker.running_busy.append_left finished)

/-- Every step keeps the ledger balanced. -/
theorem Balanced.step {size : Nat} {pool next : Workers ι} {ledger : Ledger ι} {happening : Happening ι}
    (balanced : Balanced size pool ledger) (step : Step pool happening next) :
    Balanced size next (ledger.enter pool happening) := by
  obtain ⟨size_eq, accepted_eq, started_perm, halts_eq, ended⟩ := balanced
  cases step with
  | @submitted _ job acceptable =>
    refine ⟨size_eq, ?_, started_perm, halts_eq, fun member => ?_⟩
    · change ledger.accepted ++ [job] = ledger.started ++ (pool.queue ++ [job])
      rw [accepted_eq, List.append_assoc]
    · -- A worker that has ended has seen that the pool is stopped.
      rw [accepts, (ended member).1] at acceptable
      cases acceptable
  | @took front back job queue stopped =>
    rw [Worker.running_of_none rfl] at started_perm
    refine ⟨by simpa using size_eq, ?_, ?_, ?_, fun member => ?_⟩
    · change ledger.accepted = ledger.started ++ [job] ++ queue
      rw [accepted_eq, List.append_assoc, List.singleton_append]
    · calc (ledger.started ++ [job]).Perm (ledger.finished ++ Worker.running (front ++ back) ++ [job]) :=
            started_perm.append_right [job]
        List.Perm _ (ledger.finished ++ job :: Worker.running (front ++ back)) := by
            rw [List.append_assoc]
            exact (List.perm_append_singleton _ _).append_left _
        List.Perm _ _ := Worker.running_busy.symm.append_left ledger.finished
    · simpa [Ledger.enter, Worker.isHalted] using halts_eq
    · cases (ended (by simpa using member)).2
  | @returned front back job queue stopped =>
    rw [Ledger.enter_finish]
    refine ⟨by simpa using size_eq, accepted_eq, finished_perm started_perm rfl, ?_, fun member => ?_⟩
    · simpa [Worker.isHalted] using halts_eq
    · exact ended (by simpa using member)
  | @halted front back job queue stopped =>
    rw [Ledger.enter_finish]
    refine ⟨by simpa using size_eq, accepted_eq, finished_perm started_perm rfl, ?_, fun member => ?_⟩
    · rw [← halts_eq]
      simp [Worker.isHalted, List.countP_cons, Nat.add_assoc]
    · exact ended (by simpa using member)
  | stopped =>
    exact ⟨size_eq, accepted_eq, started_perm, halts_eq, fun member => ⟨rfl, (ended member).2⟩⟩
  | @left front back =>
    refine ⟨by simpa using size_eq, accepted_eq, ?_, ?_, fun _ => ⟨rfl, rfl⟩⟩
    · rw [Worker.running_of_none rfl]
      rwa [Worker.running_of_none rfl] at started_perm
    · simpa [Ledger.enter, Worker.isHalted] using halts_eq

/-- The ledger of a new pool stays balanced. -/
theorem balanced_of_playAll {size : Nat} {start last : Workers ι} {ledger : Ledger ι}
    {happenings : List (Happening ι)} (created : ofSize size = .ok start)
    (played : playAll happenings (start, {}) = some (last, ledger)) : Balanced size last ledger :=
  playAll_preserves (fun state => Balanced size state.1 state.2)
    (fun {_ next _} balanced played => by
      obtain ⟨step, entered⟩ := step_of_play played
      rw [entered]
      exact balanced.step step)
    (balanced_ofSize created) played

/-- Workers to whom nothing more is handed in come to an end. -/
theorem length_le_work {happenings : List (Happening ι)} {state last : Workers ι × Ledger ι}
    (played : playAll happenings state = some last)
    (own : ∀ happening ∈ happenings, happening.byWorker = true) : happenings.length ≤ state.1.work := by
  induction happenings generalizing state with
  | nil => exact Nat.zero_le _
  | cons happening rest ih =>
    obtain ⟨next, first, played⟩ := exists_of_playAll played
    obtain ⟨own, others⟩ := List.forall_mem_cons.mp own
    have shorter := ih played others
    have less := (step_of_play first).1.work_lt own
    rw [List.length_cons]
    omega

namespace Balanced

variable {size : Nat} {pool : Workers ι} {ledger : Ledger ι}

/-- With fewer jobs halted than there are workers, there is a worker that has not halted. -/
theorem exists_worker (balanced : Balanced size pool ledger) (few : ledger.halts < size) :
    ∃ worker ∈ pool.workers, worker.isHalted = false := by
  rw [← balanced.halts_eq, ← balanced.size_eq, List.countP_lt_length_iff] at few
  simpa using few

theorem accepts (balanced : Balanced size pool ledger) (few : ledger.halts < size)
    (going : pool.stopped = false) : pool.accepts = true := by
  obtain ⟨worker, member, present⟩ := balanced.exists_worker few
  rw [Workers.accepts, going]
  refine List.any_eq_true.mpr ⟨worker, member, ?_⟩
  cases worker with
  | idle | busy => rfl
  | ended =>
    have stopped := (balanced.ended member).1
    rw [going] at stopped
    cases stopped
  | halted => cases present

/-- Once no worker has anything to do, every job that was started is finished. -/
theorem started_of_atRest (balanced : Balanced size pool ledger) (rest : pool.AtRest) :
    ledger.started.Perm ledger.finished := by
  have free : Worker.running pool.workers = [] := by
    refine List.filterMap_eq_nil_iff.mpr fun worker member => ?_
    cases worker with
    | idle | ended | halted => rfl
    | busy job => cases (atRest_iff.mp rest _ member rfl).1
  simpa only [free, List.append_nil] using balanced.started_perm

/-- With fewer jobs halted than there are workers, no job is left in the queue of workers at rest. -/
theorem finished_of_atRest (balanced : Balanced size pool ledger) (few : ledger.halts < size)
    (rest : pool.AtRest) : ledger.finished.Perm ledger.accepted := by
  obtain ⟨worker, member, present⟩ := balanced.exists_worker few
  have empty : pool.queue = [] := by
    cases worker with
    | idle | busy => exact (atRest_iff.mp rest _ member rfl).2.1
    | ended => exact (balanced.ended member).2
    | halted => cases present
  rw [balanced.accepted_eq, empty, List.append_nil]
  exact (balanced.started_of_atRest rest).symm

/-- If as many jobs halt as there are workers, no worker is left. -/
theorem lost (balanced : Balanced size pool ledger) (many : size ≤ ledger.halts) :
    ledger.halts = size ∧ ∀ worker ∈ pool.workers, worker.isAlive = false := by
  rw [← balanced.halts_eq, ← balanced.size_eq] at many ⊢
  have all := Nat.le_antisymm List.countP_le_length many
  refine ⟨all, fun worker member => ?_⟩
  have halted := List.countP_eq_length.mp all worker member
  cases worker with
  | halted => rfl
  | idle | busy | ended => cases halted

end Balanced

/-- However a pool goes: the jobs that are started are the first ones of those that it accepted, in their
order and each once, and those are the jobs that are finished or running. As long as fewer jobs halt than
there are workers, a pool that is not stopped accepts every job, and once no worker has anything to do, each
accepted job is finished. If as many halt as there are workers, no job is accepted any more, and those in the
queue are never run. If nothing more is handed in, the workers have nothing to do after so many steps as
`work` says at the latest. A stopped pool, in which only the workers do anything, is gone when no worker has
anything to do, and not before. -/
theorem runs_accepted_jobs {size : Nat} (positive : 0 < size) :
    ∃ start : Workers ι, ofSize size = .ok start ∧
      ∀ {happenings last ledger}, playAll happenings (start, {}) = some (last, ledger) →
        ledger.accepted = ledger.started ++ last.queue ∧
        ledger.started.Perm (ledger.finished ++ Worker.running last.workers) ∧
        (ledger.halts < size →
          (last.stopped = false → last.accepts = true) ∧
          (last.AtRest → ledger.finished.Perm ledger.accepted)) ∧
        (size ≤ ledger.halts →
          ledger.halts = size ∧ ledger.finished.Perm ledger.started ∧ last.accepts = false ∧ last.AtRest) ∧
        (∀ {later final}, playAll later (last, ledger) = some final →
          (∀ happening ∈ later, happening.byWorker = true) → later.length ≤ last.work) ∧
        (last.stopped = true →
          (∀ happening, happening.byWorker = false → last.step? happening = none) ∧
          (last.isGone = true ↔ last.AtRest)) := by
  obtain ⟨start, created⟩ : ∃ start : Workers ι, ofSize size = .ok start := exists_ofSize positive
  refine ⟨start, created, fun {happenings last ledger} played => ?_⟩
  have balanced := balanced_of_playAll created played
  refine ⟨balanced.accepted_eq, balanced.started_perm,
    fun few => ⟨balanced.accepts few, balanced.finished_of_atRest few⟩, fun many => ?_, length_le_work,
    fun stopped => ⟨fun happening owner => ?_, isGone_iff stopped⟩⟩
  · obtain ⟨all, lost⟩ := balanced.lost many
    have rest : last.AtRest := atRest_iff.mpr fun worker member alive => by
      rw [lost worker member] at alive
      cases alive
    have refused : last.accepts = false := by
      rw [accepts, List.any_eq_false.mpr fun worker member => by simp [lost worker member], Bool.and_false]
    exact ⟨all, (balanced.started_of_atRest rest).symm, refused, rest⟩
  · refine Option.eq_none_iff_forall_not_mem.mpr fun next stepped => ?_
    rw [(step_of_step? stepped).byWorker stopped] at owner
    cases owner

/-- Two workers, one of which is lost with the second of three jobs. -/
theorem runs_accepted_jobs_halting :
    0 < 2 ∧ ∃ start last ledger, ofSize 2 = .ok start ∧
      playAll [.submit 0, .submit 1, .take 1, .submit 2, .take 0, .finish 0 true, .finish 1 false, .stop,
        .take 1, .finish 1 false, .leave 1] (start, {}) = some (last, ledger) ∧
      last.isGone = true ∧ ledger.halts < 2 ∧ ledger.accepted = [0, 1, 2] ∧
      ledger.finished.Perm ledger.accepted := by
  have positive : 0 < 2 := by decide
  obtain ⟨start, created, runs⟩ := @runs_accepted_jobs Nat 2 positive
  cases created
  have played : playAll [.submit 0, .submit 1, .take 1, .submit 2, .take 0, .finish 0 true, .finish 1 false,
      .stop, .take 1, .finish 1 false, .leave 1] ({ workers := List.replicate 2 .idle }, {}) =
    some (⟨[.halted, .ended], [], true⟩, ⟨[0, 1, 2], [0, 1, 2], [1, 0, 2], 1⟩) := rfl
  obtain ⟨-, -, few, -, -, ending⟩ := runs played
  have few_halted : 1 < 2 := by decide
  exact ⟨positive, _, _, _, rfl, played, rfl, few_halted, rfl, (few few_halted).2 ((ending rfl).2.mp rfl)⟩

/-- The only worker is lost with the first of two jobs: the pool is gone, and the second one is never run. -/
theorem gone_with_jobs_left :
    ∃ start last ledger, ofSize 1 = .ok start ∧
      playAll [.submit 0, .submit 1, .take 0, .finish 0 true, .stop] (start, {}) = some (last, ledger) ∧
      last.isGone = true ∧ ledger.accepted = [0, 1] ∧ ledger.finished = [0] ∧
      ¬ledger.finished.Perm ledger.accepted :=
  ⟨_, _, _, rfl, rfl, rfl, rfl, rfl, fun perm => absurd perm.length_eq (by decide)⟩

end Workers

end PagedResults
