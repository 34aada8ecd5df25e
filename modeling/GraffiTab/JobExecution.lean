/-
This file shows what the pool of workers makes of the jobs that requests queue.

Elsewhere the jobs lie in a bag from which one at a time takes effect, in any order. The server
does more: a request puts its jobs into the queue one by one after its transaction, a worker
takes the first job, runs the transaction of the job in between, and can be ended by an
error before or after it. Both are given for any server, so that what is proved about bags of
jobs is known of the pool. The jobs that an error has kept from their transactions stay in the
bag for good.

As long as no worker has been ended, the workers can come to the end of all jobs.
-/

import GraffiTab.Library.Simulations
import GraffiTab.LikesAndFollows
import GraffiTab.WorkQueue

namespace GraffiTab

open Tables Runs Simulations

/-! ### Bags of jobs -/

/-- Requests that change a world and queue jobs, which change it later. -/
structure JobServer (World Request Job : Type) where
  serve : Request → World → World × List Job
  run : Job → World → World

structure BagState (World Job : Type) where
  world : World
  jobs : List Job

inductive BagAction (Request : Type) where
  | serve (request : Request)
  | runJob (position : Nat)

section Server

variable {World Request Job : Type} (server : JobServer World Request Job)

def bagStep (state : BagState World Job) : BagAction Request → Option (BagState World Job)
  | .serve request =>
      let (world, queued) := server.serve request state.world
      some { world, jobs := state.jobs ++ queued }
  | .runJob position =>
      match state.jobs[position]? with
      | some job =>
          some
            { world := server.run job state.world
              jobs := state.jobs.eraseIdx position }
      | none => none

/-! ### The pool -/

/-- What is put into the queue: a job, whose transaction may be over. -/
structure QueuedJob (Job : Type) where
  job : Job
  isOver : Bool
  deriving DecidableEq

/-- The world, the jobs that the requests served so far have not yet put into the queue, and the
pool. -/
structure PoolState (World Job : Type) where
  world : World
  requests : List (List Job)
  pool : WorkQueue (QueuedJob Job)

inductive PoolAction (Request Job : Type) where
  | serve (request : Request)
  | execute (request notified : Nat)
  | work (action : QueueAction (QueuedJob Job))
  | commit (thread : Nat)

def PoolState.initial (nThreads : Nat) (world : World) : PoolState World Job where
  world := world
  requests := []
  pool := .new nThreads

/-- A request commits its transaction, or puts its next job into the queue; a worker takes a step,
or commits the transaction of the job that it runs. -/
def poolStep (state : PoolState World Job) : PoolAction Request Job → Option (PoolState World Job)
  | .serve request =>
      let (world, queued) := server.serve request state.world
      some { state with world, requests := state.requests ++ [queued] }
  | .execute request notified =>
      match state.requests[request]? with
      | some (job :: rest) =>
          (queueStep state.pool (.execute ⟨job, false⟩ notified)).map fun pool =>
            { state with requests := state.requests.set request rest, pool }
      | _ => none
  | .work action =>
      if action.isByWorker then
        (queueStep state.pool action).map fun pool => { state with pool }
      else none
  | .commit thread =>
      match state.pool.threads[thread]? with
      | some (.running ⟨job, false⟩) =>
          some { state with
            world := server.run job state.world
            pool := state.pool.setThread thread (.running ⟨job, true⟩) }
      | _ => none

end Server

/-! ### What remains to be done -/

section Remaining

variable {World Job : Type}

/-- The job that a worker runs, if its transaction is not over. -/
def PoolWorker.pendingJob : PoolWorker (QueuedJob Job) → Option Job
  | .running ⟨job, false⟩ => some job
  | _ => none

/-- The job, if its transaction is not over. -/
def QueuedJob.pendingJob (queued : QueuedJob Job) : Option Job :=
  if queued.isOver then none else some queued.job

/-- The jobs that were ended before their transactions. -/
def PoolState.lostJobs (state : PoolState World Job) : List Job :=
  state.pool.ended.filterMap fun run => run.1.pendingJob

/-- The jobs whose transactions are still to come. -/
def PoolState.openJobs (state : PoolState World Job) : List Job :=
  state.requests.flatten ++ state.pool.queue.map QueuedJob.job ++
    state.pool.threads.filterMap PoolWorker.pendingJob

/-- The jobs whose transactions have not taken effect, the lost ones among them. -/
def PoolState.remainingJobs (state : PoolState World Job) : List Job :=
  state.openJobs ++ state.lostJobs

/-- A worker that changes its place changes the jobs that are run by the old and by the new one. -/
theorem filterMap_set_perm {threads : List (PoolWorker (QueuedJob Job))} {thread : Nat}
    {old : PoolWorker (QueuedJob Job)} (found : threads[thread]? = some old)
    (new : PoolWorker (QueuedJob Job)) :
    (old.pendingJob.toList ++ (threads.set thread new).filterMap PoolWorker.pendingJob).Perm
      (new.pendingJob.toList ++ threads.filterMap PoolWorker.pendingJob) := by
  induction threads generalizing thread with
  | nil => cases found
  | cons first rest inductionHypothesis =>
      have split (worker : PoolWorker (QueuedJob Job))
          (others : List (PoolWorker (QueuedJob Job))) :
          (worker :: others).filterMap PoolWorker.pendingJob =
            worker.pendingJob.toList ++ others.filterMap PoolWorker.pendingJob := by
        cases pending : worker.pendingJob <;> simp [pending]
      cases thread with
      | zero =>
          obtain rfl : first = old := Option.some.inj found
          rw [List.set_cons_zero, split, split]
          exact List.perm_append_comm_assoc _ _ _
      | succ thread =>
          rw [List.set_cons_succ, split, split]
          refine (List.perm_append_comm_assoc _ _ _).trans ?_
          have inRest : rest[thread]? = some old := found
          refine ((inductionHypothesis inRest).append_left _).trans ?_
          exact List.perm_append_comm_assoc _ _ _

end Remaining

/-! ### The pool and the bag -/

section Refinement

variable {World Request Job : Type} {server : JobServer World Request Job}
  {state next : PoolState World Job}

/-- The bag has the jobs whose transactions have not taken effect, in some order; in the queue there
are only such jobs. -/
structure PoolState.IsIn (state : PoolState World Job) (bag : BagState World Job) : Prop where
  world : bag.world = state.world
  jobs : bag.jobs.Perm state.remainingJobs
  untouched : ∀ queued ∈ state.pool.queue, queued.isOver = false

/-- A bag gives out each of its jobs. -/
theorem bagStep_runJob (server : JobServer World Request Job) {bag : BagState World Job} {job : Job}
    (member : job ∈ bag.jobs) :
    ∃ position, bagStep server bag (.runJob position) = some
        { world := server.run job bag.world, jobs := bag.jobs.eraseIdx position } ∧
      (job :: bag.jobs.eraseIdx position).Perm bag.jobs := by
  obtain ⟨position, inside, isJob⟩ := List.getElem_of_mem member
  refine ⟨position, ?_, isJob ▸ List.getElem_cons_eraseIdx_perm inside⟩
  simp only [bagStep, List.getElem?_eq_getElem inside, isJob]

/-- The jobs of a request that puts its next one into the queue. -/
theorem flatten_set_perm {requests : List (List Job)} {request : Nat} {job : Job} {rest : List Job}
    (found : requests[request]? = some (job :: rest)) :
    (job :: (requests.set request rest).flatten).Perm requests.flatten := by
  induction requests generalizing request with
  | nil => cases found
  | cons first others inductionHypothesis =>
      cases request with
      | zero =>
          obtain rfl : first = job :: rest := Option.some.inj found
          exact .refl _
      | succ request =>
          have tail : others[request]? = some (job :: rest) := found
          rw [List.set_cons_succ, List.flatten_cons, List.flatten_cons]
          exact List.perm_middle.symm.trans ((inductionHypothesis tail).append_left first)

/-- What a step of the pool does to the world and to the jobs that remain. -/
inductive PoolEffect (server : JobServer World Request Job) (state next : PoolState World Job) :
    PoolAction Request Job → Prop
  | served (request : Request) (world : next.world = (server.serve request state.world).1)
      (jobs : next.remainingJobs.Perm
        (state.remainingJobs ++ (server.serve request state.world).2)) :
      PoolEffect server state next (.serve request)
  | moved {action : PoolAction Request Job} (world : next.world = state.world)
      (jobs : next.remainingJobs.Perm state.remainingJobs) : PoolEffect server state next action
  | committed (thread : Nat) (job : Job) (world : next.world = server.run job state.world)
      (jobs : (job :: next.remainingJobs).Perm state.remainingJobs) :
      PoolEffect server state next (.commit thread)

theorem QueuedJob.pendingJob_false (job : Job) : QueuedJob.pendingJob ⟨job, false⟩ = some job := rfl

theorem pendingJob_running (queued : QueuedJob Job) :
    (PoolWorker.running queued).pendingJob = queued.pendingJob := by
  obtain ⟨job, isOver⟩ := queued
  cases isOver <;> rfl

theorem pendingJob_afterRun (ending : RunEnding) :
    (PoolWorker.afterRun ending : PoolWorker (QueuedJob Job)).pendingJob = none := by
  cases ending <;> rfl

theorem remainingJobs_count [DecidableEq Job] (state : PoolState World Job) (job : Job) :
    state.remainingJobs.count job =
      state.requests.flatten.count job + (state.pool.queue.map QueuedJob.job).count job +
        (state.pool.threads.filterMap PoolWorker.pendingJob).count job +
        state.lostJobs.count job := by
  rw [PoolState.remainingJobs, PoolState.openJobs, List.count_append, List.count_append,
    List.count_append]

theorem bagStep_serve (bag : BagState World Job) (request : Request) :
    bagStep server bag (.serve request) = some
      { world := (server.serve request bag.world).1
        jobs := bag.jobs ++ (server.serve request bag.world).2 } := rfl

theorem poolStep_serve (state : PoolState World Job) (request : Request) :
    poolStep server state (.serve request) = some
      { state with
        world := (server.serve request state.world).1
        requests := state.requests ++ [(server.serve request state.world).2] } := rfl

/-- A step of a worker loses no job, and makes none. -/
theorem work_effect {pool : WorkQueue (QueuedJob Job)} {action : QueueAction (QueuedJob Job)}
    (untouched : ∀ queued ∈ state.pool.queue, queued.isOver = false)
    (byWorker : action.isByWorker = true) (taken : queueStep state.pool action = some pool) :
    (∀ queued ∈ pool.queue, queued.isOver = false) ∧
      ({ state with pool } : PoolState World Job).remainingJobs.Perm state.remainingJobs := by
  classical
  rcases queueStep_cases taken with ⟨runnable, notified, added, rfl, -, -⟩ |
    ⟨thread, rfl, found, ⟨empty, rfl⟩ | ⟨first, rest, queued, rfl⟩⟩ | ⟨thread, rfl, found, rfl⟩ |
    ⟨thread, runnable, ending, rfl, found, rfl⟩
  · cases byWorker
  · refine ⟨untouched, List.perm_iff_count.mpr fun job => ?_⟩
    have threads := (filterMap_set_perm found .waiting).count_eq job
    simp only [remainingJobs_count, WorkQueue.setThread, PoolState.lostJobs]
    simpa [PoolWorker.pendingJob] using threads
  · refine ⟨fun other member => untouched other (queued ▸ List.mem_cons_of_mem _ member),
      List.perm_iff_count.mpr fun job => ?_⟩
    have threads := (filterMap_set_perm found (.running first)).count_eq job
    obtain ⟨isJob, isOver⟩ := first
    obtain rfl : isOver = false := untouched _ (queued ▸ List.mem_cons_self)
    simp only [pendingJob_running, QueuedJob.pendingJob_false, List.count_append] at threads
    simp only [PoolWorker.pendingJob, Option.toList_none, List.count_nil] at threads
    simp only [remainingJobs_count, PoolState.lostJobs, queued, List.map_cons, List.count_cons]
    simp only [Option.toList_some, List.count_singleton] at threads
    omega
  · refine ⟨untouched, List.perm_iff_count.mpr fun job => ?_⟩
    have threads := (filterMap_set_perm found .inLoop).count_eq job
    simp only [remainingJobs_count, WorkQueue.setThread, PoolState.lostJobs]
    simpa [PoolWorker.pendingJob] using threads
  · refine ⟨untouched, List.perm_iff_count.mpr fun job => ?_⟩
    have threads := (filterMap_set_perm found (.afterRun ending)).count_eq job
    simp only [pendingJob_running, pendingJob_afterRun, List.count_append, Option.toList_none,
      List.count_nil] at threads
    have lost : (({ state with pool :=
          { state.pool with
            threads := state.pool.threads.set thread (.afterRun ending)
            ended := state.pool.ended ++ [(runnable, ending)] } } :
              PoolState World Job).lostJobs).count job =
        state.lostJobs.count job + runnable.pendingJob.toList.count job := by
      simp only [PoolState.lostJobs, List.filterMap_append, List.count_append]
      cases pending : runnable.pendingJob <;> simp [pending]
    simp only [remainingJobs_count, lost]
    omega

/-- The jobs of a request are added to those that remain. -/
theorem remainingJobs_serve (state : PoolState World Job) (world : World) (queued : List Job) :
    ({ state with world, requests := state.requests ++ [queued] } :
      PoolState World Job).remainingJobs.Perm (state.remainingJobs ++ queued) := by
  classical
  refine List.perm_iff_count.mpr fun job => ?_
  simp only [remainingJobs_count, List.flatten_append, List.count_append, PoolState.lostJobs,
    List.flatten_cons, List.flatten_nil, List.append_nil]
  omega

theorem poolStep_effect {action : PoolAction Request Job}
    (untouched : ∀ queued ∈ state.pool.queue, queued.isOver = false)
    (taken : poolStep server state action = some next) :
    (∀ queued ∈ next.pool.queue, queued.isOver = false) ∧ PoolEffect server state next action := by
  classical
  cases action with
  | serve request =>
      rw [poolStep_serve] at taken
      obtain rfl := Option.some.inj taken
      exact ⟨untouched, .served request rfl (remainingJobs_serve state _ _)⟩
  | execute request notified =>
      rw [poolStep] at taken
      split at taken
      · rename_i job rest found
        obtain ⟨pool, executed, rfl⟩ := Option.map_eq_some_iff.mp taken
        have requests := fun other => (flatten_set_perm found).count_eq other
        rcases queueStep_cases executed with ⟨runnable, thread, added, same, rfl, notifies⟩ |
          ⟨thread, absurdity, -⟩ | ⟨thread, absurdity, -⟩ | ⟨thread, runnable, ending, absurdity, -⟩
        · obtain ⟨rfl, rfl⟩ := QueueAction.execute.inj same
          have newlyQueued : ∀ queued ∈ state.pool.queue ++ [(⟨job, false⟩ : QueuedJob Job)],
              queued.isOver = false := by
            intro queued member
            rcases List.mem_append.mp member with old | new
            · exact untouched queued old
            · rw [List.mem_singleton.mp new]
          rcases notifies with ⟨-, rfl⟩ | ⟨waits, rfl⟩
          · refine ⟨newlyQueued, .moved rfl (List.perm_iff_count.mpr fun other => ?_)⟩
            have moved := requests other
            simp only [List.count_cons] at moved
            simp only [remainingJobs_count, PoolState.lostJobs, List.map_append, List.count_append,
              List.map_cons, List.map_nil, List.count_singleton]
            omega
          · refine ⟨newlyQueued, .moved rfl (List.perm_iff_count.mpr fun other => ?_)⟩
            have moved := requests other
            have threads := (filterMap_set_perm waits .inLoop).count_eq other
            simp only [PoolWorker.pendingJob, Option.toList_none, List.nil_append] at threads
            simp only [List.count_cons] at moved
            simp only [remainingJobs_count, PoolState.lostJobs, WorkQueue.setThread,
              List.map_append, List.count_append, List.map_cons, List.map_nil,
              List.count_singleton, threads]
            omega
        · cases absurdity
        · cases absurdity
        · cases absurdity
      · cases taken
  | work action =>
      rw [poolStep] at taken
      split at taken
      · rename_i byWorker
        obtain ⟨pool, worked, rfl⟩ := Option.map_eq_some_iff.mp taken
        obtain ⟨stillUntouched, jobs⟩ := work_effect untouched byWorker worked
        exact ⟨stillUntouched, .moved rfl jobs⟩
      · cases taken
  | commit thread =>
      rw [poolStep] at taken
      split at taken
      · rename_i job found
        obtain rfl := Option.some.inj taken
        refine ⟨untouched, .committed thread job rfl (List.perm_iff_count.mpr fun other => ?_)⟩
        have threads := (filterMap_set_perm found (.running ⟨job, true⟩)).count_eq other
        simp only [PoolWorker.pendingJob, Option.toList_some, Option.toList_none, List.nil_append,
          List.count_append, List.count_singleton] at threads
        simp only [List.count_cons, remainingJobs_count, WorkQueue.setThread, PoolState.lostJobs]
        omega
      · cases taken

/-- The bag that serves the same request has the jobs that remain then. -/
theorem PoolState.IsIn.serve {bag : BagState World Job} (isIn : state.IsIn bag) {request : Request}
    (taken : poolStep server state (.serve request) = some next) :
    next.IsIn
      { world := (server.serve request bag.world).1
        jobs := bag.jobs ++ (server.serve request bag.world).2 } := by
  obtain ⟨world, jobs, untouched⟩ := isIn
  rw [poolStep_serve] at taken
  obtain rfl := Option.some.inj taken
  rw [world]
  exact ⟨rfl, (jobs.append_right _).trans (remainingJobs_serve state _ _).symm, untouched⟩

/-- The pool does what the bag can do. -/
theorem simulates_bagStep (server : JobServer World Request Job) :
    Simulates (poolStep server) unrestricted (bagStep server) unrestricted
      PoolState.IsIn := by
  rintro state action next bag ⟨world, jobs, untouched⟩ - taken
  obtain ⟨nextUntouched, effect⟩ := poolStep_effect untouched taken
  cases effect with
  | served request nextWorld nextJobs =>
      refine ⟨_, .single trivial (bagStep_serve bag request), ?_, ?_, nextUntouched⟩
      · rw [nextWorld, world]
      · rw [world]
        exact (jobs.append_right _).trans nextJobs.symm
  | moved nextWorld nextJobs =>
      exact ⟨bag, .refl, world.trans nextWorld.symm, jobs.trans nextJobs.symm, nextUntouched⟩
  | committed thread job nextWorld nextJobs =>
      have member : job ∈ bag.jobs := jobs.mem_iff.mpr (nextJobs.mem_iff.mp List.mem_cons_self)
      obtain ⟨position, ran, rest⟩ := bagStep_runJob server member
      refine ⟨_, .single trivial ran, ?_, ?_, nextUntouched⟩
      · rw [nextWorld, world]
      · exact (rest.trans (jobs.trans nextJobs.symm)).cons_inv

theorem initial_isIn (nThreads : Nat) (world : World) :
    (PoolState.initial nThreads world : PoolState World Job).IsIn ⟨world, []⟩ := by
  refine ⟨rfl, ?_, nofun⟩
  rw [PoolState.remainingJobs, PoolState.openJobs, PoolState.initial, WorkQueue.new]
  simp [PoolWorker.pendingJob, PoolState.lostJobs]

/-- What the bag keeps is known of every state of the pool. -/
theorem PoolState.IsIn.invariant {bag : BagState World Job} (isIn : state.IsIn bag)
    (Invariant : BagState World Job → Prop) (holds : Invariant bag)
    (kept : ∀ bag action after, Invariant bag → bagStep server bag action = some after →
      Invariant after)
    (reached : Reaches (poolStep server) unrestricted state next) :
    ∃ after, next.IsIn after ∧ Invariant after :=
  (simulates_bagStep server).invariant isIn
    (fun _ bagReached => bagReached.invariant Invariant holds
      fun bag action after held _ taken => kept bag action after held taken) reached

end Refinement

/-! ### Coming to the end of the jobs -/

section Draining

variable {World Request Job : Type}

/-- An action after the server has stopped to take requests, where no job fails. -/
def PoolAction.isDraining : PoolAction Request Job → Bool
  | .serve _ => false
  | .execute _ _ => true
  | .work (.endRun _ ending) => ending = .normally
  | .work _ => true
  | .commit _ => true

def PoolWorker.isBeforeCommit : PoolWorker (QueuedJob Job) → Bool
  | .running ⟨_, false⟩ => true
  | _ => false

def PoolWorker.isAfterCommit : PoolWorker (QueuedJob Job) → Bool
  | .running ⟨_, true⟩ => true
  | _ => false

/-- A bound on the steps up to the end of all jobs. -/
def PoolState.rank (state : PoolState World Job) : Nat :=
  4 * state.requests.flatten.length + 3 * state.pool.queue.length +
    2 * state.pool.threads.countP PoolWorker.isBeforeCommit +
    state.pool.threads.countP PoolWorker.isAfterCommit

/-- There is a worker, the queue is kept, and in it are only jobs that were not begun. -/
structure PoolState.IsServed (nThreads : Nat) (state : PoolState World Job) : Prop where
  queue : QueueInvariant nThreads state.pool
  untouched : ∀ queued ∈ state.pool.queue, queued.isOver = false
  alive : 0 < state.pool.threads.countP PoolWorker.isInPool

variable {server : JobServer World Request Job} {state next : PoolState World Job}

/-- A worker that runs a job goes on running it. -/
theorem QueueInvariant.setRunning {nThreads : Nat} {workQueue : WorkQueue (QueuedJob Job)}
    (invariant : QueueInvariant nThreads workQueue) {thread : Nat} {old : QueuedJob Job}
    (found : workQueue.threads[thread]? = some (.running old)) (new : QueuedJob Job) :
    QueueInvariant nThreads (workQueue.setThread thread (.running new)) ∧
      (workQueue.threads.set thread (.running new)).countP PoolWorker.isInPool =
        workQueue.threads.countP PoolWorker.isInPool := by
  have counts := counts_set found (.running new)
  simp [PoolWorker.isInPool, PoolWorker.isWaiting, PoolWorker.isInLoop] at counts
  obtain ⟨inPool, waiting, inLoop⟩ := counts
  obtain ⟨order, lost, awake⟩ := invariant
  refine ⟨⟨order, ?_, ?_⟩, by omega⟩
  · simp only [WorkQueue.setThread]
    omega
  · simp only [WorkQueue.setThread]
    rcases awake with nobody | enough
    · exact .inl (by omega)
    · exact .inr (by omega)

theorem QueueInvariant.poolStep {nThreads : Nat} {action : PoolAction Request Job}
    (invariant : QueueInvariant nThreads state.pool)
    (taken : poolStep server state action = some next) : QueueInvariant nThreads next.pool := by
  cases action with
  | serve request =>
      rw [poolStep_serve] at taken
      obtain rfl := Option.some.inj taken
      exact invariant
  | execute request notified =>
      rw [GraffiTab.poolStep] at taken
      split at taken
      · obtain ⟨pool, executed, rfl⟩ := Option.map_eq_some_iff.mp taken
        exact invariant.step executed
      · cases taken
  | work action =>
      rw [GraffiTab.poolStep] at taken
      split at taken
      · obtain ⟨pool, worked, rfl⟩ := Option.map_eq_some_iff.mp taken
        exact invariant.step worked
      · cases taken
  | commit thread =>
      rw [GraffiTab.poolStep] at taken
      split at taken
      · rename_i job found
        obtain rfl := Option.some.inj taken
        exact (invariant.setRunning found _).1
      · cases taken

/-- The counts of the rank, and of the workers, after one of them has changed its place. -/
theorem moves_set {threads : List (PoolWorker (QueuedJob Job))} {thread : Nat}
    {old : PoolWorker (QueuedJob Job)} (found : threads[thread]? = some old)
    (new : PoolWorker (QueuedJob Job)) :
    ((threads.set thread new).countP PoolWorker.isBeforeCommit +
        (if old.isBeforeCommit then 1 else 0) =
      threads.countP PoolWorker.isBeforeCommit + if new.isBeforeCommit then 1 else 0) ∧
    ((threads.set thread new).countP PoolWorker.isAfterCommit +
        (if old.isAfterCommit then 1 else 0) =
      threads.countP PoolWorker.isAfterCommit + if new.isAfterCommit then 1 else 0) ∧
    (threads.set thread new).countP PoolWorker.isInPool + (if old.isInPool then 1 else 0) =
      threads.countP PoolWorker.isInPool + if new.isInPool then 1 else 0 :=
  ⟨countP_set_add found new _, countP_set_add found new _, countP_set_add found new _⟩

/-- A draining step that makes the rest smaller. -/
structure DrainsBy (server : JobServer World Request Job) (state : PoolState World Job)
    (action : PoolAction Request Job) (next : PoolState World Job) : Prop where
  draining : action.isDraining = true
  taken : poolStep server state action = some next
  smaller : next.rank < state.rank
  lost : next.lostJobs = state.lostJobs
  alive : 0 < next.pool.threads.countP PoolWorker.isInPool

/-- A request that has jobs left can put the next one into the queue. -/
theorem drains_execute (alive : 0 < state.pool.threads.countP PoolWorker.isInPool) {request : Nat}
    {job : Job} {rest : List Job} (found : state.requests[request]? = some (job :: rest)) :
    ∃ (action : PoolAction Request Job) (next : PoolState World Job),
      DrainsBy server state action next := by
  have shorter := (flatten_set_perm found).length_eq
  rw [List.length_cons] at shorter
  by_cases waits : state.pool.threads.any PoolWorker.isWaiting = true
  · obtain ⟨worker, member, isWaiting⟩ := List.any_eq_true.mp waits
    obtain ⟨thread, stands⟩ := List.getElem?_of_mem member
    cases worker with
    | waiting =>
        have moves := moves_set stands .inLoop
        simp [PoolWorker.isBeforeCommit, PoolWorker.isAfterCommit, PoolWorker.isInPool] at moves
        obtain ⟨before, after, inPool⟩ := moves
        have taken : poolStep server state (.execute request thread) = some
            { state with
              requests := state.requests.set request rest
              pool :=
                { state.pool with
                  queue := state.pool.queue ++ [⟨job, false⟩]
                  threads := state.pool.threads.set thread .inLoop
                  submitted := state.pool.submitted ++ [⟨job, false⟩] } } := by
          simp only [poolStep, found, queueStep, WorkQueue.notify, if_pos waits, stands,
            Option.map_some, WorkQueue.setThread]
        refine ⟨.execute request thread, _, rfl, taken, ?_, rfl, ?_⟩
        · simp only [PoolState.rank, List.length_append, List.length_singleton]
          omega
        · dsimp only
          omega
    | inLoop => cases isWaiting
    | running current => cases isWaiting
    | terminated => cases isWaiting
  · have taken : poolStep server state (.execute request 0) = some
        { state with
          requests := state.requests.set request rest
          pool :=
            { state.pool with
              queue := state.pool.queue ++ [⟨job, false⟩]
              submitted := state.pool.submitted ++ [⟨job, false⟩] } } := by
      simp only [poolStep, found, queueStep, WorkQueue.notify, if_neg waits, Option.map_some]
    refine ⟨.execute request 0, _, rfl, taken, ?_, rfl, alive⟩
    simp only [PoolState.rank, List.length_append, List.length_singleton]
    omega

/-- A worker that runs a job commits its transaction, or comes to its end. -/
theorem drains_running (alive : 0 < state.pool.threads.countP PoolWorker.isInPool) {thread : Nat}
    {queued : QueuedJob Job} (found : state.pool.threads[thread]? = some (.running queued)) :
    ∃ (action : PoolAction Request Job) (next : PoolState World Job),
      DrainsBy server state action next := by
  obtain ⟨job, isOver⟩ := queued
  cases isOver with
  | false =>
      have moves := moves_set found (.running ⟨job, true⟩)
      simp [PoolWorker.isBeforeCommit, PoolWorker.isAfterCommit, PoolWorker.isInPool] at moves
      obtain ⟨before, after, inPool⟩ := moves
      have taken : poolStep server state (.commit thread) = some
          { state with
            world := server.run job state.world
            pool := state.pool.setThread thread (.running ⟨job, true⟩) } := by
        simp only [poolStep, found]
      refine ⟨.commit thread, _, rfl, taken, ?_, rfl, ?_⟩
      · simp only [PoolState.rank, WorkQueue.setThread]
        omega
      · simp only [WorkQueue.setThread]
        omega
  | true =>
      have moves := moves_set found .inLoop
      simp [PoolWorker.isBeforeCommit, PoolWorker.isAfterCommit, PoolWorker.isInPool] at moves
      obtain ⟨before, after, inPool⟩ := moves
      have taken : poolStep server state (.work (.endRun thread .normally)) = some
          { state with
            pool :=
              { state.pool with
                threads := state.pool.threads.set thread .inLoop
                ended := state.pool.ended ++ [(⟨job, true⟩, .normally)] } } := by
        simp only [poolStep, QueueAction.isByWorker, if_true, queueStep, found, PoolWorker.afterRun,
          Option.map_some]
      refine ⟨.work (.endRun thread .normally), _, rfl, taken, ?_, ?_, ?_⟩
      · simp only [PoolState.rank]
        omega
      · simp [PoolState.lostJobs, QueuedJob.pendingJob]
      · dsimp only
        omega

/-- A worker that is awake takes the next job. -/
theorem drains_inLoop (untouched : ∀ queued ∈ state.pool.queue, queued.isOver = false)
    (alive : 0 < state.pool.threads.countP PoolWorker.isInPool) {thread : Nat}
    (found : state.pool.threads[thread]? = some .inLoop) {first : QueuedJob Job}
    {rest : List (QueuedJob Job)} (queue : state.pool.queue = first :: rest) :
    ∃ (action : PoolAction Request Job) (next : PoolState World Job),
      DrainsBy server state action next := by
  obtain ⟨job, isOver⟩ := first
  obtain rfl : isOver = false := untouched _ (queue ▸ List.mem_cons_self)
  have moves := moves_set found (.running ⟨job, false⟩)
  simp [PoolWorker.isBeforeCommit, PoolWorker.isAfterCommit, PoolWorker.isInPool] at moves
  obtain ⟨before, after, inPool⟩ := moves
  have taken : poolStep server state (.work (.enterSynchronized thread)) = some
      { state with
        pool :=
          { state.pool with
            queue := rest
            threads := state.pool.threads.set thread (.running ⟨job, false⟩)
            started := state.pool.started ++ [⟨job, false⟩] } } := by
    simp only [poolStep, QueueAction.isByWorker, if_true, queueStep, found, queue, Option.map_some]
  refine ⟨.work (.enterSynchronized thread), _, rfl, taken, ?_, rfl, ?_⟩
  · simp only [PoolState.rank, queue, List.length_cons]
    omega
  · dsimp only
    omega

/-- As long as something is left to be done, there is a step that does some of it. -/
theorem PoolState.IsServed.exists_drains (server : JobServer World Request Job) {nThreads : Nat}
    (served : state.IsServed nThreads) (left : 0 < state.rank) :
    ∃ (action : PoolAction Request Job) (next : PoolState World Job),
      DrainsBy server state action next := by
  by_cases requested : state.requests.flatten = []
  · by_cases running : ∃ (thread : Nat) (queued : QueuedJob Job),
        state.pool.threads[thread]? = some (.running queued)
    · obtain ⟨thread, queued, found⟩ := running
      exact drains_running served.alive found
    · -- Nobody runs a job, so the rank counts jobs in the queue.
      have nobodyRuns (counted : PoolWorker (QueuedJob Job) → Bool)
          (counts : ∀ worker, counted worker = true → ∃ queued, worker = .running queued) :
          state.pool.threads.countP counted = 0 := by
        refine List.countP_eq_zero.mpr fun worker member isCounted => running ?_
        obtain ⟨thread, found⟩ := List.getElem?_of_mem member
        obtain ⟨queued, rfl⟩ := counts worker isCounted
        exact ⟨thread, queued, found⟩
      have noneBefore := nobodyRuns PoolWorker.isBeforeCommit fun worker isBefore => by
        cases worker <;> simp_all [PoolWorker.isBeforeCommit]
      have noneAfter := nobodyRuns PoolWorker.isAfterCommit fun worker isAfter => by
        cases worker <;> simp_all [PoolWorker.isAfterCommit]
      rw [PoolState.rank, noneBefore, noneAfter, requested] at left
      obtain ⟨worker, member, isInPool⟩ := List.countP_pos_iff.mp served.alive
      cases queue : state.pool.queue with
      | nil =>
          rw [queue] at left
          exact absurd left (lt_irrefl 0)
      | cons first rest =>
          have awake : 0 < state.pool.threads.countP PoolWorker.isInLoop := by
            rcases served.queue.awake with nobodyWaits | enough
            · refine List.countP_pos_iff.mpr ⟨worker, member, ?_⟩
              cases worker with
              | inLoop => rfl
              | waiting => exact absurd rfl (List.countP_eq_zero.mp nobodyWaits _ member)
              | running queued =>
                  obtain ⟨thread, found⟩ := List.getElem?_of_mem member
                  exact absurd ⟨thread, queued, found⟩ running
              | terminated => cases isInPool
            · rw [queue, List.length_cons] at enough
              omega
          obtain ⟨other, otherMember, isInLoop⟩ := List.countP_pos_iff.mp awake
          obtain ⟨thread, found⟩ := List.getElem?_of_mem otherMember
          cases other with
          | inLoop => exact drains_inLoop served.untouched served.alive found queue
          | waiting => cases isInLoop
          | running queued => cases isInLoop
          | terminated => cases isInLoop
  · obtain ⟨job, member⟩ := List.exists_mem_of_ne_nil _ requested
    obtain ⟨jobs, listed, inJobs⟩ := List.mem_flatten.mp member
    obtain ⟨request, found⟩ := List.getElem?_of_mem listed
    cases jobs with
    | nil => exact absurd inJobs List.not_mem_nil
    | cons first rest => exact drains_execute served.alive found

/-- Every open job has taken effect once, in some order, and no job was lost. -/
structure PoolState.Drained (server : JobServer World Request Job)
    (state final : PoolState World Job) : Prop where
  openJobs : final.openJobs = []
  lostJobs : final.lostJobs = state.lostJobs
  world : ∃ order : List Job, order.Perm state.openJobs ∧
    final.world = order.foldl (fun world job => server.run job world) state.world

/-- Nothing is left where the rank is zero. -/
theorem openJobs_of_rank (done : state.rank = 0) : state.openJobs = [] := by
  rw [PoolState.rank] at done
  have requests : state.requests.flatten = [] := List.length_eq_zero_iff.mp (by omega)
  have queue : state.pool.queue = [] := List.length_eq_zero_iff.mp (by omega)
  have running : state.pool.threads.countP PoolWorker.isBeforeCommit = 0 := by omega
  have threads : state.pool.threads.filterMap PoolWorker.pendingJob = [] := by
    refine List.filterMap_eq_nil_iff.mpr fun worker member => ?_
    have notBefore := List.countP_eq_zero.mp running worker member
    rcases worker with _ | _ | ⟨_, _ | _⟩ | _
    · rfl
    · rfl
    · exact absurd rfl notBefore
    · rfl
    · rfl
  rw [PoolState.openJobs, requests, queue, threads]
  rfl

/-- A step that drains does some of the open jobs. -/
theorem DrainsBy.world {action : PoolAction Request Job}
    (drains : DrainsBy server state action next)
    (untouched : ∀ queued ∈ state.pool.queue, queued.isOver = false) :
    ∃ done : List Job, (done ++ next.openJobs).Perm state.openJobs ∧
      next.world = done.foldl (fun world job => server.run job world) state.world := by
  obtain ⟨-, effect⟩ := poolStep_effect untouched drains.taken
  cases effect with
  | served request _ _ => exact absurd drains.draining Bool.false_ne_true
  | moved world jobs =>
      refine ⟨[], ?_, world⟩
      rw [PoolState.remainingJobs, PoolState.remainingJobs, drains.lost] at jobs
      exact (List.perm_append_right_iff _).mp jobs
  | committed thread job world jobs =>
      refine ⟨[job], ?_, world⟩
      rw [PoolState.remainingJobs, PoolState.remainingJobs, drains.lost, ← List.cons_append] at jobs
      exact (List.perm_append_right_iff _).mp jobs

theorem PoolState.IsServed.exists_drained {nThreads : Nat} (served : state.IsServed nThreads) :
    ∃ (actions : List (PoolAction Request Job)) (final : PoolState World Job),
      (∀ action ∈ actions, action.isDraining = true) ∧
      Runs.run (poolStep server) state actions = some final ∧ state.Drained server final := by
  induction bound : state.rank using Nat.strongRecOn generalizing state with
  | ind rank inductionHypothesis =>
      by_cases left : 0 < state.rank
      · obtain ⟨action, next, drains⟩ := served.exists_drains server left
        have nextServed : next.IsServed nThreads :=
          ⟨served.queue.poolStep drains.taken, (poolStep_effect served.untouched drains.taken).1,
            drains.alive⟩
        obtain ⟨actions, final, draining, executed, drained⟩ :=
          inductionHypothesis next.rank (bound ▸ drains.smaller) nextServed rfl
        obtain ⟨done, doneJobs, doneWorld⟩ := drains.world served.untouched
        obtain ⟨order, orderJobs, orderWorld⟩ := drained.world
        refine ⟨action :: actions, final, List.forall_mem_cons.mpr ⟨drains.draining, draining⟩, ?_,
          drained.openJobs, drained.lostJobs.trans drains.lost, done ++ order,
          (orderJobs.append_left done).trans doneJobs, ?_⟩
        · rw [Runs.run, drains.taken]
          exact executed
        · rw [orderWorld, doneWorld, List.foldl_append]
      · have done : state.rank = 0 := by omega
        refine ⟨[], state, fun action member => absurd member List.not_mem_nil, rfl,
          openJobs_of_rank done, rfl, [], ?_, rfl⟩
        rw [openJobs_of_rank done]

end Draining

/-- Whatever the interleaving, as long as fewer jobs have ended with an error than there are
workers, the requests served so far and the workers can come to the end of all jobs. -/
theorem poolDrains {World Request Job : Type} (server : JobServer World Request Job)
    (nThreads : Nat) (world : World) (state : PoolState World Job)
    (reached : Reaches (poolStep server) unrestricted (.initial nThreads world) state)
    (alive : (state.pool.ended.countP fun run => run.2 = .error) < nThreads) :
    ∃ (actions : List (PoolAction Request Job)) (final : PoolState World Job),
      (∀ action ∈ actions, action.isDraining = true) ∧
      run (poolStep server) state actions = some final ∧ state.Drained server final := by
  obtain ⟨queue, untouched⟩ := reached.invariant
    (fun state => QueueInvariant nThreads state.pool ∧
      ∀ queued ∈ state.pool.queue, queued.isOver = false)
    ⟨.new nThreads, fun _ member => absurd member List.not_mem_nil⟩
    fun _ _ _ kept _ taken => ⟨kept.1.poolStep taken, (poolStep_effect kept.2 taken).1⟩
  have served : state.IsServed nThreads := by
    refine ⟨queue, untouched, ?_⟩
    have lost := queue.lost
    omega
  exact served.exists_drained

/-! ### Likes and follows -/

/-- The requests for edges, each with its two readings of the clock. -/
def edgeServer :
    JobServer (Store × List (EdgeRequest × Store)) (EdgeRequest × Long × Long) Job where
  serve request world :=
    let served := request.1.serve request.2.1 request.2.2 world.1
    ((served.1, world.2 ++ [(request.1, world.1)]), served.2)
  run job world := (job.run false world.1, world.2)

/-- Bob likes an own graffiti, and alice likes it too. The first worker takes the job for the
notification of alice's like and is ended before the transaction, the second one takes that for the
activity of bob's. -/
def interruptedLike : List (PoolAction (EdgeRequest × Long × Long) Job) :=
  [.serve (.like 2 1, 8, 9), .serve (.like 1 1, 10, 11), .execute 1 0, .execute 0 0,
    .work (.enterSynchronized 0), .work (.endRun 0 .error), .work (.enterSynchronized 1)]

def afterInterruptedLike : PoolState (Store × List (EdgeRequest × Store)) Job :=
  (run (poolStep edgeServer) (.initial 2 (afterFollowedCreations.store, [])) interruptedLike).getD
    (.initial 2 (afterFollowedCreations.store, []))

theorem run_interruptedLike :
    run (poolStep edgeServer) (.initial 2 (afterFollowedCreations.store, [])) interruptedLike =
      some afterInterruptedLike := by
  rfl

theorem poolDrains_interruptedLike :
    ∃ (actions : List (PoolAction (EdgeRequest × Long × Long) Job)) (final : PoolState _ Job),
      (∀ action ∈ actions, action.isDraining = true) ∧
      run (poolStep edgeServer) afterInterruptedLike actions = some final ∧
        afterInterruptedLike.Drained edgeServer final :=
  poolDrains edgeServer 2 (afterFollowedCreations.store, []) afterInterruptedLike
    (reaches_of_run_unrestricted _ run_interruptedLike) (by decide)

end GraffiTab
