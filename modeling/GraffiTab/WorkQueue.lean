/-
This file asks whether the work queue keeps serving the jobs that are put into it.

A job is put at the end of the queue, and a worker of the pool takes the first one and runs
it once, whatever the interleaving. A worker catches the runtime exceptions of a job, as its
comment says so that the pool does not leak threads, but not the errors: a job that ends with
one ends its worker. As long as no job has done so, a queued job can still be taken, because
a worker only waits when others are awake for all that is queued.
-/

import Mathlib.Tactic.SplitIfs
import GraffiTab.Library.Runs

namespace GraffiTab

open Runs

/-! ### The pool -/

/-- Where a `PoolWorker` is: about to enter the synchronized block, waiting in it, running a
job, or out of the loop. -/
inductive PoolWorker (Runnable : Type) where
  | inLoop
  | waiting
  | running (runnable : Runnable)
  | terminated
  deriving DecidableEq

/-- How `r.run()` ends. -/
inductive RunEnding where
  | normally
  | runtimeException
  | error
  deriving DecidableEq

/-- The queue and the workers, with the jobs that were put into the queue, the calls of `r.run()`
and the ends of these calls so far. -/
structure WorkQueue (Runnable : Type) where
  queue : List Runnable
  threads : List (PoolWorker Runnable)
  submitted : List Runnable
  started : List Runnable
  ended : List (Runnable × RunEnding)
  deriving DecidableEq

/-- A call of `execute`, with the thread that is notified if one waits, or a step of a worker. -/
inductive QueueAction (Runnable : Type) where
  | execute (runnable : Runnable) (notified : Nat)
  | enterSynchronized (thread : Nat)
  | wakeUp (thread : Nat)
  | endRun (thread : Nat) (ending : RunEnding)

section Pool

variable {Runnable : Type}

def PoolWorker.isInLoop : PoolWorker Runnable → Bool
  | .inLoop => true
  | _ => false

def PoolWorker.isWaiting : PoolWorker Runnable → Bool
  | .waiting => true
  | _ => false

/-- Still in the loop of `run`. -/
def PoolWorker.isInPool : PoolWorker Runnable → Bool
  | .terminated => false
  | _ => true

/-- Only a `RuntimeException` is caught. -/
def PoolWorker.afterRun : RunEnding → PoolWorker Runnable
  | .normally | .runtimeException => .inLoop
  | .error => .terminated

/-- The constructor starts all the threads. -/
def WorkQueue.new (nThreads : Nat) : WorkQueue Runnable where
  queue := []
  threads := List.replicate nThreads .inLoop
  submitted := []
  started := []
  ended := []

def WorkQueue.setThread (workQueue : WorkQueue Runnable) (thread : Nat)
    (worker : PoolWorker Runnable) : WorkQueue Runnable :=
  { workQueue with threads := workQueue.threads.set thread worker }

/-- `queue.notify()`: any one of the waiting threads wakes up, if there is one. -/
def WorkQueue.notify (workQueue : WorkQueue Runnable) (thread : Nat) :
    Option (WorkQueue Runnable) :=
  if workQueue.threads.any PoolWorker.isWaiting then
    match workQueue.threads[thread]? with
    | some .waiting => some (workQueue.setThread thread .inLoop)
    | _ => none
  else some workQueue

def queueStep (workQueue : WorkQueue Runnable) :
    QueueAction Runnable → Option (WorkQueue Runnable)
  | .execute runnable notified =>
      { workQueue with
        queue := workQueue.queue ++ [runnable]
        submitted := workQueue.submitted ++ [runnable] }.notify notified
  | .enterSynchronized thread =>
      match workQueue.threads[thread]? with
      | some .inLoop =>
          match workQueue.queue with
          | [] => some (workQueue.setThread thread .waiting)
          | first :: rest =>
              some { workQueue with
                queue := rest
                threads := workQueue.threads.set thread (.running first)
                started := workQueue.started ++ [first] }
      | _ => none
  -- An interrupt or a wake-up for no reason leads back to the test of the queue.
  | .wakeUp thread =>
      match workQueue.threads[thread]? with
      | some .waiting => some (workQueue.setThread thread .inLoop)
      | _ => none
  | .endRun thread ending =>
      match workQueue.threads[thread]? with
      | some (.running runnable) =>
          some { workQueue with
            threads := workQueue.threads.set thread (.afterRun ending)
            ended := workQueue.ended ++ [(runnable, ending)] }
      | _ => none

/-! ### What the queue is there for -/

def QueueAction.isByWorker : QueueAction Runnable → Bool
  | .execute _ _ => false
  | _ => true

def QueueAction.endsWithError : QueueAction Runnable → Bool
  | .endRun _ .error => true
  | _ => false

/-- The workers alone can come to run the job that is next. -/
def CanBeTaken (workQueue : WorkQueue Runnable) (runnable : Runnable) : Prop :=
  ∃ actions next, (∀ action ∈ actions, action.isByWorker = true) ∧
    run queueStep workQueue actions = some next ∧ next.started = workQueue.started ++ [runnable]

structure ServesJobs (nThreads : Nat) (workQueue : WorkQueue Runnable) : Prop where
  eachOnceInOrder : workQueue.started ++ workQueue.queue = workQueue.submitted
  allInLoop : (workQueue.threads.countP PoolWorker.isInPool) = nThreads
  nextCanBeTaken : 0 < nThreads → ∀ runnable rest, workQueue.queue = runnable :: rest →
    CanBeTaken workQueue runnable

end Pool

/-! ### The invariant -/

section Invariant

variable {Runnable : Type} {workQueue next : WorkQueue Runnable} {action : QueueAction Runnable}

/-- A thread that changes its place changes the counts of the old and of the new one. -/
theorem countP_set_add {threads : List (PoolWorker Runnable)} {thread : Nat}
    {old : PoolWorker Runnable} (found : threads[thread]? = some old) (new : PoolWorker Runnable)
    (counted : PoolWorker Runnable → Bool) :
    (threads.set thread new).countP counted + (if counted old then 1 else 0) =
      threads.countP counted + if counted new then 1 else 0 := by
  obtain ⟨inRange, rfl⟩ := List.getElem?_eq_some_iff.mp found
  have positive : counted threads[thread] = true → 0 < threads.countP counted :=
    fun isCounted => List.countP_pos_iff.mpr ⟨_, List.getElem_mem inRange, isCounted⟩
  rw [List.countP_set inRange]
  split_ifs with isCounted
  · have := positive isCounted
    omega
  · have := positive isCounted
    omega
  · omega
  · omega

/-- The counts that the invariant is about, after a thread has changed its place. -/
theorem counts_set {threads : List (PoolWorker Runnable)} {thread : Nat}
    {old : PoolWorker Runnable} (found : threads[thread]? = some old)
    (new : PoolWorker Runnable) :
    ((threads.set thread new).countP PoolWorker.isInPool +
        (if old.isInPool then 1 else 0) =
      threads.countP PoolWorker.isInPool +
        if new.isInPool then 1 else 0) ∧
    ((threads.set thread new).countP PoolWorker.isWaiting + (if old.isWaiting then 1 else 0) =
      threads.countP PoolWorker.isWaiting + if new.isWaiting then 1 else 0) ∧
    (threads.set thread new).countP PoolWorker.isInLoop + (if old.isInLoop then 1 else 0) =
      threads.countP PoolWorker.isInLoop + if new.isInLoop then 1 else 0 :=
  ⟨countP_set_add found new _, countP_set_add found new _, countP_set_add found new _⟩

/-- What a step does, by its kind. -/
theorem queueStep_cases (taken : queueStep workQueue action = some next) :
    (∃ runnable notified added, action = .execute runnable notified ∧
      added = { workQueue with
        queue := workQueue.queue ++ [runnable]
        submitted := workQueue.submitted ++ [runnable] } ∧
      ((workQueue.threads.countP PoolWorker.isWaiting = 0 ∧ next = added) ∨
        (workQueue.threads[notified]? = some .waiting ∧ next = added.setThread notified .inLoop))) ∨
    (∃ thread, action = .enterSynchronized thread ∧ workQueue.threads[thread]? = some .inLoop ∧
      ((workQueue.queue = [] ∧ next = workQueue.setThread thread .waiting) ∨
        ∃ first rest, workQueue.queue = first :: rest ∧
          next = { workQueue with
            queue := rest
            threads := workQueue.threads.set thread (.running first)
            started := workQueue.started ++ [first] })) ∨
    (∃ thread, action = .wakeUp thread ∧ workQueue.threads[thread]? = some .waiting ∧
      next = workQueue.setThread thread .inLoop) ∨
    ∃ thread runnable ending, action = .endRun thread ending ∧
      workQueue.threads[thread]? = some (.running runnable) ∧
      next = { workQueue with
        threads := workQueue.threads.set thread (.afterRun ending)
        ended := workQueue.ended ++ [(runnable, ending)] } := by
  cases action with
  | execute runnable notified =>
      refine .inl ⟨runnable, notified, _, rfl, rfl, ?_⟩
      simp only [queueStep, WorkQueue.notify] at taken
      split_ifs at taken with anyWaiting
      · split at taken
        · rename_i found
          exact .inr ⟨found, (Option.some.inj taken).symm⟩
        · cases taken
      · refine .inl ⟨?_, (Option.some.inj taken).symm⟩
        rw [List.countP_eq_zero]
        exact fun worker member isWaiting =>
          anyWaiting (List.any_eq_true.mpr ⟨worker, member, isWaiting⟩)
  | enterSynchronized thread =>
      refine .inr (.inl ⟨thread, rfl, ?_⟩)
      simp only [queueStep] at taken
      split at taken
      · rename_i found
        refine ⟨found, ?_⟩
        split at taken
        · rename_i empty
          exact .inl ⟨empty, (Option.some.inj taken).symm⟩
        · rename_i first rest queued
          exact .inr ⟨first, rest, queued, (Option.some.inj taken).symm⟩
      · cases taken
  | wakeUp thread =>
      refine .inr (.inr (.inl ⟨thread, rfl, ?_⟩))
      simp only [queueStep] at taken
      split at taken
      · rename_i found
        exact ⟨found, (Option.some.inj taken).symm⟩
      · cases taken
  | endRun thread ending =>
      simp only [queueStep] at taken
      split at taken
      · rename_i runnable found
        exact .inr (.inr (.inr ⟨thread, runnable, ending, rfl, found,
          (Option.some.inj taken).symm⟩))
      · cases taken

/-- The jobs in order, a thread of the pool for every job that ended with an error or still in its
loop, and somebody awake for each queued job unless nobody waits. -/
structure QueueInvariant (nThreads : Nat) (workQueue : WorkQueue Runnable) : Prop where
  order : workQueue.started ++ workQueue.queue = workQueue.submitted
  lost : (workQueue.threads.countP PoolWorker.isInPool) +
    (workQueue.ended.countP fun run => run.2 = .error) = nThreads
  awake : workQueue.threads.countP PoolWorker.isWaiting = 0 ∨
    workQueue.queue.length ≤ workQueue.threads.countP PoolWorker.isInLoop

theorem QueueInvariant.new (nThreads : Nat) :
    QueueInvariant nThreads (WorkQueue.new nThreads : WorkQueue Runnable) where
  order := rfl
  lost := by simp [WorkQueue.new, List.countP_replicate, PoolWorker.isInPool]
  awake := .inr (Nat.zero_le _)

theorem QueueInvariant.step {nThreads : Nat} (invariant : QueueInvariant nThreads workQueue)
    (taken : queueStep workQueue action = some next) : QueueInvariant nThreads next := by
  obtain ⟨order, lost, awake⟩ := invariant
  rcases queueStep_cases taken with ⟨runnable, notified, added, -, rfl, notifies⟩ |
    ⟨thread, -, found, ⟨empty, rfl⟩ | ⟨first, rest, queued, rfl⟩⟩ | ⟨thread, -, found, rfl⟩ |
    ⟨thread, runnable, ending, -, found, rfl⟩
  · have ordered : workQueue.started ++ (workQueue.queue ++ [runnable]) =
        workQueue.submitted ++ [runnable] := by
      rw [← List.append_assoc, order]
    rcases notifies with ⟨nobodyWaits, rfl⟩ | ⟨found, rfl⟩
    · exact ⟨ordered, lost, .inl nobodyWaits⟩
    · have counts := counts_set found .inLoop
      simp [PoolWorker.isInPool, PoolWorker.isWaiting, PoolWorker.isInLoop] at counts
      obtain ⟨inPool, waiting, inLoop⟩ := counts
      refine ⟨ordered, ?_, ?_⟩
      · simp only [WorkQueue.setThread, inPool, lost]
      · simp only [WorkQueue.setThread, List.length_append, List.length_singleton]
        omega
  · have counts := counts_set found .waiting
    simp [PoolWorker.isInPool, PoolWorker.isWaiting, PoolWorker.isInLoop] at counts
    obtain ⟨inPool, waiting, inLoop⟩ := counts
    refine ⟨order, ?_, .inr ?_⟩
    · simp only [WorkQueue.setThread, inPool, lost]
    · simp only [WorkQueue.setThread, empty, List.length_nil, Nat.zero_le]
  · have counts := counts_set found (.running first)
    simp [PoolWorker.isInPool, PoolWorker.isWaiting, PoolWorker.isInLoop] at counts
    obtain ⟨inPool, waiting, inLoop⟩ := counts
    rw [queued, List.length_cons] at awake
    refine ⟨?_, ?_, ?_⟩
    · rw [List.append_assoc, List.singleton_append, ← queued, order]
    · rw [inPool, lost]
    · dsimp only
      omega
  · have counts := counts_set found .inLoop
    simp [PoolWorker.isInPool, PoolWorker.isWaiting, PoolWorker.isInLoop] at counts
    obtain ⟨inPool, waiting, inLoop⟩ := counts
    refine ⟨order, ?_, ?_⟩
    · simp only [WorkQueue.setThread, inPool, lost]
    · simp only [WorkQueue.setThread]
      omega
  · obtain ⟨inPool, waiting, inLoop⟩ := counts_set found (.afterRun ending)
    refine ⟨order, ?_, ?_⟩
    · cases ending <;>
        simp [PoolWorker.afterRun, PoolWorker.isInPool] at inPool <;>
        simp [PoolWorker.afterRun, List.countP_append] <;> omega
    · cases ending <;>
        simp [PoolWorker.afterRun, PoolWorker.isWaiting, PoolWorker.isInLoop] at waiting inLoop <;>
        simp only [PoolWorker.afterRun] <;> omega

theorem QueueInvariant.of_run {nThreads : Nat} {actions : List (QueueAction Runnable)}
    (executed : run queueStep (WorkQueue.new nThreads) actions = some workQueue) :
    QueueInvariant nThreads workQueue :=
  (reaches_of_run_unrestricted actions executed).invariant (QueueInvariant nThreads) (.new nThreads)
    fun _ _ _ invariant _ taken => invariant.step taken

/-! ### Errors -/

/-- A step records an error exactly if it is one. -/
theorem errors_of_step (taken : queueStep workQueue action = some next) :
    (next.ended.countP fun run => run.2 = .error) =
      (workQueue.ended.countP fun run => run.2 = .error) +
        if action.endsWithError then 1 else 0 := by
  rcases queueStep_cases taken with ⟨runnable, notified, added, rfl, rfl, ⟨-, rfl⟩ | ⟨-, rfl⟩⟩ |
    ⟨thread, rfl, -, ⟨-, rfl⟩ | ⟨first, rest, -, rfl⟩⟩ | ⟨thread, rfl, -, rfl⟩ |
    ⟨thread, runnable, ending, rfl, -, rfl⟩
  · rfl
  · rfl
  · rfl
  · rfl
  · rfl
  · rw [List.countP_append, List.countP_singleton]
    cases ending <;> rfl

/-- The errors of a run are those that are recorded. -/
theorem errors_of_run (actions : List (QueueAction Runnable)) {start : WorkQueue Runnable}
    (executed : run queueStep start actions = some workQueue) :
    (workQueue.ended.countP fun run => run.2 = .error) =
      (start.ended.countP fun run => run.2 = .error) +
        actions.countP QueueAction.endsWithError := by
  induction actions generalizing start with
  | nil =>
      obtain rfl := Option.some.inj executed
      rfl
  | cons action rest inductionHypothesis =>
      rw [run] at executed
      cases taken : queueStep start action with
      | none =>
          rw [taken] at executed
          cases executed
      | some middle =>
          rw [taken] at executed
          rw [inductionHypothesis executed, errors_of_step taken, List.countP_cons]
          omega

/-! ### Progress -/

/-- A worker that is awake takes the next job. -/
theorem canBeTaken_of_inLoop {thread : Nat} {runnable : Runnable} {rest : List Runnable}
    (found : workQueue.threads[thread]? = some .inLoop)
    (queued : workQueue.queue = runnable :: rest) : CanBeTaken workQueue runnable := by
  have executed : run queueStep workQueue [.enterSynchronized thread] =
      some { workQueue with
        queue := rest
        threads := workQueue.threads.set thread (.running runnable)
        started := workQueue.started ++ [runnable] } := by
    simp only [run, queueStep, found, queued]
  refine ⟨[.enterSynchronized thread], _, ?_, executed, rfl⟩
  intro action listed
  rw [List.mem_singleton.mp listed]
  rfl

/-- A worker that runs a job takes the next one when it has finished. -/
theorem canBeTaken_of_running {thread : Nat} {current runnable : Runnable} {rest : List Runnable}
    (found : workQueue.threads[thread]? = some (.running current))
    (queued : workQueue.queue = runnable :: rest) : CanBeTaken workQueue runnable := by
  obtain ⟨inRange, -⟩ := List.getElem?_eq_some_iff.mp found
  let afterRun : WorkQueue Runnable := { workQueue with
    threads := workQueue.threads.set thread .inLoop
    ended := workQueue.ended ++ [(current, .normally)] }
  have ended : queueStep workQueue (.endRun thread .normally) = some afterRun := by
    simp only [queueStep, found, PoolWorker.afterRun]
    rfl
  have returned : afterRun.threads[thread]? = some .inLoop := List.getElem?_set_self inRange
  obtain ⟨actions, next, byWorkers, executed, started⟩ := canBeTaken_of_inLoop returned queued
  refine ⟨.endRun thread .normally :: actions, next,
    List.forall_mem_cons.mpr ⟨rfl, byWorkers⟩, ?_, started⟩
  rw [run, ended]
  exact executed

/-- A pool that has not lost all its workers comes to run the next job. -/
theorem QueueInvariant.canBeTaken {nThreads : Nat} (invariant : QueueInvariant nThreads workQueue)
    (notEmpty : 0 < workQueue.threads.countP PoolWorker.isInPool) {runnable : Runnable}
    {rest : List Runnable} (queued : workQueue.queue = runnable :: rest) :
    CanBeTaken workQueue runnable := by
  by_cases awake : 0 < workQueue.threads.countP PoolWorker.isInLoop
  · obtain ⟨worker, member, isInLoop⟩ := List.countP_pos_iff.mp awake
    obtain ⟨thread, found⟩ := List.getElem?_of_mem member
    cases worker with
    | inLoop => exact canBeTaken_of_inLoop found queued
    | waiting => cases isInLoop
    | running current => cases isInLoop
    | terminated => cases isInLoop
  · -- Nobody is awake although a job is queued, so nobody waits either.
    have nobodyWaits : workQueue.threads.countP PoolWorker.isWaiting = 0 := by
      have := invariant.awake
      rw [queued, List.length_cons] at this
      omega
    obtain ⟨worker, member, isInPool⟩ := List.countP_pos_iff.mp notEmpty
    obtain ⟨thread, found⟩ := List.getElem?_of_mem member
    cases worker with
    | inLoop => exact canBeTaken_of_inLoop found queued
    | waiting => exact absurd rfl (List.countP_eq_zero.mp nobodyWaits _ member)
    | running current => exact canBeTaken_of_running found queued
    | terminated => cases isInPool

/-- In every run the queue serves its jobs exactly if none has ended with an error. -/
theorem servesJobs_iff (nThreads : Nat) (actions : List (QueueAction Runnable))
    (executed : run queueStep (WorkQueue.new nThreads) actions = some workQueue) :
    ServesJobs nThreads workQueue ↔ ∀ action ∈ actions, action.endsWithError = false := by
  have invariant := QueueInvariant.of_run executed
  have lost := invariant.lost
  rw [errors_of_run actions executed, WorkQueue.new, List.countP_nil, Nat.zero_add] at lost
  constructor
  · intro serves action member
    have noErrors : actions.countP QueueAction.endsWithError = 0 := by
      have := serves.allInLoop
      omega
    exact (Bool.not_eq_true _).mp (List.countP_eq_zero.mp noErrors action member)
  · intro noErrors
    have none : actions.countP QueueAction.endsWithError = 0 :=
      List.countP_eq_zero.mpr fun action member =>
        ne_true_of_eq_false (noErrors action member)
    have allInLoop : workQueue.threads.countP PoolWorker.isInPool = nThreads := by omega
    exact ⟨invariant.order, allInLoop, fun positive runnable rest queued =>
      invariant.canBeTaken (allInLoop.symm ▸ positive) queued⟩

end Invariant

/-! ### The pool of the job service -/

/-- The pool of `JobService` runs a job to its end and waits for the next one. -/
theorem servesJobs_iff_two :
    ServesJobs 2 (⟨[], [.waiting, .inLoop], ["notify"], ["notify"],
        [("notify", .runtimeException)]⟩ : WorkQueue String) ↔
      ∀ action ∈ ([.execute "notify" 0, .enterSynchronized 0, .endRun 0 .runtimeException,
        .enterSynchronized 0] : List (QueueAction String)), action.endsWithError = false :=
  servesJobs_iff 2 _ (by decide)

/-- Two jobs that end with errors stop the pool of `JobService`. -/
theorem not_servesJobs :
    ¬ ∀ (actions : List (QueueAction String)) workQueue,
      run queueStep (WorkQueue.new 2) actions = some workQueue → ServesJobs 2 workQueue := by
  intro always
  have serves := always
    [.execute "first" 0, .execute "second" 0, .execute "third" 0, .enterSynchronized 0,
      .enterSynchronized 1, .endRun 0 .error, .endRun 1 .error] _ rfl
  exact absurd serves.allInLoop (by decide)

end GraffiTab
