/-
This file asks whether an action that waits for a commit is submitted when its transaction
commits.

The actions of a thread are collected in a list that belongs to the thread and not to the
transaction. Only `executeInTransactionWithResult` empties it, after every block of its own
that returns: also within an outer transaction that has not committed yet, and also of actions
that a transaction left behind that was rolled back. So the actions are submitted rightly
exactly if every such block returns when all that is in the list belongs to committed
transactions, and every commit with actions of its transaction in the list is the return of such a
block or is followed by one.
-/

import Mathlib.Data.List.Count
import Mathlib.Data.List.Nodup
import GraffiTab.Library.Runs

namespace GraffiTab

open Runs

/-! ### Blocks on one thread -/

inductive EntryPoint where
  | executeInTransaction
  | executeInTransactionWithResult
  | executeInNewTransaction
  deriving DecidableEq

/-- A block that has been entered: the physical transaction that it runs in, and whether it has
begun that transaction. -/
structure TransactionFrame where
  entryPoint : EntryPoint
  transaction : Nat
  isNew : Bool
  deriving DecidableEq

/-- A registered action, numbered, with the physical transaction in which it was registered. -/
structure PostCommitAction where
  number : Nat
  transaction : Nat
  deriving DecidableEq

inductive ThreadEvent where
  | registered (action : PostCommitAction)
  | committed (transaction : Nat)
  | rolledBack (transaction : Nat)
  | submitted (action : PostCommitAction)
  deriving DecidableEq

/-- The blocks that the thread is in, the innermost first, the transactions that can only be rolled
back, the list `RUNNABLES_BY_THREAD`, how many transactions have begun and how many actions were
registered, and what has happened so far. -/
structure TransactionThread where
  frames : List TransactionFrame
  rollbackOnly : List Nat
  runnables : List PostCommitAction
  transactions : Nat
  actions : Nat
  history : List ThreadEvent
  deriving DecidableEq

inductive BlockEnding where
  | normally
  | byException
  deriving DecidableEq

inductive ThreadStep where
  | enter (entryPoint : EntryPoint)
  | addPostTransactionCommitAction
  | leave (ending : BlockEnding)
  deriving DecidableEq

namespace TransactionThread

variable (thread : TransactionThread)

def idle : TransactionThread := ⟨[], [], [], 0, 0, []⟩

def record (event : ThreadEvent) : TransactionThread :=
  { thread with history := thread.history ++ [event] }

/-- A block joins the transaction around it; without one, or with `REQUIRES_NEW`, it begins its
own. -/
def enter (entryPoint : EntryPoint) : TransactionThread :=
  match thread.frames, entryPoint with
  | outer :: _, .executeInTransaction | outer :: _, .executeInTransactionWithResult =>
      { thread with frames := ⟨entryPoint, outer.transaction, false⟩ :: thread.frames }
  | _, _ =>
      { thread with
        frames := ⟨entryPoint, thread.transactions, true⟩ :: thread.frames
        transactions := thread.transactions + 1 }

def register (transaction : Nat) : TransactionThread :=
  { thread with
    runnables := thread.runnables ++ [⟨thread.actions, transaction⟩]
    actions := thread.actions + 1
    history := thread.history ++ [.registered ⟨thread.actions, transaction⟩] }

def executePostTransactionCommitActions : TransactionThread :=
  { thread with
    runnables := []
    history := thread.history ++ thread.runnables.map .submitted }

/-- What an entry point does when its template has returned. -/
def returnFrom : EntryPoint → TransactionThread
  | .executeInTransactionWithResult => thread.executePostTransactionCommitActions
  | .executeInTransaction | .executeInNewTransaction => thread

/-- The thread after its innermost block. A block that has only joined its transaction marks it
when it fails, and returns even when the transaction is marked. -/
def leave (frame : TransactionFrame) (rest : List TransactionFrame) (ending : BlockEnding) :
    TransactionThread :=
  let outer := { thread with frames := rest }
  match frame.isNew, ending with
  | true, .normally =>
      if frame.transaction ∈ thread.rollbackOnly then
        -- `UnexpectedRollbackException`.
        outer.record (.rolledBack frame.transaction)
      else (outer.record (.committed frame.transaction)).returnFrom frame.entryPoint
  | true, .byException => outer.record (.rolledBack frame.transaction)
  | false, .normally => outer.returnFrom frame.entryPoint
  | false, .byException =>
      { outer with rollbackOnly := frame.transaction :: thread.rollbackOnly }

end TransactionThread

/-- A step of the code on the thread; an exception can be caught within any outer block. -/
def threadStep (thread : TransactionThread) : ThreadStep → Option TransactionThread
  | .enter entryPoint => some (thread.enter entryPoint)
  | .addPostTransactionCommitAction =>
      match thread.frames with
      | [] => none
      | frame :: _ => some (thread.register frame.transaction)
  | .leave ending =>
      match thread.frames with
      | [] => none
      | frame :: rest => some (thread.leave frame rest ending)

/-! ### Submitted actions -/

/-- An action is submitted once when its transaction commits, after the commit, and never when the
transaction is rolled back. -/
structure SubmitsAfterCommit (history : List ThreadEvent) : Prop where
  once : ∀ action, .registered action ∈ history → .committed action.transaction ∈ history →
    history.count (.submitted action) = 1
  afterCommit : ∀ action before after, history = before ++ .submitted action :: after →
    .committed action.transaction ∈ before
  notAfterRollback : ∀ action, .registered action ∈ history →
    .rolledBack action.transaction ∈ history → .submitted action ∉ history

/-- The step makes a block of `executeInTransactionWithResult` return. -/
def ReturnsResult (thread : TransactionThread) (step : ThreadStep) (frame : TransactionFrame) :
    Prop :=
  step = .leave .normally ∧ thread.frames.head? = some frame ∧
    frame.entryPoint = .executeInTransactionWithResult ∧
      (frame.isNew = true → frame.transaction ∉ thread.rollbackOnly)

/-- When the block of a result returns, the transactions of all actions in the list have committed,
its own one included. -/
def ReturnsWhenCommitted (thread : TransactionThread) (step : ThreadStep) : Prop :=
  ∀ frame, ReturnsResult thread step frame → ∀ action ∈ thread.runnables,
    .committed action.transaction ∈ thread.history ∨
      (frame.isNew = true ∧ action.transaction = frame.transaction)

/-- The step commits the transaction. -/
def Commits (thread : TransactionThread) (step : ThreadStep) (transaction : Nat) : Prop :=
  step = .leave .normally ∧ ∃ frame, thread.frames.head? = some frame ∧ frame.isNew = true ∧
    frame.transaction = transaction ∧ transaction ∉ thread.rollbackOnly

/-- The step commits the transaction of an action in the list. -/
def CommitsListed (thread : TransactionThread) (step : ThreadStep) : Prop :=
  ∃ action ∈ thread.runnables, Commits thread step action.transaction

/-- The step empties the list. -/
def EmptiesList (thread : TransactionThread) (step : ThreadStep) : Prop :=
  ∃ frame, ReturnsResult thread step frame

/-- No action of a committed transaction is left in the list. -/
def LeavesNoneBehind (thread : TransactionThread) : Prop :=
  ∀ action ∈ thread.runnables, .committed action.transaction ∉ thread.history

/-! ### Steps -/

/-- The end of a transaction. -/
def ThreadEvent.isEnd : ThreadEvent → Bool
  | .committed _ | .rolledBack _ => true
  | .registered _ | .submitted _ => false

/-- The commit of a block that has begun its transaction. -/
def TransactionFrame.commit (frame : TransactionFrame) : List ThreadEvent :=
  if frame.isNew then [.committed frame.transaction] else []

theorem mem_commit {frame : TransactionFrame} {event : ThreadEvent} :
    event ∈ frame.commit ↔ frame.isNew = true ∧ event = .committed frame.transaction := by
  unfold TransactionFrame.commit
  split
  · rename_i isNew
    rw [List.mem_singleton]
    exact (and_iff_right isNew).symm
  · rename_i joined
    exact iff_of_false List.not_mem_nil fun isNew => joined isNew.1

section Steps

variable {thread next : TransactionThread} {step : ThreadStep}

/-- The step changes nothing about the actions. -/
structure KeepsActions (thread next : TransactionThread) (step : ThreadStep) : Prop where
  runnables : next.runnables = thread.runnables
  actions : next.actions = thread.actions
  history : ∃ ends : List ThreadEvent, (∀ event ∈ ends, event.isEnd = true) ∧
    next.history = thread.history ++ ends
  noReturn : ∀ frame, ¬ReturnsResult thread step frame

/-- The step registers an action in the transaction. -/
structure Registers (thread next : TransactionThread) (step : ThreadStep) (transaction : Nat) :
    Prop where
  runnables : next.runnables = thread.runnables ++ [⟨thread.actions, transaction⟩]
  actions : next.actions = thread.actions + 1
  history : next.history = thread.history ++ [.registered ⟨thread.actions, transaction⟩]
  noReturn : ∀ frame, ¬ReturnsResult thread step frame

/-- The step submits all the actions in the list. -/
structure SubmitsAll (thread next : TransactionThread) (step : ThreadStep)
    (frame : TransactionFrame) : Prop where
  returns : ReturnsResult thread step frame
  runnables : next.runnables = []
  actions : next.actions = thread.actions
  history : next.history = thread.history ++ (frame.commit ++ thread.runnables.map .submitted)

theorem enter_keepsActions (entryPoint : EntryPoint) :
    KeepsActions thread (thread.enter entryPoint) (.enter entryPoint) := by
  have noReturn : ∀ frame, ¬ReturnsResult thread (.enter entryPoint) frame := by
    rintro frame ⟨absurdity, -⟩
    cases absurdity
  unfold TransactionThread.enter
  split <;> exact ⟨rfl, rfl, ⟨[], fun _ member => absurd member List.not_mem_nil,
    (List.append_nil _).symm⟩, noReturn⟩

/-- A block that returns empties the list if it is one of a result. -/
theorem returnFrom_cases (outer : TransactionThread) (entryPoint : EntryPoint) :
    (entryPoint = .executeInTransactionWithResult ∧
      outer.returnFrom entryPoint = outer.executePostTransactionCommitActions) ∨
    (entryPoint ≠ .executeInTransactionWithResult ∧ outer.returnFrom entryPoint = outer) := by
  cases entryPoint with
  | executeInTransaction => exact .inr ⟨nofun, rfl⟩
  | executeInTransactionWithResult => exact .inl ⟨rfl, rfl⟩
  | executeInNewTransaction => exact .inr ⟨nofun, rfl⟩

theorem ReturnsResult.innermost {frame other : TransactionFrame} {rest : List TransactionFrame}
    (innermost : thread.frames = frame :: rest) (returns : ReturnsResult thread step other) :
    other = frame := by
  have head := returns.2.1
  rw [innermost] at head
  exact (Option.some.inj head).symm

theorem not_returnsResult_byException (frame : TransactionFrame) :
    ¬ReturnsResult thread (.leave .byException) frame := by
  rintro ⟨absurdity, -⟩
  cases absurdity

/-- What leaving a block does to the actions. -/
theorem leave_cases {frame : TransactionFrame} {rest : List TransactionFrame}
    (innermost : thread.frames = frame :: rest) (ending : BlockEnding) :
    KeepsActions thread (thread.leave frame rest ending) (.leave ending) ∨
      SubmitsAll thread (thread.leave frame rest ending) (.leave ending) frame := by
  obtain ⟨entryPoint, transaction, isNew⟩ := frame
  have otherEntryPoint (different : entryPoint ≠ .executeInTransactionWithResult)
      (other : TransactionFrame) : ¬ReturnsResult thread (.leave .normally) other := by
    intro returns
    obtain rfl := returns.innermost innermost
    exact different returns.2.2.1
  cases isNew with
  | true =>
      cases ending with
      | normally =>
          by_cases marked : transaction ∈ thread.rollbackOnly
          · refine .inl ⟨?_, ?_, ⟨[.rolledBack transaction], by simp [ThreadEvent.isEnd], ?_⟩, ?_⟩
            · simp only [TransactionThread.leave, if_pos marked, TransactionThread.record]
            · simp only [TransactionThread.leave, if_pos marked, TransactionThread.record]
            · simp only [TransactionThread.leave, if_pos marked, TransactionThread.record]
            · intro other returns
              obtain rfl := returns.innermost innermost
              exact returns.2.2.2 rfl marked
          · have left : thread.leave ⟨entryPoint, transaction, true⟩ rest .normally =
                ({ thread with frames := rest }.record (.committed transaction)).returnFrom
                  entryPoint := by
              simp only [TransactionThread.leave, if_neg marked]
            rw [left]
            rcases returnFrom_cases
              ({ thread with frames := rest }.record (.committed transaction)) entryPoint with
              ⟨rfl, returned⟩ | ⟨different, returned⟩
            · rw [returned]
              refine .inr ⟨⟨rfl, by rw [innermost]; rfl, rfl, fun _ => marked⟩, rfl, rfl, ?_⟩
              exact List.append_assoc _ _ _
            · rw [returned]
              exact .inl ⟨rfl, rfl, ⟨[.committed transaction], by simp [ThreadEvent.isEnd], rfl⟩,
                otherEntryPoint different⟩
      | byException =>
          exact .inl ⟨rfl, rfl, ⟨[.rolledBack transaction], by simp [ThreadEvent.isEnd], rfl⟩,
            not_returnsResult_byException⟩
  | false =>
      cases ending with
      | normally =>
          have left : thread.leave ⟨entryPoint, transaction, false⟩ rest .normally =
              { thread with frames := rest }.returnFrom entryPoint := rfl
          rw [left]
          rcases returnFrom_cases { thread with frames := rest } entryPoint with
            ⟨rfl, returned⟩ | ⟨different, returned⟩
          · rw [returned]
            exact .inr ⟨⟨rfl, by rw [innermost]; rfl, rfl, nofun⟩, rfl, rfl, rfl⟩
          · rw [returned]
            exact .inl ⟨rfl, rfl, ⟨[], nofun, (List.append_nil _).symm⟩,
              otherEntryPoint different⟩
      | byException =>
          exact .inl ⟨rfl, rfl, ⟨[], nofun, (List.append_nil _).symm⟩,
            not_returnsResult_byException⟩

/-- What a step does: a block is entered, an action is registered in the innermost block, or that
block is left. -/
theorem threadStep_eq_some (taken : threadStep thread step = some next) :
    (∃ entryPoint, step = .enter entryPoint ∧ next = thread.enter entryPoint) ∨
      (∃ frame rest, step = .addPostTransactionCommitAction ∧ thread.frames = frame :: rest ∧
        next = thread.register frame.transaction) ∨
      ∃ ending frame rest, step = .leave ending ∧ thread.frames = frame :: rest ∧
        next = thread.leave frame rest ending := by
  cases step with
  | enter entryPoint => exact .inl ⟨entryPoint, rfl, (Option.some.inj taken).symm⟩
  | addPostTransactionCommitAction =>
      simp only [threadStep] at taken
      split at taken
      · cases taken
      · rename_i frame rest innermost
        exact .inr (.inl ⟨frame, rest, rfl, innermost, (Option.some.inj taken).symm⟩)
  | leave ending =>
      simp only [threadStep] at taken
      split at taken
      · cases taken
      · rename_i frame rest innermost
        exact .inr (.inr ⟨ending, frame, rest, rfl, innermost, (Option.some.inj taken).symm⟩)

/-- Every step keeps the actions, registers one or submits them all. -/
theorem threadStep_cases (taken : threadStep thread step = some next) :
    KeepsActions thread next step ∨ (∃ transaction, Registers thread next step transaction) ∨
      ∃ frame, SubmitsAll thread next step frame := by
  rcases threadStep_eq_some taken with
    ⟨entryPoint, rfl, rfl⟩ | ⟨frame, rest, rfl, -, rfl⟩ | ⟨ending, frame, rest, rfl, innermost, rfl⟩
  · exact .inl (enter_keepsActions entryPoint)
  · refine .inr (.inl ⟨frame.transaction, rfl, rfl, rfl, ?_⟩)
    rintro other ⟨absurdity, -⟩
    cases absurdity
  · exact (leave_cases innermost ending).imp id fun submits => .inr ⟨frame, submits⟩

/-! ### The list of the thread -/

/-- The list holds the registered actions that were not submitted, and the others were submitted
once. -/
structure ListInvariant (thread : TransactionThread) : Prop where
  numbered : ∀ action, .registered action ∈ thread.history → action.number < thread.actions
  onlyRegistered : ∀ action, .submitted action ∈ thread.history →
    .registered action ∈ thread.history
  listed : ∀ action ∈ thread.runnables, .registered action ∈ thread.history ∧
    .submitted action ∉ thread.history
  distinct : thread.runnables.Nodup
  submitted : ∀ action, .registered action ∈ thread.history → action ∉ thread.runnables →
    thread.history.count (.submitted action) = 1

theorem ListInvariant.idle : ListInvariant .idle where
  numbered _ member := absurd member List.not_mem_nil
  onlyRegistered _ member := absurd member List.not_mem_nil
  listed _ member := absurd member List.not_mem_nil
  distinct := List.nodup_nil
  submitted _ member := absurd member List.not_mem_nil

/-- The ends of transactions are no events of actions. -/
theorem mem_append_ends {ends history : List ThreadEvent} {event : ThreadEvent}
    (areEnds : ∀ event ∈ ends, event.isEnd = true) (isNoEnd : event.isEnd = false) :
    event ∈ history ++ ends ↔ event ∈ history := by
  rw [List.mem_append]
  refine or_iff_left fun member => ?_
  rw [areEnds event member] at isNoEnd
  cases isNoEnd

theorem count_append_ends {ends history : List ThreadEvent} {event : ThreadEvent}
    (areEnds : ∀ event ∈ ends, event.isEnd = true) (isNoEnd : event.isEnd = false) :
    (history ++ ends).count event = history.count event := by
  have absent : event ∉ ends := by
    intro member
    rw [areEnds event member] at isNoEnd
    cases isNoEnd
  rw [List.count_append, List.count_eq_zero.mpr absent, Nat.add_zero]

theorem ListInvariant.keeps (invariant : ListInvariant thread)
    (keeps : KeepsActions thread next step) : ListInvariant next := by
  obtain ⟨ends, areEnds, history⟩ := keeps.history
  have registered {action : PostCommitAction} :
      .registered action ∈ next.history ↔ .registered action ∈ thread.history := by
    rw [history]
    exact mem_append_ends areEnds rfl
  have submitted {action : PostCommitAction} :
      .submitted action ∈ next.history ↔ .submitted action ∈ thread.history := by
    rw [history]
    exact mem_append_ends areEnds rfl
  refine ⟨?_, ?_, ?_, ?_, ?_⟩
  · intro action member
    rw [keeps.actions]
    exact invariant.numbered action (registered.mp member)
  · intro action member
    exact registered.mpr (invariant.onlyRegistered action (submitted.mp member))
  · intro action member
    rw [keeps.runnables] at member
    exact (invariant.listed action member).imp registered.mpr (mt submitted.mp)
  · rw [keeps.runnables]
    exact invariant.distinct
  · intro action member unlisted
    rw [keeps.runnables] at unlisted
    rw [history, count_append_ends areEnds rfl]
    exact invariant.submitted action (registered.mp member) unlisted

theorem ListInvariant.registers (invariant : ListInvariant thread) {transaction : Nat}
    (registers : Registers thread next step transaction) : ListInvariant next := by
  have registered {action : PostCommitAction} : .registered action ∈ next.history ↔
      .registered action ∈ thread.history ∨ action = ⟨thread.actions, transaction⟩ := by
    rw [registers.history, List.mem_append, List.mem_singleton, ThreadEvent.registered.injEq]
  have submitted {action : PostCommitAction} :
      .submitted action ∈ next.history ↔ .submitted action ∈ thread.history := by
    rw [registers.history, List.mem_append, List.mem_singleton]
    exact or_iff_left nofun
  have isNew : ThreadEvent.registered ⟨thread.actions, transaction⟩ ∉ thread.history :=
    fun member => Nat.lt_irrefl _ (invariant.numbered _ member)
  refine ⟨?_, ?_, ?_, ?_, ?_⟩
  · intro action member
    rw [registers.actions]
    rcases registered.mp member with earlier | rfl
    · exact Nat.lt_succ_of_lt (invariant.numbered action earlier)
    · exact Nat.lt_succ_self _
  · intro action member
    exact registered.mpr (.inl (invariant.onlyRegistered action (submitted.mp member)))
  · intro action member
    rw [registers.runnables, List.mem_append, List.mem_singleton] at member
    rcases member with earlier | rfl
    · exact (invariant.listed action earlier).imp (registered.mpr ∘ .inl) (mt submitted.mp)
    · exact ⟨registered.mpr (.inr rfl),
        fun member => isNew (invariant.onlyRegistered _ (submitted.mp member))⟩
  · rw [registers.runnables, List.nodup_append]
    refine ⟨invariant.distinct, List.nodup_cons.mpr ⟨List.not_mem_nil, List.nodup_nil⟩, ?_⟩
    rintro first earlier second isSecond rfl
    obtain rfl := List.mem_singleton.mp isSecond
    exact isNew (invariant.listed _ earlier).1
  · intro action member unlisted
    rw [registers.runnables, List.mem_append, List.mem_singleton, not_or] at unlisted
    rw [registers.history, List.count_append, List.count_singleton]
    have earlier := (registered.mp member).resolve_right unlisted.2
    exact invariant.submitted action earlier unlisted.1

theorem ListInvariant.submitsAll (invariant : ListInvariant thread) {frame : TransactionFrame}
    (submits : SubmitsAll thread next step frame) : ListInvariant next := by
  have registered {action : PostCommitAction} :
      .registered action ∈ next.history ↔ .registered action ∈ thread.history := by
    rw [submits.history, List.mem_append, List.mem_append]
    refine or_iff_left ?_
    rintro (committed | flushed)
    · exact absurd (mem_commit.mp committed).2 nofun
    · obtain ⟨other, -, absurdity⟩ := List.mem_map.mp flushed
      cases absurdity
  have submitted {action : PostCommitAction} : .submitted action ∈ next.history ↔
      .submitted action ∈ thread.history ∨ action ∈ thread.runnables := by
    rw [submits.history, List.mem_append, List.mem_append]
    refine or_congr_right ((or_iff_right fun committed => ?_).trans ?_)
    · exact absurd (mem_commit.mp committed).2 nofun
    · simp only [List.mem_map, ThreadEvent.submitted.injEq, exists_eq_right]
  refine ⟨?_, ?_, ?_, ?_, ?_⟩
  · intro action member
    rw [submits.actions]
    exact invariant.numbered action (registered.mp member)
  · intro action member
    rcases submitted.mp member with earlier | listed
    · exact registered.mpr (invariant.onlyRegistered action earlier)
    · exact registered.mpr (invariant.listed action listed).1
  · intro action member
    rw [submits.runnables] at member
    cases member
  · rw [submits.runnables]
    exact List.nodup_nil
  · intro action member _
    have flushed : (thread.runnables.map ThreadEvent.submitted).count (.submitted action) =
        thread.runnables.count action :=
      List.count_map_of_injective _ _ (fun _ _ same => ThreadEvent.submitted.inj same) _
    have uncommitted : frame.commit.count (.submitted action) = 0 :=
      List.count_eq_zero.mpr fun committed => absurd (mem_commit.mp committed).2 nofun
    rw [submits.history, List.count_append, List.count_append, flushed, uncommitted, Nat.zero_add]
    by_cases listed : action ∈ thread.runnables
    · rw [List.count_eq_zero.mpr (invariant.listed action listed).2,
        List.count_eq_one_of_mem invariant.distinct listed]
    · rw [List.count_eq_zero.mpr listed, Nat.add_zero]
      exact invariant.submitted action (registered.mp member) listed

theorem ListInvariant.of_step (invariant : ListInvariant thread)
    (taken : threadStep thread step = some next) : ListInvariant next := by
  rcases threadStep_cases taken with keeps | ⟨transaction, registers⟩ | ⟨frame, submits⟩
  · exact invariant.keeps keeps
  · exact invariant.registers registers
  · exact invariant.submitsAll submits

/-! ### Transactions that end once -/

/-- The transactions that the thread is in have not ended, and no other one ends twice. -/
structure NestingInvariant (thread : TransactionThread) : Prop where
  apart : thread.frames.Pairwise fun inner outer =>
    inner.isNew = true → outer.transaction ≠ inner.transaction
  begun : ∀ frame ∈ thread.frames, frame.transaction < thread.transactions
  running : ∀ frame ∈ thread.frames, .committed frame.transaction ∉ thread.history ∧
    .rolledBack frame.transaction ∉ thread.history
  ended : ∀ transaction, .committed transaction ∈ thread.history ∨
    .rolledBack transaction ∈ thread.history → transaction < thread.transactions
  exclusive : ∀ transaction, .committed transaction ∈ thread.history →
    .rolledBack transaction ∉ thread.history

theorem NestingInvariant.idle : NestingInvariant .idle where
  apart := .nil
  begun _ member := absurd member List.not_mem_nil
  running _ member := absurd member List.not_mem_nil
  ended transaction member := absurd member (by simp [TransactionThread.idle])
  exclusive _ member := absurd member List.not_mem_nil

/-- Events of actions do not end transactions. -/
theorem NestingInvariant.of_same_ends (invariant : NestingInvariant thread)
    (frames : next.frames = thread.frames) (transactions : next.transactions = thread.transactions)
    (ends : ∀ event : ThreadEvent, event.isEnd = true →
      (event ∈ next.history ↔ event ∈ thread.history)) : NestingInvariant next := by
  have committed (transaction : Nat) := ends (.committed transaction) rfl
  have rolledBack (transaction : Nat) := ends (.rolledBack transaction) rfl
  refine ⟨?_, ?_, ?_, ?_, ?_⟩
  · rw [frames]
    exact invariant.apart
  · rw [frames, transactions]
    exact invariant.begun
  · intro frame member
    rw [frames] at member
    rw [committed, rolledBack]
    exact invariant.running frame member
  · intro transaction
    rw [committed, rolledBack, transactions]
    exact invariant.ended transaction
  · intro transaction
    rw [committed, rolledBack]
    exact invariant.exclusive transaction

/-- The ends that leaving a block can have: none, or that of the transaction that it has begun. -/
def TransactionFrame.CanEnd (frame : TransactionFrame) (ended : List ThreadEvent) : Prop :=
  ended = [] ∨ frame.isNew = true ∧
    (ended = [.committed frame.transaction] ∨ ended = [.rolledBack frame.transaction])

/-- Submitting actions ends no transaction. -/
theorem mem_history_returnFrom {outer : TransactionThread} (entryPoint : EntryPoint)
    {event : ThreadEvent} (isEnd : event.isEnd = true) :
    event ∈ (outer.returnFrom entryPoint).history ↔ event ∈ outer.history := by
  rcases returnFrom_cases outer entryPoint with ⟨-, returned⟩ | ⟨-, returned⟩
  · rw [returned]
    show event ∈ outer.history ++ _ ↔ _
    rw [List.mem_append]
    refine or_iff_left fun flushed => ?_
    obtain ⟨action, -, rfl⟩ := List.mem_map.mp flushed
    cases isEnd
  · rw [returned]

theorem leave_ends (thread : TransactionThread) (frame : TransactionFrame)
    (rest : List TransactionFrame) (ending : BlockEnding) :
    ∃ ended, frame.CanEnd ended ∧ ∀ event : ThreadEvent, event.isEnd = true →
      (event ∈ (thread.leave frame rest ending).history ↔
        event ∈ thread.history ++ ended) := by
  obtain ⟨entryPoint, transaction, isNew⟩ := frame
  have noEnd : TransactionFrame.CanEnd ⟨entryPoint, transaction, false⟩ [] := .inl rfl
  have commits : TransactionFrame.CanEnd ⟨entryPoint, transaction, true⟩
      [.committed transaction] := .inr ⟨rfl, .inl rfl⟩
  have rollsBack : TransactionFrame.CanEnd ⟨entryPoint, transaction, true⟩
      [.rolledBack transaction] := .inr ⟨rfl, .inr rfl⟩
  cases isNew with
  | true =>
      cases ending with
      | normally =>
          simp only [TransactionThread.leave]
          split
          · exact ⟨_, rollsBack, fun event _ => Iff.rfl⟩
          · exact ⟨_, commits, fun event isEnd => mem_history_returnFrom entryPoint isEnd⟩
      | byException => exact ⟨_, rollsBack, fun event _ => Iff.rfl⟩
  | false =>
      cases ending with
      | normally =>
          refine ⟨_, noEnd, fun event isEnd => ?_⟩
          rw [List.append_nil]
          exact mem_history_returnFrom entryPoint isEnd
      | byException =>
          refine ⟨_, noEnd, fun event _ => ?_⟩
          rw [List.append_nil]
          rfl

theorem leave_frames (thread : TransactionThread) (frame : TransactionFrame)
    (rest : List TransactionFrame) (ending : BlockEnding) :
    (thread.leave frame rest ending).frames = rest ∧
      (thread.leave frame rest ending).transactions = thread.transactions := by
  obtain ⟨entryPoint, transaction, isNew⟩ := frame
  unfold TransactionThread.leave
  cases isNew <;> cases ending <;> cases entryPoint <;> dsimp only <;> (try split) <;>
    exact ⟨rfl, rfl⟩

theorem TransactionFrame.CanEnd.of_mem {frame : TransactionFrame} {ended : List ThreadEvent}
    (canEnd : frame.CanEnd ended) {transaction : Nat}
    (member : .committed transaction ∈ ended ∨ .rolledBack transaction ∈ ended) :
    frame.isNew = true ∧ transaction = frame.transaction := by
  rcases canEnd with rfl | ⟨isNew, rfl | rfl⟩
  · simp at member
  · exact ⟨isNew, by simpa using member⟩
  · exact ⟨isNew, by simpa using member⟩

theorem TransactionFrame.CanEnd.exclusive {frame : TransactionFrame} {ended : List ThreadEvent}
    (canEnd : frame.CanEnd ended) {transaction : Nat} (committed : .committed transaction ∈ ended) :
    .rolledBack transaction ∉ ended := by
  rcases canEnd with rfl | ⟨-, rfl | rfl⟩
  · exact List.not_mem_nil
  · simp
  · simp at committed

/-- Leaving a block ends at most the transaction that it has begun, in which no outer block is. -/
theorem NestingInvariant.leave (invariant : NestingInvariant thread) {frame : TransactionFrame}
    {rest : List TransactionFrame} (innermost : thread.frames = frame :: rest)
    (ending : BlockEnding) : NestingInvariant (thread.leave frame rest ending) := by
  obtain ⟨frames, transactions⟩ := leave_frames thread frame rest ending
  obtain ⟨ended, canEnd, ends⟩ := leave_ends thread frame rest ending
  have committed (transaction : Nat) := ends (.committed transaction) rfl
  have rolledBack (transaction : Nat) := ends (.rolledBack transaction) rfl
  simp only [List.mem_append] at committed rolledBack
  obtain ⟨apart, begun, running, hasEnded, exclusive⟩ := invariant
  rw [innermost] at apart begun running
  rw [List.pairwise_cons] at apart
  rw [List.forall_mem_cons] at begun running
  refine ⟨?_, ?_, ?_, ?_, ?_⟩
  · rw [frames]
    exact apart.2
  · rw [frames, transactions]
    exact begun.2
  · intro outer member
    rw [frames] at member
    have notEnded : ¬(.committed outer.transaction ∈ ended ∨
        .rolledBack outer.transaction ∈ ended) := by
      intro isEnded
      obtain ⟨isNew, same⟩ := canEnd.of_mem isEnded
      exact apart.1 outer member isNew same
    rw [not_or] at notEnded
    rw [committed, rolledBack, not_or, not_or]
    exact ⟨⟨(running.2 outer member).1, notEnded.1⟩, (running.2 outer member).2, notEnded.2⟩
  · intro transaction isEnded
    rw [committed, rolledBack] at isEnded
    rw [transactions]
    rcases isEnded with (earlier | now) | earlier | now
    · exact hasEnded transaction (.inl earlier)
    · exact (canEnd.of_mem (.inl now)).2 ▸ begun.1
    · exact hasEnded transaction (.inr earlier)
    · exact (canEnd.of_mem (.inr now)).2 ▸ begun.1
  · intro transaction isCommitted isRolledBack
    rw [committed] at isCommitted
    rw [rolledBack] at isRolledBack
    rcases isCommitted with earlier | now
    · rcases isRolledBack with other | now
      · exact exclusive transaction earlier other
      · obtain ⟨-, rfl⟩ := canEnd.of_mem (.inr now)
        exact running.1.1 earlier
    · obtain ⟨-, rfl⟩ := canEnd.of_mem (.inl now)
      rcases isRolledBack with earlier | other
      · exact running.1.2 earlier
      · exact canEnd.exclusive now other

theorem enter_cases (thread : TransactionThread) (entryPoint : EntryPoint) :
    (∃ outer ∈ thread.frames, thread.enter entryPoint =
      { thread with frames := ⟨entryPoint, outer.transaction, false⟩ :: thread.frames }) ∨
    thread.enter entryPoint =
      { thread with
        frames := ⟨entryPoint, thread.transactions, true⟩ :: thread.frames
        transactions := thread.transactions + 1 } := by
  unfold TransactionThread.enter
  split
  · rename_i outer rest innermost
    exact .inl ⟨outer, innermost ▸ List.mem_cons_self, rfl⟩
  · rename_i outer rest innermost
    exact .inl ⟨outer, innermost ▸ List.mem_cons_self, rfl⟩
  · exact .inr rfl

theorem NestingInvariant.enter (invariant : NestingInvariant thread) (entryPoint : EntryPoint) :
    NestingInvariant (thread.enter entryPoint) := by
  obtain ⟨apart, begun, running, hasEnded, exclusive⟩ := invariant
  rcases enter_cases thread entryPoint with ⟨outer, member, entered⟩ | entered
  · rw [entered]
    refine ⟨List.pairwise_cons.mpr ⟨nofun, apart⟩,
      List.forall_mem_cons.mpr ⟨begun outer member, begun⟩,
      List.forall_mem_cons.mpr ⟨running outer member, running⟩, hasEnded, exclusive⟩
  · rw [entered]
    have notEnded : .committed thread.transactions ∉ thread.history ∧
        .rolledBack thread.transactions ∉ thread.history :=
      ⟨fun committed => Nat.lt_irrefl _ (hasEnded _ (.inl committed)),
        fun rolledBack => Nat.lt_irrefl _ (hasEnded _ (.inr rolledBack))⟩
    refine ⟨List.pairwise_cons.mpr ⟨fun outer member _ =>
        Nat.ne_of_lt (begun outer member), apart⟩,
      List.forall_mem_cons.mpr ⟨Nat.lt_succ_self _, fun outer member =>
        Nat.lt_succ_of_lt (begun outer member)⟩,
      List.forall_mem_cons.mpr ⟨notEnded, running⟩,
      fun transaction isEnded => Nat.lt_succ_of_lt (hasEnded transaction isEnded), exclusive⟩

theorem NestingInvariant.of_step (invariant : NestingInvariant thread)
    (taken : threadStep thread step = some next) : NestingInvariant next := by
  rcases threadStep_eq_some taken with
    ⟨entryPoint, -, rfl⟩ | ⟨frame, rest, -, -, rfl⟩ | ⟨ending, frame, rest, -, innermost, rfl⟩
  · exact invariant.enter entryPoint
  · refine invariant.of_same_ends rfl rfl fun event isEnd => ?_
    show event ∈ thread.history ++ [_] ↔ _
    rw [List.mem_append, List.mem_singleton]
    refine or_iff_left ?_
    rintro rfl
    cases isEnd
  · exact invariant.leave innermost ending

/-! ### When the actions are submitted -/

/-- Every submitted action was submitted after the commit of its transaction. -/
def SubmittedAfterCommit (history : List ThreadEvent) : Prop :=
  ∀ action before after, history = before ++ .submitted action :: after →
    .committed action.transaction ∈ before

/-- Appending events other than submissions keeps that submissions come after commits. -/
theorem SubmittedAfterCommit.append {history events : List ThreadEvent}
    (after : SubmittedAfterCommit history)
    (eventsAfter : ∀ action before rest, events = before ++ .submitted action :: rest →
      .committed action.transaction ∈ history ++ before) :
    SubmittedAfterCommit (history ++ events) := by
  intro action before rest same
  rcases List.append_eq_append_iff.mp same with ⟨middle, first, second⟩ | ⟨middle, first, second⟩
  · rw [first]
    exact eventsAfter action middle rest second
  · cases middle with
    | nil =>
        rw [List.append_nil] at first
        rw [← first, ← List.append_nil history]
        exact eventsAfter action [] rest second.symm
    | cons event middle =>
        obtain ⟨rfl, -⟩ := List.cons.inj second
        exact after action before middle first

/-- What a list of submissions can follow: the commits of all its actions. -/
theorem SubmittedAfterCommit.flush {history commit : List ThreadEvent}
    {runnables : List PostCommitAction} (after : SubmittedAfterCommit history)
    (noSubmission : ∀ action, .submitted action ∉ commit)
    (allCommitted : ∀ action ∈ runnables, .committed action.transaction ∈ history ++ commit) :
    SubmittedAfterCommit (history ++ (commit ++ runnables.map .submitted)) := by
  rw [← List.append_assoc]
  refine (after.append fun action before rest same => ?_).append fun action before rest same => ?_
  · exact absurd (same ▸ List.mem_append_right _ List.mem_cons_self) (noSubmission action)
  · have member : ThreadEvent.submitted action ∈ runnables.map .submitted :=
      same ▸ List.mem_append_right _ List.mem_cons_self
    obtain ⟨other, listed, sameAction⟩ := List.mem_map.mp member
    obtain rfl := ThreadEvent.submitted.inj sameAction
    exact List.mem_append_left _ (allCommitted other listed)

theorem mem_history_commit {frame : TransactionFrame} {transaction : Nat} :
    .committed transaction ∈ thread.history ++ frame.commit ↔
      .committed transaction ∈ thread.history ∨
        (frame.isNew = true ∧ transaction = frame.transaction) := by
  rw [List.mem_append, mem_commit, ThreadEvent.committed.injEq]

/-- A step that meets the condition submits no action before its commit. -/
theorem SubmittedAfterCommit.of_step (after : SubmittedAfterCommit thread.history)
    (condition : ReturnsWhenCommitted thread step) (taken : threadStep thread step = some next) :
    SubmittedAfterCommit next.history := by
  rcases threadStep_cases taken with keeps | ⟨transaction, registers⟩ | ⟨frame, submits⟩
  · obtain ⟨ends, areEnds, history⟩ := keeps.history
    rw [history]
    refine after.append fun action before rest same => ?_
    have isEnd := areEnds (.submitted action) (same ▸ List.mem_append_right _ List.mem_cons_self)
    cases isEnd
  · rw [registers.history]
    refine after.append fun action before rest same => ?_
    have member : ThreadEvent.submitted action ∈ [ThreadEvent.registered
        ⟨thread.actions, transaction⟩] := same ▸ List.mem_append_right _ List.mem_cons_self
    cases List.mem_singleton.mp member
  · rw [submits.history]
    refine after.flush (fun action committed => absurd (mem_commit.mp committed).2 nofun) ?_
    intro action listed
    exact mem_history_commit.mpr (condition frame submits.returns action listed)

theorem history_of_step (taken : threadStep thread step = some next) :
    ∃ events, next.history = thread.history ++ events := by
  rcases threadStep_cases taken with keeps | ⟨transaction, registers⟩ | ⟨frame, submits⟩
  · obtain ⟨ends, -, history⟩ := keeps.history
    exact ⟨ends, history⟩
  · exact ⟨_, registers.history⟩
  · exact ⟨_, submits.history⟩

/-- What has happened stays so. -/
theorem history_of_run {steps : List ThreadStep} {start : TransactionThread}
    (executed : run threadStep start steps = some thread) :
    ∃ events, thread.history = start.history ++ events := by
  refine (reaches_of_run_unrestricted steps executed).invariant
    (fun thread => ∃ events, thread.history = start.history ++ events)
    ⟨[], (List.append_nil _).symm⟩ ?_
  rintro thread step next ⟨events, same⟩ _ taken
  obtain ⟨more, history⟩ := history_of_step taken
  exact ⟨events ++ more, by rw [history, same, List.append_assoc]⟩

/-- If what a block submits on its return comes after the commits, it returned when they had
happened. -/
theorem returnsWhenCommitted_of_after (taken : threadStep thread step = some next)
    {later : List ThreadEvent} (after : SubmittedAfterCommit (next.history ++ later)) :
    ReturnsWhenCommitted thread step := by
  intro frame returns action listed
  rcases threadStep_cases taken with keeps | ⟨transaction, registers⟩ | ⟨other, submits⟩
  · exact absurd returns (keeps.noReturn frame)
  · exact absurd returns (registers.noReturn frame)
  · obtain rfl : frame = other :=
      Option.some.inj (returns.2.1.symm.trans submits.returns.2.1)
    obtain ⟨before, rest, split⟩ := List.append_of_mem listed
    have committed := after action
      (thread.history ++ (frame.commit ++ before.map .submitted)) (rest.map .submitted ++ later)
      (by simp [submits.history, split])
    rw [← List.append_assoc, List.mem_append] at committed
    refine mem_history_commit.mp (committed.resolve_right fun flushed => ?_)
    obtain ⟨_, -, absurdity⟩ := List.mem_map.mp flushed
    cases absurdity

/-- Where no action is submitted before its commit, every step has met the condition. -/
theorem throughout_returnsWhenCommitted (steps : List ThreadStep) {start : TransactionThread}
    (executed : run threadStep start steps = some thread)
    (after : SubmittedAfterCommit thread.history) :
    Throughout threadStep ReturnsWhenCommitted start steps := by
  induction steps generalizing start with
  | nil => trivial
  | cons step rest inductionHypothesis =>
      rw [run] at executed
      cases taken : threadStep start step with
      | none =>
          rw [taken] at executed
          cases executed
      | some middle =>
          rw [taken] at executed
          obtain ⟨later, history⟩ := history_of_run executed
          refine ⟨returnsWhenCommitted_of_after taken (history ▸ after), ?_⟩
          intro other same
          obtain rfl := Option.some.inj (taken.symm.trans same)
          exact inductionHypothesis executed

/-- Only the commit of a transaction makes it committed. -/
theorem committed_of_step (taken : threadStep thread step = some next) {transaction : Nat} :
    .committed transaction ∈ next.history ↔
      .committed transaction ∈ thread.history ∨ Commits thread step transaction := by
  rcases threadStep_eq_some taken with
    ⟨entryPoint, rfl, rfl⟩ | ⟨frame, rest, rfl, -, rfl⟩ | ⟨ending, frame, rest, rfl, innermost, rfl⟩
  · have same : (thread.enter entryPoint).history = thread.history := by
      unfold TransactionThread.enter
      split <;> rfl
    rw [same]
    simp [Commits]
  · simp [TransactionThread.register, Commits]
  · have isFrame : Commits thread (.leave ending) transaction ↔ ending = .normally ∧
        frame.isNew = true ∧ frame.transaction = transaction ∧
          transaction ∉ thread.rollbackOnly := by
      simp [Commits, innermost]
    rw [isFrame]
    obtain ⟨entryPoint, begun, isNew⟩ := frame
    have isEnd : (ThreadEvent.committed transaction).isEnd = true := rfl
    cases isNew with
    | false =>
        cases ending with
        | normally => simp [TransactionThread.leave, mem_history_returnFrom entryPoint isEnd]
        | byException => simp [TransactionThread.leave]
    | true =>
        cases ending with
        | byException => simp [TransactionThread.leave, TransactionThread.record]
        | normally =>
            simp only [TransactionThread.leave, TransactionThread.record, true_and]
            split
            · rename_i marked
              rw [List.mem_append, List.mem_singleton]
              refine or_congr_right (iff_of_false nofun ?_)
              rintro ⟨rfl, unmarked⟩
              exact unmarked marked
            · rename_i unmarked
              rw [mem_history_returnFrom entryPoint isEnd, List.mem_append, List.mem_singleton,
                ThreadEvent.committed.injEq]
              refine or_congr_right ⟨?_, fun isBegun => isBegun.1.symm⟩
              rintro rfl
              exact ⟨rfl, unmarked⟩

/-- What a step does to the actions of committed transactions in the list. -/
theorem leavesNoneBehind_step (nesting : NestingInvariant thread)
    (taken : threadStep thread step = some next) :
    LeavesNoneBehind next ↔
      EmptiesList thread step ∨ LeavesNoneBehind thread ∧ ¬ CommitsListed thread step := by
  have ofKeeps (keeps : KeepsActions thread next step) : LeavesNoneBehind next ↔
      EmptiesList thread step ∨ LeavesNoneBehind thread ∧ ¬ CommitsListed thread step := by
    have noReturn : ¬ EmptiesList thread step := fun ⟨frame, returns⟩ =>
      keeps.noReturn frame returns
    rw [or_iff_right noReturn]
    unfold LeavesNoneBehind CommitsListed
    rw [keeps.runnables]
    simp only [committed_of_step taken, not_or, not_exists, not_and]
    exact forall₂_and
  rcases threadStep_eq_some taken with
    ⟨entryPoint, rfl, rfl⟩ | ⟨frame, rest, rfl, innermost, rfl⟩ |
    ⟨ending, frame, rest, rfl, innermost, rfl⟩
  · exact ofKeeps (enter_keepsActions entryPoint)
  · -- the new action belongs to a transaction that is running
    have running : .committed frame.transaction ∉ thread.history :=
      (nesting.running frame (innermost ▸ List.mem_cons_self)).1
    have noEnd : LeavesNoneBehind (thread.register frame.transaction) ↔
        LeavesNoneBehind thread := by
      have same (transaction : Nat) :
          .committed transaction ∈ (thread.register frame.transaction).history ↔
            .committed transaction ∈ thread.history := by
        simp [TransactionThread.register]
      simp only [LeavesNoneBehind, same]
      rw [TransactionThread.register, List.forall_mem_append, List.forall_mem_singleton]
      exact and_iff_left running
    simp [noEnd, EmptiesList, ReturnsResult, CommitsListed, Commits]
  · rcases leave_cases innermost ending with keeps | submits
    · exact ofKeeps keeps
    · refine iff_of_true (fun action member => ?_) (.inl ⟨frame, submits.returns⟩)
      rw [submits.runnables] at member
      cases member

/-- In every run the actions are submitted rightly exactly if every block of a result returns when
the transactions of all actions in the list have committed, and every commit with actions of its
transaction in the list is such a return or leads to one. -/
theorem submitsAfterCommit_iff (steps : List ThreadStep)
    (executed : run threadStep .idle steps = some thread) :
    SubmitsAfterCommit thread.history ↔
      Throughout threadStep ReturnsWhenCommitted .idle steps ∧
        LeadsTo threadStep CommitsListed EmptiesList .idle steps := by
  have noneBehind : LeavesNoneBehind thread ↔
      LeadsTo threadStep CommitsListed EmptiesList .idle steps := by
    have closed (state : TransactionThread) (step : ThreadStep) (next : TransactionThread)
        (nesting : NestingInvariant state) (taken : threadStep state step = some next) :
        LeavesNoneBehind next ↔
          EmptiesList state step ∨ LeavesNoneBehind state ∧ ¬ CommitsListed state step :=
      leavesNoneBehind_step nesting taken
    rw [closed_iff_leadsTo NestingInvariant (fun _ _ _ nesting taken => nesting.of_step taken)
      closed steps .idle executed]
    exact and_iff_left (.inl fun action member => absurd member List.not_mem_nil)
  rw [← noneBehind]
  have reached := reaches_of_run_unrestricted steps executed
  have list := reached.invariant ListInvariant .idle fun _ _ _ invariant _ taken =>
    invariant.of_step taken
  have nesting := reached.invariant NestingInvariant .idle fun _ _ _ invariant _ taken =>
    invariant.of_step taken
  constructor
  · intro submits
    refine ⟨throughout_returnsWhenCommitted steps executed submits.afterCommit, ?_⟩
    intro action listed committed
    obtain ⟨registered, unsubmitted⟩ := list.listed action listed
    have once := submits.once action registered committed
    rw [List.count_eq_zero.mpr unsubmitted] at once
    cases once
  · rintro ⟨condition, noneLeft⟩
    have after : SubmittedAfterCommit thread.history :=
      (condition.reaches executed).invariant (fun thread => SubmittedAfterCommit thread.history)
        (fun action before rest same => by simp [TransactionThread.idle] at same)
        fun _ _ _ after allowed taken => after.of_step allowed taken
    refine ⟨fun action registered committed => ?_, after, fun action _ rolledBack submitted => ?_⟩
    · exact list.submitted action registered fun listed => noneLeft action listed committed
    · obtain ⟨before, rest, same⟩ := List.append_of_mem submitted
      have committed := after action before rest same
      exact nesting.exclusive _ (same ▸ List.mem_append_left _ committed) rolledBack

end Steps

/-! ### Blocks within blocks -/

/-- An action of a transaction of its own is submitted after its commit. -/
theorem submitsAfterCommit_iff_alone :
    SubmitsAfterCommit [.registered ⟨0, 0⟩, .committed 0, .submitted ⟨0, 0⟩] ↔
      Throughout threadStep ReturnsWhenCommitted .idle
          [.enter .executeInTransactionWithResult, .addPostTransactionCommitAction,
            .leave .normally] ∧
        LeadsTo threadStep CommitsListed EmptiesList .idle
          [.enter .executeInTransactionWithResult, .addPostTransactionCommitAction,
            .leave .normally] := by
  have executed : run threadStep .idle [.enter .executeInTransactionWithResult,
      .addPostTransactionCommitAction, .leave .normally] =
        some ⟨[], [], [], 1, 1,
          [.registered ⟨0, 0⟩, .committed 0, .submitted ⟨0, 0⟩]⟩ := by decide
  exact submitsAfterCommit_iff _ executed

/-- An action of a transaction that is rolled back is submitted by the next one. -/
theorem not_submitsAfterCommit :
    ¬ ∀ steps thread, run threadStep .idle steps = some thread →
      SubmitsAfterCommit thread.history := by
  intro always
  have submits := always
    [.enter .executeInTransactionWithResult, .addPostTransactionCommitAction,
      .leave .byException, .enter .executeInTransactionWithResult, .leave .normally] _ rfl
  exact submits.notAfterRollback ⟨0, 0⟩ (by decide) (by decide) (by decide)

end GraffiTab
