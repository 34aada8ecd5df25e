/-
This file is about transactions that read a shared value and write back what they make of it.

Between the read and the commit other transactions may commit, and the later commit
overwrites the earlier one: nothing locks the value and nothing compares it with what was
read. When the transactions keep apart, each of them makes its change on top of those of all
the others, and the value is the start value changed as often as transactions have
committed.
-/

import Mathlib.Logic.Function.Iterate
import GraffiTab.Library.Runs

namespace ReadThenWrite

open Runs

universe u

variable {Value : Type u}

/-- The committed value, the values that the open transactions have read, and how many transactions
have committed. -/
structure Shared (Value : Type u) where
  value : Value
  reads : List Value
  committed : Nat

/-- A transaction reads, or the one at the position commits. -/
inductive Action where
  | read
  | commit (position : Nat)

def step (update : Value → Value) (state : Shared Value) : Action → Option (Shared Value)
  | .read => some { state with reads := state.reads ++ [state.value] }
  | .commit position =>
      match state.reads[position]? with
      | some value => some ⟨update value, state.reads.eraseIdx position, state.committed + 1⟩
      | none => none

/-- No transaction reads while another one is open. -/
def Apart (state : Shared Value) : Action → Prop
  | .read => state.reads = []
  | .commit _ => True

/-- The value was changed by every committed transaction, and an open transaction has read it. -/
structure Kept (update : Value → Value) (start : Value) (state : Shared Value) : Prop where
  changed : state.value = update^[state.committed] start
  current : state.reads = [] ∨ state.reads = [state.value]

section Runs

variable {update : Value → Value} {start : Value} {state next : Shared Value} {action : Action}

theorem Kept.initial : Kept update start ⟨start, [], 0⟩ := ⟨rfl, .inl rfl⟩

theorem Kept.step (kept : Kept update start state) (apart : Apart state action)
    (taken : step update state action = some next) : Kept update start next := by
  cases action with
  | read =>
      obtain rfl := Option.some.inj taken
      have idle : state.reads = [] := apart
      exact ⟨kept.changed, .inr (by rw [idle]; rfl)⟩
  | commit position =>
      rw [ReadThenWrite.step] at taken
      split at taken
      · rename_i value chosen
        obtain rfl := Option.some.inj taken
        rcases kept.current with idle | current
        · rw [idle] at chosen
          cases chosen
        · rw [current] at chosen
          obtain ⟨inside, isValue⟩ := List.getElem?_eq_some_iff.mp chosen
          obtain rfl : position = 0 := Nat.lt_one_iff.mp inside
          obtain rfl : state.value = value := isValue
          refine ⟨?_, .inl (by rw [current]; rfl)⟩
          rw [Function.iterate_succ_apply', ← kept.changed]
      · cases taken

/-- Of transactions that keep apart no change is lost. -/
theorem value_of_apart (reached : Reaches (ReadThenWrite.step update) Apart ⟨start, [], 0⟩ state) :
    state.value = update^[state.committed] start :=
  (reached.invariant (Kept update start) Kept.initial
    fun _ _ _ kept apart taken => kept.step apart taken).changed

end Runs

end ReadThenWrite
