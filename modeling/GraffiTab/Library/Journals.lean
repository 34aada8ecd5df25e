/-
This file is about journals, the lists to which a program adds what happens.

Statements about a journal are often about order: what has happened since an entry was made, or
what had happened before. Both are kept when a journal grows by one entry, so a program that adds
to its journal step by step can have them as an invariant.
-/

import Mathlib.Data.List.Basic

namespace Journals

universe u

variable {Event : Type u}

/-- Since every occurrence of the event, the condition holds of what has happened. -/
def SinceEach (journal : List Event) (event : Event) (Condition : List Event → Prop) : Prop :=
  ∀ before since, journal = before ++ event :: since → Condition since

/-- Before every occurrence of the event, the condition held of what had happened. -/
def BeforeEach (journal : List Event) (event : Event) (Condition : List Event → Prop) : Prop :=
  ∀ before since, journal = before ++ event :: since → Condition before

/-- The event is the last concerned one. -/
def Latest (Concerned : Event → Prop) (journal : List Event) (event : Event) : Prop :=
  Concerned event ∧ ∃ before since, journal = before ++ event :: since ∧
    ∀ later ∈ since, ¬ Concerned later

section Growth

variable {journal : List Event} {event new : Event} {Condition Next : List Event → Prop}

/-- A journal that ends in `new` is split at an event that stands before the end, or at the end. -/
theorem append_singleton_eq_split {before since : List Event}
    (same : journal ++ [new] = before ++ event :: since) :
    (∃ rest, since = rest ++ [new] ∧ journal = before ++ event :: rest) ∨
      since = [] ∧ event = new ∧ journal = before := by
  rcases List.eq_nil_or_concat since with rfl | ⟨rest, last, rfl⟩
  · obtain ⟨rfl, sameEvent⟩ := List.append_inj' same rfl
    exact .inr ⟨rfl, (List.singleton_inj.mp sameEvent).symm, rfl⟩
  · rw [List.concat_eq_append, ← List.cons_append, ← List.append_assoc] at same
    obtain ⟨rfl, sameLast⟩ := List.append_inj' same rfl
    rw [List.singleton_inj.mp sameLast]
    exact .inl ⟨rest, List.concat_eq_append, rfl⟩

/-- An entry is added: what holds of the time since the older occurrences has to go on, and it has
to begin where the entry is an occurrence itself. -/
theorem SinceEach.append (holds : SinceEach journal event Condition)
    (goesOn : ∀ since, Condition since → Next (since ++ [new])) (begins : event = new → Next []) :
    SinceEach (journal ++ [new]) event Next := by
  intro before since same
  rcases append_singleton_eq_split same with ⟨rest, rfl, older⟩ | ⟨rfl, isNew, -⟩
  · exact goesOn rest (holds before rest older)
  · exact begins isNew

theorem BeforeEach.of_notMem (absent : event ∉ journal) : BeforeEach journal event Condition := by
  rintro before since rfl
  exact absurd (List.mem_append_right _ List.mem_cons_self) absent

/-- An entry is added: where it is an occurrence, the condition has to hold of the journal. -/
theorem BeforeEach.append (holds : BeforeEach journal event Condition)
    (ends : event = new → Condition journal) : BeforeEach (journal ++ [new]) event Condition := by
  intro before since same
  rcases append_singleton_eq_split same with ⟨rest, rfl, older⟩ | ⟨rfl, isNew, rfl⟩
  · exact holds before rest older
  · exact ends isNew

variable {Concerned : Event → Prop}

theorem Latest.mem (latest : Latest Concerned journal event) : event ∈ journal := by
  obtain ⟨-, before, since, rfl, -⟩ := latest
  exact List.mem_append_right _ List.mem_cons_self

/-- A last event stays the last one when an entry is added that is about something else. -/
theorem Latest.append (latest : Latest Concerned journal event) (other : ¬ Concerned new) :
    Latest Concerned (journal ++ [new]) event := by
  obtain ⟨concerned, before, since, rfl, unconcerned⟩ := latest
  refine ⟨concerned, before, since ++ [new], by rw [List.append_assoc, List.cons_append], ?_⟩
  intro later member
  rcases List.mem_append.mp member with old | added
  · exact unconcerned later old
  · exact List.mem_singleton.mp added ▸ other

theorem latest_append (journal : List Event) (concerned : Concerned new) :
    Latest Concerned (journal ++ [new]) new :=
  ⟨concerned, journal, [], rfl, fun _ absent => absurd absent List.not_mem_nil⟩

end Growth

end Journals
