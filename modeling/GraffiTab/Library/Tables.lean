/-
This file is about tables of a relational database.

Every row has an identifier which the table hands out from a counter when the row
is inserted. A `Table` carries the two facts that make the identifier usable as a
key, so that a table with two rows of one identifier cannot be built: no identifier
occurs twice, and none is above the counter. The operations are the ones a mapper
of objects to rows performs: find by identifier, insert, write a changed row back,
and delete the rows that satisfy a condition.
-/

import Mathlib.Data.List.Nodup

namespace Tables

universe u

/-- Rows with an identifier that the table assigns. -/
class Identified (Row : Type u) where
  id : Row → Int
  withId : Int → Row → Row
  id_withId : ∀ identifier row, id (withId identifier row) = identifier

attribute [simp] Identified.id_withId

/-- The rows of a table in the order of their insertion, with the last identifier given out. -/
@[ext]
structure Table (Row : Type u) [Identified Row] where
  rows : List Row
  lastId : Int
  distinct : (rows.map Identified.id).Nodup
  issued : ∀ row ∈ rows, Identified.id row ≤ lastId

variable {Row : Type u} [Identified Row]

instance [DecidableEq Row] : DecidableEq (Table Row) := fun first second =>
  if same : first.rows = second.rows ∧ first.lastId = second.lastId then
    isTrue (Table.ext same.1 same.2)
  else
    isFalse fun equal => same (equal ▸ ⟨rfl, rfl⟩)

/-! ### The operations -/

namespace Table

/-- The table without rows. -/
def empty : Table Row := ⟨[], 0, List.nodup_nil, nofun⟩

/-- The row with the given identifier. -/
def find (table : Table Row) (identifier : Int) : Option Row :=
  table.rows.find? fun row => Identified.id row = identifier

/-- The identifier the next inserted row receives. -/
def nextId (table : Table Row) : Int := table.lastId + 1

theorem ne_nextId {table : Table Row} {row : Row} (member : row ∈ table.rows) :
    Identified.id row ≠ table.nextId := by
  have bound := table.issued row member
  unfold nextId
  omega

/-- Adds the row at the end, under a fresh identifier. -/
def insert (table : Table Row) (row : Row) : Table Row where
  rows := table.rows ++ [Identified.withId table.nextId row]
  lastId := table.nextId
  distinct := by
    rw [List.map_append, List.nodup_append']
    refine ⟨table.distinct, List.nodup_singleton _, ?_⟩
    simp only [List.map_cons, List.map_nil, Identified.id_withId, List.disjoint_singleton,
      List.mem_map, not_exists, not_and]
    exact fun row member => ne_nextId member
  issued := by
    intro other member
    rcases List.mem_append.mp member with old | new
    · have bound := table.issued other old
      unfold nextId
      omega
    · rw [List.mem_singleton.mp new]
      exact Int.le_of_eq (Identified.id_withId _ _)

/-- Puts `new` in the place of the row with its identifier; nothing happens without one. -/
def set (table : Table Row) (new : Row) : Table Row where
  rows := table.rows.map fun row => if Identified.id row = Identified.id new then new else row
  lastId := table.lastId
  distinct := by
    rw [List.map_map]
    have same : (Identified.id ∘ fun row : Row =>
        if Identified.id row = Identified.id new then new else row) = Identified.id := by
      funext row
      simp only [Function.comp_apply]
      split <;> simp_all
    rw [same]
    exact table.distinct
  issued := by
    intro row member
    obtain ⟨old, oldMember, rfl⟩ := List.mem_map.mp member
    have bound := table.issued old oldMember
    split <;> simp_all

/-- Deletes the rows that satisfy the condition. -/
def remove (table : Table Row) (condition : Row → Bool) : Table Row where
  rows := table.rows.filter fun row => !condition row
  lastId := table.lastId
  distinct := table.distinct.sublist (List.filter_sublist.map _)
  issued row member := table.issued row (List.mem_filter.mp member).1

/-- Adds the row at the end, under its own identifier. -/
def add (table : Table Row) (row : Row)
    (absent : ∀ other ∈ table.rows, Identified.id other ≠ Identified.id row) : Table Row where
  rows := table.rows ++ [row]
  lastId := max table.lastId (Identified.id row)
  distinct := by
    rw [List.map_append, List.nodup_append']
    refine ⟨table.distinct, List.nodup_singleton _, ?_⟩
    simp only [List.map_cons, List.map_nil, List.disjoint_singleton, List.mem_map, not_exists,
      not_and]
    exact absent
  issued := by
    intro other member
    rcases List.mem_append.mp member with old | new
    · have bound := table.issued other old
      omega
    · rw [List.mem_singleton.mp new]
      omega

/-- Changes every row, where no identifier changes. -/
def mapRows (table : Table Row) (change : Row → Row)
    (same : ∀ row, Identified.id (change row) = Identified.id row) : Table Row where
  rows := table.rows.map change
  lastId := table.lastId
  distinct := by
    rw [List.map_map, show Identified.id ∘ change = Identified.id from funext same]
    exact table.distinct
  issued := by
    intro row member
    obtain ⟨old, oldMember, rfl⟩ := List.mem_map.mp member
    rw [same]
    exact table.issued old oldMember

/-- The rows that satisfy the condition, in the order of the table. -/
def select (table : Table Row) (condition : Row → Bool) : List Row :=
  table.rows.filter condition

/-! ### What they do -/

theorem mem_select {table : Table Row} {condition : Row → Bool} {row : Row} :
    row ∈ table.select condition ↔ row ∈ table.rows ∧ condition row = true :=
  List.mem_filter

/-- Two rows of one table with the same identifier are one row. -/
theorem eq_of_id_eq {table : Table Row} {first second : Row} (firstMember : first ∈ table.rows)
    (secondMember : second ∈ table.rows) (same : Identified.id first = Identified.id second) :
    first = second :=
  List.inj_on_of_nodup_map table.distinct firstMember secondMember same

theorem find_eq_some {table : Table Row} {identifier : Int} {row : Row} :
    table.find identifier = some row ↔ row ∈ table.rows ∧ Identified.id row = identifier := by
  constructor
  · intro found
    exact ⟨List.mem_of_find?_eq_some found, by simpa using List.find?_some found⟩
  · rintro ⟨member, rfl⟩
    cases found : table.find (Identified.id row) with
    | none =>
        have absent := List.find?_eq_none.mp found row member
        simp at absent
    | some other =>
        have otherMember := List.mem_of_find?_eq_some found
        have otherId : Identified.id other = Identified.id row := by
          simpa using List.find?_some found
        rw [eq_of_id_eq otherMember member otherId]

theorem find_eq_none {table : Table Row} {identifier : Int} :
    table.find identifier = none ↔ ∀ row ∈ table.rows, Identified.id row ≠ identifier := by
  simp [find]

theorem find_of_mem {table : Table Row} {row : Row} (member : row ∈ table.rows) :
    table.find (Identified.id row) = some row :=
  find_eq_some.mpr ⟨member, rfl⟩

theorem mem_of_find {table : Table Row} {identifier : Int} {row : Row}
    (found : table.find identifier = some row) : row ∈ table.rows :=
  (find_eq_some.mp found).1

theorem id_of_find {table : Table Row} {identifier : Int} {row : Row}
    (found : table.find identifier = some row) : Identified.id row = identifier :=
  (find_eq_some.mp found).2

@[simp] theorem mem_insert {table : Table Row} {new row : Row} :
    row ∈ (table.insert new).rows ↔
      row ∈ table.rows ∨ row = Identified.withId table.nextId new := by
  simp [insert]

theorem find_insert_new (table : Table Row) (new : Row) :
    (table.insert new).find table.nextId = some (Identified.withId table.nextId new) :=
  find_eq_some.mpr ⟨mem_insert.mpr (.inr rfl), Identified.id_withId _ _⟩

theorem find_nextId (table : Table Row) : table.find table.nextId = none :=
  find_eq_none.mpr fun _ member => ne_nextId member

theorem find_insert_other (table : Table Row) (new : Row) {identifier : Int}
    (other : identifier ≠ table.nextId) : (table.insert new).find identifier =
      table.find identifier := by
  simp only [find, insert, List.find?_append, List.find?_cons, List.find?_nil,
    Identified.id_withId]
  simp [other.symm]

theorem find_insert_of_find {table : Table Row} {identifier : Int} {row : Row}
    (found : table.find identifier = some row) (new : Row) :
    (table.insert new).find identifier = some row := by
  rw [find_insert_other, found]
  rintro rfl
  rw [find_nextId] at found
  cases found

/-- After writing a row back, the rows are the new one, if it replaced a row, and the rows with
other identifiers. -/
theorem mem_set {table : Table Row} {new row : Row} :
    row ∈ (table.set new).rows ↔
      (row = new ∧ ∃ old ∈ table.rows, Identified.id old = Identified.id new) ∨
        (row ∈ table.rows ∧ Identified.id row ≠ Identified.id new) := by
  simp only [set, List.mem_map]
  constructor
  · rintro ⟨old, member, rfl⟩
    by_cases same : Identified.id old = Identified.id new
    · rw [if_pos same]
      exact .inl ⟨rfl, old, member, same⟩
    · rw [if_neg same]
      exact .inr ⟨member, same⟩
  · rintro (⟨rfl, old, member, same⟩ | ⟨member, other⟩)
    · exact ⟨old, member, if_pos same⟩
    · exact ⟨row, member, if_neg other⟩

theorem find_set_other (table : Table Row) {new : Row} {identifier : Int}
    (other : identifier ≠ Identified.id new) :
    (table.set new).find identifier = table.find identifier := by
  cases found : table.find identifier with
  | none =>
      rw [find_eq_none] at found ⊢
      intro row member
      rcases mem_set.mp member with ⟨rfl, -⟩ | ⟨old, -⟩
      · exact other.symm
      · exact found row old
  | some row =>
      rw [find_eq_some] at found ⊢
      exact ⟨mem_set.mpr (.inr ⟨found.1, found.2 ▸ other⟩), found.2⟩

theorem find_set_self {table : Table Row} {old new : Row}
    (found : table.find (Identified.id new) = some old) :
    (table.set new).find (Identified.id new) = some new :=
  find_eq_some.mpr ⟨mem_set.mpr (.inl ⟨rfl, old, find_eq_some.mp found⟩), rfl⟩

/-- Of a row that is found before and after another one is written back, either it was the one that
was replaced, or it stays. -/
theorem find_set_cases {table : Table Row} {old new before after : Row} {identifier : Int}
    (member : old ∈ table.rows) (sameId : Identified.id new = Identified.id old)
    (known : table.find identifier = some before)
    (found : (table.set new).find identifier = some after) :
    (before = old ∧ after = new) ∨ after = before := by
  by_cases written : identifier = Identified.id new
  · have oldFound : table.find (Identified.id new) = some old := sameId ▸ find_of_mem member
    rw [written] at known found
    rw [oldFound] at known
    rw [find_set_self oldFound] at found
    exact .inl ⟨(Option.some.inj known).symm, (Option.some.inj found).symm⟩
  · rw [find_set_other table written, known] at found
    exact .inr (Option.some.inj found).symm

/-- Writing back a row that is already there changes nothing. -/
theorem set_of_mem {table : Table Row} {row : Row} (member : row ∈ table.rows) :
    table.set row = table := by
  refine Table.ext ?_ rfl
  refine (List.map_congr_left fun other otherMember => ?_).trans (List.map_id _)
  by_cases same : Identified.id other = Identified.id row
  · rw [if_pos same, id, eq_of_id_eq otherMember member same]
  · rw [if_neg same, id]

@[simp] theorem mem_remove {table : Table Row} {condition : Row → Bool} {row : Row} :
    row ∈ (table.remove condition).rows ↔ row ∈ table.rows ∧ condition row = false := by
  simp [remove]

/-- A found row that has to satisfy a condition is found among the rows that satisfy it. -/
theorem filter_find (table : Table Row) (condition : Row → Bool) (identifier : Int) :
    (table.find identifier).filter condition =
      (table.select condition).find? fun row => Identified.id row = identifier := by
  have kept : table.select condition = (table.remove fun row => !condition row).rows := by
    simp only [select, remove, Bool.not_not]
  rw [kept]
  change _ = (table.remove fun row => !condition row).find identifier
  ext row
  rw [Option.filter_eq_some_iff, find_eq_some, find_eq_some, mem_remove, Bool.not_eq_false',
    and_right_comm]

theorem find_mapRows (table : Table Row) {change : Row → Row}
    {same : ∀ row, Identified.id (change row) = Identified.id row} (identifier : Int) :
    (table.mapRows change same).find identifier = (table.find identifier).map change := by
  have predicate : ((fun row : Row => decide (Identified.id row = identifier)) ∘ change) =
      fun row => decide (Identified.id row = identifier) := by
    funext row
    rw [Function.comp_apply, same]
  rw [find, find, mapRows, List.find?_map, predicate]

/-! ### Tables that agree on some rows -/

/-- The two tables have the same rows among those that satisfy the condition. -/
def AgreeOn (Condition : Row → Prop) (first second : Table Row) : Prop :=
  ∀ row, Condition row → (row ∈ second.rows ↔ row ∈ first.rows)

section AgreeOn

variable {Condition : Row → Prop} {first second third : Table Row}

theorem AgreeOn.refl (table : Table Row) : AgreeOn Condition table table :=
  fun _ _ => Iff.rfl

theorem AgreeOn.trans (before : AgreeOn Condition first second)
    (after : AgreeOn Condition second third) : AgreeOn Condition first third :=
  fun row satisfies => (after row satisfies).trans (before row satisfies)

theorem agreeOn_insert (table : Table Row) {new : Row}
    (outside : ¬ Condition (Identified.withId table.nextId new)) :
    AgreeOn Condition table (table.insert new) := by
  intro row satisfies
  rw [mem_insert, or_iff_left]
  rintro rfl
  exact outside satisfies

/-- Writing a row back is invisible when neither the old nor the new row satisfies the condition. -/
theorem agreeOn_set (table : Table Row) {old new : Row} (stored : old ∈ table.rows)
    (same : Identified.id old = Identified.id new) (oldOutside : ¬ Condition old)
    (newOutside : ¬ Condition new) : AgreeOn Condition table (table.set new) := by
  intro row satisfies
  rw [mem_set]
  constructor
  · rintro (⟨rfl, -⟩ | ⟨member, -⟩)
    · exact absurd satisfies newOutside
    · exact member
  · intro member
    refine .inr ⟨member, fun equal => oldOutside ?_⟩
    rw [eq_of_id_eq stored member (same.trans equal.symm)]
    exact satisfies

theorem agreeOn_remove (table : Table Row) {condition : Row → Bool}
    (outside : ∀ row ∈ table.rows, condition row = true → ¬ Condition row) :
    AgreeOn Condition table (table.remove condition) := by
  intro row satisfies
  rw [mem_remove]
  refine ⟨And.left, fun member => ⟨member, ?_⟩⟩
  rw [← Bool.not_eq_true]
  exact fun deleted => outside row member deleted satisfies

end AgreeOn

end Table

end Tables
