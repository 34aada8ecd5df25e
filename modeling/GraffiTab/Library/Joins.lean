/-
This file is about the rows that a query lists: joins, groups and lists in an order.

A join relates each row to the rows that belong to it, and repeats the row for each of
them; a left join also keeps a row to which nothing belongs. So a query over a join lists
a row as often as something that belongs to it satisfies the condition, unless the rows
are grouped or made distinct. A listing is exact when it has every row that satisfies a
condition, each once, in descending order of a key.
-/

import Mathlib.Data.List.Dedup

namespace Joins

universe u v

variable {Row : Type u} {Other : Type v}

/-! ### Joins -/

/-- The rows, each with everything that belongs to it. -/
def innerJoin (rows : List Row) (related : Row → List Other) : List (Row × Other) :=
  rows.flatMap fun row => (related row).map fun other => (row, other)

/-- The rows with what belongs to them, where a row to which nothing belongs comes with null. -/
def leftJoin (rows : List Row) (related : Row → List Other) : List (Row × Option Other) :=
  rows.flatMap fun row =>
    match related row with
    | [] => [(row, none)]
    | others => others.map fun other => (row, some other)

/-- `group by` the row, with the `count` of what belongs to it. -/
def countGroups [DecidableEq Row] (joined : List (Row × Option Other)) : List (Row × Nat) :=
  (joined.map Prod.fst).dedup.map fun row =>
    (row, (joined.filter fun pair => pair.1 = row && pair.2.isSome).length)

/-- The list has the rows that satisfy the condition, each once, in descending order of the key. -/
structure Listed (listed : List Row) (condition : Row → Prop) (key : Row → Int) : Prop where
  once : listed.Nodup
  exactly : ∀ row, row ∈ listed ↔ condition row
  ordered : listed.Pairwise fun first second => key second ≤ key first

/-- Of pairs that keep the row they come from, a condition on the row chooses the rows first. -/
theorem filter_flatMap_fst {pairs : Row → List (Row × Other)}
    (keeps : ∀ row, ∀ pair ∈ pairs row, pair.1 = row) (condition : Row → Bool)
    (rows : List Row) :
    (rows.flatMap pairs).filter (fun pair => condition pair.1) =
      (rows.filter condition).flatMap pairs := by
  induction rows with
  | nil => rfl
  | cons row rest inductionHypothesis =>
      rw [List.flatMap_cons, List.filter_append, inductionHypothesis]
      cases chosen : condition row with
      | true =>
          rw [List.filter_cons_of_pos chosen, List.flatMap_cons]
          refine congrArg (· ++ _) (List.filter_eq_self.mpr fun pair member => ?_)
          rw [keeps row pair member]
          exact chosen
      | false =>
          rw [List.filter_cons_of_neg (by rw [chosen]; exact Bool.false_ne_true)]
          have none : (pairs row).filter (fun pair => condition pair.1) = [] := by
            rw [List.filter_eq_nil_iff]
            intro pair member
            rw [keeps row pair member, chosen]
            exact Bool.false_ne_true
          rw [none, List.nil_append]

/-! ### What a join lists -/

section Inner

variable {rows : List Row} {related : Row → List Other}

theorem mem_innerJoin {row : Row} {other : Other} :
    (row, other) ∈ innerJoin rows related ↔ row ∈ rows ∧ other ∈ related row := by
  rw [innerJoin, List.mem_flatMap]
  constructor
  · rintro ⟨first, member, paired⟩
    obtain ⟨second, belongs, same⟩ := List.mem_map.mp paired
    obtain ⟨rfl, rfl⟩ := Prod.mk.inj same
    exact ⟨member, belongs⟩
  · rintro ⟨member, belongs⟩
    exact ⟨row, member, List.mem_map_of_mem belongs⟩

/-- The rows of a join under a condition, one row after the other. -/
theorem map_fst_filter_innerJoin (condition : Row × Other → Bool) :
    ((innerJoin rows related).filter condition).map Prod.fst =
      rows.flatMap fun row =>
        List.replicate ((related row).filter fun other => condition (row, other)).length row := by
  rw [innerJoin, List.filter_flatMap, List.map_flatMap]
  refine congrArg (List.flatMap · rows) (funext fun row => ?_)
  rw [List.filter_map, List.map_map]
  exact List.map_const'

/-- A query lists every row once exactly if no row has two related rows that satisfy the
condition. -/
theorem nodup_map_fst_filter_innerJoin (distinct : rows.Nodup) (condition : Row × Other → Bool) :
    (((innerJoin rows related).filter condition).map Prod.fst).Nodup ↔
      ∀ row ∈ rows, ((related row).filter fun other => condition (row, other)).length ≤ 1 := by
  rw [map_fst_filter_innerJoin, List.nodup_flatMap]
  have disjoint : rows.Pairwise (Function.onFun List.Disjoint fun row =>
      List.replicate ((related row).filter fun other => condition (row, other)).length row) := by
    refine distinct.imp fun {first second} different => ?_
    intro row inFirst inSecond
    exact different ((List.eq_of_mem_replicate inFirst).symm.trans
      (List.eq_of_mem_replicate inSecond))
  rw [and_iff_left disjoint]
  exact forall₂_congr fun row _ => List.nodup_replicate

theorem mem_map_fst_filter_innerJoin {condition : Row × Other → Bool} {row : Row} :
    row ∈ ((innerJoin rows related).filter condition).map Prod.fst ↔
      row ∈ rows ∧ ∃ other ∈ related row, condition (row, other) = true := by
  rw [List.mem_map]
  constructor
  · rintro ⟨⟨first, second⟩, listed, rfl⟩
    obtain ⟨joined, satisfies⟩ := List.mem_filter.mp listed
    obtain ⟨member, belongs⟩ := mem_innerJoin.mp joined
    exact ⟨member, second, belongs, satisfies⟩
  · rintro ⟨member, other, belongs, satisfies⟩
    exact ⟨(row, other), List.mem_filter.mpr ⟨mem_innerJoin.mpr ⟨member, belongs⟩, satisfies⟩, rfl⟩

theorem filter_innerJoin (condition : Row → Bool) :
    (innerJoin rows related).filter (fun pair => condition pair.1) =
      innerJoin (rows.filter condition) related := by
  refine filter_flatMap_fst (fun row pair member => ?_) condition rows
  obtain ⟨other, -, rfl⟩ := List.mem_map.mp member
  rfl

/-- A join that is narrowed to one row lists what belongs to it. -/
theorem map_snd_filter_innerJoin {row : Row} (isRow : Row → Bool)
    (chosen : rows.filter isRow = [row]) (condition : Other → Bool) :
    ((innerJoin rows related).filter fun pair => isRow pair.1 && condition pair.2).map Prod.snd =
      (related row).filter condition := by
  have narrowed : (innerJoin rows related).filter (fun pair => isRow pair.1 && condition pair.2) =
      (innerJoin (rows.filter isRow) related).filter fun pair => condition pair.2 := by
    rw [← filter_innerJoin, List.filter_filter]
    exact List.filter_congr fun pair _ => Bool.and_comm _ _
  rw [narrowed, chosen, innerJoin, List.flatMap_singleton, List.filter_map, List.map_map]
  exact List.map_id _

/-- What belongs to the rows is listed once when nothing belongs to two rows. -/
theorem nodup_map_snd_innerJoin (each : ∀ row ∈ rows, (related row).Nodup)
    (apart : rows.Pairwise fun first second => (related first).Disjoint (related second)) :
    ((innerJoin rows related).map Prod.snd).Nodup := by
  have others : (innerJoin rows related).map Prod.snd = rows.flatMap related := by
    rw [innerJoin, List.map_flatMap]
    refine congrArg (List.flatMap · rows) (funext fun row => ?_)
    rw [List.map_map]
    exact List.map_id _
  rw [others, List.nodup_flatMap]
  exact ⟨each, apart⟩

end Inner

section Left

variable {rows : List Row} {related : Row → List Other}

theorem fst_of_mem_leftJoin {row : Row} {pair : Row × Option Other}
    (member : pair ∈ match related row with
      | [] => [(row, none)]
      | others => others.map fun other => (row, some other)) : pair.1 = row := by
  split at member
  · rw [List.mem_singleton.mp member]
  · obtain ⟨other, -, rfl⟩ := List.mem_map.mp member
    rfl

theorem mem_leftJoin_some {row : Row} {other : Other} :
    (row, some other) ∈ leftJoin rows related ↔ row ∈ rows ∧ other ∈ related row := by
  rw [leftJoin, List.mem_flatMap]
  constructor
  · rintro ⟨first, member, paired⟩
    split at paired
    · exact absurd (Prod.mk.inj (List.mem_singleton.mp paired)).2 nofun
    · obtain ⟨second, belongs, same⟩ := List.mem_map.mp paired
      obtain ⟨rfl, sameOther⟩ := Prod.mk.inj same
      exact ⟨member, Option.some.inj sameOther ▸ belongs⟩
  · rintro ⟨member, belongs⟩
    refine ⟨row, member, ?_⟩
    split
    · rename_i nothing
      exact absurd (nothing ▸ belongs) List.not_mem_nil
    · exact List.mem_map_of_mem belongs

theorem nodup_leftJoin (distinct : rows.Nodup) (each : ∀ row ∈ rows, (related row).Nodup) :
    (leftJoin rows related).Nodup := by
  rw [leftJoin, List.nodup_flatMap]
  constructor
  · intro row member
    split
    · exact List.nodup_singleton _
    · exact (each row member).map fun first second same => Option.some.inj (Prod.mk.inj same).2
  · refine distinct.imp fun {first second} different => ?_
    intro pair inFirst inSecond
    exact different ((fst_of_mem_leftJoin inFirst).symm.trans (fst_of_mem_leftJoin inSecond))

/-- A condition on the rows of a left join is one on its left side. -/
theorem filter_leftJoin (condition : Row → Bool) :
    (leftJoin rows related).filter (fun pair => condition pair.1) =
      leftJoin (rows.filter condition) related :=
  filter_flatMap_fst (fun _ _ member => fst_of_mem_leftJoin member) condition rows

/-- A left join loses no row. -/
theorem mem_map_fst_leftJoin {row : Row} :
    row ∈ (leftJoin rows related).map Prod.fst ↔ row ∈ rows := by
  rw [List.mem_map]
  constructor
  · rintro ⟨pair, joined, rfl⟩
    obtain ⟨first, member, paired⟩ := List.mem_flatMap.mp joined
    rw [fst_of_mem_leftJoin paired]
    exact member
  · intro member
    cases belongs : related row with
    | nil =>
        refine ⟨(row, none), List.mem_flatMap.mpr ⟨row, member, ?_⟩, rfl⟩
        rw [belongs]
        exact List.mem_cons_self
    | cons other others =>
        refine ⟨(row, some other), List.mem_flatMap.mpr ⟨row, member, ?_⟩, rfl⟩
        rw [belongs]
        exact List.mem_cons_self

variable [DecidableEq Row]

/-- What a left join counts for a row is what belongs to it. -/
theorem length_filter_leftJoin (distinct : rows.Nodup) {row : Row} (member : row ∈ rows) :
    ((leftJoin rows related).filter fun pair => pair.1 = row && pair.2.isSome).length =
      (related row).length := by
  have only : rows.filter (fun other => decide (other = row)) = [row] := by
    rw [List.filter_eq, List.count_eq_one_of_mem distinct member, List.replicate_one]
  have narrowed : (leftJoin rows related).filter (fun pair => pair.1 = row && pair.2.isSome) =
      (leftJoin [row] related).filter fun pair => pair.2.isSome := by
    rw [← only, ← filter_leftJoin, List.filter_filter]
    exact List.filter_congr fun pair _ => Bool.and_comm _ _
  rw [narrowed, leftJoin, List.flatMap_singleton]
  cases related row with
  | nil => rfl
  | cons other others =>
      rw [List.filter_eq_self.mpr, List.length_map]
      intro pair paired
      obtain ⟨belonging, -, rfl⟩ := List.mem_map.mp paired
      rfl

/-- The groups of a left join are its rows, with the number of what belongs to them. -/
theorem countGroups_leftJoin (distinct : rows.Nodup) :
    (countGroups (leftJoin rows related)).Perm
      (rows.map fun row => (row, (related row).length)) := by
  have groups : ((leftJoin rows related).map Prod.fst).dedup.Perm rows :=
    (List.perm_ext_iff_of_nodup (List.nodup_dedup _) distinct).mpr fun row =>
      List.mem_dedup.trans mem_map_fst_leftJoin
  refine (groups.map _).trans (List.Perm.of_eq (List.map_congr_left fun row member => ?_))
  rw [length_filter_leftJoin distinct member]

end Left

end Joins
