/-
This file is about what one party sees of a table that many write.

A view shows a content of some rows and nothing of the others. An operation does not change what a
view shows when the row that it writes, deletes or inserts shows the same before and after it, or
nothing at all. So the lemmas reduce a statement about tables to one about rows.
-/

import GraffiTab.Library.Tables

namespace Views

open Tables

universe u v w

variable {Row : Type u} {Content : Type v} {Party : Type w}

/-- What a view shows of some rows, in their order. -/
def shown (view : Row → Option Content) (rows : List Row) : List Content := rows.filterMap view

/-- The view of the rows of one party. -/
def ofOwner [DecidableEq Party] (owner : Row → Party) (content : Row → Content) (party : Party)
    (row : Row) : Option Content :=
  if owner row = party then some (content row) else none

section Owner

variable [DecidableEq Party] {owner : Row → Party} {content : Row → Content} {party : Party}

theorem ofOwner_other {row : Row} (other : owner row ≠ party) :
    ofOwner owner content party row = none := if_neg other

theorem ofOwner_congr {row changed : Row} (sameOwner : owner changed = owner row)
    (sameContent : content changed = content row) :
    ofOwner owner content party changed = ofOwner owner content party row := by
  rw [ofOwner, ofOwner, sameOwner, sameContent]

theorem exists_of_shown_ne_nil {rows : List Row}
    (someShown : shown (ofOwner owner content party) rows ≠ []) :
    ∃ row ∈ rows, owner row = party := by
  obtain ⟨shownContent, member⟩ := List.exists_mem_of_ne_nil _ someShown
  obtain ⟨row, rowMember, isShown⟩ := List.mem_filterMap.mp member
  exact ⟨row, rowMember, (Option.ite_none_right_eq_some.mp isShown).1⟩

theorem shown_ne_nil {rows : List Row} {row : Row} (member : row ∈ rows)
    (owned : owner row = party) : shown (ofOwner owner content party) rows ≠ [] := by
  have isShown : ofOwner owner content party row = some (content row) := if_pos owned
  exact List.ne_nil_of_mem (List.mem_filterMap.mpr ⟨row, member, isShown⟩)

end Owner

variable {view : Row → Option Content}

/-! ### Lists of rows -/

theorem shown_append_hidden (rows : List Row) {new : Row} (hidden : view new = none) :
    shown view (rows ++ [new]) = shown view rows := by
  rw [shown, List.filterMap_append, List.filterMap_cons_none hidden, List.filterMap_nil,
    List.append_nil, shown]

theorem shown_erase_hidden [DecidableEq Row] (rows : List Row) {erased : Row}
    (hidden : view erased = none) : shown view (rows.erase erased) = shown view rows := by
  induction rows with
  | nil => rfl
  | cons row rest inductionHypothesis =>
      rw [List.erase_cons]
      split
      · rename_i same
        rw [shown, shown, List.filterMap_cons_none (beq_iff_eq.mp same ▸ hidden)]
      · simp only [shown, List.filterMap_cons] at inductionHypothesis ⊢
        rw [inductionHypothesis]

/-- Every row is changed, and shows what it has shown. -/
theorem shown_map (rows : List Row) {change : Row → Row}
    (same : ∀ row, view (change row) = view row) :
    shown view (rows.map change) = shown view rows := by
  rw [shown, List.filterMap_map]
  exact List.filterMap_congr fun row _ => same row

/-! ### Tables -/

variable [Identified Row]

theorem shown_insert (table : Table Row) {new : Row}
    (hidden : view (Identified.withId table.nextId new) = none) :
    shown view (table.insert new).rows = shown view table.rows :=
  shown_append_hidden table.rows hidden

/-- A row that is written back shows what the one in its place has shown. -/
theorem shown_set {table : Table Row} {old new : Row} (stored : old ∈ table.rows)
    (sameId : Identified.id new = Identified.id old) (same : view new = view old) :
    shown view (table.set new).rows = shown view table.rows := by
  rw [shown, Table.set, List.filterMap_map]
  refine List.filterMap_congr fun row member => ?_
  rw [Function.comp_apply]
  split
  · rename_i written
    rw [same, Table.eq_of_id_eq member stored (written.trans sameId)]
  · rfl

/-- Nothing happens to rows of which the view shows nothing. -/
theorem shown_set_hidden {table : Table Row} {new : Row} (hidden : view new = none)
    (others : ∀ old ∈ table.rows, Identified.id old = Identified.id new → view old = none) :
    shown view (table.set new).rows = shown view table.rows := by
  rw [shown, Table.set, List.filterMap_map]
  refine List.filterMap_congr fun row member => ?_
  rw [Function.comp_apply]
  split
  · rename_i written
    rw [hidden, others row member written]
  · rfl

theorem shown_remove {table : Table Row} {condition : Row → Bool}
    (hidden : ∀ row ∈ table.rows, condition row = true → view row = none) :
    shown view (table.remove condition).rows = shown view table.rows := by
  rw [shown, Table.remove, List.filterMap_filter]
  refine List.filterMap_congr fun row member => ?_
  cases removed : condition row with
  | false => rfl
  | true => exact (hidden row member removed).symm

end Views
