/-
This file is about rows that refer to one another, and about what becomes of rows in time.

Rows stay when each of them has a later version, they grow when it also keeps its place, and no
reference gets lost when a row of the next list refers to what an old row referred to, or to what
is there. So every reference stays resolved: nothing that is referred to goes, and nothing is
referred to that never was. The lemmas say this of the operations on tables.
-/

import GraffiTab.Library.Tables

namespace Histories

open Tables

universe u v

variable {Row : Type u} {Reference : Type v}

/-! ### Rows that stay -/

/-- Every row has a later version among the next rows. -/
def RowsStay (Later : Row → Row → Prop) (rows next : List Row) : Prop :=
  ∀ row ∈ rows, ∃ later ∈ next, Later row later

/-- Every row has a later version in its place, and what is new comes after them. -/
inductive RowsGrow (Later : Row → Row → Prop) : List Row → List Row → Prop
  | added (new : List Row) : RowsGrow Later [] new
  | kept {row later : Row} {rows next : List Row} (inPlace : Later row later)
      (rest : RowsGrow Later rows next) : RowsGrow Later (row :: rows) (later :: next)

section Stay

variable {Later : Row → Row → Prop} {rows middle next : List Row}

theorem RowsGrow.stay (grow : RowsGrow Later rows next) : RowsStay Later rows next := by
  induction grow with
  | added => exact fun row member => absurd member List.not_mem_nil
  | kept inPlace _ inductionHypothesis =>
      refine List.forall_mem_cons.mpr ⟨⟨_, List.mem_cons_self, inPlace⟩, fun row member => ?_⟩
      obtain ⟨later, laterMember, after⟩ := inductionHypothesis row member
      exact ⟨later, List.mem_cons_of_mem _ laterMember, after⟩

/-- Under a weaker relation the rows stay in place too. -/
theorem RowsGrow.mono {Weaker : Row → Row → Prop} (grow : RowsGrow Later rows next)
    (weaken : ∀ row later, Later row later → Weaker row later) : RowsGrow Weaker rows next := by
  induction grow with
  | added new => exact .added new
  | kept inPlace _ inductionHypothesis => exact .kept (weaken _ _ inPlace) inductionHypothesis

/-- What is chosen of the rows grows with them, where the later version of a chosen row is chosen
too and has the same content. -/
theorem RowsGrow.chosen {Content : Type v} {chosen nextChosen : Row → Bool}
    {content : Row → Content}
    (grow : RowsGrow Later rows next)
    (stays : ∀ row ∈ rows, ∀ later, Later row later → chosen row = true →
      nextChosen later = true ∧ content later = content row) :
    ((rows.filter chosen).map content).Sublist ((next.filter nextChosen).map content) := by
  induction grow with
  | added => exact List.nil_sublist _
  | @kept row later rows next inPlace _ inductionHypothesis =>
      obtain ⟨first, others⟩ := List.forall_mem_cons.mp stays
      have rest := inductionHypothesis others
      cases isChosen : chosen row with
      | false =>
          rw [List.filter_cons_of_neg (by rw [isChosen]; exact Bool.false_ne_true)]
          exact rest.trans (((List.sublist_cons_self later next).filter nextChosen).map content)
      | true =>
          obtain ⟨stillChosen, same⟩ := first later inPlace isChosen
          rw [List.filter_cons_of_pos isChosen, List.filter_cons_of_pos stillChosen, List.map_cons,
            List.map_cons, same]
          exact rest.cons_cons _

section Trans

variable (transitive : ∀ first second third, Later first second → Later second third →
  Later first third)
include transitive

theorem RowsStay.trans (first : RowsStay Later rows middle) (second : RowsStay Later middle next) :
    RowsStay Later rows next := by
  intro row member
  obtain ⟨between, betweenMember, before⟩ := first row member
  obtain ⟨later, laterMember, after⟩ := second between betweenMember
  exact ⟨later, laterMember, transitive _ _ _ before after⟩

theorem RowsGrow.trans (first : RowsGrow Later rows middle) (second : RowsGrow Later middle next) :
    RowsGrow Later rows next := by
  induction first generalizing next with
  | added => exact .added next
  | kept inPlace _ inductionHypothesis =>
      cases second with
      | kept after rest => exact .kept (transitive _ _ _ inPlace after) (inductionHypothesis rest)

end Trans

theorem RowsGrow.map (rows : List Row) {change : Row → Row}
    (later : ∀ row ∈ rows, Later row (change row)) :
    RowsGrow Later rows (rows.map change) := by
  induction rows with
  | nil => exact .added []
  | cons row rest inductionHypothesis =>
      obtain ⟨first, others⟩ := List.forall_mem_cons.mp later
      exact .kept first (inductionHypothesis others)

variable (reflexive : ∀ row, Later row row)
include reflexive

theorem RowsGrow.append (rows new : List Row) : RowsGrow Later rows (rows ++ new) := by
  induction rows with
  | nil => exact .added new
  | cons row rest inductionHypothesis => exact .kept (reflexive row) inductionHypothesis

theorem RowsGrow.refl (rows : List Row) : RowsGrow Later rows rows := by
  have grows := RowsGrow.append reflexive rows []
  rwa [List.append_nil] at grows

variable [Identified Row]

theorem RowsGrow.insert (table : Table Row) (new : Row) :
    RowsGrow Later table.rows (table.insert new).rows :=
  .append reflexive table.rows _

/-- A row that is written back is a later version of the one in its place. -/
theorem RowsGrow.set {table : Table Row} {old new : Row} (stored : old ∈ table.rows)
    (sameId : Identified.id new = Identified.id old) (later : Later old new) :
    RowsGrow Later table.rows (table.set new).rows := by
  refine .map table.rows fun row member => ?_
  split
  · rename_i same
    obtain rfl : row = old := Table.eq_of_id_eq member stored (same.trans sameId)
    exact later
  · exact reflexive row

end Stay

/-! ### References -/

/-- Every next row refers to what one old row referred to, or to what is there. -/
def ReferencesKept (references : Row → List Reference) (Resolved : Reference → Prop)
    (rows next : List Row) : Prop :=
  ∀ row ∈ next, (∃ old ∈ rows, ∀ reference ∈ references row, reference ∈ references old) ∨
    ∀ reference ∈ references row, Resolved reference

/-- Everything that the rows refer to is there. -/
def AllResolved (references : Row → List Reference) (Resolved : Reference → Prop)
    (rows : List Row) : Prop :=
  ∀ row ∈ rows, ∀ reference ∈ references row, Resolved reference

section Kept

variable {references : Row → List Reference} {Resolved Next : Reference → Prop}
  {rows middle next : List Row}

theorem ReferencesKept.of_subset (subset : ∀ row ∈ next, row ∈ rows) :
    ReferencesKept references Resolved rows next :=
  fun row member => .inl ⟨row, subset row member, fun _ refers => refers⟩

theorem ReferencesKept.refl (rows : List Row) : ReferencesKept references Resolved rows rows :=
  .of_subset fun _ member => member

theorem ReferencesKept.append {new : List Row} (resolved : AllResolved references Resolved new) :
    ReferencesKept references Resolved rows (rows ++ new) := by
  intro row member
  rcases List.mem_append.mp member with old | added
  · exact .inl ⟨row, old, fun _ refers => refers⟩
  · exact .inr (resolved row added)

theorem ReferencesKept.trans (first : ReferencesKept references Resolved rows middle)
    (stays : ∀ reference, Resolved reference → Next reference)
    (second : ReferencesKept references Next middle next) :
    ReferencesKept references Next rows next := by
  intro row member
  rcases second row member with ⟨between, betweenMember, same⟩ | there
  · rcases first between betweenMember with ⟨old, stored, before⟩ | resolved
    · exact .inl ⟨old, stored, fun reference refers => before reference (same reference refers)⟩
    · exact .inr fun reference refers =>
        stays reference (resolved reference (same reference refers))
  · exact .inr there

/-- What is referred to stays resolved, where nothing that is there goes. -/
theorem AllResolved.after (resolved : AllResolved references Resolved rows)
    (stays : ∀ reference, Resolved reference → Next reference)
    (kept : ReferencesKept references Next rows next) : AllResolved references Next next := by
  intro row member reference refers
  rcases kept row member with ⟨old, stored, same⟩ | there
  · exact stays reference (resolved old stored reference (same reference refers))
  · exact there reference refers

variable [Identified Row]

theorem ReferencesKept.insert (table : Table Row) {new : Row}
    (resolved : ∀ reference ∈ references (Identified.withId table.nextId new),
      Resolved reference) :
    ReferencesKept references Resolved table.rows (table.insert new).rows :=
  .append fun _ member => List.mem_singleton.mp member ▸ resolved

theorem ReferencesKept.set {table : Table Row} {old new : Row} (stored : old ∈ table.rows)
    (same : references new = references old) :
    ReferencesKept references Resolved table.rows (table.set new).rows := by
  intro row member
  rcases Table.mem_set.mp member with ⟨rfl, -⟩ | ⟨stays, -⟩
  · exact .inl ⟨old, stored, fun _ refers => same ▸ refers⟩
  · exact .inl ⟨row, stays, fun _ refers => refers⟩

omit [Identified Row] in
theorem ReferencesKept.map (rows : List Row) {change : Row → Row}
    (sameReferences : ∀ row, references (change row) = references row) :
    ReferencesKept references Resolved rows (rows.map change) := by
  intro row member
  obtain ⟨old, stored, rfl⟩ := List.mem_map.mp member
  exact .inl ⟨old, stored, fun _ refers => sameReferences old ▸ refers⟩

theorem ReferencesKept.remove (table : Table Row) (condition : Row → Bool) :
    ReferencesKept references Resolved table.rows (table.remove condition).rows :=
  .of_subset fun _ member => (Table.mem_remove.mp member).1

end Kept

end Histories
