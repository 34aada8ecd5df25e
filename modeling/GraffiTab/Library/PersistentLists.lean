/-
This file is about lists that an object mapper keeps in a join table.

Every row of the table links an owner to an element. A list without an order column is
a bag: its rows come in any order, and a changed bag is stored by deleting its rows and
inserting its entries. An indexed list has an order column: an entry is stored at its
position, so a changed list is stored by updating the rows of the positions that changed,
deleting those of the positions that are gone, and inserting those of new positions.

What a write does is fixed against the list that was loaded, the snapshot, and against
the rows that are stored when it happens. The main result is that a list that is written
over the rows of its own snapshot is found again, and that no other list changes.
-/

import GraffiTab.Library.Tables

namespace PersistentLists

open Tables

universe u v

/-- A row of a join table; the order column counts for an indexed list only. -/
structure Row (Owner : Type u) (Element : Type v) where
  id : Int
  owner : Owner
  element : Element
  orderKey : Nat
  deriving DecidableEq

instance {Owner : Type u} {Element : Type v} : Identified (Row Owner Element) :=
  ⟨Row.id, fun id row => { row with id }, fun _ _ => rfl⟩

/-- Whether a list has an order column. -/
inductive Kind where
  | bag
  | indexed
  deriving DecidableEq

variable {Owner : Type u} {Element : Type v}

/-- What a row says about an indexed list: the element and its position. -/
def Row.cell (row : Row Owner Element) : Element × Nat := (row.element, row.orderKey)

/-! ### Loading -/

/-- Puts the element of a row at its position; the positions before it that have no row are null. -/
def place (entries : List (Option Element)) (row : Row Owner Element) : List (Option Element) :=
  (entries ++ List.replicate (row.orderKey + 1 - entries.length) none).set row.orderKey
    (some row.element)

/-- The list in memory that is loaded from the rows of its owner. -/
def load (kind : Kind) (rows : List (Row Owner Element)) : List (Option Element) :=
  match kind with
  | .bag => rows.map fun row => some row.element
  | .indexed => rows.foldl place []

/-! ### Writing -/

/-- The statements of a write: the rows that are deleted, the elements that are written into rows,
and the elements that are inserted with their positions. -/
structure Write (Element : Type v) where
  deleted : List Int
  updated : List (Int × Element)
  inserted : List (Element × Nat)
  deriving DecidableEq

/-- The rows that a write deletes or updates. -/
def Write.touched (write : Write Element) : List Int :=
  write.deleted ++ write.updated.map Prod.fst

/-- The row with the element that is written into it. -/
def Row.updatedBy (updated : List (Int × Element)) (row : Row Owner Element) : Row Owner Element :=
  match updated.lookup row.id with
  | none => row
  | some element => { row with element }

theorem id_updatedBy (updated : List (Int × Element)) (row : Row Owner Element) :
    (row.updatedBy updated).id = row.id := by
  unfold Row.updatedBy
  split <;> rfl

theorem owner_updatedBy (updated : List (Int × Element)) (row : Row Owner Element) :
    (row.updatedBy updated).owner = row.owner := by
  unfold Row.updatedBy
  split <;> rfl

/-- What the table is after the statements for the list of an owner. -/
def Write.apply (write : Write Element) (owner : Owner) (table : Table (Row Owner Element)) :
    Table (Row Owner Element) :=
  write.inserted.foldl (fun table cell => table.insert ⟨0, owner, cell.1, cell.2⟩)
    ((table.mapRows (Row.updatedBy write.updated) (id_updatedBy write.updated)).remove
      fun row => decide (row.id ∈ write.deleted))

/-- The rows of the list of an owner. -/
def rowsOf [DecidableEq Owner] (table : Table (Row Owner Element)) (owner : Owner) :
    List (Row Owner Element) :=
  table.select fun row => row.owner = owner

section Statements

variable [DecidableEq Element]

/-- The row of a position is deleted when the list has become shorter, or when the entry has become
null. -/
def deletesKey (snapshot entries : List (Option Element)) (key : Nat) : Bool :=
  key < snapshot.length &&
    (entries.length ≤ key || entries[key]?.join.isNone && snapshot[key]?.join.isSome)

/-- The element that is written into the row of a position. -/
def updateAt (snapshot entries : List (Option Element)) (key : Nat) : Option Element :=
  match snapshot[key]?.join, entries[key]?.join with
  | some old, some new => if old = new then none else some new
  | _, _ => none

/-- The entries that had no row. -/
def insertedCells (snapshot entries : List (Option Element)) : List (Element × Nat) :=
  entries.zipIdx.filterMap fun cell =>
    if snapshot[cell.2]?.join.isNone then cell.1.map fun element => (element, cell.2) else none

/-- The statements for a list that has changed, where `rows` are the rows it has by then. -/
def writeList (kind : Kind) (snapshot : List (Option Element)) (rows : List (Row Owner Element))
    (entries : List (Option Element)) : Write Element :=
  if kind = .bag ∨ entries = [] then
    { deleted := if snapshot = [] then [] else rows.map Row.id
      updated := []
      inserted := (entries.filterMap id).map fun element => (element, 0) }
  else
    { deleted := (rows.filter fun row => deletesKey snapshot entries row.orderKey).map Row.id
      updated := rows.filterMap fun row =>
        (updateAt snapshot entries row.orderKey).map fun element => (row.id, element)
      inserted := insertedCells snapshot entries }

end Statements

/-! ### Stored lists -/

/-- The rows hold the elements, an indexed list with their positions. -/
def Stored (kind : Kind) (rows : List (Row Owner Element)) (elements : List Element) : Prop :=
  match kind with
  | .bag => rows.map Row.element = elements
  | .indexed => rows.map Row.cell = elements.zipIdx

theorem Stored.elements {kind : Kind} {rows : List (Row Owner Element)} {elements : List Element}
    (stored : Stored kind rows elements) : rows.map Row.element = elements := by
  cases kind with
  | bag => exact stored
  | indexed =>
      have firsts := congrArg (List.map Prod.fst) stored
      rw [List.map_map, List.zipIdx_map_fst] at firsts
      exact firsts

theorem place_next (elements : List Element) (row : Row Owner Element)
    (next : row.orderKey = elements.length) :
    place (elements.map some) row = (elements ++ [row.element]).map some := by
  have missing : elements.length + 1 - elements.length = 1 := by omega
  have position : (elements.map some).length ≤ elements.length :=
    Nat.le_of_eq (List.length_map some)
  rw [place, next, List.length_map, missing, List.replicate_one,
    List.set_append_right _ _ position, List.length_map, Nat.sub_self, List.set_cons_zero,
    List.map_append, List.map_cons, List.map_nil]

/-- Only what the cells say counts. -/
theorem Stored.congr {kind : Kind} {rows others : List (Row Owner Element)}
    {elements : List Element} (stored : Stored kind rows elements)
    (same : others.map Row.cell = rows.map Row.cell) : Stored kind others elements := by
  cases kind with
  | bag =>
      have firsts := congrArg (List.map Prod.fst) same
      rw [List.map_map, List.map_map] at firsts
      exact firsts.trans stored
  | indexed => exact same.trans stored

/-- What is stored is loaded. -/
theorem load_of_stored {kind : Kind} {rows : List (Row Owner Element)} {elements : List Element}
    (stored : Stored kind rows elements) : load kind rows = elements.map some := by
  cases kind with
  | bag =>
      rw [load, ← stored.elements, List.map_map]
      rfl
  | indexed =>
      have placed : ∀ (rows : List (Row Owner Element)) (before after : List Element),
          rows.map Row.cell = after.zipIdx before.length →
            rows.foldl place (before.map some) = (before ++ after).map some := by
        intro rows
        induction rows with
        | nil =>
            intro before after cells
            rw [List.map_nil, eq_comm, List.zipIdx_eq_nil_iff] at cells
            rw [cells, List.append_nil, List.foldl_nil]
        | cons row rest inductionHypothesis =>
            intro before after cells
            cases after with
            | nil => exact absurd cells nofun
            | cons element others =>
                rw [List.map_cons, List.zipIdx_cons, List.cons.injEq] at cells
                obtain ⟨sameElement, sameKey⟩ := Prod.mk.inj cells.1
                rw [List.foldl_cons, place_next before row sameKey,
                  inductionHypothesis (before ++ [row.element]) others (by
                    rw [List.length_append, List.length_singleton]
                    exact cells.2), sameElement, List.append_assoc, List.singleton_append]
      exact placed rows [] elements stored

/-! ### Positions -/

/-- The entries at the positions that had a row. -/
theorem filterMap_zipIdx_getElem? (new : List Element) (old : List Element) :
    ∀ position : Nat,
      (old.zipIdx position).filterMap (fun cell =>
          new[cell.2]?.map fun element => (element, cell.2)) =
        ((new.drop position).take old.length).zipIdx position := by
  induction old with
  | nil =>
      intro position
      rfl
  | cons element rest inductionHypothesis =>
      intro position
      rw [List.zipIdx_cons]
      by_cases inside : position < new.length
      · rw [List.filterMap_cons_some (by rw [List.getElem?_eq_getElem inside]; rfl),
          inductionHypothesis, List.drop_eq_getElem_cons inside]
        rfl
      · have gone : new.length ≤ position := Nat.le_of_not_lt inside
        rw [List.filterMap_cons_none (by rw [List.getElem?_eq_none gone]; rfl),
          inductionHypothesis, List.drop_eq_nil_of_le gone,
          List.drop_eq_nil_of_le (Nat.le_succ_of_le gone), List.take_nil, List.take_nil]
        rfl

/-- The entries from a position on. -/
theorem filter_zipIdx_from (first : Nat) (new : List Element) :
    ∀ position : Nat,
      (new.zipIdx position).filter (fun cell => first ≤ cell.2) =
        (new.drop (first - position)).zipIdx (max first position) := by
  induction new with
  | nil =>
      intro position
      rw [List.drop_nil]
      rfl
  | cons element rest inductionHypothesis =>
      intro position
      rw [List.zipIdx_cons]
      by_cases reached : first ≤ position
      · have here : first - position = 0 := by omega
        have next : first - (position + 1) = 0 := by omega
        simp only [List.filter_cons, decide_eq_true reached, if_true]
        rw [inductionHypothesis, here, next,
          List.drop_zero, List.drop_zero, Nat.max_eq_right reached,
          Nat.max_eq_right (Nat.le_succ_of_le reached), List.zipIdx_cons]
      · have next : first - position = first - (position + 1) + 1 := by omega
        simp only [List.filter_cons, decide_eq_false reached, Bool.false_eq_true, if_false]
        rw [inductionHypothesis, next, List.drop_succ_cons, Nat.max_eq_left (by omega),
          Nat.max_eq_left (by omega)]

/-- A list is its entries before a position and those from there on. -/
theorem zipIdx_take_drop (position : Nat) (new : List Element) :
    (new.take position).zipIdx ++ (new.drop position).zipIdx position = new.zipIdx := by
  by_cases inside : position ≤ new.length
  · have split : (new.take position ++ new.drop position).zipIdx = (new.take position).zipIdx ++
        (new.drop position).zipIdx (0 + (new.take position).length) := List.zipIdx_append
    rw [List.take_append_drop, List.length_take, Nat.min_eq_left inside, Nat.zero_add] at split
    exact split.symm
  · rw [List.drop_eq_nil_of_le (by omega), List.take_of_length_le (by omega), List.zipIdx_nil,
      List.append_nil]

/-! ### Rows with different identifiers -/

/-- The rows that a write finds under a condition are those whose identifiers it lists. -/
theorem mem_ids_filter {rows : List (Row Owner Element)} (distinct : (rows.map Row.id).Nodup)
    {row : Row Owner Element} (member : row ∈ rows) (condition : Row Owner Element → Bool) :
    row.id ∈ (rows.filter condition).map Row.id ↔ condition row = true := by
  rw [List.mem_map]
  constructor
  · rintro ⟨other, listed, sameId⟩
    obtain ⟨otherMember, satisfies⟩ := List.mem_filter.mp listed
    rwa [List.inj_on_of_nodup_map distinct otherMember member sameId] at satisfies
  · intro satisfies
    exact ⟨row, List.mem_filter.mpr ⟨member, satisfies⟩, rfl⟩

/-- The element that a write puts into a row is the one that was chosen for it. -/
theorem lookup_chosen (rows : List (Row Owner Element)) (distinct : (rows.map Row.id).Nodup)
    (chosen : Row Owner Element → Option Element) {row : Row Owner Element} (member : row ∈ rows) :
    (rows.filterMap fun other => (chosen other).map fun element => (other.id, element)).lookup
      row.id = chosen row := by
  induction rows with
  | nil => exact absurd member List.not_mem_nil
  | cons first rest inductionHypothesis =>
      rw [List.map_cons, List.nodup_cons] at distinct
      rcases List.mem_cons.mp member with rfl | later
      · cases isChosen : chosen row with
        | none =>
            rw [List.filterMap_cons_none (by rw [isChosen]; rfl), List.lookup_eq_none_iff]
            intro update listed
            obtain ⟨other, otherMember, isUpdate⟩ := List.mem_filterMap.mp listed
            obtain ⟨element, -, rfl⟩ := Option.map_eq_some_iff.mp isUpdate
            rw [bne_iff_ne]
            exact fun same => distinct.1 (List.mem_map.mpr ⟨other, otherMember, same.symm⟩)
        | some element =>
            rw [List.filterMap_cons_some (by rw [isChosen]; rfl), List.lookup_cons_self]
      · have different : row.id ≠ first.id := fun same =>
          distinct.1 (List.mem_map.mpr ⟨row, later, same⟩)
        cases isChosen : chosen first with
        | none =>
            rw [List.filterMap_cons_none (by rw [isChosen]; rfl)]
            exact inductionHypothesis distinct.2 later
        | some element =>
            rw [List.filterMap_cons_some (by rw [isChosen]; rfl), List.lookup_cons,
              beq_false_of_ne different]
            exact inductionHypothesis distinct.2 later

/-! ### Statements for a changed list -/

theorem join_map_some (elements : List Element) (key : Nat) :
    (elements.map some)[key]?.join = elements[key]? := by
  rw [List.getElem?_map]
  cases elements[key]? <;> rfl

/-- The entries that get a new row are those behind the old list. -/
theorem insertedCells_map (old new : List Element) :
    insertedCells (old.map some) (new.map some) = (new.drop old.length).zipIdx old.length := by
  have inserts : insertedCells (old.map some) (new.map some) =
      new.zipIdx.filter fun cell => old.length ≤ cell.2 := by
    rw [insertedCells, List.zipIdx_map, List.filterMap_map, ← List.filterMap_eq_filter]
    refine List.filterMap_congr fun cell _ => if_congr ?_ rfl rfl
    show (old.map some)[cell.2]?.join.isNone = true ↔ decide (old.length ≤ cell.2) = true
    rw [join_map_some, Option.isNone_iff_eq_none, List.getElem?_eq_none_iff, decide_eq_true_eq]
  rw [inserts, filter_zipIdx_from, Nat.sub_zero, Nat.max_eq_left (Nat.zero_le _)]

/-- The rows behind the new list are deleted. -/
theorem deletesKey_map {old new : List Element} {key : Nat} (inside : key < old.length) :
    deletesKey (old.map some) (new.map some) key = decide (new.length ≤ key) := by
  rw [deletesKey, join_map_some, join_map_some, List.length_map, List.length_map,
    decide_eq_true inside, Bool.true_and]
  by_cases gone : new.length ≤ key
  · rw [decide_eq_true gone, Bool.true_or]
  · rw [decide_eq_false gone, Bool.false_or, List.getElem?_eq_getElem (Nat.lt_of_not_le gone)]
    rfl

section Changed

variable [DecidableEq Element]

/-- A row that stays has the new entry of its position. -/
theorem cell_updatedBy {old new : List Element} {row : Row Owner Element} {element : Element}
    {updated : List (Int × Element)} (was : old[row.orderKey]? = some row.element)
    (is : new[row.orderKey]? = some element)
    (chosen : updated.lookup row.id = updateAt (old.map some) (new.map some) row.orderKey) :
    (row.updatedBy updated).cell = (element, row.orderKey) := by
  rw [updateAt, join_map_some, join_map_some, was, is] at chosen
  by_cases same : row.element = element
  · rw [Row.updatedBy, chosen, ← same]
    simp only [if_true, Row.cell]
  · rw [Row.updatedBy, chosen]
    simp only [if_neg same, Row.cell]

/-- The cells that stay of a changed list are its entries at the positions that had a row. -/
theorem cells_kept {rows : List (Row Owner Element)} {old new : List Element}
    (distinct : (rows.map Row.id).Nodup) (stored : rows.map Row.cell = old.zipIdx)
    {write : Write Element}
    (deleted : write.deleted = (rows.filter fun row =>
      deletesKey (old.map some) (new.map some) row.orderKey).map Row.id)
    (updated : write.updated = rows.filterMap fun row =>
      (updateAt (old.map some) (new.map some) row.orderKey).map fun element => (row.id, element)) :
    ((rows.filter fun row => row.id ∉ write.deleted).map (Row.updatedBy write.updated)).map
        Row.cell = (new.take old.length).zipIdx := by
  have each : ∀ row ∈ rows,
      (if decide (row.id ∉ write.deleted) = true then
        some (row.updatedBy write.updated).cell else none) =
        new[row.orderKey]?.map fun element => (element, row.orderKey) := by
    intro row member
    have isCell : row.cell ∈ old.zipIdx := stored ▸ List.mem_map_of_mem member
    have element : old[row.orderKey]? = some row.element :=
      List.mem_zipIdx_iff_getElem?.mp isCell
    have inside : row.orderKey < old.length := (List.getElem?_eq_some_iff.mp element).1
    have isUpdated : write.updated.lookup row.id =
        updateAt (old.map some) (new.map some) row.orderKey :=
      updated ▸ lookup_chosen rows distinct _ member
    have isDeleted : row.id ∈ write.deleted ↔
        deletesKey (old.map some) (new.map some) row.orderKey = true :=
      deleted ▸ mem_ids_filter distinct member _
    rw [deletesKey_map inside, decide_eq_true_eq] at isDeleted
    by_cases gone : new.length ≤ row.orderKey
    · rw [if_neg (by rw [decide_eq_true_eq]; exact not_not.mpr (isDeleted.mpr gone)),
        List.getElem?_eq_none gone]
      rfl
    · have kept := Nat.lt_of_not_le gone
      rw [if_pos (decide_eq_true (mt isDeleted.mp gone)), List.getElem?_eq_getElem kept,
        cell_updatedBy element (List.getElem?_eq_getElem kept) isUpdated]
      rfl
  rw [List.map_map, ← List.filterMap_eq_map, List.filterMap_filter]
  have cells : rows.filterMap (fun row => new[row.orderKey]?.map fun element =>
      (element, row.orderKey)) = old.zipIdx.filterMap fun cell =>
        new[cell.2]?.map fun element => (element, cell.2) := by
    rw [← stored, List.filterMap_map]
    rfl
  exact (List.filterMap_congr each).trans (cells.trans (filterMap_zipIdx_getElem? new old 0))

/-- A write touches rows that the list has by then. -/
theorem exists_of_touched {kind : Kind} {snapshot entries : List (Option Element)}
    {rows : List (Row Owner Element)} {id : Int}
    (touched : id ∈ (writeList kind snapshot rows entries).touched) :
    ∃ row ∈ rows, row.id = id := by
  rw [writeList] at touched
  split at touched
  · rw [Write.touched, List.map_nil, List.append_nil] at touched
    split at touched
    · exact absurd touched List.not_mem_nil
    · exact List.mem_map.mp touched
  · rcases List.mem_append.mp touched with deleted | updated
    · obtain ⟨row, listed, sameId⟩ := List.mem_map.mp deleted
      exact ⟨row, (List.mem_filter.mp listed).1, sameId⟩
    · obtain ⟨update, listed, rfl⟩ := List.mem_map.mp updated
      obtain ⟨row, member, isUpdate⟩ := List.mem_filterMap.mp listed
      obtain ⟨element, -, rfl⟩ := Option.map_eq_some_iff.mp isUpdate
      exact ⟨row, member, rfl⟩

/-- A bag and a list that became empty delete all the rows there are. -/
theorem writeList_rewritten {kind : Kind} {rows : List (Row Owner Element)}
    {old new : List Element} (rewritten : kind = .bag ∨ new.map some = []) :
    writeList kind (old.map some) rows (new.map some) =
      { deleted := if old = [] then [] else rows.map Row.id
        updated := []
        inserted := new.map fun element => (element, 0) } := by
  have entries : (new.map some).filterMap id = new := by
    rw [List.filterMap_map]
    exact List.filterMap_some
  rw [writeList, if_pos rewritten, entries]
  simp only [List.map_eq_nil_iff]

end Changed

/-! ### What a write leaves -/

section Rows

variable [DecidableEq Owner]

theorem mem_rowsOf {table : Table (Row Owner Element)} {owner : Owner} {row : Row Owner Element} :
    row ∈ rowsOf table owner ↔ row ∈ table.rows ∧ row.owner = owner := by
  rw [rowsOf, Table.mem_select, decide_eq_true_eq]

/-- The rows of one owner have different identifiers. -/
theorem nodup_rowsOf (table : Table (Row Owner Element)) (owner : Owner) :
    ((rowsOf table owner).map Row.id).Nodup :=
  table.distinct.sublist (List.filter_sublist.map _)

/-- Updates and deletions of a write, seen from one owner. -/
theorem rowsOf_kept (write : Write Element) (table : Table (Row Owner Element)) (owner : Owner) :
    rowsOf ((table.mapRows (Row.updatedBy write.updated) (id_updatedBy write.updated)).remove
        fun row => decide (row.id ∈ write.deleted)) owner =
      ((rowsOf table owner).filter fun row => row.id ∉ write.deleted).map
        (Row.updatedBy write.updated) := by
  simp only [rowsOf, Table.select, Table.remove, Table.mapRows]
  rw [List.filter_filter, List.filter_map, List.filter_filter]
  refine congrArg (List.map _) (List.filter_congr fun row _ => ?_)
  rw [Function.comp_apply, owner_updatedBy]
  show (decide (row.owner = owner) &&
    !decide ((row.updatedBy write.updated).id ∈ write.deleted)) = _
  rw [id_updatedBy, Bool.and_comm, decide_not]

/-- The insertions of a write come after the other rows of the owner. -/
theorem cells_insertAll (owner other : Owner) (cells : List (Element × Nat)) :
    ∀ table : Table (Row Owner Element),
      (rowsOf (cells.foldl (fun table cell => table.insert ⟨0, owner, cell.1, cell.2⟩) table)
          other).map Row.cell =
        (rowsOf table other).map Row.cell ++ if owner = other then cells else [] := by
  induction cells with
  | nil =>
      intro table
      rw [List.foldl_nil, ite_self, List.append_nil]
  | cons cell rest inductionHypothesis =>
      intro table
      rw [List.foldl_cons, inductionHypothesis, rowsOf, Table.select, Table.insert,
        List.filter_append, List.map_append, List.append_assoc]
      refine congrArg _ ?_
      by_cases same : owner = other
      · simp [Identified.withId, Row.cell, same]
      · simp [Identified.withId, same]

/-- The list of the owner after a write. -/
theorem cells_apply_own (write : Write Element) (table : Table (Row Owner Element))
    (owner : Owner) :
    (rowsOf (write.apply owner table) owner).map Row.cell =
      (((rowsOf table owner).filter fun row => row.id ∉ write.deleted).map
        (Row.updatedBy write.updated)).map Row.cell ++ write.inserted := by
  rw [Write.apply, cells_insertAll, if_pos rfl, rowsOf_kept]

/-- Another list stays as it is, if the write touches only rows of its own list. -/
theorem cells_apply_other {write : Write Element} {table : Table (Row Owner Element)}
    {owner other : Owner} (different : owner ≠ other)
    (own : ∀ id ∈ write.touched, ∃ row ∈ rowsOf table owner, row.id = id) :
    (rowsOf (write.apply owner table) other).map Row.cell = (rowsOf table other).map Row.cell := by
  have untouched : ∀ row ∈ rowsOf table other, row.id ∉ write.touched := by
    intro row member touched
    obtain ⟨ownRow, ownMember, sameId⟩ := own row.id touched
    obtain ⟨stored, isOther⟩ := mem_rowsOf.mp member
    obtain ⟨ownStored, isOwner⟩ := mem_rowsOf.mp ownMember
    rw [Table.eq_of_id_eq ownStored stored sameId] at isOwner
    exact different (isOwner.symm.trans isOther)
  rw [Write.apply, cells_insertAll, if_neg different, List.append_nil, rowsOf_kept]
  have kept : (rowsOf table other).filter (fun row => row.id ∉ write.deleted) =
      rowsOf table other :=
    List.filter_eq_self.mpr fun row member => decide_eq_true fun deleted =>
      untouched row member (List.mem_append.mpr (.inl deleted))
  have unchanged : (rowsOf table other).map (Row.updatedBy write.updated) =
      rowsOf table other := by
    refine (List.map_congr_left fun row member => ?_).trans (List.map_id _)
    have absent : write.updated.lookup row.id = none := by
      rw [List.lookup_eq_none_iff]
      intro update listed
      rw [bne_iff_ne]
      intro same
      exact untouched row member (List.mem_append.mpr (.inr (List.mem_map.mpr
        ⟨update, listed, same.symm⟩)))
    rw [Row.updatedBy, absent, id]
  rw [kept, unchanged]

theorem cells_apply_rewritten {table : Table (Row Owner Element)} {owner : Owner}
    {old : List Element} (new : List Element)
    (stored : (rowsOf table owner).map Row.element = old) :
    (rowsOf (Write.apply
      { deleted := if old = [] then [] else (rowsOf table owner).map Row.id
        updated := []
        inserted := new.map fun element => (element, 0) } owner table) owner).map Row.cell =
      new.map fun element => (element, 0) := by
  have gone : (rowsOf table owner).filter (fun row =>
      row.id ∉ if old = [] then [] else (rowsOf table owner).map Row.id) = [] := by
    rw [List.filter_eq_nil_iff]
    intro row member
    have filled : old ≠ [] := by
      rintro rfl
      rw [List.map_eq_nil_iff.mp stored] at member
      exact List.not_mem_nil member
    rw [if_neg filled, decide_eq_true_eq, not_not]
    exact List.mem_map_of_mem member
  rw [cells_apply_own, gone]
  rfl

section RoundTrip

variable [DecidableEq Element]

/-- A list that is written over the rows of its snapshot is stored. -/
theorem stored_apply {kind : Kind} {table : Table (Row Owner Element)} {owner : Owner}
    {old new : List Element} (stored : Stored kind (rowsOf table owner) old) :
    Stored kind (rowsOf ((writeList kind (old.map some) (rowsOf table owner)
      (new.map some)).apply owner table) owner) new := by
  by_cases rewritten : kind = .bag ∨ new.map some = []
  · have cells := cells_apply_rewritten new stored.elements
    rw [← writeList_rewritten rewritten] at cells
    cases kind with
    | bag =>
        have elements := congrArg (List.map Prod.fst) cells
        rw [List.map_map, List.map_map] at elements
        exact elements.trans (List.map_id _)
    | indexed =>
        have empty : new = [] := List.map_eq_nil_iff.mp (rewritten.resolve_left nofun)
        rw [empty] at cells ⊢
        exact cells
  · obtain ⟨isIndexed, filled⟩ := not_or.mp rewritten
    cases kind with
    | bag => exact absurd rfl isIndexed
    | indexed =>
        have write : writeList .indexed (old.map some) (rowsOf table owner) (new.map some) =
            { deleted := ((rowsOf table owner).filter fun row =>
                deletesKey (old.map some) (new.map some) row.orderKey).map Row.id
              updated := (rowsOf table owner).filterMap fun row =>
                (updateAt (old.map some) (new.map some) row.orderKey).map fun element =>
                  (row.id, element)
              inserted := insertedCells (old.map some) (new.map some) } :=
          if_neg rewritten
        have kept := cells_kept (nodup_rowsOf table owner) stored
          (congrArg Write.deleted write) (congrArg Write.updated write)
        show (rowsOf (Write.apply _ owner table) owner).map Row.cell = new.zipIdx
        rw [cells_apply_own, kept, write]
        show (new.take old.length).zipIdx ++ insertedCells (old.map some) (new.map some) = _
        rw [insertedCells_map, zipIdx_take_drop]

end RoundTrip

end Rows

end PersistentLists
