/-
This file asks whether likes and follows survive each other.

A request reads the list of likers of a streamable, or the list of users that the current
user follows, into memory, changes it there and stores what changed. At READ COMMITTED the
list can have been changed by then: the likers are stored by deleting all rows and
inserting those that were read, so that the like of another user is lost, and two follows
are inserted at the same position. No key of the tables excludes a second row of one edge.
So the edges are kept in every run in which a transaction writes and commits while its
list is still the one that it has read.
-/

import GraffiTab.Library.PersistentLists
import GraffiTab.Library.Runs
import GraffiTab.Writes
import Mathlib.Data.Option.Basic

namespace GraffiTab

open Tables Runs PersistentLists

/-! ### The requests -/

/-- The lists whose rows are in `gt_like` and in `following`. -/
inductive EdgeList where
  | likers (streamableId : Long)
  | following (userId : Long)
  deriving DecidableEq

/-- `likers` has no order column, `following` has one. -/
def EdgeList.kind : EdgeList → Kind
  | .likers _ => .bag
  | .following _ => .indexed

/-- A row of one of the two tables. -/
abbrev EdgeRow := Row EdgeList Long

inductive EdgeRequest where
  | like (currentUserId toLikeId : Long)
  | unlike (currentUserId toUnlikeId : Long)
  | follow (currentUserId toFollowId : Long)
  | unfollow (currentUserId toUnfollowId : Long)

/-- What a request does to a list: it adds the element unless it is there, or it removes it. -/
structure EdgeChange where
  list : EdgeList
  element : Long
  adds : Bool
  deriving DecidableEq

/-- The checks of `StreamableService.like` and `unlike` and of `UserService.follow` and `unfollow`;
an exception in the transaction of `like` and `follow` is wrapped. -/
def changeOf (store : Store) : EdgeRequest → Except Throwable EdgeChange
  | .like currentUserId toLikeId => do
      let currentUser ← loadCurrentUser currentUserId store
      match store.streamables.find toLikeId with
      | some streamable => return ⟨.likers streamable.id, currentUser.id, true⟩
      | none => throw (.runtimeException (streamableNotFound toLikeId))
  | .unlike currentUserId toUnlikeId => do
      match store.streamables.find toUnlikeId with
      | some streamable =>
          let currentUser ← loadCurrentUser currentUserId store
          return ⟨.likers streamable.id, currentUser.id, false⟩
      | none => throw (streamableNotFound toUnlikeId)
  | .follow currentUserId toFollowId => do
      let currentUser ← loadCurrentUser currentUserId store
      match findUserById toFollowId store with
      | some toFollow =>
          if currentUser.id = toFollow.id then
            throw (.runtimeException
              (restApiException .invalidFollowee "You cannot follow yourself"))
          else return ⟨.following currentUser.id, toFollow.id, true⟩
      | none =>
          throw (.runtimeException (restApiException .userNotFound
            ("User with id " ++ toString toFollowId ++ " not found")))
  | .unfollow currentUserId toUnfollowId => do
      match findUserById toUnfollowId store with
      | some toUnfollow =>
          let currentUser ← loadCurrentUser currentUserId store
          return ⟨.following currentUser.id, toUnfollow.id, false⟩
      | none =>
          throw (restApiException .userNotFound
            ("User with id " ++ toString toUnfollowId ++ " not found"))

/-! ### Transactions on the lists -/

/-- A transaction on a list: the rows that it has read, and the statements that it has executed, if
it has come to that. -/
structure EdgeTransaction where
  change : EdgeChange
  rows : List EdgeRow
  written : Option (Write Long)

/-- The list as it was loaded. -/
def EdgeTransaction.snapshot (transaction : EdgeTransaction) : List (Option Long) :=
  load transaction.change.list.kind transaction.rows

/-- `likers.contains` or `following.contains`. -/
def EdgeTransaction.contains (transaction : EdgeTransaction) : Bool :=
  transaction.snapshot.contains (some transaction.change.element)

/-- The list in memory is changed. -/
def EdgeTransaction.isDirty (transaction : EdgeTransaction) : Bool :=
  if transaction.change.adds then !transaction.contains else transaction.contains

/-- The changed list: an element is added at the end, and of an element the first one is
removed. -/
def EdgeTransaction.entries (transaction : EdgeTransaction) : List (Option Long) :=
  if transaction.change.adds then transaction.snapshot ++ [some transaction.change.element]
  else transaction.snapshot.erase (some transaction.change.element)

/-- The committed rows, the transactions that are active, and the changes in the order of their
commits. The requests read users and streamables of the store, and change none. -/
structure EdgeState where
  store : Store
  edges : Table EdgeRow
  transactions : List EdgeTransaction
  committed : List EdgeChange

/-- A row that a statement touches stays locked until the end of the transaction. -/
def EdgeState.locks (state : EdgeState) (write : Write Long) : Bool :=
  state.transactions.any fun transaction =>
    (transaction.written.map Write.touched).any fun touched =>
      write.touched.any fun id => touched.contains id

/-- A request begins with its reads; a transaction at a position executes its statements against
the committed rows, ends with its commit, or is rolled back. -/
inductive EdgeAction where
  | begin (request : EdgeRequest)
  | write (position : Nat)
  | commit (position : Nat)
  | rollback (position : Nat)

def edgeStep (state : EdgeState) : EdgeAction → Option EdgeState
  | .begin request =>
      match changeOf state.store request with
      | .error _ => some state
      | .ok change =>
          some { state with
            transactions := state.transactions ++ [⟨change, rowsOf state.edges change.list, none⟩] }
  | .write position =>
      match state.transactions[position]? with
      | none => none
      | some transaction =>
          let write := writeList transaction.change.list.kind transaction.snapshot
            (rowsOf state.edges transaction.change.list) transaction.entries
          if transaction.isDirty && transaction.written.isNone && !state.locks write then
            some { state with
              transactions :=
                state.transactions.set position { transaction with written := some write } }
          else none
  | .commit position =>
      match state.transactions[position]? with
      | none => none
      | some transaction =>
          if transaction.isDirty then
            transaction.written.map fun write =>
              { state with
                edges := write.apply transaction.change.list state.edges
                transactions := state.transactions.eraseIdx position
                committed := state.committed ++ [transaction.change] }
          else
            some { state with
              transactions := state.transactions.eraseIdx position
              committed := state.committed ++ [transaction.change] }
  | .rollback position =>
      some { state with transactions := state.transactions.eraseIdx position }

/-! ### What should hold of the edges -/

/-- The elements of a list in the database. -/
def EdgeState.elements (state : EdgeState) (list : EdgeList) : List Long :=
  (rowsOf state.edges list).map Row.element

/-- What the last committed change of an edge was, if there was one. -/
def lastChange (committed : List EdgeChange) (list : EdgeList) (element : Long) : Option Bool :=
  (committed.reverse.find? fun change => change.list = list && change.element = element).map
    EdgeChange.adds

/-- A state without active transactions in which every list is stored in order. -/
structure EdgeStart (state : EdgeState) : Prop where
  stored : ∀ list, Stored list.kind (rowsOf state.edges list) (state.elements list)
  once : ∀ list, (state.elements list).Nodup
  notSelf : ∀ userId, userId ∉ state.elements (.following userId)
  idle : state.transactions = []
  unlogged : state.committed = []

/-- A transaction that changes its list finds it as it was read, when it writes and when it
commits; for one that changes nothing, the edge of its request is there at the commit as it was
when it was read. -/
def FindsListAsRead (state : EdgeState) : EdgeAction → Prop
  | .begin _ | .rollback _ => True
  | .write position => ∀ transaction, state.transactions[position]? = some transaction →
      rowsOf state.edges transaction.change.list = transaction.rows
  | .commit position => ∀ transaction, state.transactions[position]? = some transaction →
      if transaction.isDirty then
        rowsOf state.edges transaction.change.list = transaction.rows
      else
        (transaction.change.element ∈ state.elements transaction.change.list ↔
          transaction.change.element ∈ transaction.rows.map Row.element)

/-! ### The list of a transaction -/

/-- What is known of an active transaction: its list was stored in order, its change leads to
another user, and its statements are those for the rows that it has read. -/
structure EdgeTransaction.Fits (transaction : EdgeTransaction) : Prop where
  stored : Stored transaction.change.list.kind transaction.rows
    (transaction.rows.map Row.element)
  once : (transaction.rows.map Row.element).Nodup
  notSelf : ∀ userId, transaction.change.list = .following userId →
    transaction.change.adds = true → transaction.change.element ≠ userId
  written : ∀ write, transaction.written = some write →
    write = writeList transaction.change.list.kind transaction.snapshot transaction.rows
      transaction.entries

/-- The list that a transaction leaves. -/
def EdgeTransaction.result (transaction : EdgeTransaction) : List Long :=
  if transaction.change.adds then
    transaction.rows.map Row.element ++ [transaction.change.element]
  else (transaction.rows.map Row.element).erase transaction.change.element

section Transactions

variable {transaction : EdgeTransaction}

theorem EdgeTransaction.Fits.snapshot_eq (fits : transaction.Fits) :
    transaction.snapshot = (transaction.rows.map Row.element).map some :=
  load_of_stored fits.stored

theorem EdgeTransaction.Fits.entries_eq (fits : transaction.Fits) :
    transaction.entries = transaction.result.map some := by
  rw [EdgeTransaction.entries, EdgeTransaction.result, fits.snapshot_eq]
  split
  · rw [List.map_append]
    rfl
  · exact (List.map_erase (Option.some_injective Long) _).symm

/-- The test in memory is the one on the rows. -/
theorem EdgeTransaction.Fits.contains_iff (fits : transaction.Fits) :
    transaction.contains = true ↔
      transaction.change.element ∈ transaction.rows.map Row.element := by
  rw [EdgeTransaction.contains, fits.snapshot_eq, List.contains_iff_mem,
    List.mem_map_of_injective (Option.some_injective Long)]

/-- A list is changed when the edge is not yet as it was asked for. -/
theorem EdgeTransaction.Fits.isDirty_iff (fits : transaction.Fits) :
    transaction.isDirty = true ↔
      ¬ (transaction.change.element ∈ transaction.rows.map Row.element ↔
        transaction.change.adds = true) := by
  rw [← fits.contains_iff, EdgeTransaction.isDirty]
  cases transaction.change.adds <;> cases transaction.contains <;> decide

/-- The new list has its elements once, and the edge of the request as it was asked for. -/
theorem EdgeTransaction.Fits.result_nodup (fits : transaction.Fits)
    (dirty : transaction.isDirty = true) : transaction.result.Nodup := by
  rw [EdgeTransaction.result]
  split
  · rename_i adds
    have absent : transaction.change.element ∉ transaction.rows.map Row.element := by
      have differs := fits.isDirty_iff.mp dirty
      rw [adds, iff_true_right rfl] at differs
      exact differs
    rw [← List.concat_eq_append]
    exact fits.once.concat absent
  · exact fits.once.erase _

theorem EdgeTransaction.Fits.mem_result_self (fits : transaction.Fits) :
    transaction.change.element ∈ transaction.result ↔ transaction.change.adds = true := by
  rw [EdgeTransaction.result]
  split
  · rename_i adds
    exact iff_of_true (List.mem_append_right _ List.mem_cons_self) adds
  · rename_i removes
    exact iff_of_false (fun member => ((fits.once.mem_erase_iff).mp member).1 rfl) removes

theorem EdgeTransaction.mem_result_other {element : Long}
    (other : element ≠ transaction.change.element) :
    element ∈ transaction.result ↔ element ∈ transaction.rows.map Row.element := by
  rw [EdgeTransaction.result]
  split
  · rw [List.mem_append, List.mem_singleton, or_iff_left other]
  · exact List.mem_erase_of_ne other

end Transactions

/-! ### What a step keeps -/

/-- The invariant of the runs: the lists are stored in order, the transactions fit, and the edges
are as the committed changes left them. -/
structure EdgesKept (state : EdgeState) : Prop where
  stored : ∀ list, Stored list.kind (rowsOf state.edges list) (state.elements list)
  once : ∀ list, (state.elements list).Nodup
  notSelf : ∀ userId, userId ∉ state.elements (.following userId)
  fits : ∀ transaction ∈ state.transactions, transaction.Fits
  committed : ∀ list element asked, lastChange state.committed list element = some asked →
    (element ∈ state.elements list ↔ asked = true)

section Steps

variable {state next : EdgeState}

/-- A request does not lead from a user to himself. -/
theorem changeOf_notSelf {store : Store} {request : EdgeRequest} {change : EdgeChange}
    (accepted : changeOf store request = .ok change) (userId : Long)
    (following : change.list = .following userId) (adds : change.adds = true) :
    change.element ≠ userId := by
  cases request with
  | like currentUserId toLikeId =>
      obtain ⟨currentUser, -, rest⟩ := bind_eq_ok.mp accepted
      cases found : store.streamables.find toLikeId with
      | none =>
          rw [found] at rest
          exact absurd rest throw_ne_ok
      | some streamable =>
          rw [found] at rest
          obtain rfl := Except.ok.inj rest
          exact absurd following nofun
  | unlike currentUserId toUnlikeId =>
      rw [changeOf] at accepted
      cases found : store.streamables.find toUnlikeId with
      | none =>
          rw [found] at accepted
          exact absurd accepted throw_ne_ok
      | some streamable =>
          rw [found] at accepted
          obtain ⟨currentUser, -, rest⟩ := bind_eq_ok.mp accepted
          obtain rfl := Except.ok.inj rest
          exact absurd adds Bool.false_ne_true
  | follow currentUserId toFollowId =>
      obtain ⟨currentUser, -, rest⟩ := bind_eq_ok.mp accepted
      cases found : findUserById toFollowId store with
      | none =>
          rw [found] at rest
          exact absurd rest throw_ne_ok
      | some toFollow =>
          rw [found] at rest
          by_cases self : currentUser.id = toFollow.id
          · simp only [if_pos self] at rest
            exact absurd rest throw_ne_ok
          · simp only [if_neg self] at rest
            obtain rfl := Except.ok.inj rest
            rw [← EdgeList.following.inj following]
            exact Ne.symm self
  | unfollow currentUserId toUnfollowId =>
      rw [changeOf] at accepted
      cases found : findUserById toUnfollowId store with
      | none =>
          rw [found] at accepted
          exact absurd accepted throw_ne_ok
      | some toUnfollow =>
          rw [found] at accepted
          obtain ⟨currentUser, -, rest⟩ := bind_eq_ok.mp accepted
          obtain rfl := Except.ok.inj rest
          exact absurd adds Bool.false_ne_true

theorem lastChange_append (committed : List EdgeChange) (change : EdgeChange) (list : EdgeList)
    (element : Long) :
    lastChange (committed ++ [change]) list element =
      if change.list = list ∧ change.element = element then some change.adds
      else lastChange committed list element := by
  rw [lastChange, List.reverse_append, List.reverse_singleton, List.singleton_append,
    List.find?_cons]
  by_cases about : change.list = list ∧ change.element = element
  · rw [if_pos about, about.1, about.2]
    simp only [decide_true, Bool.and_self, Option.map_some]
  · rw [if_neg about]
    have different :
        (decide (change.list = list) && decide (change.element = element)) = false := by
      rw [← Bool.not_eq_true, Bool.and_eq_true, decide_eq_true_eq, decide_eq_true_eq]
      exact about
    simp only [different, lastChange]

/-- A commit that finds its list as it was read leaves the list of the transaction there, and the
other lists as they are. -/
theorem elements_apply {transaction : EdgeTransaction} (fits : transaction.Fits)
    {write : Write Long} (written : transaction.written = some write)
    (unchanged : rowsOf state.edges transaction.change.list = transaction.rows) :
    Stored transaction.change.list.kind
        (rowsOf (write.apply transaction.change.list state.edges) transaction.change.list)
        transaction.result ∧
      ∀ list, transaction.change.list ≠ list →
        (rowsOf (write.apply transaction.change.list state.edges) list).map Row.cell =
          (rowsOf state.edges list).map Row.cell := by
  have isWrite := fits.written write written
  rw [fits.snapshot_eq, fits.entries_eq, ← unchanged] at isWrite
  constructor
  · rw [isWrite]
    exact stored_apply (unchanged ▸ fits.stored)
  · intro list different
    exact cells_apply_other different fun id touched =>
      exists_of_touched (isWrite ▸ touched)

/-- A request begins with a transaction that fits. -/
theorem edgesKept_begin (kept : EdgesKept state) {request : EdgeRequest} {change : EdgeChange}
    (accepted : changeOf state.store request = .ok change) :
    EdgesKept { state with
      transactions := state.transactions ++
        [⟨change, rowsOf state.edges change.list, none⟩] } := by
  refine ⟨kept.stored, kept.once, kept.notSelf, fun transaction member => ?_, kept.committed⟩
  rcases List.mem_append.mp member with active | new
  · exact kept.fits transaction active
  · rw [List.mem_singleton.mp new]
    exact ⟨kept.stored change.list, kept.once change.list, changeOf_notSelf accepted, nofun⟩

/-- The statements of a transaction that finds its list as it was read are those for what it has
read. -/
theorem edgesKept_write (kept : EdgesKept state) {position : Nat} {transaction : EdgeTransaction}
    (active : state.transactions[position]? = some transaction)
    (unchanged : rowsOf state.edges transaction.change.list = transaction.rows) :
    EdgesKept { state with
      transactions := state.transactions.set position
        { transaction with
          written := some (writeList transaction.change.list.kind transaction.snapshot
            (rowsOf state.edges transaction.change.list) transaction.entries) } } := by
  have fits := kept.fits transaction (List.mem_of_getElem? active)
  refine ⟨kept.stored, kept.once, kept.notSelf, fun other member => ?_, kept.committed⟩
  rcases List.mem_or_eq_of_mem_set member with unwritten | rfl
  · exact kept.fits other unwritten
  · refine ⟨fits.stored, fits.once, fits.notSelf, fun write written => ?_⟩
    rw [← Option.some.inj written, unchanged]
    rfl

/-- Ending a transaction without a change of the lists keeps what holds of the others. -/
theorem edgesKept_rollback (kept : EdgesKept state) (position : Nat) :
    EdgesKept { state with transactions := state.transactions.eraseIdx position } :=
  ⟨kept.stored, kept.once, kept.notSelf,
    fun transaction member => kept.fits transaction (List.mem_of_mem_eraseIdx member),
    kept.committed⟩

/-- A transaction commits without a change when the edge is already as it was asked for. -/
theorem edgesKept_commit_clean (kept : EdgesKept state) {position : Nat}
    {transaction : EdgeTransaction}
    (active : state.transactions[position]? = some transaction)
    (clean : ¬ transaction.isDirty = true)
    (unchanged : transaction.change.element ∈ state.elements transaction.change.list ↔
      transaction.change.element ∈ transaction.rows.map Row.element) :
    EdgesKept { state with
      transactions := state.transactions.eraseIdx position
      committed := state.committed ++ [transaction.change] } := by
  have fits := kept.fits transaction (List.mem_of_getElem? active)
  refine ⟨kept.stored, kept.once, kept.notSelf, (edgesKept_rollback kept position).fits,
    fun list element asked last => ?_⟩
  rw [lastChange_append] at last
  split at last
  · rename_i about
    obtain ⟨rfl, rfl⟩ := about
    rw [← Option.some.inj last]
    exact unchanged.trans (not_not.mp (mt fits.isDirty_iff.mpr clean))
  · exact kept.committed list element asked last

/-- The elements of the lists when one list was written and the cells of the others were kept. -/
theorem elements_replaced {edges : Table EdgeRow} {written : EdgeList} {result : List Long}
    (own : Stored written.kind (rowsOf edges written) result)
    (others : ∀ list, written ≠ list →
      (rowsOf edges list).map Row.cell = (rowsOf state.edges list).map Row.cell)
    (list : EdgeList) :
    (rowsOf edges list).map Row.element =
      if written = list then result else state.elements list := by
  split
  · rename_i same
    rw [← same, own.elements]
  · rename_i different
    have firsts := congrArg (List.map Prod.fst) (others list different)
    rw [List.map_map, List.map_map] at firsts
    exact firsts

/-- A transaction that finds its list as it was read commits the edge that was asked for. -/
theorem edgesKept_commit_dirty (kept : EdgesKept state) {position : Nat}
    {transaction : EdgeTransaction} {write : Write Long}
    (active : state.transactions[position]? = some transaction)
    (dirty : transaction.isDirty = true) (written : transaction.written = some write)
    (unchanged : rowsOf state.edges transaction.change.list = transaction.rows) :
    EdgesKept { state with
      edges := write.apply transaction.change.list state.edges
      transactions := state.transactions.eraseIdx position
      committed := state.committed ++ [transaction.change] } := by
  have fits := kept.fits transaction (List.mem_of_getElem? active)
  obtain ⟨own, others⟩ := elements_apply fits written unchanged
  generalize write.apply transaction.change.list state.edges = edges at own others ⊢
  have read : state.elements transaction.change.list = transaction.rows.map Row.element := by
    rw [EdgeState.elements, unchanged]
  have elements := elements_replaced own others
  constructor
  case stored =>
    intro list
    show Stored list.kind (rowsOf edges list) ((rowsOf edges list).map Row.element)
    rw [elements list]
    split
    · rename_i same
      exact same ▸ own
    · rename_i different
      exact (kept.stored list).congr (others list different)
  case once =>
    intro list
    show ((rowsOf edges list).map Row.element).Nodup
    rw [elements list]
    split
    · exact fits.result_nodup dirty
    · exact kept.once list
  case notSelf =>
    intro userId
    show userId ∉ (rowsOf edges (.following userId)).map Row.element
    rw [elements (.following userId)]
    split
    · rename_i same
      by_cases isElement : userId = transaction.change.element
      · rw [isElement, fits.mem_result_self]
        exact fun adds => fits.notSelf userId same adds isElement.symm
      · rw [EdgeTransaction.mem_result_other isElement, ← read, same]
        exact kept.notSelf userId
    · exact kept.notSelf userId
  case fits => exact (edgesKept_rollback kept position).fits
  case committed =>
    intro list element asked last
    show element ∈ (rowsOf edges list).map Row.element ↔ asked = true
    rw [elements list]
    rw [lastChange_append] at last
    split at last
    · rename_i about
      rw [if_pos about.1, ← about.2, ← Option.some.inj last]
      exact fits.mem_result_self
    · rename_i elsewhere
      split
      · rename_i same
        have isOther : element ≠ transaction.change.element := fun isElement =>
          elsewhere ⟨same, isElement.symm⟩
        rw [EdgeTransaction.mem_result_other isOther, ← read, same]
        exact kept.committed list element asked last
      · exact kept.committed list element asked last

/-- The step lemma: every step that meets the condition keeps the invariant. -/
theorem edgesKept_step (kept : EdgesKept state) {action : EdgeAction}
    (finds : FindsListAsRead state action) (taken : edgeStep state action = some next) :
    EdgesKept next := by
  cases action with
  | begin request =>
      cases accepted : changeOf state.store request with
      | error thrown =>
          simp only [edgeStep, accepted, Option.some.injEq] at taken
          exact taken ▸ kept
      | ok change =>
          simp only [edgeStep, accepted, Option.some.injEq] at taken
          exact taken ▸ edgesKept_begin kept accepted
  | write position =>
      cases active : state.transactions[position]? with
      | none =>
          simp only [edgeStep, active] at taken
          exact absurd taken nofun
      | some transaction =>
          simp only [edgeStep, active] at taken
          split at taken
          · exact Option.some.inj taken ▸ edgesKept_write kept active (finds transaction active)
          · exact absurd taken nofun
  | commit position =>
      cases active : state.transactions[position]? with
      | none =>
          simp only [edgeStep, active] at taken
          exact absurd taken nofun
      | some transaction =>
          have found := finds transaction active
          simp only [edgeStep, active] at taken
          by_cases dirty : transaction.isDirty = true
          · rw [if_pos dirty] at found taken
            obtain ⟨write, written, rfl⟩ := Option.map_eq_some_iff.mp taken
            exact edgesKept_commit_dirty kept active dirty written found
          · rw [if_neg dirty] at found taken
            exact Option.some.inj taken ▸ edgesKept_commit_clean kept active dirty found
  | rollback position =>
      exact Option.some.inj taken ▸ edgesKept_rollback kept position

end Steps

/-! ### Runs -/

theorem EdgeStart.kept {state : EdgeState} (start : EdgeStart state) : EdgesKept state where
  stored := start.stored
  once := start.once
  notSelf := start.notSelf
  fits transaction member := by
    rw [start.idle] at member
    exact absurd member List.not_mem_nil
  committed list element asked last := by
    rw [start.unlogged] at last
    exact absurd last nofun

/-- A public graffiti of alice. -/
def likedGraffiti : Streamable where
  id := 0
  userId := 1
  createdOn := 0
  updatedOn := none
  isPrivate := false
  isFlagged := false
  isDeleted := false
  text := none
  asset := none
  hashtags := []
  latitude := none
  longitude := none
  roll := none
  yaw := none
  pitch := none

/-- Three users, and the graffiti that the third likes. -/
def likedOnce : EdgeState where
  store :=
    { Store.empty with
      users := ((Table.empty.insert (plainUser 0 "alice")).insert (plainUser 0 "bob")).insert
        (plainUser 0 "carol")
      streamables := Table.empty.insert likedGraffiti }
  edges := Table.empty.insert ⟨0, .likers 1, 3, 0⟩
  transactions := []
  committed := []

theorem edgeStart_likedOnce : EdgeStart likedOnce where
  stored list := by
    cases list with
    | likers streamableId => exact rfl
    | following userId => exact rfl
  once list :=
    List.Nodup.sublist (List.filter_sublist.map Row.element) (List.nodup_singleton (3 : Long))
  notSelf userId := List.not_mem_nil
  idle := rfl
  unlogged := rfl

end GraffiTab
