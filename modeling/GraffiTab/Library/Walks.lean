/-
This file is about clients that read a listing page by page while it changes.

A client asks for what comes after as many items as it has been given, and goes on until it is
given nothing. Between its requests the listing may grow: what is listed keeps its order, and new
items come anywhere among it. Then the client misses nothing that was listed when it began, though
it may be given an item twice. A listing that puts rows in order grows with the rows.
-/

import GraffiTab.Library.Runs
import Mathlib.Data.List.Basic

namespace Walks

open Runs

universe u v w x

/-! ### Orders -/

section Orders

variable {Item : Type u} {le : Item → Item → Bool}
  (transitive : ∀ first second third, le first second = true → le second third = true →
    le first third = true)
  (total : ∀ first second, (le first second || le second first) = true)
include transitive total

/-- An item comes after those that are below it, and before all others. -/
theorem mergeSort_cons_eq (item : Item) (items : List Item) :
    items.mergeSort le = (items.mergeSort le).filter (fun other => !le item other) ++
        (items.mergeSort le).filter (fun other => le item other) ∧
      (item :: items).mergeSort le = (items.mergeSort le).filter (fun other => !le item other) ++
        item :: (items.mergeSort le).filter (fun other => le item other) := by
  obtain ⟨before, after, sorted, without, below⟩ :=
    List.mergeSort_cons transitive total item items
  have ordered := List.pairwise_mergeSort transitive total (item :: items)
  rw [sorted] at ordered
  have above : ∀ other ∈ after, le item other = true :=
    (List.pairwise_cons.mp (List.pairwise_append.mp ordered).2.1).1
  have beforeIs : (before ++ after).filter (fun other => !le item other) = before := by
    rw [List.filter_append, List.filter_eq_self.mpr below, List.filter_eq_nil_iff.mpr,
      List.append_nil]
    intro other member
    rw [above other member]
    exact Bool.false_ne_true
  have afterIs : (before ++ after).filter (fun other => le item other) = after := by
    rw [List.filter_append, List.filter_eq_self.mpr above, List.filter_eq_nil_iff.mpr,
      List.nil_append]
    intro other member holds
    have fails := below other member
    rw [holds] at fails
    exact Bool.false_ne_true fails
  rw [without, beforeIs, afterIs]
  exact ⟨rfl, sorted⟩

/-- What is put in order grows with what there is. -/
theorem mergeSort_sublist {items next : List Item} (grows : items.Sublist next) :
    (items.mergeSort le).Sublist (next.mergeSort le) := by
  induction grows with
  | slnil => exact .refl _
  | @cons items next item _ inductionHypothesis =>
      obtain ⟨without, sorted⟩ := mergeSort_cons_eq transitive total item next
      rw [sorted]
      refine inductionHypothesis.trans ?_
      nth_rewrite 1 [without]
      exact (List.Sublist.refl _).append (List.sublist_cons_self _ _)
  | @cons_cons items next item _ inductionHypothesis =>
      rw [(mergeSort_cons_eq transitive total item items).2,
        (mergeSort_cons_eq transitive total item next).2]
      exact (inductionHypothesis.filter _).append ((inductionHypothesis.filter _).cons_cons item)

end Orders

/-! ### Pages -/

section Pages

variable {Item : Type u} {Content : Type v} {listed next page : List Item} {offset : Nat}

/-- A page has what is listed from an offset on, and is empty only when that is nothing. -/
structure IsPage (listed : List Item) (offset : Nat) (page : List Item) : Prop where
  starts : page.IsPrefix (listed.drop offset)
  ends : page = [] → listed.length ≤ offset

theorem IsPage.map (isPage : IsPage listed offset page) (content : Item → Content) :
    IsPage (listed.map content) offset (page.map content) where
  starts := by
    rw [← List.map_drop]
    exact isPage.starts.map content
  ends empty := by
    rw [List.length_map]
    exact isPage.ends (List.map_eq_nil_iff.mp empty)

theorem isPage_drop (listed : List Item) (offset : Nat) :
    IsPage listed offset (listed.drop offset) :=
  ⟨List.prefix_refl _, fun empty => List.drop_eq_nil_iff.mp empty⟩

theorem isPage_take (listed : List Item) (offset : Nat) {size : Nat} (positive : 0 < size) :
    IsPage listed offset ((listed.drop offset).take size) := by
  refine ⟨List.take_prefix _ _, fun empty => ?_⟩
  rcases List.take_eq_nil_iff.mp empty with zero | ended
  · exact absurd zero (Nat.ne_of_gt positive)
  · exact List.drop_eq_nil_iff.mp ended

/-- What a client has been given, of a listing that began as `first` and is `listed` now: everything
of the beginning has been given or is yet to come, and nothing has been given that is not listed. -/
structure Covers (first listed given : List Item) : Prop where
  covered : ∀ item ∈ first, item ∈ given ∨ item ∈ listed.drop given.length
  among : ∀ item ∈ given, item ∈ listed
  short : given.length ≤ listed.length

variable {first given : List Item}

theorem covers_start (first : List Item) : Covers first first [] :=
  ⟨fun _ member => .inr member, fun _ absent => absurd absent List.not_mem_nil, Nat.zero_le _⟩

theorem Covers.grow (covers : Covers first listed given) (grows : listed.Sublist next) :
    Covers first next given where
  covered item member :=
    (covers.covered item member).imp_right fun yet => (grows.drop given.length).subset yet
  among item member := grows.subset (covers.among item member)
  short := Nat.le_trans covers.short grows.length_le

theorem Covers.give (covers : Covers first listed given)
    (isPage : IsPage listed given.length page) : Covers first listed (given ++ page) := by
  obtain ⟨rest, isRest⟩ := isPage.starts
  have restIs : listed.drop (given ++ page).length = rest := by
    rw [List.length_append, ← List.drop_drop, ← isRest, List.drop_left]
  constructor
  case covered =>
    intro item member
    rw [restIs]
    rcases covers.covered item member with old | yet
    · exact .inl (List.mem_append_left page old)
    · rw [← isRest] at yet
      rcases List.mem_append.mp yet with new | later
      · exact .inl (List.mem_append_right given new)
      · exact .inr later
  case among =>
    intro item member
    rcases List.mem_append.mp member with old | new
    · exact covers.among item old
    · exact List.mem_of_mem_drop (isPage.starts.subset new)
  case short =>
    have pageShort := isPage.starts.length_le
    have givenShort := covers.short
    rw [List.length_drop] at pageShort
    rw [List.length_append]
    omega

/-- A client that is given nothing has everything that it began with, and as much as is listed. -/
theorem Covers.ended (covers : Covers first listed given) (isPage : IsPage listed given.length []) :
    (∀ item ∈ first, item ∈ given) ∧ given.length = listed.length := by
  have ended := isPage.ends rfl
  refine ⟨fun item member => ?_, Nat.le_antisymm covers.short ended⟩
  refine (covers.covered item member).resolve_right fun yet => ?_
  rw [List.drop_eq_nil_iff.mpr ended] at yet
  exact List.not_mem_nil yet

end Pages

/-! ### Walks -/

variable {State : Type u} {Action : Type v} {Request : Type w} {Item : Type x}

/-- A program with what a client has been given so far. -/
structure Walk (State : Type u) (Item : Type x) where
  state : State
  given : List Item

inductive WalkAction (Action : Type v) (Request : Type w) where
  | act (action : Action)
  | ask (request : Request)

variable (step : State → Action → Option State)
  (page : Request → State → Nat → Option (List Item))

/-- The program takes a step, or the client asks for the next page and gets it. -/
def walkStep (walk : Walk State Item) : WalkAction Action Request → Option (Walk State Item)
  | .act action => (step walk.state action).map fun state => { walk with state }
  | .ask request =>
      (page request walk.state walk.given.length).map fun items =>
        { walk with given := walk.given ++ items }

/-- The client may always ask, and the program is restricted. -/
def duringWalk (allowed : State → Action → Prop) (walk : Walk State Item) :
    WalkAction Action Request → Prop
  | .act action => allowed walk.state action
  | .ask _ => True

variable {step page} {allowed : State → Action → Prop} {Invariant : State → Prop}
  (listing : State → List Item)

/-- However a client's requests and the steps of a program are interleaved, under which its listing
grows, the client misses nothing. -/
theorem covers_of_reaches
    (isPage : ∀ request state offset items, page request state offset = some items →
      IsPage (listing state) offset items)
    (grows : ∀ state action next, Invariant state → allowed state action →
      step state action = some next → Invariant next ∧ (listing state).Sublist (listing next))
    {start : State} (holds : Invariant start) {walk : Walk State Item}
    (reached : Reaches (walkStep step page) (duringWalk allowed) ⟨start, []⟩ walk) :
    Invariant walk.state ∧ Covers (listing start) (listing walk.state) walk.given := by
  refine reached.invariant
    (fun walk => Invariant walk.state ∧ Covers (listing start) (listing walk.state) walk.given)
    ⟨holds, covers_start _⟩ ?_
  intro middle action next ⟨kept, covers⟩ permitted taken
  cases action with
  | act action =>
      obtain ⟨state, stepped, rfl⟩ := Option.map_eq_some_iff.mp taken
      obtain ⟨stillKept, grown⟩ := grows _ _ _ kept permitted stepped
      exact ⟨stillKept, covers.grow grown⟩
  | ask request =>
      obtain ⟨items, got, rfl⟩ := Option.map_eq_some_iff.mp taken
      exact ⟨kept, covers.give (isPage _ _ _ _ got)⟩

/-- Where requests up to the end are answered, a client comes to the end by asking alone. -/
theorem exists_ended (request : Request) {state : State}
    (isPage : ∀ offset items, page request state offset = some items →
      IsPage (listing state) offset items)
    (answers : ∀ offset, offset ≤ (listing state).length → (page request state offset).isSome)
    {given : List Item} (short : given.length ≤ (listing state).length) :
    ∃ rest, Reaches (walkStep step page) (duringWalk allowed) ⟨state, given⟩
        ⟨state, given ++ rest⟩ ∧
      page request state (given ++ rest).length = some [] := by
  -- every page that is not empty brings the offset nearer to the length of the listing
  induction left : (listing state).length - given.length using Nat.strongRecOn
    generalizing given with
  | ind most inductionHypothesis =>
      obtain ⟨items, got⟩ := Option.isSome_iff_exists.mp (answers given.length short)
      cases items with
      | nil => exact ⟨[], by rw [List.append_nil]; exact .refl, by rw [List.append_nil, got]⟩
      | cons item others =>
          have fits := (isPage _ _ got).starts.length_le
          rw [List.length_drop, List.length_cons] at fits
          have grown : (given ++ item :: others).length = given.length + (others.length + 1) := by
            rw [List.length_append, List.length_cons]
          obtain ⟨rest, reached, ended⟩ :=
            inductionHypothesis ((listing state).length - (given ++ item :: others).length)
              (by omega) (by omega) rfl
          have asked : walkStep step page ⟨state, given⟩ (.ask request) =
              some ⟨state, given ++ item :: others⟩ := by
            rw [walkStep, got]
            rfl
          rw [List.append_assoc] at reached ended
          exact ⟨item :: others ++ rest,
            .head (show duringWalk allowed _ (.ask request) from trivial) asked reached, ended⟩

end Walks
