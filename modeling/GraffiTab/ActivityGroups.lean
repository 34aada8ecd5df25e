/-
This file asks what the groups of activities hold.

The loop of `groupActivities` drops a repeated activity only on the branch where the group
has room; where the group is full, the repetition opens the next group. The first activity
is visited twice, and its second visit is a repetition. So the groups hold the activities
without the repetitions exactly if no repetition meets a full group, which can be read off
the input: a group is full when the activities of the run so far, without the repetitions,
are a multiple of the group size.
-/

import GraffiTab.Reads

namespace GraffiTab

/-! ### Repetitions -/

/-- The same activity as the one before it: of the same type, by the same user, about the same
target. -/
def Activity.repeats (activity previous : Activity) : Bool :=
  activity.isSameTypeOfActivity previous && activity.isSameActivity previous

/-- The activities after a previous one that do not repeat their predecessor. -/
def withoutRepeatsAfter (previous : Activity) : List Activity → List Activity
  | [] => []
  | activity :: rest =>
      if activity.repeats previous then withoutRepeatsAfter activity rest
      else activity :: withoutRepeatsAfter activity rest

/-- The activities without those that repeat their predecessor. -/
def withoutRepeats : List Activity → List Activity
  | [] => []
  | first :: rest => first :: withoutRepeatsAfter first rest

/-- The activities of the groups, in order. -/
def groupedActivities (groups : List ActivityContainer) : List Activity :=
  groups.flatMap ActivityContainer.activities

/-- No repetition comes when the activities of its run that are no repetitions are a multiple of the
group size; `distinct` counts them up to the previous activity. -/
def RepeatsFindRoom (numberOfItemsInGroup : Int) (previous : Activity) (distinct : Nat) :
    List Activity → Prop
  | [] => True
  | activity :: rest =>
      if activity.isSameTypeOfActivity previous then
        if activity.isSameActivity previous then
          ¬ numberOfItemsInGroup ∣ distinct ∧
            RepeatsFindRoom numberOfItemsInGroup activity distinct rest
        else RepeatsFindRoom numberOfItemsInGroup activity (distinct + 1) rest
      else RepeatsFindRoom numberOfItemsInGroup activity 1 rest

/-- The visits of the loop find room for each repetition, from the second visit of the first
activity on. -/
def VisitsFindRoom (numberOfItemsInGroup : Int) : List Activity → Prop
  | [] => True
  | first :: rest => RepeatsFindRoom numberOfItemsInGroup first 1 (first :: rest)

/-- Grouping loses and duplicates nothing but repetitions. -/
def GroupingKeepsActivities : Prop :=
  ∀ (numberOfItemsInGroup : Int) (activities : List Activity), 1 ≤ numberOfItemsInGroup →
    groupedActivities (groupActivities numberOfItemsInGroup activities) =
      withoutRepeats activities

theorem isSameTypeOfActivity_self (activity : Activity) :
    activity.isSameTypeOfActivity activity = true := by
  simp only [Activity.isSameTypeOfActivity, decide_true, Bool.and_self]

theorem isSameActivity_self (activity : Activity) : activity.isSameActivity activity = true := by
  unfold Activity.isSameActivity
  cases activity.content <;> exact decide_eq_true rfl

theorem repeats_self (activity : Activity) : activity.repeats activity = true := by
  rw [Activity.repeats, isSameTypeOfActivity_self, isSameActivity_self, Bool.and_self]

/-! ### What the loop adds to the groups -/

section Loop

variable (numberOfItemsInGroup : Int)

/-- The activities that the loop puts into groups after a previous one, where `held` is the size of
the group that is being filled. -/
def groupedAfter (previous : Activity) (held : Nat) : List Activity → List Activity
  | [] => []
  | activity :: rest =>
      if activity.isSameTypeOfActivity previous && (held : Int) < numberOfItemsInGroup then
        if activity.isSameActivity previous then groupedAfter activity held rest
        else activity :: groupedAfter activity (held + 1) rest
      else activity :: groupedAfter activity 1 rest

/-- The groups hold what was in the group that is being filled, and what the loop adds. -/
theorem groupedActivities_groupFrom (rest : List Activity) :
    ∀ (previous : Activity) (container : ActivityContainer),
      groupedActivities (groupFrom numberOfItemsInGroup previous container rest) =
        container.activities ++
          groupedAfter numberOfItemsInGroup previous container.activities.length rest := by
  induction rest with
  | nil =>
      intro previous container
      simp only [groupFrom, groupedAfter, groupedActivities, List.flatMap_singleton,
        List.append_nil]
  | cons activity rest inductionHypothesis =>
      intro previous container
      rw [groupFrom, groupedAfter]
      split
      · split
        · exact inductionHypothesis activity container
        · rw [inductionHypothesis, List.length_append, List.append_assoc]
          rfl
      · have opened := inductionHypothesis activity (.start activity)
        rw [groupedActivities] at opened ⊢
        rw [List.flatMap_cons, opened]
        rfl

/-- Whatever is no repetition comes into a group. -/
theorem withoutRepeatsAfter_sublist (rest : List Activity) :
    ∀ (previous : Activity) (held : Nat),
      List.Sublist (withoutRepeatsAfter previous rest)
        (groupedAfter numberOfItemsInGroup previous held rest) := by
  induction rest with
  | nil => exact fun _ _ => .refl _
  | cons activity rest inductionHypothesis =>
      intro previous held
      rw [withoutRepeatsAfter, groupedAfter]
      by_cases repetition : activity.repeats previous = true
      · rw [if_pos repetition]
        rw [Activity.repeats, Bool.and_eq_true] at repetition
        rw [repetition.1, repetition.2, Bool.true_and, if_pos rfl]
        split
        · exact inductionHypothesis activity held
        · exact (inductionHypothesis activity 1).cons _
      · rw [if_neg repetition]
        split
        · rename_i room
          rw [Bool.and_eq_true] at room
          rw [if_neg fun same => repetition (by rw [Activity.repeats, room.1, same]; rfl)]
          exact (inductionHypothesis activity (held + 1)).cons_cons _
        · exact (inductionHypothesis activity 1).cons_cons _

/-- The size of the group and the count of the run agree. -/
structure CountsGroup (held distinct : Nat) : Prop where
  positive : 1 ≤ held
  bounded : (held : Int) ≤ numberOfItemsInGroup
  congruent : numberOfItemsInGroup ∣ (distinct : Int) - held

variable {numberOfItemsInGroup}

theorem CountsGroup.one_le {held distinct : Nat}
    (counts : CountsGroup numberOfItemsInGroup held distinct) : 1 ≤ numberOfItemsInGroup := by
  have positive := counts.positive
  have bounded := counts.bounded
  omega

/-- A group is full when the count is a multiple of the group size. -/
theorem CountsGroup.room_iff {held distinct : Nat}
    (counts : CountsGroup numberOfItemsInGroup held distinct) :
    (held : Int) < numberOfItemsInGroup ↔ ¬ numberOfItemsInGroup ∣ distinct := by
  have held_iff : numberOfItemsInGroup ∣ distinct ↔ numberOfItemsInGroup ∣ held :=
    (Int.dvd_iff_dvd_of_dvd_sub counts.congruent)
  rw [held_iff]
  have positive := counts.positive
  constructor
  · intro room divides
    exact absurd (Int.le_of_dvd (by omega) divides) (Int.not_le.mpr room)
  · intro indivisible
    refine lt_of_le_of_ne counts.bounded fun full => indivisible ?_
    exact full ▸ Int.dvd_refl _

/-- A run begins with its first activity. -/
theorem CountsGroup.start (positive : 1 ≤ numberOfItemsInGroup) :
    CountsGroup numberOfItemsInGroup 1 1 where
  positive := le_rfl
  bounded := positive
  congruent := ⟨0, by omega⟩

/-- One more activity comes into the group that has room. -/
theorem CountsGroup.add {held distinct : Nat}
    (counts : CountsGroup numberOfItemsInGroup held distinct)
    (room : (held : Int) < numberOfItemsInGroup) :
    CountsGroup numberOfItemsInGroup (held + 1) (distinct + 1) where
  positive := Nat.le_add_left 1 held
  bounded := by push_cast; exact room
  congruent := by
    have same : ((distinct + 1 : Nat) : Int) - ((held + 1 : Nat) : Int) = distinct - held := by
      omega
    rw [same]
    exact counts.congruent

/-- One more activity opens the next group after a full one. -/
theorem CountsGroup.next {held distinct : Nat}
    (counts : CountsGroup numberOfItemsInGroup held distinct)
    (full : ¬ (held : Int) < numberOfItemsInGroup) :
    CountsGroup numberOfItemsInGroup 1 (distinct + 1) where
  positive := le_rfl
  bounded := counts.one_le
  congruent := by
    have isFull : (held : Int) = numberOfItemsInGroup :=
      le_antisymm counts.bounded (not_lt.mp full)
    have same : ((distinct + 1 : Nat) : Int) - ((1 : Nat) : Int) =
        (distinct - held) + numberOfItemsInGroup := by
      omega
    rw [same]
    exact Int.dvd_add counts.congruent (Int.dvd_refl _)

/-- The loop adds the activities without the repetitions exactly if each repetition finds room. -/
theorem groupedAfter_eq_iff (rest : List Activity) :
    ∀ (previous : Activity) (held distinct : Nat),
      CountsGroup numberOfItemsInGroup held distinct →
        (groupedAfter numberOfItemsInGroup previous held rest =
            withoutRepeatsAfter previous rest ↔
          RepeatsFindRoom numberOfItemsInGroup previous distinct rest) := by
  induction rest with
  | nil => exact fun _ _ _ _ => iff_of_true rfl trivial
  | cons activity rest inductionHypothesis =>
      intro previous held distinct counts
      have start : CountsGroup numberOfItemsInGroup 1 1 := .start counts.one_le
      rw [groupedAfter, withoutRepeatsAfter, RepeatsFindRoom, Activity.repeats]
      cases activity.isSameTypeOfActivity previous with
      | false =>
          simp only [Bool.false_and, Bool.false_eq_true, if_false, List.cons.injEq, true_and]
          exact inductionHypothesis activity 1 1 start
      | true =>
          simp only [Bool.true_and, decide_eq_true_eq, if_true]
          cases activity.isSameActivity previous with
          | true =>
              simp only [if_true]
              by_cases room : (held : Int) < numberOfItemsInGroup
              · rw [if_pos room, and_iff_right (counts.room_iff.mp room)]
                exact inductionHypothesis activity held distinct counts
              · -- the repetition is added once more than it should be
                refine iff_of_false (fun same => ?_) fun findsRoom =>
                  room (counts.room_iff.mpr findsRoom.1)
                rw [if_neg room] at same
                have longer := congrArg List.length same
                have atLeast :=
                  (withoutRepeatsAfter_sublist numberOfItemsInGroup rest activity 1).length_le
                rw [List.length_cons] at longer
                omega
          | false =>
              simp only [Bool.false_eq_true, if_false]
              by_cases room : (held : Int) < numberOfItemsInGroup
              · rw [if_pos room, List.cons.injEq, and_iff_right rfl]
                exact inductionHypothesis activity (held + 1) (distinct + 1) (counts.add room)
              · rw [if_neg room, List.cons.injEq, and_iff_right rfl]
                exact inductionHypothesis activity 1 (distinct + 1) (counts.next room)

end Loop

/-! ### The groups -/

/-- The groups hold the activities without the repetitions exactly if no repetition meets a full
group. -/
theorem groupActivities_keeps_iff (numberOfItemsInGroup : Int) (activities : List Activity)
    (positive : 1 ≤ numberOfItemsInGroup) :
    groupedActivities (groupActivities numberOfItemsInGroup activities) =
        withoutRepeats activities ↔
      VisitsFindRoom numberOfItemsInGroup activities := by
  cases activities with
  | nil => exact iff_of_true rfl trivial
  | cons first rest =>
      have visited :
          withoutRepeatsAfter first (first :: rest) = withoutRepeatsAfter first rest := by
        rw [withoutRepeatsAfter, if_pos (repeats_self first)]
      rw [groupActivities, groupedActivities_groupFrom, withoutRepeats, ← visited]
      show first :: groupedAfter numberOfItemsInGroup first 1 (first :: rest) = _ ↔ _
      rw [List.cons.injEq, and_iff_right rfl]
      exact groupedAfter_eq_iff (first :: rest) first 1 1 (.start positive)

/-- Alice likes a graffiti. -/
def oneLike : Activity := ⟨1, 1, 0, .like 1⟩

/-- Groups of two meet the condition. -/
theorem groupActivities_keeps_iff_oneLike :
    groupedActivities (groupActivities 2 [oneLike, oneLike]) = withoutRepeats [oneLike, oneLike] ↔
      VisitsFindRoom 2 [oneLike, oneLike] :=
  groupActivities_keeps_iff 2 [oneLike, oneLike] (by decide)

/-- Groups of one show the first activity twice. -/
theorem not_groupingKeepsActivities : ¬ GroupingKeepsActivities := by
  intro keeps
  have once := congrArg List.length (keeps 1 [oneLike] le_rfl)
  exact absurd once (by decide)

end GraffiTab
