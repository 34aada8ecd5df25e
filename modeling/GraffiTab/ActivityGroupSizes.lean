/-
This file asks which groups of activities a request gets for a group size.

The loop fills a group as long as the activities have one type and user and the group has room.
The size comes from the request like the limit of a page: a size of zero gives every activity its
own group, as it should, but the least 32-bit integer does so too, because it stays negative.
-/

import Mathlib.Algebra.Order.Group.Unbundled.Int
import GraffiTab.PageLimits

namespace GraffiTab

/-! ### Groups that are right -/

/-- The group shows its first activity, and holds at most as many as asked for, all of the type and
user that it shows. -/
structure ActivityContainer.Holds (cap : Int) (group : ActivityContainer) : Prop where
  first : group.activities.head?.map Activity.createdOn = some group.createdOn
  bounded : (group.activities.length : Int) ≤ max 1 cap
  header : ∀ activity ∈ group.activities,
    activity.content.activityType = group.activityType ∧ activity.userId = group.userId

section Loop

variable {size : Int} {container : ActivityContainer}

/-- An activity of the type and user of the group finds room. -/
theorem ActivityContainer.Holds.add (holds : container.Holds size) {activity : Activity}
    (sameType : activity.content.activityType = container.activityType)
    (sameUser : activity.userId = container.userId)
    (room : (container.activities.length : Int) < size) :
    ActivityContainer.Holds size
      { container with activities := container.activities ++ [activity] } where
  first := by
    have first := holds.first
    cases held : container.activities with
    | nil =>
        rw [held] at first
        cases first
    | cons head tail =>
        rw [held] at first
        exact first
  bounded := by
    rw [List.length_append, List.length_singleton]
    push_cast
    omega
  header := by
    intro other member
    rcases List.mem_append.mp member with old | new
    · exact holds.header other old
    · obtain rfl := List.mem_singleton.mp new
      exact ⟨sameType, sameUser⟩

end Loop

/-! ### The groups of a page -/

end GraffiTab
