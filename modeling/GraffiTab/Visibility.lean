/-
This file states which streamables a user may see, and shows which reads depend on no other
ones.

Two databases are indistinguishable for a user when they differ only in streamables that
are hidden from the user, and in the comments and likes on them. The listings repeat the
rule for hidden items, so they answer the same in both. A read that is given the
identifier of a streamable, and the list of activities, do so where that streamable, and
the streamables of the likes and comments in the list, are visible.
-/

import GraffiTab.Reads

namespace GraffiTab

open Tables

/-! ### Databases -/

/-- The streamable, and the comment on it, that an activity or a notification is about. -/
structure Reference where
  streamableId : Long
  commentId : Option Long

def ActivityContent.reference : ActivityContent → Option Reference
  | .comment commentedStreamable commentId => some ⟨commentedStreamable, some commentId⟩
  | .createStreamable createdStreamable => some ⟨createdStreamable, none⟩
  | .follow _ => none
  | .like likedStreamable => some ⟨likedStreamable, none⟩

def NotificationContent.reference : NotificationContent → Option Reference
  | .comment _ commentedStreamable commentId => some ⟨commentedStreamable, some commentId⟩
  | .follow _ => none
  | .like _ likedStreamable => some ⟨likedStreamable, none⟩
  | .mention _ mentionedStreamable mentionedComment =>
      some ⟨mentionedStreamable, mentionedComment⟩
  | .welcome => none

namespace Store

variable (store : Store)

def HasUser (userId : Long) : Prop := ∃ user ∈ store.users.rows, user.id = userId

def HasStreamable (streamableId : Long) : Prop :=
  ∃ streamable ∈ store.streamables.rows, streamable.id = streamableId

def references : List Reference :=
  (store.activities.rows.filterMap fun row => row.content.reference) ++
    store.notifications.rows.filterMap fun row => row.content.reference

/-- The streamable of the reference is stored, and its comment is stored as one on it. -/
def Resolves (reference : Reference) : Prop :=
  store.HasStreamable reference.streamableId ∧
    ∀ commentId ∈ reference.commentId, ∃ comment ∈ store.comments.rows,
      comment.id = commentId ∧ comment.streamableId = reference.streamableId

/-- The foreign keys of the schema, and what the services write besides: the comment of an activity
or a notification is one on its streamable, and a creation is an activity of the creator. -/
structure WellFormed : Prop where
  streamables : ∀ row ∈ store.streamables.rows, store.HasUser row.userId
  comments : ∀ row ∈ store.comments.rows,
    store.HasUser row.userId ∧ store.HasStreamable row.streamableId
  likes : ∀ row ∈ store.likes, store.HasUser row.userId ∧ store.HasStreamable row.streamableId
  references : ∀ reference ∈ store.references, store.Resolves reference
  creations : ∀ activity ∈ store.activities.rows, ∀ created ∈ activity.createdStreamable store,
    created.userId = activity.userId

/-- The user may see the streamable with the identifier. -/
def shows (currentUserId streamableId : Long) : Bool :=
  (store.streamables.find streamableId).any fun row => row.visibleTo currentUserId

end Store

/-- A store in which every reference has its row. -/
structure Database where
  store : Store
  wellFormed : store.WellFormed

/-- The two stores differ only in streamables that are hidden from the user, and in the comments
and likes on hidden streamables. -/
structure Indistinguishable (currentUserId : Long) (first second : Store) : Prop where
  users : second.users = first.users
  externalProviders : second.externalProviders = first.externalProviders
  devices : second.devices = first.devices
  locations : second.locations = first.locations
  sessions : second.sessions = first.sessions
  notifications : second.notifications = first.notifications
  activities : second.activities = first.activities
  following : second.following = first.following
  streamables : (second.streamables.select fun row => row.visibleTo currentUserId) =
    first.streamables.select fun row => row.visibleTo currentUserId
  comments : (second.comments.select fun row => second.shows currentUserId row.streamableId) =
    first.comments.select fun row => first.shows currentUserId row.streamableId
  likes : (second.likes.filter fun row => second.shows currentUserId row.streamableId) =
    first.likes.filter fun row => first.shows currentUserId row.streamableId

/-- The read answers the same in every database that the user cannot tell from the given one. -/
def HidesAt (search : SearchPlatform) (currentUserId : Long) (operation : ReadOperation)
    (database : Database) : Prop :=
  ∀ other : Database, Indistinguishable currentUserId database.store other.store →
    operation.answer search currentUserId other.store =
      operation.answer search currentUserId database.store

/-! ### Rows that are visible -/

section Rows

variable {currentUserId : Long} {first second : Store}

theorem shows_iff {store : Store} {streamableId : Long} :
    store.shows currentUserId streamableId = true ↔
      ∃ row ∈ store.streamables.rows, row.id = streamableId ∧
        row.visibleTo currentUserId = true := by
  unfold Store.shows
  rw [Option.any_eq_true]
  constructor
  · rintro ⟨row, found, visible⟩
    exact ⟨row, Table.mem_of_find found, Table.id_of_find found, visible⟩
  · rintro ⟨row, member, rfl, visible⟩
    exact ⟨row, Table.find_of_mem member, visible⟩

theorem shows_of_mem {store : Store} {row : Streamable} (member : row ∈ store.streamables.rows)
    (visible : row.visibleTo currentUserId = true) : store.shows currentUserId row.id = true :=
  shows_iff.mpr ⟨row, member, rfl, visible⟩

/-- Which streamables are shown depends on the visible rows only. -/
theorem shows_congr
    (same : (second.streamables.select fun row => row.visibleTo currentUserId) =
      first.streamables.select fun row => row.visibleTo currentUserId) :
    second.shows currentUserId = first.shows currentUserId := by
  funext streamableId
  have filtered (store : Store) : store.shows currentUserId streamableId =
      ((store.streamables.find streamableId).filter
        fun row => row.visibleTo currentUserId).isSome := by
    rw [Option.isSome_filter]
    rfl
  rw [filtered, filtered, Table.filter_find, Table.filter_find, same]

namespace Indistinguishable

variable (same : Indistinguishable currentUserId first second)

include same

theorem shows_eq : second.shows currentUserId = first.shows currentUserId :=
  shows_congr same.streamables

/-- A visible streamable is found in both stores. -/
theorem find_eq {streamableId : Long}
    (shown : first.shows currentUserId streamableId = true) :
    second.streamables.find streamableId = first.streamables.find streamableId := by
  have kept {store : Store} (shown : store.shows currentUserId streamableId = true) :
      (store.streamables.find streamableId).filter (fun row => row.visibleTo currentUserId) =
        store.streamables.find streamableId := by
    unfold Store.shows at shown
    cases found : store.streamables.find streamableId with
    | none => rfl
    | some row =>
        rw [found] at shown
        exact Option.filter_some_pos shown
  rw [← kept shown, ← kept (same.shows_eq ▸ shown), Table.filter_find, Table.filter_find,
    same.streamables]

/-- Conditions that agree on the visible rows, and hold of no other ones, select the same rows. -/
theorem select_eq {condition : Streamable → Bool} {other : Streamable → Bool}
    (implies : ∀ row, condition row = true → row.visibleTo currentUserId = true)
    (otherImplies : ∀ row, other row = true → row.visibleTo currentUserId = true)
    (agree : ∀ row, row.visibleTo currentUserId = true → other row = condition row) :
    second.streamables.select other = first.streamables.select condition := by
  have narrowed {chosen : Streamable → Bool} {rows : List Streamable}
      (implies : ∀ row, chosen row = true → row.visibleTo currentUserId = true) :
      rows.filter chosen =
        (rows.filter fun row => row.visibleTo currentUserId).filter chosen := by
    rw [List.filter_filter]
    refine List.filter_congr fun row _ => ?_
    by_cases chosenRow : chosen row = true
    · rw [chosenRow, implies row chosenRow, Bool.and_self]
    · rw [Bool.not_eq_true] at chosenRow
      rw [chosenRow, Bool.false_and]
  have visible := same.streamables
  simp only [Table.select] at visible ⊢
  rw [narrowed implies, narrowed otherImplies, visible]
  refine List.filter_congr fun row member => ?_
  exact agree row (List.mem_filter.mp member).2

/-- The rows on a visible streamable are among those on visible streamables. -/
theorem filter_eq {Row : Type} {streamableOf : Row → Long} {rows otherRows : List Row}
    (visible : (otherRows.filter fun row => second.shows currentUserId (streamableOf row)) =
      rows.filter fun row => first.shows currentUserId (streamableOf row))
    {condition : Row → Bool} {streamableId : Long}
    (shown : first.shows currentUserId streamableId = true)
    (implies : ∀ row, condition row = true → streamableOf row = streamableId) :
    otherRows.filter condition = rows.filter condition := by
  have narrowed (rows : List Row) : rows.filter condition =
      (rows.filter fun row => first.shows currentUserId (streamableOf row)).filter condition := by
    rw [List.filter_filter]
    refine List.filter_congr fun row _ => ?_
    by_cases chosen : condition row = true
    · rw [implies row chosen, shown, Bool.and_true]
    · rw [Bool.not_eq_true] at chosen
      rw [chosen, Bool.false_and]
  rw [same.shows_eq] at visible
  rw [narrowed, narrowed rows, visible]

theorem likersOf_eq {streamableId : Long}
    (shown : first.shows currentUserId streamableId = true) :
    likersOf second streamableId = likersOf first streamableId := by
  unfold likersOf
  rw [same.filter_eq same.likes shown fun row chosen => of_decide_eq_true chosen]

theorem commentsOf_eq {streamableId : Long}
    (shown : first.shows currentUserId streamableId = true) :
    commentsOf second streamableId = commentsOf first streamableId := by
  refine same.filter_eq same.comments shown fun row chosen => ?_
  exact of_decide_eq_true (Bool.and_eq_true_iff.mp chosen).1

/-- A comment on a visible streamable is found in both stores. -/
theorem findComment_eq {comment : Comment} (member : comment ∈ first.comments.rows)
    (shown : first.shows currentUserId comment.streamableId = true) :
    second.comments.find comment.id = some comment := by
  have selected : comment ∈ first.comments.select fun row =>
      first.shows currentUserId row.streamableId :=
    Table.mem_select.mpr ⟨member, shown⟩
  rw [← same.comments] at selected
  exact Table.find_of_mem (Table.mem_select.mp selected).1

/-! ### What the mapper shows -/

theorem toDto_user (user : User) :
    user.toDto currentUserId second = user.toDto currentUserId first := by
  simp only [User.toDto, isFollowedByCurrentUser, same.following]

theorem userDto_eq : userDto currentUserId second = userDto currentUserId first := by
  funext userId
  rw [userDto, userDto, same.users, funext same.toDto_user]

theorem toDto_streamable {streamable : Streamable}
    (shown : first.shows currentUserId streamable.id = true) :
    streamable.toDto currentUserId second = streamable.toDto currentUserId first := by
  simp only [Streamable.toDto, same.userDto_eq, same.likersOf_eq shown, same.commentsOf_eq shown]

theorem streamableDto_eq {streamableId : Long}
    (shown : first.shows currentUserId streamableId = true) :
    streamableDto currentUserId second streamableId =
      streamableDto currentUserId first streamableId := by
  rw [streamableDto, streamableDto, same.find_eq shown]
  refine Option.map_congr fun row found => same.toDto_streamable ?_
  rw [show row.id = streamableId from Table.id_of_find found]
  exact shown

theorem toDto_comment {comment : Comment}
    (shown : first.shows currentUserId comment.streamableId = true) :
    comment.toDto currentUserId second = comment.toDto currentUserId first := by
  simp only [Comment.toDto, same.userDto_eq, same.streamableDto_eq shown]

/-- An activity is shown the same when it is about no streamable, or about a visible one. -/
theorem toDto_activity (wellFormed : first.WellFormed) {activity : Activity}
    (member : activity ∈ first.activities.rows)
    (shown : ∀ reference ∈ activity.content.reference,
      first.shows currentUserId reference.streamableId = true) :
    activity.toDto currentUserId second = activity.toDto currentUserId first := by
  have resolves : ∀ reference ∈ activity.content.reference, first.Resolves reference :=
    fun reference about => wellFormed.references reference
      (List.mem_append_left _ (List.mem_filterMap.mpr ⟨activity, member, about⟩))
  unfold Activity.toDto
  cases content : activity.content with
  | comment commentedStreamable commentId =>
      rw [content] at shown resolves
      have visible := shown _ rfl
      obtain ⟨comment, stored, rfl, onIt⟩ := (resolves _ rfl).2 commentId rfl
      have commentShown : first.shows currentUserId comment.streamableId = true :=
        onIt ▸ visible
      simp only [same.streamableDto_eq visible, same.findComment_eq stored commentShown,
        show first.comments.find comment.id = some comment from Table.find_of_mem stored,
        Option.map_some, same.toDto_comment commentShown]
  | createStreamable createdStreamable =>
      rw [content] at shown
      simp only [same.streamableDto_eq (shown _ rfl)]
  | follow followed => simp only [same.userDto_eq]
  | like likedStreamable =>
      rw [content] at shown
      simp only [same.streamableDto_eq (shown _ rfl)]

/-! ### The listings -/

/-- Both stores list the same streamables, and all of them are visible. -/
def ListsSame (_ : Indistinguishable currentUserId first second)
    (otherRows rows : List Streamable) : Prop :=
  otherRows = rows ∧ ∀ row ∈ rows, first.shows currentUserId row.id = true

theorem listsSame_select {condition other : Streamable → Bool}
    (implies : ∀ row, condition row = true → row.visibleTo currentUserId = true)
    (otherImplies : ∀ row, other row = true → row.visibleTo currentUserId = true)
    (agree : ∀ row, row.visibleTo currentUserId = true → other row = condition row) :
    same.ListsSame (second.streamables.select other) (first.streamables.select condition) := by
  refine ⟨same.select_eq implies otherImplies agree, fun row listed => ?_⟩
  obtain ⟨member, chosen⟩ := Table.mem_select.mp listed
  exact shows_of_mem member (implies row chosen)

theorem listsSame_orderByDesc {key : Streamable → Int} {otherRows rows : List Streamable}
    (lists : same.ListsSame otherRows rows) :
    same.ListsSame (orderByDesc key otherRows) (orderByDesc key rows) :=
  ⟨congrArg _ lists.1, fun row listed => lists.2 row (List.mem_mergeSort.mp listed)⟩

theorem streamablesPage_eq {otherRows rows : List Streamable}
    (lists : same.ListsSame otherRows rows) :
    streamablesPage currentUserId second otherRows =
      streamablesPage currentUserId first rows := by
  funext offset limit
  rw [lists.1]
  refine PagedList.map_congr fun row listed => same.toDto_streamable ?_
  exact lists.2 row (mem_getPage listed)

theorem newestStreamables_lists : same.ListsSame (newestStreamables currentUserId second)
    (newestStreamables currentUserId first) :=
  same.listsSame_orderByDesc
    (same.listsSame_select (fun _ => id) (fun _ => id) fun _ _ => rfl)

theorem popularStreamables_lists : same.ListsSame (popularStreamables currentUserId second)
    (popularStreamables currentUserId first) := by
  have counted : ((second.streamables.select fun row => row.visibleTo currentUserId).map
      fun row => (row, (likersOf second row.id).length)) =
      (first.streamables.select fun row => row.visibleTo currentUserId).map
        fun row => (row, (likersOf first row.id).length) := by
    rw [same.streamables]
    refine List.map_congr_left fun row listed => ?_
    obtain ⟨member, visible⟩ := Table.mem_select.mp listed
    rw [same.likersOf_eq (shows_of_mem member visible)]
  refine ⟨?_, fun row listed => ?_⟩
  · simp only [popularStreamables, counted]
  · obtain ⟨entry, sorted, rfl⟩ := List.mem_map.mp listed
    obtain ⟨row, selected, rfl⟩ := List.mem_map.mp (List.mem_mergeSort.mp sorted)
    obtain ⟨member, visible⟩ := Table.mem_select.mp selected
    exact shows_of_mem member visible

theorem likedStreamables_lists (userId : Long) :
    same.ListsSame (likedStreamables currentUserId second userId)
      (likedStreamables currentUserId first userId) := by
  refine same.listsSame_orderByDesc ⟨?_, fun row listed => ?_⟩
  · rw [same.streamables]
    refine List.flatMap_congr fun row listed => ?_
    obtain ⟨member, visible⟩ := Table.mem_select.mp listed
    rw [same.likersOf_eq (shows_of_mem member visible)]
  · obtain ⟨liked, selected, chosen⟩ := List.mem_flatMap.mp listed
    obtain ⟨-, -, rfl⟩ := List.mem_map.mp chosen
    obtain ⟨member, visible⟩ := Table.mem_select.mp selected
    exact shows_of_mem member visible

/-- A condition besides the rule for hidden items narrows the list. -/
theorem listsSame_narrowed {condition other : Streamable → Bool}
    (agree : ∀ row, other row = condition row) :
    same.ListsSame
      (orderByDesc Streamable.createdOn
        (second.streamables.select fun row => other row && row.visibleTo currentUserId))
      (orderByDesc Streamable.createdOn
        (first.streamables.select fun row => condition row && row.visibleTo currentUserId)) := by
  have visible {chosen : Streamable → Bool} (row : Streamable)
      (both : (chosen row && row.visibleTo currentUserId) = true) :
      row.visibleTo currentUserId = true := (Bool.and_eq_true_iff.mp both).2
  refine same.listsSame_orderByDesc (same.listsSame_select visible visible fun row _ => ?_)
  rw [agree row]

theorem userMentions_lists (userId : Long) :
    same.ListsSame (userMentions currentUserId second userId)
      (userMentions currentUserId first userId) := by
  refine same.listsSame_narrowed fun row => ?_
  rw [same.notifications]

/-- A private streamable of the user that is not deleted is visible. -/
theorem privateStreamables_lists : same.ListsSame (privateStreamables currentUserId second)
    (privateStreamables currentUserId first) := by
  have visible (row : Streamable)
      (own : (decide (row.userId = currentUserId) && !row.isDeleted && row.isPrivate) = true) :
      row.visibleTo currentUserId = true := by
    simp only [Bool.and_eq_true, decide_eq_true_eq] at own
    simp [Streamable.visibleTo, own.1.1, own.1.2]
  exact same.listsSame_orderByDesc (same.listsSame_select visible visible fun _ _ => rfl)

/-! ### The activities -/

/-- A creation is of a visible streamable in both stores, or of a hidden one in both. -/
theorem createdStreamable_cases (wellFormed : first.WellFormed)
    (otherWellFormed : second.WellFormed) {activity : Activity}
    (member : activity ∈ first.activities.rows) :
    activity.createdStreamable second = activity.createdStreamable first ∧
        (∀ created ∈ activity.createdStreamable first,
          created ∈ first.streamables.rows ∧ created.visibleTo currentUserId = true) ∨
      ∃ created otherCreated, activity.createdStreamable first = some created ∧
        activity.createdStreamable second = some otherCreated ∧
        created.userId = activity.userId ∧ otherCreated.userId = activity.userId ∧
        created.visibleTo currentUserId = false ∧
        otherCreated.visibleTo currentUserId = false := by
  cases content : activity.content with
  | createStreamable streamableId =>
      have creates (store : Store) :
          activity.createdStreamable store = store.streamables.find streamableId := by
        simp only [Activity.createdStreamable, content]
      have stored {store : Store} (wellFormed : store.WellFormed)
          (member : activity ∈ store.activities.rows) :
          ∃ created, store.streamables.find streamableId = some created ∧
            created.userId = activity.userId := by
        have reference : (⟨streamableId, none⟩ : Reference) ∈ store.references :=
          List.mem_append_left _ (List.mem_filterMap.mpr ⟨activity, member, by rw [content]; rfl⟩)
        obtain ⟨⟨created, createdMember, rfl⟩, -⟩ := wellFormed.references _ reference
        have found := Table.find_of_mem createdMember
        exact ⟨created, found,
          wellFormed.creations activity member created ((creates store).trans found)⟩
      rw [creates, creates]
      cases shown : first.shows currentUserId streamableId with
      | true =>
          refine .inl ⟨same.find_eq shown, fun created found => ?_⟩
          unfold Store.shows at shown
          rw [found, Option.any_some] at shown
          exact ⟨Table.mem_of_find found, shown⟩
      | false =>
          have otherMember : activity ∈ second.activities.rows := same.activities ▸ member
          obtain ⟨created, found, owner⟩ := stored wellFormed member
          obtain ⟨otherCreated, otherFound, otherOwner⟩ := stored otherWellFormed otherMember
          have otherShown := shown
          rw [← same.shows_eq] at otherShown
          unfold Store.shows at shown otherShown
          rw [found, Option.any_some] at shown
          rw [otherFound, Option.any_some] at otherShown
          exact .inr ⟨created, otherCreated, found, otherFound, owner, otherOwner, shown,
            otherShown⟩
  | comment _ _ | follow _ | like _ =>
      refine .inl ⟨?_, fun created isCreated => ?_⟩
      · simp only [Activity.createdStreamable, content]
      · simp only [Activity.createdStreamable, content] at isCreated
        exact absurd isCreated (Option.not_mem_none _)

theorem userFeed_lists (wellFormed : first.WellFormed) (otherWellFormed : second.WellFormed) :
    same.ListsSame (userFeed currentUserId second) (userFeed currentUserId first) := by
  -- For a creation the rule of the feed is the rule for hidden items.
  have rule {activity : Activity} {created : Streamable}
      (owner : created.userId = activity.userId) :
      (!created.isDeleted && (!created.isPrivate || activity.userId = currentUserId)) =
        created.visibleTo currentUserId := by
    rw [Streamable.visibleTo, owner]
  refine ⟨?_, fun row listed => ?_⟩
  · unfold userFeed
    rw [same.activities]
    refine List.filterMap_congr fun activity listed => ?_
    have member := List.mem_mergeSort.mp listed
    rw [isFollowedByCurrentUser, isFollowedByCurrentUser, same.following]
    split
    · rcases same.createdStreamable_cases wellFormed otherWellFormed member with
        ⟨equal, -⟩ | ⟨created, otherCreated, found, otherFound, owner, otherOwner, hidden,
          otherHidden⟩
      · rw [equal]
      · rw [found, otherFound, Option.filter_some_neg, Option.filter_some_neg]
        · rw [rule owner, hidden]
        · rw [rule otherOwner, otherHidden]
    · rfl
  · obtain ⟨activity, sorted, chosen⟩ := List.mem_filterMap.mp listed
    have member := List.mem_mergeSort.mp sorted
    split at chosen
    · obtain ⟨isCreated, allowed⟩ := Option.filter_eq_some_iff.mp chosen
      rw [rule (wellFormed.creations activity member row isCreated)] at allowed
      have stored : row ∈ first.streamables.rows := by
        unfold Activity.createdStreamable at isCreated
        split at isCreated
        · exact Table.mem_of_find isCreated
        · exact absurd isCreated (Option.not_mem_none _)
      exact shows_of_mem stored allowed
    · exact absurd chosen (Option.not_mem_none _)

theorem followersActivity_eq (wellFormed : first.WellFormed)
    (otherWellFormed : second.WellFormed) :
    followersActivity currentUserId second = followersActivity currentUserId first := by
  have hidden {created : Streamable} (notVisible : created.visibleTo currentUserId = false) :
      (!created.isDeleted && !created.isPrivate) = false := by
    unfold Streamable.visibleTo at notVisible
    cases deleted : created.isDeleted <;> cases isPrivate : created.isPrivate <;>
      simp_all
  unfold followersActivity Table.select
  rw [same.activities]
  congr 1
  refine List.filter_congr fun activity member => ?_
  rw [isFollowedByCurrentUser, isFollowedByCurrentUser, same.following]
  congr 1
  rcases same.createdStreamable_cases wellFormed otherWellFormed member with
    ⟨equal, -⟩ | ⟨created, otherCreated, found, otherFound, -, -, notVisible, otherNotVisible⟩
  · rw [equal]
  · rw [found, otherFound]
    exact (hidden otherNotVisible).trans (hidden notVisible).symm

end Indistinguishable

end Rows

/-! ### Groups of activities -/

section Groups

variable {numberOfItemsInGroup : Int}

/-- A group only has activities of the list. -/
theorem mem_groupFrom {previous : Activity} {container group : ActivityContainer}
    {activities : List Activity} {activity : Activity}
    (grouped : group ∈ groupFrom numberOfItemsInGroup previous container activities)
    (listed : activity ∈ group.activities) :
    activity ∈ container.activities ∨ activity ∈ activities := by
  induction activities generalizing previous container with
  | nil =>
      rw [groupFrom, List.mem_singleton] at grouped
      exact .inl (grouped ▸ listed)
  | cons next rest inductionHypothesis =>
      rw [groupFrom] at grouped
      split at grouped
      · split at grouped
        · exact (inductionHypothesis grouped).imp_right (List.mem_cons_of_mem _)
        · rcases inductionHypothesis grouped with old | later
          · rcases List.mem_append.mp old with old | new
            · exact .inl old
            · exact .inr (List.mem_singleton.mp new ▸ List.mem_cons_self)
          · exact .inr (List.mem_cons_of_mem _ later)
      · rcases List.mem_cons.mp grouped with rfl | later
        · exact .inl listed
        · rcases inductionHypothesis later with first | inRest
          · exact .inr (List.mem_singleton.mp first ▸ List.mem_cons_self)
          · exact .inr (List.mem_cons_of_mem _ inRest)

theorem mem_groupActivities {group : ActivityContainer} {activities : List Activity}
    {activity : Activity} (grouped : group ∈ groupActivities numberOfItemsInGroup activities)
    (listed : activity ∈ group.activities) : activity ∈ activities := by
  cases activities with
  | nil => exact absurd grouped List.not_mem_nil
  | cons first rest =>
      rcases mem_groupFrom grouped listed with start | member
      · exact List.mem_singleton.mp start ▸ List.mem_cons_self
      · exact member

end Groups

/-! ### Reads that name only what is visible -/

/-- The endpoints let the user in. -/
def MayRead (currentUserId : Long) (store : Store) : Prop :=
  ∃ user ∈ store.users.rows, user.id = currentUserId ∧ user.accountStatus = .active

/-- What a read reaches besides its listing is visible: the streamable that it names, the texts
that a pattern for hashtags accepts, the streamables of the likes and comments of followed users;
and a profile is the user's own or that of nobody. -/
def ReachesOnlyVisible (search : SearchPlatform) (currentUserId : Long) (store : Store) :
    ReadOperation → Prop
  | .getStreamable streamableId => store.shows currentUserId streamableId = true
  | .getLikers streamableId => store.shows currentUserId streamableId = true
  | .getComments streamableId => store.shows currentUserId streamableId = true
  | .searchHashtags hashtag =>
      ∀ text, search.like (search.toLowerCase hashtag ++ "%") text = true →
        ∃ row ∈ store.streamables.rows, row.visibleTo currentUserId = true ∧ text ∈ row.hashtags
  | .getFollowersActivity _ =>
      ∀ activity ∈ store.activities.rows,
        isFollowedByCurrentUser currentUserId activity.userId store = true →
        activity.content.activityType ≠ .createStreamable →
        ∀ reference ∈ activity.content.reference,
          store.shows currentUserId reference.streamableId = true
  | .getUserProfile userId => userId = currentUserId ∨ ¬ store.HasUser userId
  | _ => True

section Reads

variable {search : SearchPlatform} {currentUserId : Long} {first second : Store}

namespace Indistinguishable

variable (same : Indistinguishable currentUserId first second)

include same

theorem checkUserStatus_eq :
    checkUserStatus currentUserId second = checkUserStatus currentUserId first := by
  unfold checkUserStatus loadCurrentUser findUserById
  rw [same.users]

theorem ofUser_eq {Answer : Type} (userId : Long) (answer : Answer) :
    ofUser second userId answer = ofUser first userId answer := by
  rw [ofUser, ofUser, same.users]

theorem ofStreamable_eq {Answer : Type} {streamableId : Long}
    (shown : first.shows currentUserId streamableId = true) (answer : Answer) :
    ofStreamable second streamableId answer = ofStreamable first streamableId answer := by
  rw [ofStreamable, ofStreamable, same.find_eq shown]

theorem searchStreamablesAtLocationResult_eq (latitude longitude : Rat) (radius : Int) :
    searchStreamablesAtLocationResult currentUserId second search latitude longitude radius =
      searchStreamablesAtLocationResult currentUserId first search latitude longitude radius := by
  have lists (southWest northEast : Rat × Rat) :
      same.ListsSame (streamablesAtLocation currentUserId second southWest northEast)
        (streamablesAtLocation currentUserId first southWest northEast) :=
    same.listsSame_narrowed fun _ => rfl
  unfold searchStreamablesAtLocationResult
  simp only [(lists _ _).1]
  refine PagedList.map_congr fun row listed => same.toDto_streamable ?_
  exact (lists _ _).2 row (mem_getPage listed)

theorem getLikersResult_eq {streamableId : Long}
    (shown : first.shows currentUserId streamableId = true) :
    getLikersResult currentUserId second streamableId =
      getLikersResult currentUserId first streamableId := by
  funext offset limit
  rw [getLikersResult, getLikersResult, same.ofStreamable_eq shown, funext same.toDto_user,
    listedLikers, listedLikers, same.likersOf_eq shown, same.users]

theorem getCommentsResult_eq {streamableId : Long}
    (shown : first.shows currentUserId streamableId = true) :
    getCommentsResult currentUserId second streamableId =
      getCommentsResult currentUserId first streamableId := by
  funext offset limit
  rw [getCommentsResult, getCommentsResult, same.ofStreamable_eq shown, same.commentsOf_eq shown]
  congr 1
  refine PagedList.map_congr fun comment listed => same.toDto_comment ?_
  have selected := (Table.mem_select.mp (List.mem_mergeSort.mp (mem_getPage listed))).2
  have onIt : comment.streamableId = streamableId :=
    of_decide_eq_true (Bool.and_eq_true_iff.mp selected).1
  rw [onIt, shown]

/-- When the accepted texts are tags of visible streamables, the others add no text to the list. -/
theorem hashtagsLike_eq {like : String → Bool}
    (visible : ∀ text, like text = true → ∃ row ∈ first.streamables.rows,
      row.visibleTo currentUserId = true ∧ text ∈ row.hashtags) :
    hashtagsLike second like = hashtagsLike first like := by
  have listed (store : Store)
      (visible : ∀ text, like text = true → ∃ row ∈ store.streamables.rows,
        row.visibleTo currentUserId = true ∧ text ∈ row.hashtags) (text : String) :
      text ∈ ((store.streamables.rows.flatMap Streamable.hashtags).filter like).toFinset ↔
        like text = true := by
    rw [List.mem_toFinset, List.mem_filter, List.mem_flatMap]
    refine ⟨And.right, fun accepted => ⟨?_, accepted⟩⟩
    obtain ⟨row, member, -, tagged⟩ := visible text accepted
    exact ⟨row, member, tagged⟩
  have otherVisible : ∀ text, like text = true → ∃ row ∈ second.streamables.rows,
      row.visibleTo currentUserId = true ∧ text ∈ row.hashtags := by
    intro text accepted
    obtain ⟨row, member, seen, tagged⟩ := visible text accepted
    have selected := Table.mem_select.mpr ⟨member, seen⟩
    rw [← same.streamables] at selected
    exact ⟨row, (Table.mem_select.mp selected).1, seen, tagged⟩
  unfold hashtagsLike
  congr 1
  ext text
  rw [listed first visible, listed second otherVisible]

theorem getFollowersActivityResult_eq (wellFormed : first.WellFormed)
    (otherWellFormed : second.WellFormed) {numberOfItemsInGroup : Option Int}
    (visible : ReachesOnlyVisible search currentUserId first
      (.getFollowersActivity numberOfItemsInGroup)) :
    getFollowersActivityResult currentUserId second numberOfItemsInGroup =
      getFollowersActivityResult currentUserId first numberOfItemsInGroup := by
  have shown : ∀ activity ∈ followersActivity currentUserId first,
      activity.toDto currentUserId second = activity.toDto currentUserId first := by
    intro activity listed
    obtain ⟨member, chosen⟩ := Table.mem_select.mp (List.mem_mergeSort.mp listed)
    rw [Bool.and_eq_true] at chosen
    refine same.toDto_activity wellFormed member fun reference about => ?_
    by_cases creation : activity.content.activityType = .createStreamable
    · cases content : activity.content with
      | createStreamable streamableId =>
          have referenceIs : reference = ⟨streamableId, none⟩ := by
            rw [content] at about
            exact (Option.some.inj about).symm
          rcases same.createdStreamable_cases wellFormed otherWellFormed member with
            ⟨-, createdVisible⟩ | ⟨created, -, found, -, -, -, hidden, -⟩
          · have resolves := wellFormed.references reference
              (List.mem_append_left _ (List.mem_filterMap.mpr ⟨activity, member, about⟩))
            obtain ⟨created, stored, sameId⟩ := resolves.1
            have isCreated : activity.createdStreamable first = some created := by
              rw [Activity.createdStreamable, content]
              rw [referenceIs] at sameId
              exact Table.find_eq_some.mpr ⟨stored, sameId⟩
            rw [← sameId]
            exact shows_of_mem stored (createdVisible created isCreated).2
          · rw [found] at chosen
            have open_ := chosen.2
            simp only [Bool.and_eq_true, Bool.not_eq_true'] at open_
            simp [Streamable.visibleTo, open_.1, open_.2] at hidden
      | comment _ _ | follow _ | like _ =>
          rw [content] at creation
          cases creation
    · exact visible activity member chosen.1 creation reference about
  funext offset limit
  unfold getFollowersActivityResult
  rw [same.followersActivity_eq wellFormed otherWellFormed]
  have groups : (groupActivities (groupSize numberOfItemsInGroup)
      (getItems (followersActivity currentUserId first) offset limit).items).map
        (ActivityContainer.toDto currentUserId second) =
      (groupActivities (groupSize numberOfItemsInGroup)
        (getItems (followersActivity currentUserId first) offset limit).items).map
        (ActivityContainer.toDto currentUserId first) := by
    refine List.map_congr_left fun group grouped => ?_
    unfold ActivityContainer.toDto
    rw [same.userDto_eq, List.map_congr_left fun activity listed =>
      shown activity (mem_getPage (mem_groupActivities grouped listed))]
  simp only [groups]

theorem getUserProfile_eq {userId : Long}
    (visible : ReachesOnlyVisible search currentUserId first (.getUserProfile userId)) :
    getUserProfile currentUserId second userId = getUserProfile currentUserId first userId := by
  unfold getUserProfile
  rw [same.users]
  cases found : first.users.find userId with
  | none => rfl
  | some user =>
      obtain ⟨member, sameId⟩ := Table.find_eq_some.mp found
      have own : user.id = currentUserId :=
        visible.elim sameId.trans fun unknown => absurd ⟨user, member, sameId⟩ unknown
      -- The own streamables that are not deleted are visible.
      have visible (row : Streamable)
          (counted : (decide (row.userId = user.id) && !row.isDeleted) = true) :
          row.visibleTo currentUserId = true := by
        simp only [Bool.and_eq_true, decide_eq_true_eq] at counted
        simp [Streamable.visibleTo, counted.1, counted.2, own]
      simp only [User.toFullDto, same.toDto_user, same.following, same.externalProviders,
        same.select_eq visible visible fun _ _ => rfl]

end Indistinguishable

/-- A read that reaches only what is visible depends on nothing that is hidden. -/
theorem hidesAt_of_reachesOnlyVisible {operation : ReadOperation} {database : Database}
    (visible : ReachesOnlyVisible search currentUserId database.store operation) :
    HidesAt search currentUserId operation database := by
  intro other same
  funext offset limit
  unfold ReadOperation.answer
  rw [same.checkUserStatus_eq]
  congr 1
  funext checked
  cases operation with
  | getStreamable streamableId =>
      simp only [ReadOperation.perform, getStreamable, same.streamableDto_eq visible]
  | getLikers streamableId =>
      simp only [ReadOperation.perform, same.getLikersResult_eq visible]
  | getComments streamableId =>
      simp only [ReadOperation.perform, same.getCommentsResult_eq visible]
  | getNewestStreamables =>
      simp only [ReadOperation.perform, same.streamablesPage_eq same.newestStreamables_lists]
  | getPopularStreamables =>
      simp only [ReadOperation.perform, same.streamablesPage_eq same.popularStreamables_lists]
  | getLikedStreamablesForUser userId =>
      simp only [ReadOperation.perform, same.ofUser_eq,
        same.streamablesPage_eq (same.likedStreamables_lists userId)]
  | getUserStreamables userId =>
      simp only [ReadOperation.perform, same.ofUser_eq, userStreamables,
        same.streamablesPage_eq (same.listsSame_narrowed fun _ => rfl)]
  | getUserMentions userId =>
      simp only [ReadOperation.perform, same.ofUser_eq,
        same.streamablesPage_eq (same.userMentions_lists userId)]
  | getPrivateStreamables =>
      simp only [ReadOperation.perform, same.streamablesPage_eq same.privateStreamables_lists]
  | searchStreamablesAtLocation latitude longitude radius =>
      simp only [ReadOperation.perform, same.searchStreamablesAtLocationResult_eq]
  | searchStreamablesForHashtag hashtag =>
      simp only [ReadOperation.perform, streamablesForHashtag,
        same.streamablesPage_eq (same.listsSame_narrowed fun _ => rfl)]
  | searchHashtags hashtag =>
      simp only [ReadOperation.perform, same.hashtagsLike_eq visible]
  | getUserFeed =>
      simp only [ReadOperation.perform, same.streamablesPage_eq
        (same.userFeed_lists database.wellFormed other.wellFormed)]
  | getFollowersActivity numberOfItemsInGroup =>
      simp only [ReadOperation.perform, same.getFollowersActivityResult_eq database.wellFormed
        other.wellFormed visible]
  | getUserProfile userId =>
      simp only [ReadOperation.perform, same.getUserProfile_eq visible]

end Reads

end GraffiTab
