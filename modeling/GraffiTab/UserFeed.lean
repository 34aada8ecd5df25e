/-
This file proves that the feed of a user has the right streamables.

The feed is not computed from the streamables. A request that creates one queues a job,
and the job adds an activity to the owner; the feed joins the users that the current user
follows with their activities, and these with the created streamables. So what the feed
lists depends on a history that neither table has alone: every streamable has one creation,
which is an activity in the table or in a queued job, of the owner and dated after the
streamable. Deletions, changes of the visibility and the other jobs keep that history, and
once the queue is drained all of it is in the table.
-/

import GraffiTab.AssetPipeline
import GraffiTab.Listings

namespace GraffiTab

open Tables Joins Runs

/-! ### Jobs -/

/-- What the requests queue: an activity or a notification for its user, and the processing of the
image of an asset. -/
inductive Job where
  | addActivity (activity : Activity)
  | addNotification (notification : Notification)
  | processAsset (guid : String)

/-- The transaction of `addUserActivityToFollowersAsync`. -/
def addUserActivity (activity : Activity) : Transaction Unit := fun store =>
  match findUserById activity.userId store with
  | none => throw .nullPointerException
  | some inner =>
      return ((), { store with
        activities := store.activities.insert { activity with userId := inner.id } })

/-- The transaction of `addNotificationToUser`. -/
def addNotificationToUser (notification : Notification) : Transaction Unit := fun store =>
  match findUserById notification.userId store with
  | none => throw .nullPointerException
  | some inner =>
      return ((), { store with
        notifications := store.notifications.insert { notification with userId := inner.id } })

/-- What a job leaves in the database; an asset is completed when its images could be uploaded. -/
def Job.run (uploaded : Bool) (store : Store) : Job → Store
  | .addActivity activity => (transaction (addUserActivity activity) store).1
  | .addNotification notification => (transaction (addNotificationToUser notification) store).1
  | .processAsset guid => if uploaded then (transaction (completeAsset guid) store).1 else store

/-! ### Requests -/

/-- The transaction of `UserService.follow`, with the followed user and whether the user is followed
since now. -/
def follow (currentUserId toFollowId : Long) : Transaction (User × Bool) := fun store => do
  let innerUser ← loadCurrentUser currentUserId store
  match findUserById toFollowId store with
  | some toFollow =>
      if innerUser.id = toFollow.id then
        throw (restApiException .invalidFollowee "You cannot follow yourself")
      else if ⟨innerUser.id, toFollow.id⟩ ∈ store.following then
        return ((toFollow, false), store)
      else
        return ((toFollow, true),
          { store with following := store.following ++ [⟨innerUser.id, toFollow.id⟩] })
  | none =>
      throw (restApiException .userNotFound
        ("User with id " ++ toString toFollowId ++ " not found"))

/-- `UserService.unfollow`. -/
def unfollow (currentUserId toUnfollowId : Long) : Transaction User := fun store => do
  match findUserById toUnfollowId store with
  | some toUnfollow =>
      let currentUser ← loadCurrentUser currentUserId store
      return (toUnfollow,
        { store with following := store.following.erase ⟨currentUser.id, toUnfollow.id⟩ })
  | none =>
      throw (restApiException .userNotFound
        ("User with id " ++ toString toUnfollowId ++ " not found"))

inductive FeedRequest where
  | createStreamableGraffiti (currentUserId : Long) (dto : StreamableGraffitiDto)
      (transferred : Bool) (guid : String)
  | createStreamableGraffitiFromExternalResource (currentUserId : Long)
      (dto : StreamableGraffitiDto) (guid : String)
  | deleteStreamable (currentUserId streamableId : Long)
  | makePublicOrPrivate (currentUserId streamableId : Long) (isPrivate : Bool)
  | follow (currentUserId toFollowId : Long)
  | unfollow (currentUserId toUnfollowId : Long)

/-- `addCreateStreamableActivityAsync`. -/
def addCreateStreamableActivityAsync (createdStreamable : Streamable) (now : Long) : Job :=
  .addActivity
    { id := 0
      userId := createdStreamable.userId
      createdOn := now
      content := .createStreamable createdStreamable.id }

/-- `createStreamableInTransaction` with the job for its activity, and the jobs that follow. -/
def createStreamable (currentUserId : Long) (dto : StreamableGraffitiDto) (asset : Long → Asset)
    (others : List Job) (first second : Long) (store : Store) : Store × List Job :=
  match executeInTransactionWithResult
    (createStreamableInTransaction currentUserId dto asset first) store with
  | (next, .ok streamable) => (next, addCreateStreamableActivityAsync streamable second :: others)
  | (next, .error _) => (next, [])

/-- What a request leaves in the database, and the jobs that it queues. It reads the clock twice,
for the row that it writes first and for the activity. -/
def FeedRequest.perform (first second : Long) (store : Store) : FeedRequest → Store × List Job
  | .createStreamableGraffiti currentUserId dto transferred guid =>
      match validateText dto.text, transferAssetFile transferred with
      | .ok (), .ok () =>
          createStreamable currentUserId dto (fun id => .processing id guid) [.processAsset guid]
            first second store
      | _, _ => (store, [])
  | .createStreamableGraffitiFromExternalResource currentUserId dto guid =>
      match dto.asset with
      | none => (store, [])
      | some _ =>
          createStreamable currentUserId dto (fun id => .completed id guid) [] first second store
  | .deleteStreamable currentUserId streamableId =>
      ((transaction (GraffiTab.deleteStreamable currentUserId streamableId) store).1, [])
  | .makePublicOrPrivate currentUserId streamableId isPrivate =>
      ((transaction (GraffiTab.makePublicOrPrivate currentUserId streamableId isPrivate) store).1,
        [])
  | .follow currentUserId toFollowId =>
      match executeInTransactionWithResult (GraffiTab.follow currentUserId toFollowId) store with
      | (next, .ok (followed, true)) =>
          (next,
            [.addNotification
              { id := 0, userId := followed.id, isRead := false, createdOn := first
                content := .follow currentUserId },
             .addActivity
              { id := 0, userId := currentUserId, createdOn := second
                content := .follow followed.id }])
      | (next, _) => (next, [])
  | .unfollow currentUserId toUnfollowId =>
      ((transaction (GraffiTab.unfollow currentUserId toUnfollowId) store).1, [])

/-! ### Runs -/

/-- The database, the jobs that are queued or running, and the last reading of the clock. -/
structure FeedState where
  store : Store
  jobs : List Job
  lastReading : Long

/-- A request is served between two readings of the clock; a job takes effect in any order with the
others. -/
inductive FeedAction where
  | serve (request : FeedRequest) (first second : Long)
  | runJob (position : Nat) (uploaded : Bool)

/-- The clock does not run backwards. -/
def feedStep (state : FeedState) : FeedAction → Option FeedState
  | .serve request first second =>
      if state.lastReading ≤ first ∧ first ≤ second then
        let (store, queued) := request.perform first second state.store
        some { store, jobs := state.jobs ++ queued, lastReading := second }
      else none
  | .runJob position uploaded =>
      match state.jobs[position]? with
      | some job =>
          some { state with
            store := job.run uploaded state.store
            jobs := state.jobs.eraseIdx position }
      | none => none

/-- Nothing has been created and no job is queued. -/
structure FeedStart (state : FeedState) : Prop where
  noStreamables : state.store.streamables.rows = []
  noActivities : state.store.activities.rows = []
  drained : state.jobs = []

/-! ### The feed -/

section Feed

variable (currentUserId : Long) (store : Store)

/-- The subquery `select following from User currentUser join currentUser.following following
where currentUser = :currentUser`. -/
def followingIds : List Long :=
  ((innerJoin store.users.rows fun user =>
    (store.following.filter fun row => row.userId = user.id).map Following.followingId).filter
      fun pair => pair.1.id = currentUserId).map Prod.snd

/-- `u.activity`, each with its created streamable or null. -/
def activityOf (user : User) : List (Activity × Option Streamable) :=
  leftJoin (store.activities.select fun row => row.userId = user.id)
    fun activity => (activity.createdStreamable store).toList

/-- `Activity.getUserFeed`: a join of the users with their activities, and a left join with the
created streamables. -/
def Activity.getUserFeed : List Streamable :=
  (orderByDesc (fun pair => pair.2.1.createdOn) <|
    (innerJoin store.users.rows (activityOf store)).filter fun pair =>
      ((followingIds currentUserId store).contains pair.1.id || pair.1.id = currentUserId) &&
        pair.2.2.any fun created =>
          !created.isDeleted && (!created.isPrivate || pair.1.id = currentUserId)).filterMap
    fun pair => pair.2.2

/-- The activity with which the streamable was created. -/
def Creates (activity : Activity) (row : Streamable) : Prop :=
  activity ∈ store.activities.rows ∧ activity.content = .createStreamable row.id

/-- The feed has every streamable that is shown and was created by the user or by somebody whom the
user follows, once, and the newest creations first: no streamable is listed before one with a
later creation, and a streamable that is older than the next one was created at the same date. -/
structure FeedExact (listed : List Streamable) : Prop where
  once : listed.Nodup
  exactly : ∀ row, row ∈ listed ↔ Shown currentUserId store row ∧
    (row.userId = currentUserId ∨ ⟨currentUserId, row.userId⟩ ∈ store.following)
  newestFirst : listed.Pairwise fun first second => ∃ creation other,
    Creates store creation first ∧ Creates store other second ∧
      other.createdOn ≤ creation.createdOn ∧
        (second.createdOn ≤ first.createdOn ∨ other.createdOn = creation.createdOn)

/-- Every streamable has one creation, of the owner, and their dates agree with those of the
streamables. -/
structure Recorded : Prop where
  created : ∀ row ∈ store.streamables.rows, ∃ activity, Creates store activity row
  unique : ∀ activity other row, Creates store activity row → Creates store other row →
    activity = other
  owner : ∀ row ∈ store.streamables.rows, ∀ activity, Creates store activity row →
    activity.userId = row.userId
  known : ∀ row ∈ store.streamables.rows, ∃ user ∈ store.users.rows, user.id = row.userId
  agree : ∀ row ∈ store.streamables.rows, ∀ other ∈ store.streamables.rows,
    ∀ activity otherActivity, Creates store activity row → Creates store otherActivity other →
      otherActivity.createdOn ≤ activity.createdOn →
        other.createdOn ≤ row.createdOn ∨ otherActivity.createdOn = activity.createdOn

/-- The entries of a feed: the streamables for it, each with its creation, by descending date. -/
structure FeedEntries (entries : List (Activity × Streamable)) : Prop where
  once : entries.Nodup
  exactly : ∀ activity row, (activity, row) ∈ entries ↔
    row ∈ store.streamables.rows ∧ Creates store activity row ∧
      row.visibleTo currentUserId = true ∧
        (row.userId = currentUserId ∨ ⟨currentUserId, row.userId⟩ ∈ store.following)
  ordered : entries.Pairwise fun first second => second.1.createdOn ≤ first.1.createdOn

end Feed

section Entries

variable {currentUserId : Long} {store : Store}

/-- Where every streamable has one creation, the entries of a feed list the streamables exactly. -/
theorem FeedEntries.feedExact {entries : List (Activity × Streamable)} (recorded : Recorded store)
    (are : FeedEntries currentUserId store entries) :
    FeedExact currentUserId store (entries.map Prod.snd) := by
  constructor
  case once =>
    rw [List.Nodup, List.pairwise_map]
    refine are.once.imp_of_mem fun {first second} firstMember secondMember different same => ?_
    obtain ⟨-, firstCreates, -⟩ := (are.exactly first.1 first.2).mp firstMember
    obtain ⟨-, secondCreates, -⟩ := (are.exactly second.1 second.2).mp secondMember
    refine different (Prod.ext ?_ same)
    exact recorded.unique _ _ _ firstCreates (same ▸ secondCreates)
  case exactly =>
    intro row
    rw [List.mem_map, shown_iff]
    constructor
    · rintro ⟨⟨activity, listed⟩, member, rfl⟩
      obtain ⟨stored, -, visible, wanted⟩ := (are.exactly activity listed).mp member
      exact ⟨⟨stored, visible⟩, wanted⟩
    · rintro ⟨⟨stored, visible⟩, wanted⟩
      obtain ⟨activity, creates⟩ := recorded.created row stored
      exact ⟨(activity, row), (are.exactly activity row).mpr ⟨stored, creates, visible, wanted⟩,
        rfl⟩
  case newestFirst =>
    rw [List.pairwise_map]
    refine are.ordered.imp_of_mem fun {first second} firstMember secondMember later => ?_
    obtain ⟨firstStored, firstCreates, -⟩ := (are.exactly first.1 first.2).mp firstMember
    obtain ⟨secondStored, secondCreates, -⟩ := (are.exactly second.1 second.2).mp secondMember
    exact ⟨first.1, second.1, firstCreates, secondCreates, later,
      recorded.agree _ firstStored _ secondStored _ _ firstCreates secondCreates later⟩

theorem createdStreamable_eq_some {activity : Activity} {row : Streamable} :
    activity.createdStreamable store = some row ↔
      row ∈ store.streamables.rows ∧ activity.content = .createStreamable row.id := by
  rw [Activity.createdStreamable]
  split
  · rename_i created content
    rw [Table.find_eq_some, content, ActivityContent.createStreamable.injEq]
    exact and_congr_right fun _ => eq_comm
  · rename_i other
    refine iff_of_false nofun ?_
    rintro ⟨-, content⟩
    exact other row.id content

/-- The subquery finds the followed users of a known user. -/
theorem mem_followingIds {user : User} (known : store.users.find currentUserId = some user)
    {userId : Long} :
    userId ∈ followingIds currentUserId store ↔ ⟨currentUserId, userId⟩ ∈ store.following := by
  have only : store.users.rows.filter (fun other => other.id = currentUserId) = [user] :=
    filter_id known
  rw [followingIds, filter_innerJoin fun other : User => decide (other.id = currentUserId), only,
    innerJoin, List.flatMap_singleton, List.map_map, List.mem_map]
  have sameId : user.id = currentUserId := Table.id_of_find known
  constructor
  · rintro ⟨followed, listed, rfl⟩
    obtain ⟨row, member, rfl⟩ := List.mem_map.mp listed
    obtain ⟨stored, own⟩ := List.mem_filter.mp member
    have byUser : row.userId = currentUserId := (of_decide_eq_true own).trans sameId
    exact byUser ▸ stored
  · intro stored
    exact ⟨userId, List.mem_map.mpr ⟨⟨currentUserId, userId⟩,
      List.mem_filter.mpr ⟨stored, decide_eq_true sameId.symm⟩, rfl⟩, rfl⟩

/-- Entries that are dated as the rows they come from are listed by descending date. -/
theorem ordered_filterMap {Item : Type} {key : Item → Int}
    {entry : Item → Option (Activity × Streamable)}
    (dates : ∀ item found, entry item = some found → found.1.createdOn = key item)
    (items : List Item) :
    ((orderByDesc key items).filterMap entry).Pairwise
      fun first second => second.1.createdOn ≤ first.1.createdOn := by
  rw [List.pairwise_filterMap]
  refine (ordered_orderByDesc key items).imp fun {first second} later => ?_
  intro found isFirst other isSecond
  rw [dates first found isFirst, dates second other isSecond]
  exact later

/-! ### The entries of the query -/

/-- The joined rows of the query, in the order of the query. -/
def feedRows (currentUserId : Long) (store : Store) : List (User × Activity × Option Streamable) :=
  orderByDesc (fun pair => pair.2.1.createdOn) <|
    (innerJoin store.users.rows (activityOf store)).filter fun pair =>
      ((followingIds currentUserId store).contains pair.1.id || pair.1.id = currentUserId) &&
        pair.2.2.any fun created =>
          !created.isDeleted && (!created.isPrivate || pair.1.id = currentUserId)

/-- A row with its streamable. -/
def entryOf (pair : User × Activity × Option Streamable) : Option (Activity × Streamable) :=
  pair.2.2.map fun created => (pair.2.1, created)

theorem map_snd_filterMap_entryOf (pairs : List (User × Activity × Option Streamable)) :
    (pairs.filterMap entryOf).map Prod.snd = pairs.filterMap fun pair => pair.2.2 := by
  rw [List.map_filterMap]
  refine congrArg (List.filterMap · pairs) (funext fun pair => ?_)
  rw [entryOf, Option.map_map]
  exact Option.map_id'

theorem getUserFeed_eq (currentUserId : Long) (store : Store) :
    Activity.getUserFeed currentUserId store =
      ((feedRows currentUserId store).filterMap entryOf).map Prod.snd :=
  (map_snd_filterMap_entryOf _).symm

theorem mem_activityOf {user : User} {activity : Activity} {row : Streamable} :
    (activity, some row) ∈ activityOf store user ↔
      activity.userId = user.id ∧ row ∈ store.streamables.rows ∧ Creates store activity row := by
  rw [activityOf, mem_leftJoin_some, Table.mem_select, decide_eq_true_eq, Option.mem_toList,
    createdStreamable_eq_some, Creates]
  exact ⟨fun ⟨⟨stored, own⟩, member, content⟩ => ⟨own, member, stored, content⟩,
    fun ⟨own, member, stored, content⟩ => ⟨⟨stored, own⟩, member, content⟩⟩

/-- An activity belongs to one user, so it is joined once. -/
theorem nodup_joined : ((innerJoin store.users.rows (activityOf store)).map Prod.snd).Nodup := by
  refine nodup_map_snd_innerJoin (fun user _ => ?_) ?_
  · refine nodup_leftJoin (nodup_select _ _) fun activity _ => ?_
    cases activity.createdStreamable store with
    | none => exact List.nodup_nil
    | some created => exact List.nodup_singleton created
  · have distinct : store.users.rows.Pairwise fun first second => first.id ≠ second.id :=
      List.pairwise_map.mp store.users.distinct
    refine distinct.imp fun {first second} different => ?_
    intro pair inFirst inSecond
    have owner : ∀ {user : User}, pair ∈ activityOf store user → pair.1.userId = user.id := by
      intro user member
      have joined : pair.1 ∈ (activityOf store user).map Prod.fst := List.mem_map_of_mem member
      exact of_decide_eq_true (Table.mem_select.mp (mem_map_fst_leftJoin.mp joined)).2
    exact different ((owner inFirst).symm.trans (owner inSecond))

theorem feedRows_once :
    (feedRows currentUserId store).Pairwise fun first second => first.2 ≠ second.2 := by
  have perm : (feedRows currentUserId store).Perm _ := List.mergeSort_perm _ _
  have distinct : (innerJoin store.users.rows (activityOf store)).Pairwise
      fun first second => first.2 ≠ second.2 := List.pairwise_map.mp nodup_joined
  exact (perm.pairwise_iff fun different => Ne.symm different).mpr (distinct.filter _)

theorem mem_feedRows {user owner : User} {activity : Activity} {row : Streamable}
    (known : store.users.find currentUserId = some user) :
    (owner, activity, some row) ∈ feedRows currentUserId store ↔
      (owner ∈ store.users.rows ∧ activity.userId = owner.id ∧
        row ∈ store.streamables.rows ∧ Creates store activity row) ∧
      (⟨currentUserId, owner.id⟩ ∈ store.following ∨ owner.id = currentUserId) ∧
        row.isDeleted = false ∧ (row.isPrivate = false ∨ owner.id = currentUserId) := by
  rw [feedRows, mem_orderByDesc, List.mem_filter, mem_innerJoin, mem_activityOf, Bool.and_eq_true,
    Bool.or_eq_true, List.contains_iff_mem, mem_followingIds known, decide_eq_true_eq,
    Option.any_some, Bool.and_eq_true, Bool.or_eq_true, Bool.not_eq_true', Bool.not_eq_true',
    decide_eq_true_eq]

/-- The query joins the streamables for the feed with their creations. -/
theorem feedEntries_getUserFeed {user : User} (recorded : Recorded store)
    (known : store.users.find currentUserId = some user) :
    FeedEntries currentUserId store ((feedRows currentUserId store).filterMap entryOf) := by
  constructor
  case once =>
    rw [List.Nodup, List.pairwise_filterMap]
    refine feedRows_once.imp fun {first second} different entry isFirst other isSecond same => ?_
    obtain ⟨created, firstCreated, rfl⟩ := Option.map_eq_some_iff.mp isFirst
    obtain ⟨otherCreated, secondCreated, rfl⟩ := Option.map_eq_some_iff.mp isSecond
    obtain ⟨sameActivity, rfl⟩ := Prod.mk.inj same
    exact different (Prod.ext sameActivity (firstCreated.trans secondCreated.symm))
  case exactly =>
    intro activity row
    rw [List.mem_filterMap]
    constructor
    · rintro ⟨⟨owner, other, joined⟩, listed, isEntry⟩
      obtain ⟨created, isCreated, same⟩ := Option.map_eq_some_iff.mp isEntry
      obtain ⟨rfl, rfl⟩ := Prod.mk.inj same
      obtain rfl : joined = some created := isCreated
      obtain ⟨⟨-, own, stored, creates⟩, wanted, notDeleted, visible⟩ :=
        (mem_feedRows known).mp listed
      have sameOwner : owner.id = created.userId :=
        own.symm.trans (recorded.owner created stored _ creates)
      rw [sameOwner] at wanted visible
      exact ⟨stored, creates, (shown_iff.mp ⟨stored, notDeleted, visible⟩).2, wanted.symm⟩
    · rintro ⟨stored, creates, visible, wanted⟩
      obtain ⟨owner, ownerStored, sameOwner⟩ := recorded.known row stored
      obtain ⟨-, notDeleted, isOpen⟩ := shown_iff.mpr ⟨stored, visible⟩
      refine ⟨(owner, activity, some row), (mem_feedRows known).mpr ⟨⟨ownerStored, ?_, stored,
        creates⟩, ?_, notDeleted, ?_⟩, rfl⟩
      · exact (recorded.owner row stored activity creates).trans sameOwner.symm
      · rw [sameOwner]
        exact wanted.symm
      · rw [sameOwner]
        exact isOpen
  case ordered =>
    refine ordered_filterMap (fun joined entry isEntry => ?_) _
    obtain ⟨created, -, rfl⟩ := Option.map_eq_some_iff.mp isEntry
    rfl

/-! ### The feed of the service -/

theorem isFollowedByCurrentUser_iff {userId : Long} :
    isFollowedByCurrentUser currentUserId userId store = true ↔
      ⟨currentUserId, userId⟩ ∈ store.following := by
  rw [isFollowedByCurrentUser, List.any_eq_true]
  constructor
  · rintro ⟨⟨follower, followed⟩, member, same⟩
    rw [Bool.and_eq_true, decide_eq_true_eq, decide_eq_true_eq] at same
    obtain ⟨rfl, rfl⟩ := same
    exact member
  · intro member
    exact ⟨_, member, by simp only [decide_true, Bool.and_self]⟩

/-- What the service lists for an activity. -/
def feedStreamable (currentUserId : Long) (store : Store) (activity : Activity) :
    Option Streamable :=
  if isFollowedByCurrentUser currentUserId activity.userId store ||
      activity.userId = currentUserId then
    (activity.createdStreamable store).filter fun created =>
      !created.isDeleted && (!created.isPrivate || activity.userId = currentUserId)
  else none

theorem feedStreamable_eq_some (recorded : Recorded store) {activity : Activity}
    (member : activity ∈ store.activities.rows) {row : Streamable} :
    feedStreamable currentUserId store activity = some row ↔
      row ∈ store.streamables.rows ∧ Creates store activity row ∧
        row.visibleTo currentUserId = true ∧
          (row.userId = currentUserId ∨ ⟨currentUserId, row.userId⟩ ∈ store.following) := by
  have wanted : (isFollowedByCurrentUser currentUserId activity.userId store ||
      decide (activity.userId = currentUserId)) = true ↔
      (activity.userId = currentUserId ∨ ⟨currentUserId, activity.userId⟩ ∈ store.following) := by
    rw [Bool.or_eq_true, decide_eq_true_eq, isFollowedByCurrentUser_iff, or_comm]
  constructor
  · intro isListed
    rw [feedStreamable] at isListed
    split at isListed
    · rename_i isWanted
      obtain ⟨created, visible⟩ := Option.filter_eq_some_iff.mp isListed
      obtain ⟨stored, content⟩ := createdStreamable_eq_some.mp created
      have owner := recorded.owner row stored activity ⟨member, content⟩
      rw [owner] at visible
      exact ⟨stored, ⟨member, content⟩, visible, owner ▸ wanted.mp isWanted⟩
    · exact absurd isListed nofun
  · rintro ⟨stored, creates, visible, isWanted⟩
    have owner := recorded.owner row stored activity creates
    rw [feedStreamable, if_pos (wanted.mpr (owner ▸ isWanted))]
    refine Option.filter_eq_some_iff.mpr ⟨createdStreamable_eq_some.mpr ⟨stored, creates.2⟩, ?_⟩
    rw [owner]
    exact visible

theorem feedEntries_userFeed (recorded : Recorded store) :
    FeedEntries currentUserId store
      ((orderByDesc Activity.createdOn store.activities.rows).filterMap fun activity =>
        (feedStreamable currentUserId store activity).map fun row => (activity, row)) := by
  constructor
  case once =>
    rw [List.Nodup, List.pairwise_filterMap]
    refine (nodup_orderByDesc.mpr (nodup_rows store.activities)).imp ?_
    intro activity other different entry isEntry otherEntry isOther same
    obtain ⟨row, -, rfl⟩ := Option.map_eq_some_iff.mp isEntry
    obtain ⟨otherRow, -, rfl⟩ := Option.map_eq_some_iff.mp isOther
    exact different (Prod.mk.inj same).1
  case exactly =>
    intro activity row
    rw [List.mem_filterMap]
    constructor
    · rintro ⟨other, listed, isEntry⟩
      obtain ⟨created, isListed, same⟩ := Option.map_eq_some_iff.mp isEntry
      obtain ⟨rfl, rfl⟩ := Prod.mk.inj same
      exact (feedStreamable_eq_some recorded (mem_orderByDesc.mp listed)).mp isListed
    · intro wanted
      have member : activity ∈ store.activities.rows := wanted.2.1.1
      refine ⟨activity, mem_orderByDesc.mpr member, ?_⟩
      rw [(feedStreamable_eq_some recorded member).mpr wanted]
      rfl
  case ordered =>
    refine ordered_filterMap (fun joined entry isEntry => ?_) _
    obtain ⟨created, -, rfl⟩ := Option.map_eq_some_iff.mp isEntry
    rfl

theorem userFeed_eq (currentUserId : Long) (store : Store) :
    userFeed currentUserId store =
      ((orderByDesc Activity.createdOn store.activities.rows).filterMap fun activity =>
        (feedStreamable currentUserId store activity).map fun row => (activity, row)).map
          Prod.snd := by
  rw [List.map_filterMap]
  refine congrArg (List.filterMap · _) (funext fun activity => ?_)
  rw [Option.map_map]
  exact Option.map_id'.symm

/-- The service pages the rows of the query, with activities of one date in some order. -/
theorem getUserFeed_perm {user : User} (recorded : Recorded store)
    (known : store.users.find currentUserId = some user) :
    (Activity.getUserFeed currentUserId store).Perm (userFeed currentUserId store) := by
  have query := (feedEntries_getUserFeed recorded known).feedExact recorded
  have service : FeedExact currentUserId store _ :=
    (feedEntries_userFeed recorded).feedExact recorded
  rw [getUserFeed_eq, userFeed_eq]
  exact (List.perm_ext_iff_of_nodup query.once service.once).mpr fun row =>
    (query.exactly row).trans (service.exactly row).symm

end Entries

/-! ### The history of the creations -/

/-- What never changes of a streamable. -/
structure Card where
  id : Long
  userId : Long
  createdOn : Long

def Streamable.card (row : Streamable) : Card := ⟨row.id, row.userId, row.createdOn⟩

/-- What an activity says of a creation. -/
structure Creation where
  streamableId : Long
  userId : Long
  createdOn : Long

def Activity.creation (activity : Activity) : Option Creation :=
  match activity.content with
  | .createStreamable createdStreamable =>
      some ⟨createdStreamable, activity.userId, activity.createdOn⟩
  | _ => none

def Job.creation : Job → Option Creation
  | .addActivity activity => activity.creation
  | .addNotification _ => none
  | .processAsset _ => none

/-- The creations in the table and in the jobs. -/
def FeedState.creations (state : FeedState) : List Creation :=
  state.store.activities.rows.filterMap Activity.creation ++ state.jobs.filterMap Job.creation

/-- A creation of the past: the streamable, and the date of its activity. -/
structure PastCreation where
  card : Card
  recordedOn : Long

def PastCreation.creation (past : PastCreation) : Creation :=
  ⟨past.card.id, past.card.userId, past.recordedOn⟩

/-- The history of a state: the streamables were created by it, in its order, and each has its
creation in the table or in a job. -/
structure RecordedBy (history : List PastCreation) (state : FeedState) : Prop where
  cards : state.store.streamables.rows.map Streamable.card = history.map PastCreation.card
  creations : state.creations.Perm (history.map PastCreation.creation)
  inOrder : history.Pairwise fun past later => past.recordedOn ≤ later.card.createdOn
  dated : ∀ past ∈ history, past.card.createdOn ≤ past.recordedOn ∧
    past.recordedOn ≤ state.lastReading
  known : ∀ past ∈ history, past.card.userId ∈ state.store.users.rows.map User.id

/-! ### What requests and jobs do to it -/

/-- The streamables keep their cards, and activities and users stay. -/
structure SameCreations (store next : Store) : Prop where
  cards : next.streamables.rows.map Streamable.card = store.streamables.rows.map Streamable.card
  activities : next.activities = store.activities
  userIds : next.users.rows.map User.id = store.users.rows.map User.id

theorem SameCreations.refl (store : Store) : SameCreations store store := ⟨rfl, rfl, rfl⟩

theorem SameCreations.of_transaction {Value : Type} {body : Transaction Value} {store : Store}
    (same : ∀ value next, body store = .ok (value, next) → SameCreations store next) :
    SameCreations store (transaction body store).1 :=
  transaction_keeps (SameCreations store) (.refl store) same

theorem cards_set {store : Store} {old new : Streamable}
    (found : store.streamables.find old.id = some old) (same : new.card = old.card) :
    (store.streamables.set new).rows.map Streamable.card =
      store.streamables.rows.map Streamable.card := by
  have sameId : new.id = old.id := congrArg Card.id same
  rw [Table.set, List.map_map]
  refine List.map_congr_left fun row member => ?_
  rw [Function.comp_apply]
  split
  · rename_i isRow
    have isOld : row = old :=
      Table.eq_of_id_eq member (Table.mem_of_find found) (isRow.trans sameId)
    rw [same, isOld]
  · rfl

/-- A change of the visibility of an own streamable, or its deletion. -/
theorem changeStreamable_sameCreations (currentUserId streamableId : Long)
    {change : Streamable → Streamable} (same : ∀ row, (change row).card = row.card)
    (store : Store) :
    SameCreations store
      (transaction (changeStreamable currentUserId streamableId change) store).1 := by
  refine .of_transaction fun value next returned => ?_
  obtain ⟨streamable, found, rest⟩ := bind_eq_ok.mp returned
  obtain ⟨-, rfl⟩ := Prod.mk.inj (Except.ok.inj rest)
  obtain ⟨stored, -⟩ := find_of_ownStreamable found
  have sameId : streamable.id = streamableId := Table.id_of_find stored
  exact ⟨cards_set (sameId ▸ stored) (same streamable), rfl, rfl⟩

theorem deleteStreamable_sameCreations (currentUserId streamableId : Long) (store : Store) :
    SameCreations store (transaction (deleteStreamable currentUserId streamableId) store).1 := by
  refine changeStreamable_sameCreations currentUserId streamableId (fun row => ?_) store
  rfl

theorem makePublicOrPrivate_sameCreations (currentUserId streamableId : Long) (isPrivate : Bool)
    (store : Store) : SameCreations store
      (transaction (makePublicOrPrivate currentUserId streamableId isPrivate) store).1 := by
  refine changeStreamable_sameCreations currentUserId streamableId (fun row => ?_) store
  rfl

/-- A creation adds a streamable of a known user. -/
theorem createStreamableInTransaction_cards {currentUserId now : Long}
    {dto : StreamableGraffitiDto} {asset : Long → Asset} {store next : Store}
    {streamable : Streamable} (returned : createStreamableInTransaction currentUserId dto asset now
      store = .ok (streamable, next)) :
    streamable.createdOn = now ∧ streamable.userId ∈ store.users.rows.map User.id ∧
      next.streamables.rows.map Streamable.card =
        store.streamables.rows.map Streamable.card ++ [streamable.card] ∧
      next.activities = store.activities ∧ next.users = store.users := by
  obtain ⟨currentUser, loaded, rest⟩ := bind_eq_ok.mp returned
  obtain ⟨rfl, rfl⟩ := Prod.mk.inj (Except.ok.inj rest)
  have known : currentUser ∈ store.users.rows :=
    Table.mem_of_find (loadCurrentUser_ok.mp loaded)
  exact ⟨rfl, List.mem_map_of_mem known, List.map_append, rfl, rfl⟩

theorem unfollow_sameCreations (currentUserId toUnfollowId : Long) (store : Store) :
    SameCreations store (transaction (unfollow currentUserId toUnfollowId) store).1 := by
  refine .of_transaction fun value next returned => ?_
  rw [unfollow] at returned
  split at returned
  · obtain ⟨currentUser, -, rest⟩ := bind_eq_ok.mp returned
    obtain ⟨-, rfl⟩ := Prod.mk.inj (Except.ok.inj rest)
    exact ⟨rfl, rfl, rfl⟩
  · exact absurd returned throw_ne_ok

theorem follow_sameCreations {currentUserId toFollowId : Long} {store next : Store}
    {value : User × Bool} (returned : follow currentUserId toFollowId store = .ok (value, next)) :
    SameCreations store next := by
  obtain ⟨innerUser, -, rest⟩ := bind_eq_ok.mp returned
  split at rest
  · split at rest
    · exact absurd rest throw_ne_ok
    · split at rest
      · obtain ⟨-, rfl⟩ := Prod.mk.inj (Except.ok.inj rest)
        exact .refl store
      · obtain ⟨-, rfl⟩ := Prod.mk.inj (Except.ok.inj rest)
        exact ⟨rfl, rfl, rfl⟩
  · exact absurd rest throw_ne_ok

theorem addNotificationToUser_sameCreations (notification : Notification) (store : Store) :
    SameCreations store (transaction (addNotificationToUser notification) store).1 := by
  refine .of_transaction fun value next returned => ?_
  rw [addNotificationToUser] at returned
  split at returned
  · exact absurd returned throw_ne_ok
  · obtain ⟨-, rfl⟩ := Prod.mk.inj (Except.ok.inj returned)
    exact ⟨rfl, rfl, rfl⟩

/-- The completion of an asset changes the assets of users and streamables alone. -/
theorem completeAsset_sameCreations (guid : String) (store : Store) :
    SameCreations store (transaction (completeAsset guid) store).1 := by
  refine .of_transaction fun value next returned => ?_
  obtain ⟨found, -, rest⟩ := bind_eq_ok.mp returned
  cases found with
  | none => exact absurd rest throw_ne_ok
  | some toUpdate =>
      obtain ⟨-, rfl⟩ := Prod.mk.inj (Except.ok.inj rest)
      exact ⟨List.map_map, rfl, List.map_map⟩

/-! ### What a step keeps -/

section Steps

variable {history : List PastCreation} {state next : FeedState}

/-- The last reading of the clock has not come before what it dates. -/
theorem RecordedBy.later (recorded : RecordedBy history state) {reading : Long}
    (later : state.lastReading ≤ reading) :
    RecordedBy history { state with lastReading := reading } where
  cards := recorded.cards
  creations := recorded.creations
  inOrder := recorded.inOrder
  dated past member :=
    ⟨(recorded.dated past member).1, le_trans (recorded.dated past member).2 later⟩
  known := recorded.known

/-- A store with the same creations, and jobs of no creation, have the same history. -/
theorem RecordedBy.same (recorded : RecordedBy history state) {store : Store} {jobs : List Job}
    (same : SameCreations state.store store)
    (sameJobs : (jobs.filterMap Job.creation).Perm (state.jobs.filterMap Job.creation)) :
    RecordedBy history { state with store, jobs } where
  cards := same.cards.trans recorded.cards
  creations := by
    rw [FeedState.creations, same.activities]
    exact (sameJobs.append_left _).trans recorded.creations
  inOrder := recorded.inOrder
  dated := recorded.dated
  known past member := by
    rw [same.userIds]
    exact recorded.known past member

/-- A creation is added to the history. -/
theorem RecordedBy.create (recorded : RecordedBy history state) {currentUserId first second : Long}
    {dto : StreamableGraffitiDto} {asset : Long → Asset} {others : List Job}
    (noCreations : others.filterMap Job.creation = []) (began : state.lastReading ≤ first)
    (ended : first ≤ second) :
    ∃ extended, RecordedBy extended
      { store := (createStreamable currentUserId dto asset others first second state.store).1
        jobs := state.jobs ++
          (createStreamable currentUserId dto asset others first second state.store).2
        lastReading := second } := by
  rw [createStreamable]
  rcases executeInTransactionWithResult_cases
    (createStreamableInTransaction currentUserId dto asset first) state.store with
    ⟨streamable, store, returned, result⟩ | ⟨thrown, -, result⟩
  · rw [result]
    obtain ⟨sameDate, known, cards, activities, users⟩ :=
      createStreamableInTransaction_cards returned
    let past : PastCreation := ⟨streamable.card, second⟩
    refine ⟨history ++ [past], ?_, ?_, ?_, ?_, ?_⟩
    · rw [List.map_append, ← recorded.cards]
      exact cards
    · have queued : (state.jobs ++
          addCreateStreamableActivityAsync streamable second :: others).filterMap Job.creation =
            state.jobs.filterMap Job.creation ++ [past.creation] := by
        rw [List.filterMap_append]
        refine congrArg (_ ++ ·) ?_
        exact congrArg (past.creation :: ·) noCreations
      rw [FeedState.creations, queued, activities, ← List.append_assoc, List.map_append]
      exact recorded.creations.append_right _
    · refine List.pairwise_append.mpr ⟨recorded.inOrder, List.pairwise_singleton _ _, ?_⟩
      intro earlier member latest isPast
      rw [List.mem_singleton.mp isPast]
      exact le_trans (recorded.dated earlier member).2 (le_of_le_of_eq began sameDate.symm)
    · intro entry member
      rcases List.mem_append.mp member with old | new
      · exact ⟨(recorded.dated entry old).1,
          le_trans (recorded.dated entry old).2 (le_trans began ended)⟩
      · rw [List.mem_singleton.mp new]
        exact ⟨le_of_eq_of_le sameDate ended, le_rfl⟩
    · intro entry member
      rw [users]
      rcases List.mem_append.mp member with old | new
      · exact recorded.known entry old
      · rw [List.mem_singleton.mp new]
        exact known
  · rw [result, List.append_nil]
    exact ⟨history, recorded.later (le_trans began ended)⟩

/-- A request that creates no streamable keeps the history. -/
theorem RecordedBy.serve (recorded : RecordedBy history state) {store : Store} {queued : List Job}
    {reading : Long} (same : SameCreations state.store store)
    (noCreations : queued.filterMap Job.creation = []) (later : state.lastReading ≤ reading) :
    RecordedBy history { store, jobs := state.jobs ++ queued, lastReading := reading } := by
  refine (recorded.later later).same same (List.Perm.of_eq ?_)
  rw [List.filterMap_append, noCreations, List.append_nil]

/-- The step lemma for requests. -/
theorem recordedBy_serve (recorded : RecordedBy history state) (request : FeedRequest)
    {first second : Long} (began : state.lastReading ≤ first) (ended : first ≤ second) :
    ∃ extended, RecordedBy extended
      { store := (request.perform first second state.store).1
        jobs := state.jobs ++ (request.perform first second state.store).2
        lastReading := second } := by
  have later : state.lastReading ≤ second := le_trans began ended
  cases request with
  | createStreamableGraffiti currentUserId dto transferred guid =>
      rw [FeedRequest.perform]
      split
      · exact recorded.create rfl began ended
      · exact ⟨history, recorded.serve (.refl _) rfl later⟩
  | createStreamableGraffitiFromExternalResource currentUserId dto guid =>
      rw [FeedRequest.perform]
      split
      · exact ⟨history, recorded.serve (.refl _) rfl later⟩
      · exact recorded.create rfl began ended
  | deleteStreamable currentUserId streamableId =>
      exact ⟨history, recorded.serve
        (deleteStreamable_sameCreations currentUserId streamableId _) rfl later⟩
  | makePublicOrPrivate currentUserId streamableId isPrivate =>
      exact ⟨history, recorded.serve
        (makePublicOrPrivate_sameCreations currentUserId streamableId isPrivate _) rfl later⟩
  | follow currentUserId toFollowId =>
      rw [FeedRequest.perform]
      rcases executeInTransactionWithResult_cases (GraffiTab.follow currentUserId toFollowId)
        state.store with ⟨⟨followed, isNew⟩, store, returned, result⟩ | ⟨thrown, -, result⟩
      · rw [result]
        refine ⟨history, recorded.serve ?_ ?_ later⟩
        · cases isNew <;> exact follow_sameCreations returned
        · cases isNew <;> rfl
      · rw [result]
        exact ⟨history, recorded.serve (.refl _) rfl later⟩
  | unfollow currentUserId toUnfollowId =>
      exact ⟨history, recorded.serve
        (unfollow_sameCreations currentUserId toUnfollowId _) rfl later⟩

/-- The creations of the jobs are those of one job and of the others. -/
theorem creations_eraseIdx {jobs : List Job} {position : Nat} {job : Job}
    (queued : jobs[position]? = some job) :
    (jobs.filterMap Job.creation).Perm
      (job.creation.toList ++ (jobs.eraseIdx position).filterMap Job.creation) := by
  obtain ⟨inside, isJob⟩ := List.getElem?_eq_some_iff.mp queued
  have split : (job :: jobs.eraseIdx position).Perm jobs :=
    isJob ▸ List.getElem_cons_eraseIdx_perm inside
  refine (split.filterMap Job.creation).symm.trans (List.Perm.of_eq ?_)
  rw [List.filterMap_cons]
  cases job.creation <;> rfl

/-- A job with a creation finds its user. -/
theorem RecordedBy.finds (recorded : RecordedBy history state) {position : Nat}
    {activity : Activity} {creation : Creation}
    (queued : state.jobs[position]? = some (.addActivity activity))
    (creates : activity.creation = some creation) :
    ∃ user, state.store.users.find activity.userId = some user := by
  have ofJob : creation ∈ state.jobs.filterMap Job.creation :=
    List.mem_filterMap.mpr ⟨_, List.mem_of_getElem? queued, creates⟩
  obtain ⟨past, member, rfl⟩ := List.mem_map.mp
    (recorded.creations.mem_iff.mp (List.mem_append_right _ ofJob))
  obtain ⟨user, stored, sameId⟩ := List.mem_map.mp (recorded.known past member)
  have sameUser : past.card.userId = activity.userId := by
    rw [Activity.creation] at creates
    split at creates
    · exact (congrArg Creation.userId (Option.some.inj creates)).symm
    · exact absurd creates nofun
  rw [← sameUser, ← sameId]
  exact ⟨user, Table.find_of_mem stored⟩

/-- A creation of a job comes into the table. -/
theorem recordedBy_addActivity (recorded : RecordedBy history state) {position : Nat}
    {activity : Activity} (queued : state.jobs[position]? = some (.addActivity activity)) :
    RecordedBy history { state with
      store := (transaction (addUserActivity activity) state.store).1
      jobs := state.jobs.eraseIdx position } := by
  have perm := creations_eraseIdx queued
  cases found : findUserById activity.userId state.store with
  | none =>
      have noCreation : activity.creation = none := by
        rw [Option.eq_none_iff_forall_not_mem]
        intro creation creates
        obtain ⟨user, known⟩ := recorded.finds queued creates
        exact absurd (found.symm.trans known) nofun
      have unchanged : (transaction (addUserActivity activity) state.store).1 = state.store := by
        rw [transaction, addUserActivity, found]
        rfl
      rw [unchanged]
      refine recorded.same (.refl _) ?_
      rw [Job.creation, noCreation] at perm
      exact perm.symm
  | some inner =>
      have sameId : inner.id = activity.userId := Table.id_of_find found
      have inserted : (transaction (addUserActivity activity) state.store).1 =
          { state.store with
            activities := state.store.activities.insert { activity with userId := inner.id } } := by
        rw [transaction, addUserActivity, found]
        rfl
      rw [inserted]
      refine ⟨recorded.cards, ?_, recorded.inOrder, recorded.dated, recorded.known⟩
      refine List.Perm.trans ?_ recorded.creations
      have stored : (state.store.activities.insert
          { activity with userId := inner.id }).rows.filterMap Activity.creation =
            state.store.activities.rows.filterMap Activity.creation ++
              activity.creation.toList := by
        rw [Table.insert, List.filterMap_append, sameId]
        refine congrArg (_ ++ ·) ?_
        cases content : activity.content <;> simp [Activity.creation, Identified.withId, content]
      rw [FeedState.creations, FeedState.creations, stored, List.append_assoc]
      exact perm.symm.append_left _

/-- The step lemma: requests extend the history, and jobs keep it. -/
theorem recordedBy_step (recorded : RecordedBy history state) {action : FeedAction}
    (taken : feedStep state action = some next) : ∃ extended, RecordedBy extended next := by
  cases action with
  | serve request first second =>
      rw [feedStep] at taken
      split at taken
      · rename_i inOrder
        exact Option.some.inj taken ▸ recordedBy_serve recorded request inOrder.1 inOrder.2
      · exact absurd taken nofun
  | runJob position uploaded =>
      rw [feedStep] at taken
      split at taken
      · rename_i job queued
        have perm := creations_eraseIdx queued
        refine ⟨history, Option.some.inj taken ▸ ?_⟩
        cases job with
        | addActivity activity => exact recordedBy_addActivity recorded queued
        | addNotification notification =>
            exact recorded.same (addNotificationToUser_sameCreations notification _) perm.symm
        | processAsset guid =>
            refine recorded.same ?_ perm.symm
            rw [Job.run]
            split
            · exact completeAsset_sameCreations guid _
            · exact .refl _
      · exact absurd taken nofun

end Steps

/-! ### The feed after a run -/

theorem FeedStart.recordedBy {state : FeedState} (start : FeedStart state) :
    RecordedBy [] state where
  cards := by
    rw [start.noStreamables]
    rfl
  creations := by
    rw [FeedState.creations, start.noActivities, start.drained]
    exact .nil
  inOrder := .nil
  dated := nofun
  known := nofun

section Drained

variable {history : List PastCreation} {state : FeedState}

theorem creation_eq_some {activity : Activity} {creation : Creation} :
    activity.creation = some creation ↔
      activity.content = .createStreamable creation.streamableId ∧
        activity.userId = creation.userId ∧ activity.createdOn = creation.createdOn := by
  rcases activity with ⟨id, userId, createdOn, content⟩
  rcases creation with ⟨streamableId, owner, date⟩
  cases content <;> simp [Activity.creation]

/-- Without jobs, the history is in the table. -/
theorem RecordedBy.stored (recorded : RecordedBy history state) (drained : state.jobs = []) :
    (state.store.activities.rows.filterMap Activity.creation).Perm
      (history.map PastCreation.creation) := by
  have creations := recorded.creations
  rw [FeedState.creations, drained, List.filterMap_nil, List.append_nil] at creations
  exact creations

theorem RecordedBy.distinct (recorded : RecordedBy history state) :
    (history.map fun past => past.card.id).Nodup := by
  have ids : history.map (fun past => past.card.id) =
      (state.store.streamables.rows.map Streamable.card).map Card.id := by
    rw [recorded.cards, List.map_map]
    rfl
  rw [ids, List.map_map]
  exact state.store.streamables.distinct

theorem RecordedBy.unique (recorded : RecordedBy history state) {past other : PastCreation}
    (member : past ∈ history) (otherMember : other ∈ history)
    (same : past.card.id = other.card.id) : past = other :=
  List.inj_on_of_nodup_map recorded.distinct member otherMember same

theorem RecordedBy.past_of_row (recorded : RecordedBy history state) {row : Streamable}
    (member : row ∈ state.store.streamables.rows) : ∃ past ∈ history, past.card = row.card := by
  have ofRow : row.card ∈ history.map PastCreation.card :=
    recorded.cards ▸ List.mem_map_of_mem member
  exact List.mem_map.mp ofRow

/-- A stored streamable and its activity belong to one creation of the history. -/
theorem RecordedBy.past (recorded : RecordedBy history state) (drained : state.jobs = [])
    {row : Streamable} (member : row ∈ state.store.streamables.rows) {activity : Activity}
    (creates : Creates state.store activity row) :
    ∃ past ∈ history, past.card = row.card ∧ activity.userId = row.userId ∧
      activity.createdOn = past.recordedOn := by
  obtain ⟨past, pastMember, sameCard⟩ := recorded.past_of_row member
  have ofActivity : ⟨row.id, activity.userId, activity.createdOn⟩ ∈
      history.map PastCreation.creation :=
    (recorded.stored drained).mem_iff.mp (List.mem_filterMap.mpr
      ⟨activity, creates.1, creation_eq_some.mpr ⟨creates.2, rfl, rfl⟩⟩)
  obtain ⟨other, otherMember, isCreation⟩ := List.mem_map.mp ofActivity
  have sameId : past.card.id = other.card.id :=
    (congrArg Card.id sameCard).trans (congrArg Creation.streamableId isCreation).symm
  obtain rfl := recorded.unique pastMember otherMember sameId
  exact ⟨past, pastMember, sameCard,
    (congrArg Creation.userId isCreation).symm.trans (congrArg Card.userId sameCard),
    (congrArg Creation.createdOn isCreation).symm⟩

/-- Of two creations, the one that is recorded later is that of the younger streamable, unless both
are recorded at one date. -/
theorem RecordedBy.agree (recorded : RecordedBy history state) {past other : PastCreation}
    (member : past ∈ history) (otherMember : other ∈ history)
    (later : other.recordedOn ≤ past.recordedOn) :
    other.card.createdOn ≤ past.card.createdOn ∨ other.recordedOn = past.recordedOn := by
  let Agree (past other : PastCreation) : Prop := other.recordedOn ≤ past.recordedOn →
    other.card.createdOn ≤ past.card.createdOn ∨ other.recordedOn = past.recordedOn
  have forwards : history.Pairwise Agree := by
    refine recorded.inOrder.imp_of_mem fun {first second} _ secondMember ordered atMost => .inr ?_
    exact le_antisymm atMost (le_trans ordered (recorded.dated second secondMember).1)
  have backwards : history.Pairwise (flip Agree) := by
    refine recorded.inOrder.imp_of_mem fun {first second} firstMember _ ordered _ => .inl ?_
    exact le_trans (recorded.dated first firstMember).1 ordered
  exact List.Pairwise.forall_of_forall_of_flip (fun _ _ _ => .inl le_rfl) forwards backwards
    member otherMember later

/-- Two activities of the table do not create one streamable. -/
theorem RecordedBy.activity_unique (recorded : RecordedBy history state)
    (drained : state.jobs = []) {activity other : Activity} {row : Streamable}
    (creates : Creates state.store activity row) (otherCreates : Creates state.store other row) :
    activity = other := by
  have distinct : (state.store.activities.rows.filterMap Activity.creation).Pairwise
      fun first second => first.streamableId ≠ second.streamableId := by
    refine List.pairwise_map.mp (((recorded.stored drained).map _).nodup_iff.mpr ?_)
    rw [List.map_map]
    exact recorded.distinct
  rw [List.pairwise_filterMap] at distinct
  let Apart (first second : Activity) : Prop := first = second ∨
    ∀ creation, first.creation = some creation → ∀ otherCreation,
      second.creation = some otherCreation →
        creation.streamableId ≠ otherCreation.streamableId
  have forwards : state.store.activities.rows.Pairwise Apart :=
    distinct.imp fun apart => .inr apart
  have backwards : state.store.activities.rows.Pairwise (flip Apart) :=
    distinct.imp fun apart => .inr fun creation isCreation otherCreation isOther =>
      (apart otherCreation isOther creation isCreation).symm
  rcases List.Pairwise.forall_of_forall_of_flip (fun _ _ => .inl rfl) forwards backwards
    creates.1 otherCreates.1 with same | apart
  · exact same
  · exact absurd rfl (apart ⟨row.id, activity.userId, activity.createdOn⟩
      (creation_eq_some.mpr ⟨creates.2, rfl, rfl⟩) ⟨row.id, other.userId, other.createdOn⟩
      (creation_eq_some.mpr ⟨otherCreates.2, rfl, rfl⟩))

/-- What the feed needs to know of a database without jobs. -/
theorem RecordedBy.recorded (recorded : RecordedBy history state) (drained : state.jobs = []) :
    Recorded state.store := by
  constructor
  case created =>
    intro row member
    obtain ⟨past, pastMember, sameCard⟩ := recorded.past_of_row member
    obtain ⟨activity, stored, isCreation⟩ := List.mem_filterMap.mp
      ((recorded.stored drained).mem_iff.mpr (List.mem_map_of_mem pastMember))
    refine ⟨activity, stored, (creation_eq_some.mp isCreation).1.trans ?_⟩
    exact congrArg ActivityContent.createStreamable (congrArg Card.id sameCard)
  case unique =>
    intro activity other row creates otherCreates
    exact recorded.activity_unique drained creates otherCreates
  case owner =>
    intro row member activity creates
    obtain ⟨past, -, -, owner, -⟩ := recorded.past drained member creates
    exact owner
  case known =>
    intro row member
    obtain ⟨past, pastMember, sameCard⟩ := recorded.past_of_row member
    obtain ⟨user, stored, sameId⟩ := List.mem_map.mp (recorded.known past pastMember)
    exact ⟨user, stored, sameId.trans (congrArg Card.userId sameCard)⟩
  case agree =>
    intro row member other otherMember activity otherActivity creates otherCreates later
    obtain ⟨past, pastMember, card, -, date⟩ := recorded.past drained member creates
    obtain ⟨otherPast, otherPastMember, otherCard, -, otherDate⟩ :=
      recorded.past drained otherMember otherCreates
    rw [date, otherDate] at later ⊢
    have dates := recorded.agree pastMember otherPastMember later
    rw [card, otherCard] at dates
    exact dates

end Drained

/-- After every run, once no job is queued, the feed of every user is exact. -/
theorem userFeed_exact {start final : FeedState} (started : FeedStart start)
    (reached : Reaches feedStep unrestricted start final) (drained : final.jobs = [])
    {currentUserId : Long} {currentUser : User}
    (known : final.store.users.find currentUserId = some currentUser) :
    FeedExact currentUserId final.store (Activity.getUserFeed currentUserId final.store) := by
  obtain ⟨history, recordedBy⟩ : ∃ history, RecordedBy history final :=
    reached.invariant (fun state => ∃ history, RecordedBy history state)
      ⟨[], started.recordedBy⟩
      fun _ _ _ holds _ taken => holds.elim fun _ recorded => recordedBy_step recorded taken
  have recorded : Recorded final.store := recordedBy.recorded drained
  rw [getUserFeed_eq]
  exact (feedEntries_getUserFeed recorded known).feedExact recorded

/-! ### A run -/

/-- Alice and bob, who have created nothing. -/
def nothingCreated : FeedState where
  store :=
    { Store.empty with
      users := (Table.empty.insert (plainUser 0 "alice")).insert (plainUser 0 "bob") }
  jobs := []
  lastReading := 0

/-- A graffiti with its own image. -/
def plainGraffiti (isPrivate : Bool) : StreamableGraffitiDto where
  latitude := none
  longitude := none
  roll := none
  yaw := none
  pitch := none
  asset := none
  text := none
  isPrivate := some isPrivate

/-- Bob creates a public and a private graffiti, and alice follows him before the jobs run. -/
def followedCreations : List FeedAction :=
  [.serve (.createStreamableGraffiti 2 (plainGraffiti false) true "first") 1 2,
    .serve (.createStreamableGraffiti 2 (plainGraffiti true) true "second") 3 4,
    .serve (.follow 1 2) 5 6,
    .runJob 2 true, .runJob 0 true, .runJob 0 false, .runJob 0 true, .runJob 0 true,
    .runJob 0 true]

def afterFollowedCreations : FeedState :=
  (run feedStep nothingCreated followedCreations).getD nothingCreated

theorem userFeed_exact_followedCreations :
    FeedExact 1 afterFollowedCreations.store
      (Activity.getUserFeed 1 afterFollowedCreations.store) := by
  have executed : run feedStep nothingCreated followedCreations = some afterFollowedCreations := by
    rfl
  exact userFeed_exact ⟨rfl, rfl, rfl⟩ (reaches_of_run_unrestricted _ executed) rfl rfl

end GraffiTab
