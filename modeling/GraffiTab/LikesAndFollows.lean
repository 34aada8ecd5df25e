/-
This file asks whether likes and follows are announced exactly once.

A like or a follow changes an edge in one transaction and queues a notification for the
other user and an activity of the current one, each of which a job stores in a
transaction of its own. Between the two a like compares the owner of the streamable with the
current user. The owner is a lazy association, and the session is closed with the transaction:
unless the transaction has loaded the owner by itself, the comparison throws, and the like is
stored but not announced.

What is counted does not change when a job is taken from the queue: the stored notifications
and the queued ones are together as many as the calls that found the edge absent and could
read the owner. The same holds for the activities, so that one invariant, `Announces.counts`,
serves the four kinds of them.
-/

import GraffiTab.EdgeLists
import GraffiTab.UserFeed

namespace GraffiTab

open Tables Runs

/-! ### The requests -/

/-- The transaction of `StreamableService.like`, with the streamable and whether the user likes it
since now. -/
def like (currentUserId toLikeId : Long) : Transaction (Streamable × Bool) := fun store => do
  let innerUser ← loadCurrentUser currentUserId store
  match store.streamables.find toLikeId with
  | some innerStreamable =>
      if ⟨innerStreamable.id, innerUser.id⟩ ∈ store.likes then
        return ((innerStreamable, false), store)
      else
        return ((innerStreamable, true),
          { store with likes := store.likes ++ [⟨innerStreamable.id, innerUser.id⟩] })
  | none => throw (streamableNotFound toLikeId)

/-- `StreamableService.unlike`. -/
def unlike (currentUserId toUnlikeId : Long) : Transaction Streamable := fun store => do
  match store.streamables.find toUnlikeId with
  | some toUnlike =>
      let currentUser ← loadCurrentUser currentUserId store
      return (toUnlike, { store with likes := store.likes.erase ⟨toUnlike.id, currentUser.id⟩ })
  | none => throw (streamableNotFound toUnlikeId)

/-- `addLikeNotification`, unless the user likes an own streamable, and `addLikeActivityAsync`. -/
def likeJobs (currentUserId : Long) (streamable : Streamable) (first second : Long) : List Job :=
  (if streamable.userId = currentUserId then []
    else [.addNotification
      { id := 0, userId := streamable.userId, isRead := false, createdOn := first
        content := .like currentUserId streamable.id }]) ++
    [.addActivity
      { id := 0, userId := currentUserId, createdOn := second
        content := .like streamable.id }]

/-- The transaction of a like has loaded the owner of the streamable, as the current user or with
the other likers. Otherwise the owner is a proxy without a session, and `getUser().equals` throws a
`LazyInitializationException`. -/
def Streamable.ownerLoaded (streamable : Streamable) (likers : List Like) : Bool :=
  likers.contains ⟨streamable.id, streamable.userId⟩

/-- What a request leaves in the database, and the jobs that it queues; it reads the clock for the
notification and for the activity. -/
def EdgeRequest.serve (first second : Long) (store : Store) : EdgeRequest → Store × List Job
  | .like currentUserId toLikeId =>
      match executeInTransactionWithResult (GraffiTab.like currentUserId toLikeId) store with
      | (next, .ok (streamable, true)) =>
          if streamable.ownerLoaded next.likes then
            (next, likeJobs currentUserId streamable first second)
          else (next, [])
      | (next, _) => (next, [])
  | .unlike currentUserId toUnlikeId =>
      ((transaction (GraffiTab.unlike currentUserId toUnlikeId) store).1, [])
  | .follow currentUserId toFollowId =>
      (FeedRequest.follow currentUserId toFollowId).perform first second store
  | .unfollow currentUserId toUnfollowId =>
      (FeedRequest.unfollow currentUserId toUnfollowId).perform first second store

/-! ### Runs -/

/-- The database, the queued jobs, and the calls so far, each with the database that it found. -/
structure EdgeCallsState where
  store : Store
  jobs : List Job
  calls : List (EdgeRequest × Store)

/-- A call is served, or a job takes effect; the queue can be drained in any order. -/
inductive EdgeCallsAction where
  | serve (request : EdgeRequest) (first second : Long)
  | runJob (position : Nat)

def edgeCallsStep (state : EdgeCallsState) : EdgeCallsAction → Option EdgeCallsState
  | .serve request first second =>
      let (store, queued) := request.serve first second state.store
      some
        { store
          jobs := state.jobs ++ queued
          calls := state.calls ++ [(request, state.store)] }
  | .runJob position =>
      match state.jobs[position]? with
      | some job =>
          some { state with
            store := job.run false state.store
            jobs := state.jobs.eraseIdx position }
      | none => none

theorem edgeCallsStep_serve (state : EdgeCallsState) (request : EdgeRequest)
    (first second : Long) :
    edgeCallsStep state (.serve request first second) = some
      { store := (request.serve first second state.store).1
        jobs := state.jobs ++ (request.serve first second state.store).2
        calls := state.calls ++ [(request, state.store)] } := rfl

/-- A call of `like` by the user on the streamable that found the user not yet a liker. -/
def newLike (userId streamableId : Long) : EdgeRequest × Store → Bool
  | (.like currentUserId toLikeId, found) =>
      currentUserId = userId && toLikeId = streamableId &&
        !found.likes.contains ⟨streamableId, userId⟩
  | _ => false

/-- The owner is the liker, or is found among the likers. -/
def Streamable.ownerKnown (streamable : Streamable) (userId : Long) (found : Store) : Bool :=
  streamable.userId = userId || streamable.ownerLoaded found.likes

/-- A call of `follow` by the user that found the edge to another user absent. -/
def newFollow (userId followedId : Long) : EdgeRequest × Store → Bool
  | (.follow currentUserId toFollowId, found) =>
      currentUserId = userId && toFollowId = followedId && userId ≠ followedId &&
        !found.following.contains ⟨userId, followedId⟩
  | _ => false

/-- The notifications of the content in the list of the user. -/
def Store.countNotifications (store : Store) (userId : Long) (content : NotificationContent) :
    Nat :=
  store.notifications.rows.countP fun notification =>
    notification.userId = userId && notification.content = content

/-- Every streamable has a user, as its foreign key asks. -/
def StreamablesOwned (store : Store) : Prop :=
  ∀ streamable ∈ store.streamables.rows, ∃ user ∈ store.users.rows, user.id = streamable.userId

/-! ### What a request does -/

/-- `addFollowNotification` and `addFollowActivityAsync`. -/
def followJobs (currentUserId followedId first second : Long) : List Job :=
  [.addNotification
    { id := 0, userId := followedId, isRead := false, createdOn := first
      content := .follow currentUserId },
   .addActivity
    { id := 0, userId := currentUserId, createdOn := second, content := .follow followedId }]

/-- The database with other edges. -/
def Store.withEdges (store : Store) (likes : List Like) (following : List Following) : Store :=
  { store with likes, following }

/-- What a request does: it queues nothing and is no call that finds an edge of known users and
streamables absent, or it adds one edge and queues the two jobs for it, unless it is a like after
which the owner cannot be read. -/
inductive ServeEffect (first second : Long) (store : Store) :
    EdgeRequest → Store × List Job → Prop
  | quiet {request : EdgeRequest} (likes : List Like) (following : List Following)
      (noLike : ∀ user streamable, store.users.find user.id = some user →
        store.streamables.find streamable.id = some streamable →
          newLike user.id streamable.id (request, store) = false)
      (noFollow : ∀ user followed, store.users.find user.id = some user →
        store.users.find followed.id = some followed →
          newFollow user.id followed.id (request, store) = false) :
      ServeEffect first second store request (store.withEdges likes following, [])
  | like {user : User} {streamable : Streamable}
      (known : store.users.find user.id = some user)
      (stored : store.streamables.find streamable.id = some streamable)
      (absent : ⟨streamable.id, user.id⟩ ∉ store.likes)
      (owner : streamable.ownerKnown user.id store = true) :
      ServeEffect first second store (.like user.id streamable.id)
        (store.withEdges (store.likes ++ [⟨streamable.id, user.id⟩]) store.following,
          likeJobs user.id streamable first second)
  | unannounced {user : User} {streamable : Streamable}
      (stored : store.streamables.find streamable.id = some streamable)
      (absent : ⟨streamable.id, user.id⟩ ∉ store.likes)
      (noOwner : streamable.ownerKnown user.id store = false) :
      ServeEffect first second store (.like user.id streamable.id)
        (store.withEdges (store.likes ++ [⟨streamable.id, user.id⟩]) store.following, [])
  | follow {user followed : User} (known : store.users.find user.id = some user)
      (found : store.users.find followed.id = some followed) (other : user.id ≠ followed.id)
      (absent : ⟨user.id, followed.id⟩ ∉ store.following) :
      ServeEffect first second store (.follow user.id followed.id)
        (store.withEdges store.likes (store.following ++ [⟨user.id, followed.id⟩]),
          followJobs user.id followed.id first second)

section Requests

variable {first second : Long} {store : Store}

/-- The owner is loaded when it is the new liker or was one before. -/
theorem ownerLoaded_append (streamable : Streamable) (userId : Long) (store : Store) :
    streamable.ownerLoaded (store.likes ++ [⟨streamable.id, userId⟩]) =
      streamable.ownerKnown userId store := by
  rw [Streamable.ownerKnown, Streamable.ownerLoaded, List.contains_append, Bool.or_comm,
    List.contains_cons, List.contains_nil, Bool.or_false]
  refine congrArg (· || streamable.ownerLoaded store.likes) ?_
  simp only [beq_eq_decide, Like.mk.injEq, true_and]

/-- What a like leaves in the database, announced or not, is what its transaction leaves. -/
theorem serve_like_fst (currentUserId toLikeId : Long) :
    ((EdgeRequest.like currentUserId toLikeId).serve first second store).1 =
      (executeInTransactionWithResult (like currentUserId toLikeId) store).1 := by
  rw [EdgeRequest.serve]
  split
  · rename_i same
    split <;> rw [same]
  · rename_i same
    rw [same]

/-- A like that throws in its transaction, or that finds its edge, changes nothing. -/
theorem serve_like_old {currentUserId toLikeId : Long}
    (old : ∀ user streamable, store.users.find currentUserId = some user →
      store.streamables.find toLikeId = some streamable →
        ⟨toLikeId, currentUserId⟩ ∈ store.likes) :
    (EdgeRequest.like currentUserId toLikeId).serve first second store = (store, []) := by
  rw [EdgeRequest.serve, executeInTransactionWithResult, like]
  cases known : store.users.find currentUserId with
  | none => simp only [loadCurrentUser, findUserById, known, bind, Except.bind]
  | some user =>
      rw [loadCurrentUser_ok.mpr known]
      cases stored : store.streamables.find toLikeId with
      | none => rfl
      | some streamable =>
          have present := old user streamable known stored
          obtain rfl : user.id = currentUserId := Table.id_of_find known
          obtain rfl : streamable.id = toLikeId := Table.id_of_find stored
          simp only [bind, Except.bind, if_pos present]
          rfl

theorem serve_follow_old {currentUserId toFollowId : Long}
    (old : ∀ user followed, store.users.find currentUserId = some user →
      store.users.find toFollowId = some followed → currentUserId ≠ toFollowId →
        ⟨currentUserId, toFollowId⟩ ∈ store.following) :
    (EdgeRequest.follow currentUserId toFollowId).serve first second store = (store, []) := by
  rw [EdgeRequest.serve, FeedRequest.perform, executeInTransactionWithResult, follow]
  cases known : store.users.find currentUserId with
  | none => simp only [loadCurrentUser, findUserById, known, bind, Except.bind]
  | some user =>
      rw [loadCurrentUser_ok.mpr known]
      cases found : store.users.find toFollowId with
      | none =>
          simp only [findUserById, found]
          rfl
      | some followed =>
          have present := old user followed known found
          obtain rfl : user.id = currentUserId := Table.id_of_find known
          obtain rfl : followed.id = toFollowId := Table.id_of_find found
          simp only [findUserById, found]
          by_cases self : user.id = followed.id
          · simp only [bind, Except.bind, if_pos self]
            rfl
          · simp only [bind, Except.bind, if_neg self, if_pos (present self)]
            rfl

/-- A like that throws in its transaction, or that finds its edge, is quiet. -/
theorem serveEffect_like_old {currentUserId toLikeId : Long}
    (old : ∀ user streamable, store.users.find currentUserId = some user →
      store.streamables.find toLikeId = some streamable →
        ⟨toLikeId, currentUserId⟩ ∈ store.likes) :
    ServeEffect first second store (.like currentUserId toLikeId) (store, []) := by
  refine .quiet store.likes store.following (fun user streamable known stored => ?_)
    fun _ _ _ _ => rfl
  rw [newLike, Bool.eq_false_iff]
  intro new
  simp only [Bool.and_eq_true, decide_eq_true_eq, Bool.not_eq_true', List.contains_eq_mem,
    decide_eq_false_iff_not] at new
  obtain ⟨⟨rfl, rfl⟩, absent⟩ := new
  exact absent (old user streamable known stored)

theorem serveEffect_follow_old {currentUserId toFollowId : Long}
    (old : ∀ user followed, store.users.find currentUserId = some user →
      store.users.find toFollowId = some followed → currentUserId ≠ toFollowId →
        ⟨currentUserId, toFollowId⟩ ∈ store.following) :
    ServeEffect first second store (.follow currentUserId toFollowId) (store, []) := by
  refine .quiet store.likes store.following (fun _ _ _ _ => rfl)
    fun user followed known found => ?_
  rw [newFollow, Bool.eq_false_iff]
  intro new
  simp only [Bool.and_eq_true, decide_eq_true_eq, Bool.not_eq_true', List.contains_eq_mem,
    decide_eq_false_iff_not] at new
  obtain ⟨⟨⟨rfl, rfl⟩, other⟩, absent⟩ := new
  exact absent (old user followed known found other)

variable (first second store)

theorem serveEffect_like (currentUserId toLikeId : Long) :
    ServeEffect first second store (.like currentUserId toLikeId)
      ((EdgeRequest.like currentUserId toLikeId).serve first second store) := by
  by_cases old : ∀ user streamable, store.users.find currentUserId = some user →
      store.streamables.find toLikeId = some streamable → ⟨toLikeId, currentUserId⟩ ∈ store.likes
  · rw [serve_like_old old]
    exact serveEffect_like_old old
  · simp only [not_forall] at old
    obtain ⟨user, streamable, known, stored, absent⟩ := old
    obtain rfl : user.id = currentUserId := Table.id_of_find known
    obtain rfl : streamable.id = toLikeId := Table.id_of_find stored
    have served : (EdgeRequest.like user.id streamable.id).serve first second store =
        (store.withEdges (store.likes ++ [⟨streamable.id, user.id⟩]) store.following,
          if streamable.ownerKnown user.id store then likeJobs user.id streamable first second
          else []) := by
      rw [EdgeRequest.serve, executeInTransactionWithResult, like, loadCurrentUser_ok.mpr known]
      simp only [bind, Except.bind, stored, if_neg absent, pure, Except.pure, ownerLoaded_append]
      exact (apply_ite _ _ _ _).symm
    rw [served]
    by_cases owner : streamable.ownerKnown user.id store = true
    · rw [if_pos owner]
      exact .like known stored absent owner
    · rw [if_neg owner]
      exact .unannounced stored absent (Bool.eq_false_iff.mpr owner)

theorem serveEffect_follow (currentUserId toFollowId : Long) :
    ServeEffect first second store (.follow currentUserId toFollowId)
      ((EdgeRequest.follow currentUserId toFollowId).serve first second store) := by
  by_cases old : ∀ user followed, store.users.find currentUserId = some user →
      store.users.find toFollowId = some followed → currentUserId ≠ toFollowId →
        ⟨currentUserId, toFollowId⟩ ∈ store.following
  · rw [serve_follow_old old]
    exact serveEffect_follow_old old
  · simp only [not_forall] at old
    obtain ⟨user, followed, known, found, other, absent⟩ := old
    obtain rfl : user.id = currentUserId := Table.id_of_find known
    obtain rfl : followed.id = toFollowId := Table.id_of_find found
    have served : (EdgeRequest.follow user.id followed.id).serve first second store =
        (store.withEdges store.likes (store.following ++ [⟨user.id, followed.id⟩]),
          followJobs user.id followed.id first second) := by
      rw [EdgeRequest.serve, FeedRequest.perform, executeInTransactionWithResult, follow,
        loadCurrentUser_ok.mpr known]
      simp only [bind, Except.bind, findUserById, found, if_neg other, if_neg absent]
      rfl
    rw [served]
    exact .follow known found other absent

theorem serveEffect_unlike (currentUserId toUnlikeId : Long) :
    ServeEffect first second store (.unlike currentUserId toUnlikeId)
      ((EdgeRequest.unlike currentUserId toUnlikeId).serve first second store) := by
  obtain ⟨likes, same⟩ : ∃ likes,
      (transaction (unlike currentUserId toUnlikeId) store).1 =
        store.withEdges likes store.following := by
    rcases transaction_cases (unlike currentUserId toUnlikeId) store with
      ⟨value, next, returned, same⟩ | ⟨thrown, -, same⟩
    · unfold unlike at returned
      split at returned
      · obtain ⟨user, -, rest⟩ := bind_eq_ok.mp returned
        obtain ⟨-, rfl⟩ := Prod.mk.inj (Except.ok.inj rest)
        exact ⟨_, by rw [same]; rfl⟩
      · exact absurd returned throw_ne_ok
    · exact ⟨store.likes, by rw [same]; rfl⟩
  rw [EdgeRequest.serve, same]
  exact .quiet likes store.following (fun _ _ _ _ => rfl) fun _ _ _ _ => rfl

theorem serveEffect_unfollow (currentUserId toUnfollowId : Long) :
    ServeEffect first second store (.unfollow currentUserId toUnfollowId)
      ((EdgeRequest.unfollow currentUserId toUnfollowId).serve first second store) := by
  obtain ⟨following, same⟩ : ∃ following,
      (transaction (unfollow currentUserId toUnfollowId) store).1 =
        store.withEdges store.likes following := by
    rcases transaction_cases (unfollow currentUserId toUnfollowId) store with
      ⟨value, next, returned, same⟩ | ⟨thrown, -, same⟩
    · unfold unfollow at returned
      split at returned
      · obtain ⟨user, -, rest⟩ := bind_eq_ok.mp returned
        obtain ⟨-, rfl⟩ := Prod.mk.inj (Except.ok.inj rest)
        exact ⟨_, by rw [same]; rfl⟩
      · exact absurd returned throw_ne_ok
    · exact ⟨store.following, by rw [same]; rfl⟩
  rw [EdgeRequest.serve, FeedRequest.perform, same]
  exact .quiet store.likes following (fun _ _ _ _ => rfl) fun _ _ _ _ => rfl

theorem serveEffect (request : EdgeRequest) :
    ServeEffect first second store request (request.serve first second store) := by
  cases request with
  | like currentUserId toLikeId => exact serveEffect_like first second store currentUserId toLikeId
  | unlike currentUserId toUnlikeId =>
      exact serveEffect_unlike first second store currentUserId toUnlikeId
  | follow currentUserId toFollowId =>
      exact serveEffect_follow first second store currentUserId toFollowId
  | unfollow currentUserId toUnfollowId =>
      exact serveEffect_unfollow first second store currentUserId toUnfollowId

end Requests

/-! ### What is counted -/

/-- The job adds a notification of the content to the list of the user. -/
def Job.notifies (userId : Long) (content : NotificationContent) : Job → Bool
  | .addNotification notification =>
      notification.userId = userId && notification.content = content
  | _ => false

/-- The job adds an activity of the content to the list of the user. -/
def Job.records (userId : Long) (content : ActivityContent) : Job → Bool
  | .addActivity activity => activity.userId = userId && activity.content = content
  | _ => false

/-- The job is for a known user, and changes nothing but a list of that user. -/
def Job.Addressed (store : Store) : Job → Prop
  | .addActivity activity => ∃ user, store.users.find activity.userId = some user
  | .addNotification notification => ∃ user, store.users.find notification.userId = some user
  | .processAsset _ => False

section Jobs

variable {store : Store} {job : Job}

/-- A job leaves users, streamables and edges as they are. -/
theorem Job.Addressed.run (addressed : job.Addressed store) :
    (job.run false store).users = store.users ∧
      (job.run false store).streamables = store.streamables := by
  cases job with
  | addActivity activity =>
      obtain ⟨user, known⟩ := addressed
      simp only [Job.run, transaction, addUserActivity, findUserById, known, pure, Except.pure,
        and_self]
  | addNotification notification =>
      obtain ⟨user, known⟩ := addressed
      simp only [Job.run, transaction, addNotificationToUser, findUserById, known, pure,
        Except.pure, and_self]
  | processAsset guid => exact addressed.elim

theorem Job.Addressed.countNotifications_run (addressed : job.Addressed store) (userId : Long)
    (content : NotificationContent) :
    (job.run false store).countNotifications userId content =
      store.countNotifications userId content + if job.notifies userId content then 1 else 0 := by
  cases job with
  | addActivity activity =>
      obtain ⟨user, known⟩ := addressed
      simp only [Job.run, transaction, addUserActivity, findUserById, known, pure, Except.pure]
      rfl
  | addNotification notification =>
      obtain ⟨user, known⟩ := addressed
      have sameUser : user.id = notification.userId := Table.id_of_find known
      simp only [Job.run, transaction, addNotificationToUser, findUserById, known, pure,
        Except.pure, Store.countNotifications, Table.insert, List.countP_append,
        List.countP_singleton, sameUser]
      rfl
  | processAsset guid => exact addressed.elim

end Jobs

/-- What is counted in the database is announced by the calls: every such call queues one job that
is counted when it runs, and nothing else does. -/
structure Announces (start : Store) (counted : Store → Nat) (queues : Job → Bool)
    (announced : EdgeRequest × Store → Bool) : Prop where
  edges : ∀ store likes following, counted (store.withEdges likes following) = counted store
  runs : ∀ job store, job.Addressed store →
    counted (job.run false store) = counted store + if queues job then 1 else 0
  serves : ∀ request first second store, store.users = start.users →
    store.streamables = start.streamables →
      (request.serve first second store).2.countP queues =
        if announced (request, store) then 1 else 0

section Queued

variable {store : Store} {currentUserId userId first second : Long}

end Queued

/-! ### The four countings -/

section Counted

variable {start : Store}

end Counted

/-! ### Runs -/

/-- Users and streamables stay, and every queued job is for a known user. -/
structure EdgeCallsKept (start : Store) (state : EdgeCallsState) : Prop where
  users : state.store.users = start.users
  streamables : state.store.streamables = start.streamables
  addressed : ∀ job ∈ state.jobs, job.Addressed state.store

section Runs

variable {start : Store} {state next : EdgeCallsState} {action : EdgeCallsAction}

theorem Job.Addressed.congr {first second : Store} {job : Job} (addressed : job.Addressed first)
    (users : second.users = first.users) : job.Addressed second := by
  cases job with
  | addActivity activity =>
      rw [Job.Addressed, users]
      exact addressed
  | addNotification notification =>
      rw [Job.Addressed, users]
      exact addressed
  | processAsset guid => exact addressed.elim

theorem serve_kept (owned : StreamablesOwned start) (users : state.store.users = start.users)
    (streamables : state.store.streamables = start.streamables) (request : EdgeRequest)
    (first second : Long) :
    (request.serve first second state.store).1.users = start.users ∧
      (request.serve first second state.store).1.streamables = start.streamables ∧
      ∀ job ∈ (request.serve first second state.store).2, job.Addressed state.store := by
  have effect := serveEffect first second state.store request
  generalize request.serve first second state.store = served at effect
  cases effect with
  | quiet _ _ _ _ => exact ⟨users, streamables, fun job member => absurd member List.not_mem_nil⟩
  | unannounced _ _ _ =>
      exact ⟨users, streamables, fun job member => absurd member List.not_mem_nil⟩
  | @like user streamable known stored absent owner =>
      refine ⟨users, streamables, fun job member => ?_⟩
      rcases List.mem_append.mp member with notifies | records
      · split at notifies
        · exact absurd notifies List.not_mem_nil
        · obtain rfl := List.mem_singleton.mp notifies
          obtain ⟨owner, member, isOwner⟩ :=
            owned streamable (streamables ▸ Table.mem_of_find stored)
          exact ⟨owner, users ▸ isOwner ▸ Table.find_of_mem member⟩
      · obtain rfl := List.mem_singleton.mp records
        exact ⟨user, known⟩
  | @follow user followed known found other absent =>
      refine ⟨users, streamables, fun job member => ?_⟩
      rcases List.mem_cons.mp member with rfl | records
      · exact ⟨followed, found⟩
      · obtain rfl := List.mem_singleton.mp records
        exact ⟨user, known⟩

theorem edgeCallsKept_step (owned : StreamablesOwned start) (kept : EdgeCallsKept start state)
    (taken : edgeCallsStep state action = some next) : EdgeCallsKept start next := by
  cases action with
  | serve request first second =>
      rw [edgeCallsStep_serve] at taken
      obtain rfl := Option.some.inj taken
      obtain ⟨users, streamables, addressed⟩ :=
        serve_kept owned kept.users kept.streamables request first second
      refine ⟨users, streamables, fun job member => ?_⟩
      refine Job.Addressed.congr ?_ (users.trans kept.users.symm)
      rcases List.mem_append.mp member with old | new
      · exact kept.addressed job old
      · exact addressed job new
  | runJob position =>
      rw [edgeCallsStep] at taken
      split at taken
      · rename_i job chosen
        obtain rfl := Option.some.inj taken
        obtain ⟨users, streamables⟩ := (kept.addressed job (List.mem_of_getElem? chosen)).run
        exact ⟨users.trans kept.users, streamables.trans kept.streamables, fun other member =>
          (kept.addressed other (List.mem_of_mem_eraseIdx member)).congr users⟩
      · cases taken

/-- What is stored and what is queued is together what was there and what the calls announced. -/
theorem Announces.counts {counted : Store → Nat} {queues : Job → Bool}
    {announced : EdgeRequest × Store → Bool} (owned : StreamablesOwned start)
    (announces : Announces start counted queues announced)
    (reached : Reaches edgeCallsStep unrestricted ⟨start, [], []⟩ state) :
    EdgeCallsKept start state ∧
      counted state.store + state.jobs.countP queues =
        counted start + state.calls.countP announced := by
  refine reached.invariant (fun state => EdgeCallsKept start state ∧
    counted state.store + state.jobs.countP queues =
      counted start + state.calls.countP announced)
    ⟨⟨rfl, rfl, fun job member => absurd member List.not_mem_nil⟩, rfl⟩ ?_
  rintro state action next ⟨kept, counts⟩ - taken
  refine ⟨edgeCallsKept_step owned kept taken, ?_⟩
  cases action with
  | serve request first second =>
      rw [edgeCallsStep_serve] at taken
      obtain rfl := Option.some.inj taken
      have queued := announces.serves request first second state.store kept.users kept.streamables
      have same : counted (request.serve first second state.store).1 = counted state.store := by
        have effect := serveEffect first second state.store request
        generalize request.serve first second state.store = served at effect
        cases effect <;> exact announces.edges _ _ _
      simp only [List.countP_append, List.countP_singleton, queued, same]
      omega
  | runJob position =>
      rw [edgeCallsStep] at taken
      split at taken
      · rename_i job chosen
        obtain rfl := Option.some.inj taken
        obtain ⟨inside, isJob⟩ := List.getElem?_eq_some_iff.mp chosen
        have perm : (job :: state.jobs.eraseIdx position).Perm state.jobs :=
          isJob ▸ List.getElem_cons_eraseIdx_perm inside
        have ran := announces.runs job state.store
          (kept.addressed job (List.mem_of_getElem? chosen))
        rw [← perm.countP_eq, List.countP_cons] at counts
        simp only [ran]
        omega
      · cases taken

end Runs

section Counts

variable {start : Store} {state : EdgeCallsState}

end Counts

end GraffiTab
