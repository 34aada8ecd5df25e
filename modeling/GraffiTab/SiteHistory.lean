/-
This file follows all tables of the database over the runs of the whole site.

The requests of the services are put together in one server, with the pool that runs the jobs
they queue, and with the copies of users that threads keep and write back later. Whatever the
interleaving, a row keeps its place, its owner and its date for good, every reference finds its
row, a job that waits for a worker will find the rows that it was queued for, and nothing goes out
of sight but what a request or an ended upload hides.
-/

import GraffiTab.SiteEffects
import GraffiTab.Visibility
import GraffiTab.Welcomes

namespace GraffiTab

open Tables Runs Simulations Histories

section Effects

variable {mayHide : Hideable → Prop} {store next : Store}

/-! ### Jobs -/

/-- What a job will refer to. -/
def Job.references : Job → List RowReference
  | .addActivity activity => activity.references
  | .addNotification notification => notification.references
  | .processAsset _ => []

/-- The jobs can do what they were queued for. -/
def Store.HasAll (store : Store) (jobs : List Job) : Prop :=
  AllResolved Job.references store.Has jobs

theorem addUserActivity_ok {activity : Activity} (there : store.HasAll [.addActivity activity]) :
    addUserActivity activity store =
      .ok ((), { store with activities := store.activities.insert activity }) := by
  obtain ⟨user, stored, isUser⟩ :=
    there _ List.mem_cons_self (.user activity.userId) List.mem_cons_self
  have found : findUserById activity.userId store = some user :=
    isUser ▸ Table.find_of_mem stored
  rw [addUserActivity, found]
  simp only [isUser]
  rfl

theorem addNotificationToUser_ok {notification : Notification}
    (there : store.HasAll [.addNotification notification]) :
    addNotificationToUser notification store =
      .ok ((), { store with notifications := store.notifications.insert notification }) := by
  obtain ⟨user, stored, isUser⟩ :=
    there _ List.mem_cons_self (.user notification.userId) List.mem_cons_self
  have found : findUserById notification.userId store = some user :=
    isUser ▸ Table.find_of_mem stored
  rw [addNotificationToUser, found]
  simp only [isUser]
  rfl

theorem Job.siteEffect {job : Job} (uploaded : Bool) (there : store.HasAll [job]) :
    SiteEffect mayHide store (job.run uploaded store) := by
  cases job with
  | addActivity activity =>
      rw [Job.run, transaction, addUserActivity_ok there]
      exact siteEffect_activities (.insert (fun _ => rfl) _ _)
        (.insert _ (there _ List.mem_cons_self))
  | addNotification notification =>
      rw [Job.run, transaction, addNotificationToUser_ok there]
      exact siteEffect_notifications (.insert Notification.Later.refl _ _)
        (.insert _ (there _ List.mem_cons_self))
  | processAsset guid =>
      cases uploaded with
      | false => exact .refl store
      | true => exact completeAsset_siteEffect guid store

/-! ### Edges -/

/-- A request continues the history, and its jobs refer to what is there. -/
structure ServeSite (mayHide : Hideable → Prop) (store : Store) (served : Store × List Job) :
    Prop where
  effect : SiteEffect mayHide store served.1
  jobs : served.1.HasAll served.2

theorem ServeSite.quiet (effect : SiteEffect mayHide store next) :
    ServeSite mayHide store (next, []) :=
  ⟨effect, fun _ member => absurd member List.not_mem_nil⟩

theorem follow_serveSite (currentUserId toFollowId first second : Long) (store : Store) :
    ServeSite mayHide store
      ((FeedRequest.follow currentUserId toFollowId).perform first second store) := by
  rw [FeedRequest.perform]
  rcases executeInTransactionWithResult_cases (follow currentUserId toFollowId) store with
    ⟨⟨followed, isNew⟩, next, returned, same⟩ | ⟨thrown, -, same⟩
  · obtain ⟨innerUser, loaded, rest⟩ := bind_eq_ok.mp returned
    have isInner := id_of_loadCurrentUser loaded
    have follower := hasUser_of_loadCurrentUser loaded
    rw [isInner] at follower rest
    split at rest
    · rename_i toFollow found
      have known := hasUser_of_mem (Table.mem_of_find found)
      split at rest
      · exact absurd rest throw_ne_ok
      split at rest
      · obtain ⟨⟨⟩, rfl⟩ := Prod.mk.inj (Except.ok.inj rest)
        rw [same]
        exact .quiet (.refl store)
      · obtain ⟨⟨⟩, rfl⟩ := Prod.mk.inj (Except.ok.inj rest)
        rw [same]
        have bothKnown : ∀ reference ∈ [RowReference.user followed.id, .user currentUserId],
            store.Has reference :=
          List.forall_mem_cons.mpr ⟨known, List.forall_mem_singleton.mpr follower⟩
        have bothFollow : ∀ reference ∈ [RowReference.user currentUserId, .user followed.id],
            store.Has reference :=
          List.forall_mem_cons.mpr ⟨follower, List.forall_mem_singleton.mpr known⟩
        refine ⟨siteEffect_following (fun row member _ => List.mem_append_left _ member)
          (.append fun row member => ?_), ?_⟩
        · obtain rfl := List.mem_singleton.mp member
          exact bothFollow
        · exact List.forall_mem_cons.mpr ⟨bothKnown, List.forall_mem_singleton.mpr bothFollow⟩
    · exact absurd rest throw_ne_ok
  · rw [same]
    exact .quiet (.refl store)

theorem unfollow_siteEffect {currentUserId toUnfollowId : Long}
    (hides : mayHide (.following ⟨currentUserId, toUnfollowId⟩)) (store : Store) :
    SiteEffect mayHide store (transaction (unfollow currentUserId toUnfollowId) store).1 := by
  refine siteEffect_transaction fun _ next returned => ?_
  rw [unfollow] at returned
  split at returned
  · rename_i toUnfollow found
    obtain ⟨currentUser, loaded, rest⟩ := bind_eq_ok.mp returned
    obtain ⟨-, rfl⟩ := Prod.mk.inj (Except.ok.inj rest)
    refine siteEffect_following (fun row member hidesNot => ?_)
      (.of_subset fun _ member => List.mem_of_mem_erase member)
    refine (List.mem_erase_of_ne fun same => hidesNot ?_).mpr member
    have isFollowed : toUnfollow.id = toUnfollowId := Table.id_of_find found
    rwa [same, id_of_loadCurrentUser loaded, isFollowed]
  · exact absurd returned throw_ne_ok

theorem unlike_siteEffect (currentUserId toUnlikeId : Long) (store : Store) :
    SiteEffect mayHide store (transaction (unlike currentUserId toUnlikeId) store).1 := by
  refine siteEffect_transaction fun _ next returned => ?_
  rw [unlike] at returned
  split at returned
  · obtain ⟨currentUser, -, rest⟩ := bind_eq_ok.mp returned
    obtain ⟨-, rfl⟩ := Prod.mk.inj (Except.ok.inj rest)
    exact siteEffect_likes (.of_subset fun _ member => List.mem_of_mem_erase member)
  · exact absurd returned throw_ne_ok

/-- A like is announced to the owner of the streamable, who is there. -/
theorem like_serveSite (refers : store.RefersToRows) (currentUserId toLikeId first second : Long) :
    ServeSite mayHide store
      ((EdgeRequest.like currentUserId toLikeId).serve first second store) := by
  rw [EdgeRequest.serve]
  rcases executeInTransactionWithResult_cases (like currentUserId toLikeId) store with
    ⟨⟨streamable, isNew⟩, next, returned, same⟩ | ⟨thrown, -, same⟩
  · obtain ⟨innerUser, loaded, rest⟩ := bind_eq_ok.mp returned
    have isInner := id_of_loadCurrentUser loaded
    have liker := hasUser_of_loadCurrentUser loaded
    rw [isInner] at liker rest
    split at rest
    · rename_i innerStreamable found
      have stored := Table.mem_of_find found
      have liked : store.Has (.streamable innerStreamable.id) := ⟨_, stored, rfl⟩
      have owner : store.Has (.user innerStreamable.userId) :=
        refers.streamables _ stored _ List.mem_cons_self
      split at rest
      · obtain ⟨⟨⟩, rfl⟩ := Prod.mk.inj (Except.ok.inj rest)
        rw [same]
        exact .quiet (.refl store)
      · obtain ⟨⟨⟩, rfl⟩ := Prod.mk.inj (Except.ok.inj rest)
        rw [same]
        have both : ∀ reference ∈ [RowReference.user currentUserId, .streamable streamable.id],
            store.Has reference :=
          List.forall_mem_cons.mpr ⟨liker, List.forall_mem_singleton.mpr liked⟩
        have edges : ReferencesKept Like.references store.Has store.likes
            (store.likes ++ [⟨streamable.id, currentUserId⟩]) := by
          refine .append fun row member => ?_
          obtain rfl := List.mem_singleton.mp member
          exact both
        simp only
        split
        · refine ⟨siteEffect_likes edges, fun job member => ?_⟩
          rcases List.mem_append.mp member with notifies | records
          · split at notifies
            · exact absurd notifies List.not_mem_nil
            · obtain rfl := List.mem_singleton.mp notifies
              exact List.forall_mem_cons.mpr ⟨owner, both⟩
          · obtain rfl := List.mem_singleton.mp records
            exact both
        · exact .quiet (siteEffect_likes edges)
    · exact absurd rest throw_ne_ok
  · rw [same]
    exact .quiet (.refl store)

/-- What the request takes out of sight. -/
def EdgeRequest.hides : EdgeRequest → Option Hideable
  | .unfollow currentUserId toUnfollowId => some (.following ⟨currentUserId, toUnfollowId⟩)
  | _ => none

theorem EdgeRequest.serveSite (refers : store.RefersToRows) (request : EdgeRequest)
    (first second : Long) :
    ServeSite (· ∈ request.hides) store (request.serve first second store) := by
  cases request with
  | like currentUserId toLikeId => exact like_serveSite refers currentUserId toLikeId first second
  | unlike currentUserId toUnlikeId =>
      exact .quiet (unlike_siteEffect currentUserId toUnlikeId store)
  | follow currentUserId toFollowId =>
      exact follow_serveSite currentUserId toFollowId first second store
  | unfollow currentUserId toUnfollowId =>
      refine .quiet (unfollow_siteEffect ?_ store)
      rfl

/-! ### Creations -/

theorem createStreamable_serveSite (currentUserId : Long) (dto : StreamableGraffitiDto)
    (asset : Long → Asset) {others : List Job} (own : ∀ job ∈ others, job.references = [])
    (first second : Long) (store : Store) :
    ServeSite mayHide store
      (createStreamable currentUserId dto asset others first second store) := by
  rw [createStreamable]
  rcases executeInTransactionWithResult_cases
    (createStreamableInTransaction currentUserId dto asset first) store with
    ⟨streamable, next, returned, same⟩ | ⟨thrown, -, same⟩
  · obtain ⟨effect, member⟩ : SiteEffect mayHide store next ∧ streamable ∈ next.streamables.rows :=
      createStreamable_siteEffect returned
    obtain ⟨currentUser, loaded, rest⟩ := bind_eq_ok.mp returned
    have creator := effect.has (hasUser_of_loadCurrentUser loaded)
    have isCreator : streamable.userId = currentUser.id :=
      (congrArg Streamable.userId (Prod.mk.inj (Except.ok.inj rest)).1).symm
    rw [same]
    refine ⟨effect, fun job queued => ?_⟩
    rcases List.mem_cons.mp queued with rfl | other
    · exact List.forall_mem_cons.mpr ⟨isCreator ▸ creator,
        List.forall_mem_singleton.mpr ⟨streamable, member, rfl, rfl⟩⟩
    · rw [own job other]
      exact fun reference refers => absurd refers List.not_mem_nil
  · rw [same]
    exact .quiet (.refl store)

/-- What the request takes out of sight. -/
def FeedRequest.hides : FeedRequest → Option Hideable
  | .deleteStreamable _ streamableId => some (.streamable streamableId)
  | .makePublicOrPrivate _ streamableId true => some (.streamable streamableId)
  | .unfollow currentUserId toUnfollowId => some (.following ⟨currentUserId, toUnfollowId⟩)
  | _ => none

theorem FeedRequest.serveSite (request : FeedRequest) (first second : Long) (store : Store) :
    ServeSite (· ∈ request.hides) store (request.perform first second store) := by
  cases request with
  | createStreamableGraffiti currentUserId dto transferred guid =>
      rw [FeedRequest.perform]
      split
      · refine createStreamable_serveSite currentUserId dto _ (fun job queued => ?_) first second
          store
        rw [List.mem_singleton.mp queued]
        rfl
      · exact .quiet (.refl store)
  | createStreamableGraffitiFromExternalResource currentUserId dto guid =>
      rw [FeedRequest.perform]
      split
      · exact .quiet (.refl store)
      · exact createStreamable_serveSite currentUserId dto _
          (fun job queued => absurd queued List.not_mem_nil) first second store
  | deleteStreamable currentUserId streamableId =>
      refine .quiet (deleteStreamable_siteEffect currentUserId ?_ store)
      rfl
  | makePublicOrPrivate currentUserId streamableId isPrivate =>
      refine .quiet (makePublicOrPrivate_siteEffect currentUserId (fun madePrivate => ?_) store)
      rw [madePrivate]
      rfl
  | follow currentUserId toFollowId =>
      exact follow_serveSite currentUserId toFollowId first second store
  | unfollow currentUserId toUnfollowId =>
      refine .quiet (unfollow_siteEffect ?_ store)
      rfl

/-! ### Accounts and their welcomes -/

theorem AccountAction.serveSite (environment : Environment) (notified : Long)
    (state : AccountState) (action : AccountAction) :
    ServeSite mayHide state.store
      ((action.serve environment notified state).1.store,
        (action.serve environment notified state).2) := by
  have welcomes := (serve_welcomeEffect environment notified state action).jobs
  constructor
  case effect =>
    rw [AccountAction.serve]
    cases taken : accountStep environment state action with
    | none => exact .refl state.store
    | some next => exact accountStep_siteEffect taken
  case jobs =>
    rcases welcomes with none | ⟨user, now, one, -, active⟩
    · rw [none]
      exact fun _ member => absurd member List.not_mem_nil
    · rw [one]
      refine List.forall_mem_singleton.mpr (List.forall_mem_singleton.mpr ?_)
      by_contra absent
      refine active fun other found => absurd ?_ absent
      exact ⟨other, Table.mem_of_find found, Table.id_of_find found⟩

end Effects

/-! ### The site -/

/-- The accounts with the database, and the copies of users that threads keep. -/
structure SiteWorld where
  accounts : AccountState
  cachedUsers : List User

def SiteWorld.store (world : SiteWorld) : Store := world.accounts.store

def SiteWorld.withStore (world : SiteWorld) (store : Store) : SiteWorld :=
  { world with accounts := { world.accounts with store } }

/-- The requests of the site, and the transactions by which threads keep the sessions and the images
of users. A copy is the position of a cached user. -/
inductive SiteRequest where
  | account (action : AccountAction) (notified : Long)
  | write (currentUserId : Long) (operation : WriteOperation)
  | feed (request : FeedRequest) (first second : Long)
  | edge (request : EdgeRequest) (first second : Long)
  | postComment (currentUserId streamableId : Long) (text : String) (now : Long)
  | flag (streamableId : Long)
  | createLocation (currentUserId : Long) (address : Option String)
      (latitude longitude : Option Rat) (now : Long)
  | addOrReplaceUserImageAsset (currentUserId : Long) (image : UserImageAsset)
      (transferred : Bool) (guid : String) (now : Long)
  | cacheUser (userId : Long)
  | mergeWithoutImage (copy : Nat) (image : UserImageAsset) (now : Long)
  | saveSessionData (copy : Nat) (sessionId : String) (now : Long)
  | touchSession (sessionId : String) (now : Long)
  | deleteSession (sessionId : String)
  | restoreFromDb (requestedSessionId created : String) (now : Long)

/-- The job for the image of a streamable that was edited. -/
def WriteOperation.queued (currentUserId : Long) (store : Store) : WriteOperation → List Job
  | .editStreamableGraffiti streamableId dto transferred guid now =>
      match (GraffiTab.editStreamableGraffiti currentUserId streamableId dto transferred guid now
        store).2 with
      | .ok _ => [.processAsset guid]
      | .error _ => []
  | _ => []

/-- What a request leaves in the database, where it changes nothing but the database, and the jobs
that it queues. -/
def SiteRequest.perform (environment : Environment) (cachedUsers : List User) (store : Store) :
    SiteRequest → Store × List Job
  | .account .. => (store, [])
  | .cacheUser _ => (store, [])
  | .write currentUserId operation =>
      (operation.perform environment currentUserId store, operation.queued currentUserId store)
  | .feed request first second => request.perform first second store
  | .edge request first second => request.serve first second store
  | .postComment currentUserId streamableId text now =>
      match validateText (some text) with
      | .error _ => (store, [])
      | .ok () =>
          ((executeInTransactionWithResult (postCommentBody currentUserId streamableId text now)
            store).1, [])
  | .flag streamableId => ((executeInTransactionWithResult (flagBody streamableId) store).1, [])
  | .createLocation currentUserId address latitude longitude now =>
      ((transaction (GraffiTab.createLocation currentUserId address latitude longitude now)
        store).1, [])
  | .addOrReplaceUserImageAsset currentUserId image transferred guid now =>
      match transferAssetFile transferred with
      | .error _ => (store, [])
      | .ok () =>
          match transaction (replaceUserImageAsset currentUserId image guid now) store with
          | (next, .ok _) => (next, [.processAsset guid])
          | (next, .error _) => (next, [])
  | .mergeWithoutImage copy image now =>
      match cachedUsers[copy]? with
      | some storedUser =>
          ((transaction (GraffiTab.mergeWithoutImage image storedUser now) store).1, [])
      | none => (store, [])
  | .saveSessionData copy sessionId now =>
      match cachedUsers[copy]? with
      | some currentUser =>
          ((transaction (saveOrUpdateSessionData environment.platform sessionId currentUser now)
            store).1, [])
      | none => (store, [])
  | .touchSession sessionId now =>
      ((transaction (GraffiTab.touchSession environment.platform sessionId now) store).1, [])
  | .deleteSession sessionId =>
      ((transaction (GraffiTab.deleteSession environment.platform sessionId) store).1, [])
  | .restoreFromDb requestedSessionId created now =>
      ((transaction (GraffiTab.restoreFromDb environment.platform requestedSessionId created now)
        store).1, [])

/-- The world after a request, and the jobs that it queues. -/
def SiteRequest.serve (environment : Environment) (world : SiteWorld) :
    SiteRequest → SiteWorld × List Job
  | .account action notified =>
      let (accounts, queued) := action.serve environment notified world.accounts
      ({ world with accounts }, queued)
  | .cacheUser userId =>
      ({ world with
        cachedUsers := world.cachedUsers ++ (findUserById userId world.store).toList }, [])
  | request =>
      let (store, queued) := request.perform environment world.cachedUsers world.store
      (world.withStore store, queued)

/-- The site, where it depends on the job whether its images can be uploaded. -/
def siteServer (environment : Environment) (uploaded : Job → Bool) :
    JobServer SiteWorld SiteRequest Job where
  serve request world := request.serve environment world
  run job world := world.withStore (job.run (uploaded job) world.store)

section Site

variable {environment : Environment} {uploaded : Job → Bool}

/-- Every cached copy is a version of a user in the table. -/
def SiteWorld.CachesUsers (world : SiteWorld) : Prop :=
  RowsStay User.Later world.cachedUsers world.store.users.rows

/-- What the request takes out of sight. -/
def SiteRequest.hides : SiteRequest → Option Hideable
  | .write _ operation => operation.hides
  | .feed request _ _ => request.hides
  | .edge request _ _ => request.hides
  | _ => none

theorem SiteRequest.performSite (environment : Environment) {store : Store}
    {cachedUsers : List User}
    (refers : store.RefersToRows) (cached : RowsStay User.Later cachedUsers store.users.rows)
    (request : SiteRequest) :
    ServeSite (· ∈ request.hides) store (request.perform environment cachedUsers store) := by
  cases request with
  | account | cacheUser => exact .quiet (.refl store)
  | write currentUserId operation =>
      refine ⟨operation.siteEffect environment currentUserId store, fun job member => ?_⟩
      have own : job.references = [] := by
        cases operation with
        | editStreamableGraffiti streamableId dto transferred guid now =>
            simp only [SiteRequest.perform, WriteOperation.queued] at member
            split at member
            · rw [List.mem_singleton.mp member]
              rfl
            · exact absurd member List.not_mem_nil
        | _ => exact absurd member List.not_mem_nil
      rw [own]
      exact fun reference refers => absurd refers List.not_mem_nil
  | feed request first second => exact request.serveSite first second store
  | edge request first second => exact request.serveSite refers first second
  | postComment currentUserId streamableId text now =>
      rw [SiteRequest.perform]
      split
      · exact .quiet (.refl store)
      · exact .quiet (postComment_siteEffect currentUserId streamableId text now store)
  | flag streamableId => exact .quiet (flag_siteEffect streamableId store)
  | createLocation currentUserId address latitude longitude now =>
      exact .quiet (createLocation_siteEffect currentUserId address latitude longitude now store)
  | addOrReplaceUserImageAsset currentUserId image transferred guid now =>
      have effect : SiteEffect (· ∈ (none : Option Hideable)) store
          (transaction (replaceUserImageAsset currentUserId image guid now) store).1 :=
        replaceUserImageAsset_siteEffect currentUserId image guid now store
      rw [SiteRequest.perform]
      split
      · exact .quiet (.refl store)
      rcases executed : transaction (replaceUserImageAsset currentUserId image guid now) store with
        ⟨next, thrown | previous⟩
      · rw [executed] at effect
        exact .quiet effect
      · rw [executed] at effect
        exact ⟨effect, List.forall_mem_singleton.mpr fun _ refers => absurd refers List.not_mem_nil⟩
  | mergeWithoutImage copy image now =>
      rw [SiteRequest.perform]
      split
      · rename_i storedUser found
        exact .quiet (mergeWithoutImage_siteEffect image now
          (cached storedUser (List.mem_of_getElem? found)))
      · exact .quiet (.refl store)
  | saveSessionData copy sessionId now =>
      rw [SiteRequest.perform]
      split
      · rename_i currentUser found
        exact .quiet (siteEffect_transaction fun _ _ returned =>
          saveOrUpdateSessionData_siteEffect (cached currentUser (List.mem_of_getElem? found))
            returned)
      · exact .quiet (.refl store)
  | touchSession sessionId now => exact .quiet (touchSession_siteEffect _ sessionId now store)
  | deleteSession sessionId => exact .quiet (deleteSession_siteEffect _ sessionId store)
  | restoreFromDb requestedSessionId created now =>
      exact .quiet (restoreFromDb_siteEffect _ requestedSessionId created now store)

/-- A request of the site continues the history, and caches only users in the table. -/
theorem SiteRequest.serveSite {world : SiteWorld} (refers : world.store.RefersToRows)
    (cached : world.CachesUsers) (request : SiteRequest) :
    ServeSite (· ∈ request.hides) world.store ((request.serve environment world).1.store,
        (request.serve environment world).2) ∧
      (request.serve environment world).1.CachesUsers := by
  have stays {mayHide : Hideable → Prop} {next : Store}
      (effect : SiteEffect mayHide world.store next) :
      RowsStay User.Later world.cachedUsers next.users.rows :=
    cached.trans User.Later.trans effect.users.stay
  have performed := request.performSite environment refers cached
  cases request with
  | account action notified =>
      have served : ServeSite (· ∈ (none : Option Hideable)) world.store
          ((action.serve environment notified world.accounts).1.store,
            (action.serve environment notified world.accounts).2) :=
        action.serveSite environment notified world.accounts
      exact ⟨served, stays served.effect⟩
  | cacheUser userId =>
      refine ⟨.quiet (.refl _), fun user member => ?_⟩
      rcases List.mem_append.mp member with old | new
      · exact cached user old
      · exact ⟨user, Table.mem_of_find (Option.mem_toList.mp new), .refl user⟩
  | _ => exact ⟨performed, stays performed.effect⟩

/-- What every state of the site keeps. -/
structure SiteKept (state : PoolState SiteWorld Job) : Prop where
  refers : state.world.store.RefersToRows
  jobs : state.world.store.HasAll state.remainingJobs
  cached : state.world.CachesUsers
  untouched : ∀ queued ∈ state.pool.queue, queued.isOver = false

/-- What a step takes out of sight: the request that it serves does so. -/
def siteHides : PoolAction SiteRequest Job → Option Hideable
  | .serve request => request.hides
  | _ => none

theorem siteKept_step {state next : PoolState SiteWorld Job} {action : PoolAction SiteRequest Job}
    (kept : SiteKept state)
    (taken : poolStep (siteServer environment uploaded) state action = some next) :
    SiteKept next ∧ Store.Continues (· ∈ siteHides action) state.world.store next.world.store := by
  obtain ⟨refers, there, cached, untouched⟩ := kept
  have stillThere {mayHide : Hideable → Prop} {later : Store} {jobs : List Job}
      (effect : SiteEffect mayHide state.world.store later)
      (among : ∀ job ∈ jobs, job ∈ state.remainingJobs) : later.HasAll jobs :=
    fun job member reference refers => effect.has (there job (among job member) reference refers)
  obtain ⟨nextUntouched, effect⟩ := poolStep_effect untouched taken
  cases effect with
  | served request world jobs =>
      have same : next.world = (request.serve environment state.world).1 := world
      obtain ⟨⟨effect, queued⟩, nextCached⟩ := request.serveSite refers cached
      rw [← same] at effect queued nextCached
      refine ⟨⟨refers.after effect, fun job member => ?_, nextCached, nextUntouched⟩,
        effect.toContinues⟩
      rcases List.mem_append.mp (jobs.mem_iff.mp member) with old | new
      · exact stillThere effect (fun _ same => same) job old
      · exact queued job new
  | moved world jobs =>
      refine ⟨⟨?_, ?_, ?_, nextUntouched⟩, ?_⟩
      · rwa [world]
      · rw [world]
        exact fun job member => there job (jobs.mem_iff.mp member)
      · rwa [world]
      · rw [world]
        exact .refl _
  | committed thread job world jobs =>
      have among : ∀ other ∈ job :: next.remainingJobs, other ∈ state.remainingJobs :=
        fun other member => jobs.mem_iff.mp member
      have effect :
          SiteEffect (· ∈ siteHides (.commit thread)) state.world.store next.world.store := by
        rw [world]
        exact job.siteEffect (uploaded job)
          (List.forall_mem_singleton.mpr (there job (among job List.mem_cons_self)))
      refine ⟨⟨refers.after effect,
        stillThere effect fun other member => among other (List.mem_cons_of_mem _ member), ?_,
        nextUntouched⟩, effect.toContinues⟩
      have sameCache : next.world.cachedUsers = state.world.cachedUsers :=
        (congrArg SiteWorld.cachedUsers world).trans rfl
      rw [SiteWorld.CachesUsers, sameCache]
      exact cached.trans User.Later.trans effect.users.stay

/-- A reference of an activity or a notification is resolved by the rows that it names. -/
theorem resolves_of_has {store : Store} {streamableId : Long} {commentId : Option Long}
    (streamable : store.Has (.streamable streamableId))
    (comment : ∀ id ∈ commentId, store.Has (.commentOn id streamableId)) :
    store.Resolves ⟨streamableId, commentId⟩ :=
  ⟨streamable, comment⟩

theorem Store.RefersToRows.resolvesActivity {store : Store} (refers : store.RefersToRows)
    {activity : Activity} (stored : activity ∈ store.activities.rows) {reference : Reference}
    (about : activity.content.reference = some reference) : store.Resolves reference := by
  have there := refers.activities activity stored
  rw [Activity.references] at there
  cases content : activity.content with
  | comment commentedStreamable commentId =>
      rw [content] at about there
      obtain rfl := Option.some.inj about
      refine resolves_of_has (there _ (by simp)) fun id isComment => ?_
      obtain rfl := Option.some.inj isComment
      exact there _ (by simp)
  | createStreamable createdStreamable =>
      rw [content] at about there
      obtain rfl := Option.some.inj about
      obtain ⟨row, member, sameId, -⟩ := there (.streamableBy createdStreamable activity.userId)
        (by simp)
      exact resolves_of_has ⟨row, member, sameId⟩ nofun
  | follow followed =>
      rw [content] at about
      cases about
  | like likedStreamable =>
      rw [content] at about there
      obtain rfl := Option.some.inj about
      exact resolves_of_has (there _ (by simp)) nofun

theorem Store.RefersToRows.resolvesNotification {store : Store} (refers : store.RefersToRows)
    {notification : Notification} (stored : notification ∈ store.notifications.rows)
    {reference : Reference} (about : notification.content.reference = some reference) :
    store.Resolves reference := by
  have there := refers.notifications notification stored
  rw [Notification.references] at there
  cases content : notification.content with
  | comment commenter commentedStreamable commentId =>
      rw [content] at about there
      obtain rfl := Option.some.inj about
      refine resolves_of_has (there _ (by simp [NotificationContent.references]))
        fun id isComment => ?_
      obtain rfl := Option.some.inj isComment
      exact there _ (by simp [NotificationContent.references])
  | follow follower =>
      rw [content] at about
      cases about
  | like liker likedStreamable =>
      rw [content] at about there
      obtain rfl := Option.some.inj about
      exact resolves_of_has (there _ (by simp [NotificationContent.references])) nofun
  | mention mentioner mentionedStreamable mentionedComment =>
      rw [content] at about there
      obtain rfl := Option.some.inj about
      refine resolves_of_has (there _ (by simp [NotificationContent.references]))
        fun id isComment => there _ ?_
      simpa [NotificationContent.references] using isComment
  | welcome =>
      rw [content] at about
      cases about

/-- A store whose references find their rows is one in which the schema holds. -/
theorem Store.RefersToRows.wellFormed {store : Store} (refers : store.RefersToRows) :
    store.WellFormed where
  streamables row member := refers.streamables row member _ List.mem_cons_self
  comments row member :=
    ⟨refers.comments row member (.user row.userId) (by simp [Comment.references]),
      refers.comments row member (.streamable row.streamableId) (by simp [Comment.references])⟩
  likes row member :=
    ⟨refers.likes row member (.user row.userId) (by simp [Like.references]),
      refers.likes row member (.streamable row.streamableId) (by simp [Like.references])⟩
  references reference member := by
    rcases List.mem_append.mp member with ofActivity | ofNotification
    · obtain ⟨activity, stored, about⟩ := List.mem_filterMap.mp ofActivity
      exact refers.resolvesActivity stored about
    · obtain ⟨notification, stored, about⟩ := List.mem_filterMap.mp ofNotification
      exact refers.resolvesNotification stored about
  creations activity stored created isCreated := by
    obtain ⟨member, content⟩ := createdStreamable_eq_some.mp isCreated
    have there := refers.activities activity stored
    rw [Activity.references, content] at there
    obtain ⟨row, rowMember, sameId, owner⟩ :=
      there (.streamableBy created.id activity.userId) (by simp)
    rw [← Table.eq_of_id_eq rowMember member sameId]
    exact owner

/-! ### Runs of the site -/

/-- The transaction of the job returns. -/
def Job.Returns (store : Store) : Job → Prop
  | .addActivity activity => ∃ next, addUserActivity activity store = .ok ((), next)
  | .addNotification notification =>
      ∃ next, addNotificationToUser notification store = .ok ((), next)
  | .processAsset _ => True

theorem Job.returns {store : Store} {job : Job} (there : store.HasAll [job]) :
    job.Returns store := by
  cases job with
  | addActivity activity => exact ⟨_, addUserActivity_ok there⟩
  | addNotification notification => exact ⟨_, addNotificationToUser_ok there⟩
  | processAsset guid => trivial

theorem siteKept_initial {start : SiteWorld} (nThreads : Nat) (refers : start.store.RefersToRows)
    (cached : start.CachesUsers) : SiteKept (.initial nThreads start) := by
  refine ⟨refers, ?_, cached, fun _ absent => absurd absent List.not_mem_nil⟩
  have isIn : (PoolState.initial nThreads start : PoolState SiteWorld Job).IsIn ⟨start, []⟩ :=
    initial_isIn nThreads start
  exact fun job member => absurd (isIn.jobs.mem_iff.mpr member) List.not_mem_nil

theorem siteKept_of_reaches {nThreads : Nat} {start : SiteWorld}
    (refers : start.store.RefersToRows) (cached : start.CachesUsers)
    {state : PoolState SiteWorld Job}
    (reached : Reaches (poolStep (siteServer environment uploaded)) unrestricted
      (.initial nThreads start) state) : SiteKept state :=
  reached.invariant SiteKept (siteKept_initial nThreads refers cached)
    fun _ _ _ kept _ taken => (siteKept_step kept taken).1

variable (environment uploaded)

/-- Nothing of the history is lost between two states of a run, and nothing goes out of sight but
what a step in between hides. -/
theorem siteContinues (nThreads : Nat) (start : SiteWorld) (refers : start.store.RefersToRows)
    (cached : start.CachesUsers) (mayHide : Hideable → Prop) (state later : PoolState SiteWorld Job)
    (reached : Reaches (poolStep (siteServer environment uploaded)) unrestricted
      (.initial nThreads start) state)
    (afterwards : Reaches (poolStep (siteServer environment uploaded))
      (fun _ action => ∀ thing ∈ siteHides action, mayHide thing) state later) :
    Store.Continues mayHide state.world.store later.world.store := by
  refine (afterwards.invariant
    (fun after => SiteKept after ∧
      Store.Continues mayHide state.world.store after.world.store)
    ⟨siteKept_of_reaches refers cached reached, .refl _⟩ ?_).2
  intro between action next ⟨kept, continues⟩ allowed taken
  obtain ⟨stillKept, goesOn⟩ := siteKept_step kept taken
  exact ⟨stillKept, continues.trans (goesOn.mono allowed)⟩

end Site

/-! ### A run -/

/-- A new installation, where nobody is cached. -/
def emptySite : SiteWorld := ⟨⟨Store.empty, []⟩, []⟩

def plainSite : JobServer SiteWorld SiteRequest Job :=
  siteServer (plainEnvironment .entry) fun _ => true

/-- Alice signs up, activates the account and creates a graffiti; the first of the workers takes the
welcome. -/
def firstGraffiti : List (PoolAction SiteRequest Job) :=
  [.serve (.account (.createUser (plainInput "alice") "A" "T" "" 0) 1),
    .serve (.account (.activateUser "T" 2) 3), .execute 1 0, .serve (.cacheUser 1),
    .serve (.feed (.createStreamableGraffiti 1 ⟨none, none, none, none, none, none, none, none⟩
      true "G") 4 5), .work (.enterSynchronized 0)]

/-- The welcome is stored, a copy of the user is merged, and the graffiti is deleted. -/
def deletedGraffiti : List (PoolAction SiteRequest Job) :=
  [.commit 0, .serve (.saveSessionData 0 "S" 6), .serve (.write 1 (.deleteStreamable 1))]

def siteAfter (actions : List (PoolAction SiteRequest Job)) : PoolState SiteWorld Job :=
  (run (poolStep plainSite) (.initial 1 emptySite) actions).getD (.initial 1 emptySite)

theorem run_siteAfter {actions : List (PoolAction SiteRequest Job)}
    (ran : (run (poolStep plainSite) (.initial 1 emptySite) actions).isSome = true) :
    run (poolStep plainSite) (.initial 1 emptySite) actions = some (siteAfter actions) := by
  obtain ⟨state, same⟩ := Option.isSome_iff_exists.mp ran
  rw [siteAfter, same]
  rfl

theorem emptySite_refers : emptySite.store.RefersToRows := by
  have noRows {Row : Type} (references : Row → List RowReference) :
      AllResolved references emptySite.store.Has [] :=
    fun _ member => absurd member List.not_mem_nil
  exact ⟨noRows _, noRows _, noRows _, noRows _, noRows _, noRows _, noRows _, noRows _, noRows _,
    noRows _⟩

theorem run_firstGraffiti :
    run (poolStep plainSite) (.initial 1 emptySite) firstGraffiti =
      some (siteAfter firstGraffiti) :=
  run_siteAfter (by decide +kernel)

theorem run_deletedGraffiti :
    run (poolStep plainSite) (siteAfter firstGraffiti) deletedGraffiti =
      some (siteAfter (firstGraffiti ++ deletedGraffiti)) := by
  rfl

theorem emptySite_caches : emptySite.CachesUsers := fun _ member => absurd member List.not_mem_nil

theorem siteContinues_deletedGraffiti :
    Store.Continues (· = .streamable 1) (siteAfter firstGraffiti).world.store
      (siteAfter (firstGraffiti ++ deletedGraffiti)).world.store := by
  refine siteContinues (plainEnvironment .entry) (fun _ => true) 1 emptySite emptySite_refers
    emptySite_caches (· = .streamable 1) (siteAfter firstGraffiti) _ ?_ ?_
  · exact reaches_of_run_unrestricted firstGraffiti run_firstGraffiti
  · refine reaches_of_run deletedGraffiti (fun state action member => ?_) run_deletedGraffiti
    simp only [deletedGraffiti, List.mem_cons, List.not_mem_nil, or_false] at member
    rcases member with rfl | rfl | rfl <;>
      simp [siteHides, SiteRequest.hides, WriteOperation.hides]

end GraffiTab
