/-
This file asks whether the listings of users show accounts that were never activated.

Six named queries leave such accounts out, each with its own copy of the condition. In the
queries for the followers and for the users that a user follows, two users are in scope, and
the condition is on the one whose list it is instead of on the listed one. So these two are
right exactly if the accounts on both sides of every following row are activated, or neither
is. An active user can follow an account that waits for its activation.
-/

import GraffiTab.AccountLifecycle
import GraffiTab.HiddenItems
import GraffiTab.LikesAndFollows
import GraffiTab.Listings

namespace GraffiTab

open Tables Joins Runs

/-! ### The listings -/

section Queries

variable (currentUserId : Long) (store : Store)

def User.isListed (user : User) : Bool := user.accountStatus ≠ .pendingActivation

/-- `User.searchUser`. -/
def User.searchUser (like : String → Bool) : List User :=
  store.users.select fun user =>
    (like user.username || like user.firstName || like user.lastName) && user.isListed

/-- `User.getMostActiveUsers`: a left join with the streamables, grouped by the user. -/
def User.getMostActiveUsers : List User :=
  (orderByDesc (fun group => (group.2 : Int)) <|
    countGroups <|
      (leftJoin store.users.rows (streamablesOf store)).filter fun pair =>
        pair.1.isListed).map Prod.fst

/-- `u.followers`. -/
def followersOf (user : User) : List User :=
  (store.following.filter fun row => row.followingId = user.id).filterMap fun row =>
    store.users.find row.userId

/-- `u.following`. -/
def followingOf (user : User) : List User :=
  (store.following.filter fun row => row.userId = user.id).filterMap fun row =>
    store.users.find row.followingId

/-- `User.getFollowers`: the status is asked of the user whose followers are listed. -/
def User.getFollowers (userId : Long) : List User :=
  ((innerJoin store.users.rows (followersOf store)).filter fun pair =>
    pair.1.id = userId && pair.1.isListed).map Prod.snd

/-- `User.getFollowing`, with the status of the same user. -/
def User.getFollowing (userId : Long) : List User :=
  ((innerJoin store.users.rows (followingOf store)).filter fun pair =>
    pair.1.id = userId && pair.1.isListed).map Prod.snd

/-- `User.findWhoToFollow`; users without a rank come last. -/
def User.findWhoToFollow : List User :=
  let recommended := store.users.select fun user =>
    user.isRecommendation && user.isListed && user.id ≠ currentUserId &&
      !isFollowedByCurrentUser currentUserId user.id store
  orderByDesc (fun user => user.recommendationRank.getD 0)
      (recommended.filter fun user => user.recommendationRank.isSome) ++
    recommended.filter fun user => user.recommendationRank.isNone

/-- A page of users. -/
def usersPage (users : List User) (offset limit : Option Int) : PagedList UserDto :=
  (getItems users offset limit).map (User.toDto currentUserId store)

/-- `UserService.getFollowingOrFollowersForUserResult`. -/
def getFollowingOrFollowersForUserResult (shouldGetFollowers : Bool) (userId : Option Long)
    (offset limit : Option Int) : Except Throwable (PagedList UserDto) := do
  let user ← match userId with
    | none => loadCurrentUser currentUserId store
    | some userId =>
        match findUserById userId store with
        | some user => .ok user
        | none =>
            .error (entityNotFoundException .userNotFound
              ("Could not find user with id " ++ toString userId))
  return usersPage currentUserId store
    (if shouldGetFollowers then User.getFollowers store user.id
      else User.getFollowing store user.id) offset limit

end Queries

inductive UserListing where
  | searchUsersResult (userQuery : String)
  | getMostActiveUsersResult
  | getLikersResult (streamableId : Long)
  | getFollowingOrFollowersForUserResult (shouldGetFollowers : Bool) (userId : Option Long)
  | findRecommendedUsersToFollow

/-- What a listing answers the current user. -/
def UserListing.answer (search : SearchPlatform) (currentUserId : Long) (store : Store)
    (offset limit : Option Int) : UserListing → Except Throwable (PagedList UserDto)
  | .searchUsersResult userQuery =>
      .ok (usersPage currentUserId store
        (User.searchUser store (search.like ("%" ++ userQuery ++ "%"))) offset limit)
  | .getMostActiveUsersResult =>
      .ok (usersPage currentUserId store (User.getMostActiveUsers store) offset limit)
  | .getLikersResult streamableId =>
      GraffiTab.getLikersResult currentUserId store streamableId offset limit
  | .getFollowingOrFollowersForUserResult shouldGetFollowers userId =>
      GraffiTab.getFollowingOrFollowersForUserResult currentUserId store shouldGetFollowers userId
        offset limit
  | .findRecommendedUsersToFollow => do
      let currentUser ← loadCurrentUser currentUserId store
      return usersPage currentUser.id store (User.findWhoToFollow currentUser.id store) offset limit

/-- No page of a listing shows an account that was never activated. -/
def HidesPending (search : SearchPlatform) (store : Store) : Prop :=
  ∀ (listing : UserListing) currentUserId offset limit page,
    listing.answer search currentUserId store offset limit = .ok page →
      ∀ dto ∈ page.items, ∀ user ∈ store.users.rows, user.id = dto.id →
        user.accountStatus ≠ .pendingActivation

/-- Of a user who follows another, both have activated their accounts, or neither has. -/
def FollowsAlike (store : Store) : Prop :=
  ∀ row ∈ store.following, ∀ follower followed,
    store.users.find row.userId = some follower →
      store.users.find row.followingId = some followed →
        follower.isListed = followed.isListed

/-! ### Runs -/

/-- An operation on accounts, the creation of a streamable, or a call for an edge. -/
inductive SocialAction where
  | account (action : AccountAction)
  | createStreamable (currentUserId : Long) (dto : StreamableGraffitiDto) (guid : String)
      (now : Long)
  | edge (request : EdgeRequest) (first second : Long)

def socialStep (environment : Environment) (state : AccountState) :
    SocialAction → Option AccountState
  | .account action => accountStep environment state action
  | .createStreamable currentUserId dto guid now =>
      some { state with
        store := (executeInTransactionWithResult (createStreamableInTransaction currentUserId dto
          (fun id => .processing id guid) now) state.store).1 }
  | .edge request first second =>
      some { state with store := (request.serve first second state.store).1 }

/-- The listings hide the accounts that were never activated; in every run whose steps meet the
condition. -/
def ListingsHidePending (environment : Environment)
    (condition : AccountState → SocialAction → Prop) : Prop :=
  ∀ search state, Reaches (socialStep environment) condition newInstallation state →
    HidesPending search state.store

/-- Nobody follows an account that waits for its activation, or from such an account. -/
def FollowsActivated (state : AccountState) : SocialAction → Prop
  | .edge (.follow currentUserId toFollowId) _ _ =>
      ∀ user ∈ state.store.users.rows, user.id = currentUserId ∨ user.id = toFollowId →
        user.accountStatus ≠ .pendingActivation
  | _ => True

/-! ### What is listed -/

section Listed

variable {store : Store}

/-- The rows of a list that are activated accounts of the database. -/
def ListsActivated (store : Store) (users : List User) : Prop :=
  ∀ user ∈ users, user ∈ store.users.rows ∧ user.isListed = true

theorem isListed_iff {user : User} :
    user.isListed = true ↔ user.accountStatus ≠ .pendingActivation :=
  decide_eq_true_iff

/-- A page of activated accounts shows no other one. -/
theorem ListsActivated.hides_page {users : List User} (activated : ListsActivated store users)
    {currentUserId : Long} {offset limit : Option Int} :
    ∀ dto ∈ (usersPage currentUserId store users offset limit).items,
      ∀ user ∈ store.users.rows, user.id = dto.id → user.accountStatus ≠ .pendingActivation := by
  intro dto shown user member same
  obtain ⟨listed, onPage, rfl⟩ := List.mem_map.mp shown
  obtain ⟨listedMember, isListed⟩ := activated listed (mem_getPage onPage)
  rw [Table.eq_of_id_eq member listedMember same]
  exact isListed_iff.mp isListed

theorem listsActivated_searchUser (like : String → Bool) :
    ListsActivated store (User.searchUser store like) := by
  intro user listed
  obtain ⟨member, condition⟩ := Table.mem_select.mp listed
  exact ⟨member, (Bool.and_eq_true_iff.mp condition).2⟩

theorem listsActivated_getMostActiveUsers :
    ListsActivated store (User.getMostActiveUsers store) := by
  intro user listed
  obtain ⟨group, ordered, rfl⟩ := List.mem_map.mp listed
  obtain ⟨row, grouped, rfl⟩ := List.mem_map.mp (mem_orderByDesc.mp ordered)
  obtain ⟨pair, joined, rfl⟩ := List.mem_map.mp (List.mem_dedup.mp grouped)
  obtain ⟨member, isListed⟩ := List.mem_filter.mp joined
  exact ⟨mem_map_fst_leftJoin.mp (List.mem_map_of_mem member), isListed⟩

theorem listsActivated_listedLikers (streamableId : Long) :
    ListsActivated store (listedLikers store streamableId) := by
  intro user listed
  obtain ⟨liker, isListed⟩ := List.mem_filter.mp listed
  obtain ⟨userId, -, found⟩ := List.mem_filterMap.mp liker
  exact ⟨Table.mem_of_find found, isListed⟩

theorem listsActivated_findWhoToFollow (currentUserId : Long) :
    ListsActivated store (User.findWhoToFollow currentUserId store) := by
  intro user listed
  have recommended : user ∈ store.users.select fun user =>
      user.isRecommendation && user.isListed && user.id ≠ currentUserId &&
        !isFollowedByCurrentUser currentUserId user.id store := by
    rcases List.mem_append.mp listed with ranked | unranked
    · exact (List.mem_filter.mp (mem_orderByDesc.mp ranked)).1
    · exact (List.mem_filter.mp unranked).1
  obtain ⟨member, condition⟩ := Table.mem_select.mp recommended
  simp only [Bool.and_eq_true] at condition
  exact ⟨member, condition.1.1.2⟩

theorem mem_followersOf {user follower : User} :
    follower ∈ followersOf store user ↔
      ∃ row ∈ store.following, row.followingId = user.id ∧
        store.users.find row.userId = some follower := by
  simp only [followersOf, List.mem_filterMap, List.mem_filter, decide_eq_true_eq, and_assoc]

theorem mem_followingOf {user followed : User} :
    followed ∈ followingOf store user ↔
      ∃ row ∈ store.following, row.userId = user.id ∧
        store.users.find row.followingId = some followed := by
  simp only [followingOf, List.mem_filterMap, List.mem_filter, decide_eq_true_eq, and_assoc]

/-- A query on one side of the following rows asks the status of the user of the list. -/
theorem mem_ofSubject {related : User → List User} {userId : Long} {other : User} :
    other ∈ ((innerJoin store.users.rows related).filter fun pair =>
        pair.1.id = userId && pair.1.isListed).map Prod.snd ↔
      ∃ user ∈ store.users.rows, user.id = userId ∧ user.isListed = true ∧
        other ∈ related user := by
  constructor
  · intro listed
    obtain ⟨⟨user, second⟩, joined, rfl⟩ := List.mem_map.mp listed
    obtain ⟨paired, condition⟩ := List.mem_filter.mp joined
    obtain ⟨member, belongs⟩ := mem_innerJoin.mp paired
    obtain ⟨isUser, isListed⟩ := Bool.and_eq_true_iff.mp condition
    exact ⟨user, member, of_decide_eq_true isUser, isListed, belongs⟩
  · rintro ⟨user, member, isUser, isListed, belongs⟩
    refine List.mem_map.mpr ⟨(user, other), List.mem_filter.mpr
      ⟨mem_innerJoin.mpr ⟨member, belongs⟩, ?_⟩, rfl⟩
    exact Bool.and_eq_true_iff.mpr ⟨decide_eq_true isUser, isListed⟩

theorem FollowsAlike.listsActivated_getFollowers (alike : FollowsAlike store) (userId : Long) :
    ListsActivated store (User.getFollowers store userId) := by
  intro follower listed
  obtain ⟨user, member, -, isListed, belongs⟩ := mem_ofSubject.mp listed
  obtain ⟨row, stored, isFollowed, found⟩ := mem_followersOf.mp belongs
  have known : store.users.find row.followingId = some user := isFollowed ▸ Table.find_of_mem member
  exact ⟨Table.mem_of_find found, (alike row stored follower user found known).trans isListed⟩

theorem FollowsAlike.listsActivated_getFollowing (alike : FollowsAlike store) (userId : Long) :
    ListsActivated store (User.getFollowing store userId) := by
  intro followed listed
  obtain ⟨user, member, -, isListed, belongs⟩ := mem_ofSubject.mp listed
  obtain ⟨row, stored, follows, found⟩ := mem_followingOf.mp belongs
  have known : store.users.find row.userId = some user := follows ▸ Table.find_of_mem member
  exact ⟨Table.mem_of_find found, (alike row stored user followed known found).symm.trans isListed⟩

theorem getFollowingOrFollowersForUserResult_ok {currentUserId : Long} {shouldGetFollowers : Bool}
    {userId : Option Long} {offset limit : Option Int} {page : PagedList UserDto}
    (answered : getFollowingOrFollowersForUserResult currentUserId store shouldGetFollowers userId
      offset limit = .ok page) :
    ∃ user : User, page = usersPage currentUserId store
      (if shouldGetFollowers then User.getFollowers store user.id
        else User.getFollowing store user.id) offset limit := by
  unfold getFollowingOrFollowersForUserResult at answered
  cases userId with
  | none =>
      obtain ⟨user, -, rest⟩ := bind_eq_ok.mp answered
      exact ⟨user, (Except.ok.inj rest).symm⟩
  | some userId =>
      cases found : findUserById userId store with
      | none => simp only [found, bind, Except.bind, reduceCtorEq] at answered
      | some user =>
          simp only [found] at answered
          exact ⟨user, (Except.ok.inj answered).symm⟩

theorem FollowsAlike.hidesPending (alike : FollowsAlike store) (search : SearchPlatform) :
    HidesPending search store := by
  intro listing currentUserId offset limit page answered
  cases listing with
  | searchUsersResult userQuery =>
      obtain rfl := Except.ok.inj answered
      exact (listsActivated_searchUser _).hides_page
  | getMostActiveUsersResult =>
      obtain rfl := Except.ok.inj answered
      exact listsActivated_getMostActiveUsers.hides_page
  | getLikersResult streamableId =>
      have ofLikers : getLikersResult currentUserId store streamableId offset limit = .ok page :=
        answered
      unfold getLikersResult ofStreamable at ofLikers
      split at ofLikers
      · obtain rfl := Except.ok.inj ofLikers
        exact (listsActivated_listedLikers streamableId).hides_page
      · exact absurd ofLikers throw_ne_ok
  | getFollowingOrFollowersForUserResult shouldGetFollowers userId =>
      obtain ⟨user, rfl⟩ := getFollowingOrFollowersForUserResult_ok answered
      cases shouldGetFollowers with
      | true => exact (alike.listsActivated_getFollowers user.id).hides_page
      | false => exact (alike.listsActivated_getFollowing user.id).hides_page
  | findRecommendedUsersToFollow =>
      obtain ⟨currentUser, -, rest⟩ := bind_eq_ok.mp answered
      obtain rfl := Except.ok.inj rest
      exact (listsActivated_findWhoToFollow currentUser.id).hides_page

/-- The whole list of the followers, or of the users that a user follows. -/
theorem answer_followList {user : User} (known : store.users.find user.id = some user)
    (search : SearchPlatform) (shouldGetFollowers : Bool) :
    (UserListing.getFollowingOrFollowersForUserResult shouldGetFollowers (some user.id)).answer
        search user.id store none (some (-2147483648)) =
      .ok (usersPage user.id store
        (if shouldGetFollowers then User.getFollowers store user.id
          else User.getFollowing store user.id) none (some (-2147483648))) := by
  simp only [UserListing.answer, getFollowingOrFollowersForUserResult, findUserById, known]
  rfl

/-- A user that such a list has is shown by its greatest page. -/
theorem HidesPending.isListed {search : SearchPlatform} (hides : HidesPending search store)
    {user other : User} (known : store.users.find user.id = some user)
    (otherMember : other ∈ store.users.rows) (shouldGetFollowers : Bool)
    (listed : other ∈ if shouldGetFollowers then User.getFollowers store user.id
      else User.getFollowing store user.id) : other.isListed = true := by
  refine isListed_iff.mpr (hides _ _ _ _ _ (answer_followList known search shouldGetFollowers)
    (other.toDto user.id store) ?_ other otherMember rfl)
  refine List.mem_map_of_mem ?_
  rw [getItems_leastLimit]
  exact listed

/-- The listings are right exactly if the following rows relate activated accounts to activated
accounts, and others to others. -/
theorem hidesPending_iff {search : SearchPlatform} :
    HidesPending search store ↔ FollowsAlike store := by
  refine ⟨fun hides row stored follower followed isFollower isFollowed => ?_,
    fun alike => alike.hidesPending search⟩
  have follows : row.userId = follower.id := (Table.id_of_find isFollower).symm
  have isFollowedId : row.followingId = followed.id := (Table.id_of_find isFollowed).symm
  have followerMember := Table.mem_of_find isFollower
  have followedMember := Table.mem_of_find isFollowed
  rw [Bool.eq_iff_iff]
  constructor
  · intro isListed
    exact hides.isListed (Table.find_of_mem followerMember) followedMember false
      (mem_ofSubject.mpr ⟨follower, followerMember, rfl, isListed,
        mem_followingOf.mpr ⟨row, stored, follows, isFollowed⟩⟩)
  · intro isListed
    exact hides.isListed (Table.find_of_mem followedMember) followerMember true
      (mem_ofSubject.mpr ⟨followed, followedMember, rfl, isListed,
        mem_followersOf.mpr ⟨row, stored, isFollowedId, isFollower⟩⟩)

end Listed

/-! ### What a step does to the following rows -/

section Steps

variable {environment : Environment} {state next : AccountState} {store : Store}

/-- The identifier is one of an account that was activated. -/
def IsActivated (store : Store) (id : Long) : Prop :=
  ∃ user, store.users.find id = some user ∧ user.isListed = true

/-- No account goes back to wait for its activation. -/
theorem isActivated_accountStep {action : AccountAction} {id : Long}
    (activated : IsActivated state.store id)
    (taken : accountStep environment state action = some next) : IsActivated next.store id := by
  obtain ⟨user, known, isListed⟩ := activated
  rcases accountStep_users taken with same | ⟨row, -, inserted⟩ |
    ⟨found, member, changed, changes, saved⟩
  · exact ⟨user, same ▸ known, isListed⟩
  · exact ⟨user, inserted ▸ Table.find_insert_of_find known row, isListed⟩
  · by_cases written : id = changed.id
    · subst written
      have isFound : user = found :=
        Table.eq_of_id_eq (Table.mem_of_find known) member
          ((Table.id_of_find known).trans changes.id_eq.1)
      refine ⟨changed, saved ▸ Table.find_set_self known, isListed_iff.mpr fun pending => ?_⟩
      exact isListed_iff.mp (isFound ▸ isListed) (changes.id_eq.2 pending)
    · exact ⟨user, saved ▸ (Table.find_set_other _ written).trans known, isListed⟩

/-- The users stay, and a new following row is one of a `follow` between known users. -/
def FollowEffect (store : Store) (request : EdgeRequest) (next : Store) : Prop :=
  next.users = store.users ∧ ∀ row ∈ next.following, row ∈ store.following ∨
    request = .follow row.userId row.followingId ∧
      (store.users.find row.userId).isSome ∧ (store.users.find row.followingId).isSome

theorem FollowEffect.of_subset {request : EdgeRequest} {next : Store}
    (users : next.users = store.users) (subset : next.following ⊆ store.following) :
    FollowEffect store request next :=
  ⟨users, fun _ member => .inl (subset member)⟩

theorem followEffect_like {currentUserId toLikeId : Long} {answer : Streamable × Bool}
    {liked : Store} (returned : like currentUserId toLikeId store = .ok (answer, liked)) :
    FollowEffect store (.like currentUserId toLikeId) liked := by
  obtain ⟨innerUser, -, rest⟩ := bind_eq_ok.mp returned
  split at rest
  · split at rest
    · obtain ⟨-, rfl⟩ := Prod.mk.inj (Except.ok.inj rest)
      exact .of_subset rfl (List.Subset.refl _)
    · obtain ⟨-, rfl⟩ := Prod.mk.inj (Except.ok.inj rest)
      exact .of_subset rfl (List.Subset.refl _)
  · exact absurd rest throw_ne_ok

theorem followEffect_unlike {currentUserId toUnlikeId : Long} {answer : Streamable}
    {unliked : Store} (returned : unlike currentUserId toUnlikeId store = .ok (answer, unliked)) :
    FollowEffect store (.unlike currentUserId toUnlikeId) unliked := by
  unfold unlike at returned
  split at returned
  · obtain ⟨currentUser, -, rest⟩ := bind_eq_ok.mp returned
    obtain ⟨-, rfl⟩ := Prod.mk.inj (Except.ok.inj rest)
    exact .of_subset rfl (List.Subset.refl _)
  · exact absurd returned throw_ne_ok

theorem followEffect_follow {currentUserId toFollowId : Long} {answer : User × Bool}
    {followed : Store} (returned : follow currentUserId toFollowId store = .ok (answer, followed)) :
    FollowEffect store (.follow currentUserId toFollowId) followed := by
  obtain ⟨innerUser, loaded, rest⟩ := bind_eq_ok.mp returned
  have known := loadCurrentUser_ok.mp loaded
  split at rest
  · rename_i toFollow found
    split at rest
    · exact absurd rest throw_ne_ok
    split at rest
    · obtain ⟨-, rfl⟩ := Prod.mk.inj (Except.ok.inj rest)
      exact .of_subset rfl (List.Subset.refl _)
    · obtain ⟨-, rfl⟩ := Prod.mk.inj (Except.ok.inj rest)
      refine ⟨rfl, fun row member => (List.mem_append.mp member).imp id fun new => ?_⟩
      obtain rfl : innerUser.id = currentUserId := Table.id_of_find known
      obtain rfl : toFollow.id = toFollowId := Table.id_of_find found
      rw [List.mem_singleton.mp new]
      exact ⟨rfl, Option.isSome_of_mem known, Option.isSome_of_mem found⟩
  · exact absurd rest throw_ne_ok

theorem followEffect_unfollow {currentUserId toUnfollowId : Long} {answer : User}
    {unfollowed : Store}
    (returned : unfollow currentUserId toUnfollowId store = .ok (answer, unfollowed)) :
    FollowEffect store (.unfollow currentUserId toUnfollowId) unfollowed := by
  unfold unfollow at returned
  split at returned
  · obtain ⟨currentUser, -, rest⟩ := bind_eq_ok.mp returned
    obtain ⟨-, rfl⟩ := Prod.mk.inj (Except.ok.inj rest)
    exact .of_subset rfl (List.erase_subset ..)
  · exact absurd returned throw_ne_ok

/-- What a call for an edge does to the following rows. -/
theorem serve_followEffect (request : EdgeRequest) (first second : Long) (store : Store) :
    FollowEffect store request (request.serve first second store).1 := by
  have unchanged (request : EdgeRequest) : FollowEffect store request store :=
    .of_subset rfl (List.Subset.refl _)
  cases request with
  | like currentUserId toLikeId =>
      rw [serve_like_fst]
      exact executeInTransactionWithResult_keeps (FollowEffect store _) (unchanged _)
        fun _ _ => followEffect_like
  | unlike currentUserId toUnlikeId =>
      exact transaction_keeps (FollowEffect store _) (unchanged _) fun _ _ => followEffect_unlike
  | follow currentUserId toFollowId =>
      have served : ((EdgeRequest.follow currentUserId toFollowId).serve first second store).1 =
          (executeInTransactionWithResult (follow currentUserId toFollowId) store).1 := by
        rw [EdgeRequest.serve, FeedRequest.perform]
        split <;> rename_i same <;> rw [same]
      rw [served]
      exact executeInTransactionWithResult_keeps (FollowEffect store _) (unchanged _)
        fun _ _ => followEffect_follow
  | unfollow currentUserId toUnfollowId =>
      exact transaction_keeps (FollowEffect store _) (unchanged _) fun _ _ => followEffect_unfollow

end Steps

/-! ### Runs without pending followers -/

section Invariant

variable {environment : Environment} {state next : AccountState}

/-- Everybody who follows and everybody who is followed has activated the account. -/
def FollowsOnlyActivated (store : Store) : Prop :=
  ∀ row ∈ store.following, IsActivated store row.userId ∧ IsActivated store row.followingId

theorem FollowsOnlyActivated.followsAlike {store : Store} (only : FollowsOnlyActivated store) :
    FollowsAlike store := by
  intro row stored follower followed isFollower isFollowed
  obtain ⟨⟨first, firstFound, firstListed⟩, second, secondFound, secondListed⟩ := only row stored
  obtain rfl : first = follower := Option.some.inj (firstFound.symm.trans isFollower)
  obtain rfl : second = followed := Option.some.inj (secondFound.symm.trans isFollowed)
  exact firstListed.trans secondListed.symm

/-- The users stay, and no following row is new. -/
theorem FollowsOnlyActivated.of_users_eq {store next : Store} (only : FollowsOnlyActivated store)
    (users : next.users = store.users) (following : next.following = store.following) :
    FollowsOnlyActivated next := by
  intro row member
  unfold IsActivated
  rw [users]
  exact only row (following ▸ member)

theorem followsOnlyActivated_step {action : SocialAction}
    (only : FollowsOnlyActivated state.store) (permitted : FollowsActivated state action)
    (taken : socialStep environment state action = some next) :
    FollowsOnlyActivated next.store := by
  cases action with
  | account action =>
      intro row member
      have old := only row (accountStep_following taken ▸ member)
      exact ⟨isActivated_accountStep old.1 taken, isActivated_accountStep old.2 taken⟩
  | createStreamable currentUserId dto guid now =>
      obtain rfl := Option.some.inj taken
      refine executeInTransactionWithResult_keeps FollowsOnlyActivated only
        fun created committed returned => ?_
      obtain ⟨currentUser, -, rest⟩ := bind_eq_ok.mp returned
      obtain ⟨-, rfl⟩ := Prod.mk.inj (Except.ok.inj rest)
      exact only.of_users_eq rfl rfl
  | edge request first second =>
      obtain rfl := Option.some.inj taken
      obtain ⟨users, rows⟩ := serve_followEffect request first second state.store
      intro row member
      simp only [IsActivated, users]
      rcases rows row member with old | ⟨rfl, isFollower, isFollowed⟩
      · exact only row old
      · obtain ⟨follower, followerFound⟩ := Option.isSome_iff_exists.mp isFollower
        obtain ⟨followed, followedFound⟩ := Option.isSome_iff_exists.mp isFollowed
        exact ⟨⟨follower, followerFound, isListed_iff.mpr (permitted follower
            (Table.mem_of_find followerFound) (.inl (Table.id_of_find followerFound)))⟩,
          followed, followedFound, isListed_iff.mpr (permitted followed
            (Table.mem_of_find followedFound) (.inr (Table.id_of_find followedFound)))⟩

end Invariant

/-- As long as nobody follows an account that waits for its activation, no listing of users shows
one. -/
theorem listingsHidePending_of_followsActivated (environment : Environment) :
    ListingsHidePending environment FollowsActivated := by
  intro search state reached
  have only : FollowsOnlyActivated state.store :=
    reached.invariant (fun state : AccountState => FollowsOnlyActivated state.store)
      (List.forall_mem_nil _)
      fun _ _ _ kept permitted taken => followsOnlyActivated_step kept permitted taken
  exact only.followsAlike.hidesPending search

/-! ### An active user who follows a new one -/

/-- Alice activates her account, and follows Bob, who has not activated his. -/
def aliceFollowsBob : List SocialAction :=
  [.account (.createUser (plainInput "alice") "G" "T" "" 0),
    .account (.activateUser "T" 0),
    .account (.createUser (plainInput "bob") "H" "U" "" 0),
    .edge (.follow 1 2) 0 0]

def bobFollowed : AccountState :=
  (run (socialStep (plainEnvironment .entry)) newInstallation aliceFollowsBob).getD newInstallation

/-- The list of the users that Alice follows shows Bob. -/
theorem not_listingsHidePending :
    ¬ ListingsHidePending (plainEnvironment .entry) unrestricted := by
  intro hides
  have reached : Reaches (socialStep (plainEnvironment .entry)) unrestricted newInstallation
      bobFollowed :=
    reaches_of_run_unrestricted aliceFollowsBob (by decide)
  have alike : FollowsAlike bobFollowed.store :=
    hidesPending_iff.mp (hides plainSearch bobFollowed reached)
  have follows : (⟨1, 2⟩ : Following) ∈ bobFollowed.store.following := by decide
  have pending : ∃ alice ∈ bobFollowed.store.users.rows, ∃ bob ∈ bobFollowed.store.users.rows,
      alice.id = 1 ∧ bob.id = 2 ∧ alice.isListed ≠ bob.isListed := by
    decide
  obtain ⟨alice, aliceMember, bob, bobMember, isAlice, isBob, different⟩ := pending
  exact different (alike ⟨1, 2⟩ follows alice bob (Table.find_eq_some.mpr ⟨aliceMember, isAlice⟩)
    (Table.find_eq_some.mpr ⟨bobMember, isBob⟩))

end GraffiTab
