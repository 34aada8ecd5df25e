/-
This file asks how much of a listing one request can obtain.

Four services take an offset and a limit from the request, replace a missing one by a default,
take the absolute value, and cut a limit that is too large. A limit of zero passes, and the least
32-bit integer is its own absolute value and passes as well; Hibernate takes both for no limit at
all. The same integer passes as an offset.
-/

import GraffiTab.Reads
import GraffiTab.SocialClient

namespace GraffiTab

/-! ### The services -/

/-- What a service hands to its data source. -/
structure Window where
  firstResult : Int
  maxResults : Int
  deriving DecidableEq

/-- The page was listed with the values that it shows. -/
def PagedList.window {Row : Type} (page : PagedList Row) : Window := ⟨page.offset, page.limit⟩

/-- `ActivityPagingService.getPagedItems`, before the groups are mapped. -/
def getPagedActivities (rows : List Activity) (numberOfItemsInGroup offset limit : Option Int) :
    PagedList ActivityContainer :=
  let page := getItems rows offset limit
  { items := groupActivities (groupSize numberOfItemsInGroup) page.items
    resultsCount := page.resultsCount
    offset := page.offset
    limit := page.limit }

structure UserSocialFriendsContainer where
  externalProviderType : ExternalProviderType
  users : List User
  limit : Int
  offset : Int
  resultsCount : Nat

/-- The body of the transaction in which the link of the user is looked up. -/
def findExternalProviderBody (currentUserId : Long) (type : ExternalProviderType) :
    Transaction (Option ExternalProvider) := fun store => do
  return (← findExternalProvider currentUserId type store, store)

/-- `getFriendsForSocialNetwork` up to the call of the social network, if it makes one. -/
def friendsCall (currentUserId : Long) (type : ExternalProviderType) (offset limit : Option Int)
    (store : Store) : Except Throwable (Option FacebookCall) := do
  let offset := (offset.map mathAbs).getD 0
  let limit := (limit.map mathAbs).getD pageSizeDefaultValue
  let limit := if limit > pageSizeMaxValue then pageSizeMaxValue else limit
  match ← (executeInTransactionWithResult (findExternalProviderBody currentUserId type) store).2
    with
  | some _ => return if type = .facebook then some (.getFriendsList offset limit) else none
  | none => return none

/-- `SocialNetworksService.getFriendsForSocialNetwork`, where a failing call of the social network
is logged. -/
def getFriendsForSocialNetwork (facebookService : FacebookCall → FacebookAnswer)
    (currentUserId : Long) (type : ExternalProviderType) (offset limit : Option Int)
    (store : Store) : Except Throwable (Option UserSocialFriendsContainer) := do
  match ← friendsCall currentUserId type offset limit store with
  | some (.getFriendsList offset limit) =>
      match facebookService (.getFriendsList offset limit) with
      | .users users =>
          return some
            { externalProviderType := type
              users
              limit
              offset
              resultsCount := users.length }
      | .thrown thrown => throw thrown
      | _ => return none
  | _ => return none

/-- A request for a page, with the service that answers it and what it lists. -/
inductive PageRequest (Row : Type) where
  | items (rows : List Row)
  | locationItems (rows : List Row)
  | activities (rows : List Activity) (numberOfItemsInGroup : Option Int)
  | friends (currentUserId : Long) (type : ExternalProviderType) (store : Store)

section Requests

variable {Row : Type} (request : PageRequest Row) (offset limit : Option Int)

/-- What is handed to the data source; for friends there may be none to ask. -/
def PageRequest.window : Option Window :=
  match request with
  | .items rows => some (getItems rows offset limit).window
  | .locationItems rows => some (getLocationItems rows offset limit).window
  | .activities rows numberOfItemsInGroup =>
      some (getPagedActivities rows numberOfItemsInGroup offset limit).window
  | .friends currentUserId type store =>
      match friendsCall currentUserId type offset limit store with
      | .ok (some (.getFriendsList offset limit)) => some ⟨offset, limit⟩
      | _ => none

/-- The most that a page of the service may hold. -/
def PageRequest.cap : PageRequest Row → Int
  | .locationItems _ => 50
  | _ => 20

/-- The data source is asked: friends are those of a linked account of the one network that is
supported. -/
def PageRequest.AsksSource : PageRequest Row → Prop
  | .friends currentUserId type store =>
      type = .facebook ∧ ∃ provider, findExternalProvider currentUserId type store =
        .ok (some provider)
  | _ => True

/-- The data source gets an offset and a limit with which it lists no more than the cap. -/
structure PageRequest.KeepsCap : Prop where
  first : ∀ window ∈ request.window offset limit, 0 ≤ window.firstResult
  most : ∀ window ∈ request.window offset limit,
    1 ≤ window.maxResults ∧ window.maxResults ≤ request.cap
  obtains : ∀ window ∈ request.window offset limit, ∀ Listed : Type, ∀ rows : List Listed,
    (queryList rows window.firstResult window.maxResults).length ≤ request.cap

end Requests

/-- The container shows the offset and the limit that the social network was asked with. -/
theorem getFriendsForSocialNetwork_window {Row : Type}
    {facebookService : FacebookCall → FacebookAnswer} {currentUserId : Long}
    {type : ExternalProviderType} {offset limit : Option Int} {store : Store}
    {container : UserSocialFriendsContainer}
    (returned : getFriendsForSocialNetwork facebookService currentUserId type offset limit store =
      .ok (some container)) :
    (PageRequest.friends currentUserId type store : PageRequest Row).window offset limit =
      some ⟨container.offset, container.limit⟩ := by
  rw [getFriendsForSocialNetwork] at returned
  obtain ⟨call, asked, answered⟩ := bind_eq_ok.mp returned
  rw [PageRequest.window, asked]
  cases call with
  | none => cases answered
  | some call =>
      cases call with
      | getProfilePictureUrl width height => cases answered
      | getFriendsList offset limit =>
          simp only at answered ⊢
          cases answer : facebookService (.getFriendsList offset limit) with
          | users users =>
              rw [answer] at answered
              obtain rfl := Option.some.inj (Except.ok.inj answered)
              rfl
          | pictureUrl url => rw [answer] at answered; cases answered
          | socialNetworkException message => rw [answer] at answered; cases answered
          | thrown thrown => rw [answer] at answered; cases answered

/-! ### Offsets and limits -/

/-- The least 32-bit integer. -/
def minInteger : Int := -2147483648

theorem mathAbs_nonneg_iff {value : Int} : 0 ≤ mathAbs value ↔ value ≠ minInteger := by
  unfold mathAbs minInteger
  split <;> omega

theorem mathAbs_pos_iff {value : Int} : 1 ≤ mathAbs value ↔ value ≠ 0 ∧ value ≠ minInteger := by
  unfold mathAbs minInteger
  split <;> omega

/-- The offset that is handed over. -/
theorem getD_mathAbs_nonneg_iff {offset : Option Int} :
    0 ≤ (offset.map mathAbs).getD 0 ↔ offset ≠ some minInteger := by
  cases offset with
  | none => exact iff_of_true le_rfl nofun
  | some value => simpa using mathAbs_nonneg_iff

/-- The limit that a service with the given sizes hands over. -/
def cutLimit (defaultSize maxSize : Int) (limit : Option Int) : Int :=
  if (limit.map mathAbs).getD defaultSize > maxSize then maxSize
  else (limit.map mathAbs).getD defaultSize

theorem cutLimit_pos_iff {defaultSize maxSize : Int} (defaultPos : 1 ≤ defaultSize)
    (maxPos : 1 ≤ maxSize) {limit : Option Int} :
    1 ≤ cutLimit defaultSize maxSize limit ↔ limit ≠ some 0 ∧ limit ≠ some minInteger := by
  have cut (value : Int) : 1 ≤ (if value > maxSize then maxSize else value) ↔ 1 ≤ value := by
    split <;> omega
  rw [cutLimit, cut]
  cases limit with
  | none => exact iff_of_true defaultPos ⟨nofun, nofun⟩
  | some value => simpa using mathAbs_pos_iff

theorem cutLimit_le (defaultSize maxSize : Int) (limit : Option Int) :
    cutLimit defaultSize maxSize limit ≤ maxSize := by
  unfold cutLimit
  split <;> omega

/-- A positive maximum is kept. -/
theorem length_queryList_le {Row : Type} (rows : List Row) {firstResult maxResults : Int}
    (positive : 1 ≤ maxResults) :
    ((queryList rows firstResult maxResults).length : Int) ≤ maxResults := by
  rw [queryList, if_neg (by omega)]
  have most := List.length_take_le maxResults.toNat (rows.drop firstResult.toNat)
  omega

/-! ### What the services hand over -/

section Windows

variable {Row : Type} {request : PageRequest Row} {offset limit : Option Int}

/-- The size of a page for a request without a limit. -/
def PageRequest.defaultSize : PageRequest Row → Int
  | .locationItems _ => 50
  | _ => 10

/-- The four services choose the window in one way. -/
theorem window_of_asksSource (asks : request.AsksSource) :
    request.window offset limit =
      some ⟨(offset.map mathAbs).getD 0, cutLimit request.defaultSize request.cap limit⟩ := by
  cases request with
  | items rows => rfl
  | locationItems rows => rfl
  | activities rows numberOfItemsInGroup => rfl
  | friends currentUserId type store =>
      obtain ⟨rfl, provider, linked⟩ := asks
      have executed : (executeInTransactionWithResult
          (findExternalProviderBody currentUserId .facebook) store).2 = .ok (some provider) := by
        rw [executeInTransactionWithResult, findExternalProviderBody, linked]
        rfl
      rw [PageRequest.window, friendsCall, executed]
      rfl

theorem window_of_not_asksSource (silent : ¬ request.AsksSource) :
    request.window offset limit = none := by
  cases request with
  | items rows => exact absurd trivial silent
  | locationItems rows => exact absurd trivial silent
  | activities rows numberOfItemsInGroup => exact absurd trivial silent
  | friends currentUserId type store =>
      rw [PageRequest.window, friendsCall, executeInTransactionWithResult,
        findExternalProviderBody]
      cases linked : findExternalProvider currentUserId type store with
      | error thrown => rfl
      | ok found =>
          cases found with
          | none => rfl
          | some provider =>
              have other : type ≠ .facebook := fun same => silent ⟨same, provider, linked⟩
              cases type with
              | facebook => exact absurd rfl other
              | twitter => rfl
              | google => rfl

theorem defaultSize_pos (request : PageRequest Row) : 1 ≤ request.defaultSize := by
  unfold PageRequest.defaultSize
  split <;> decide

theorem cap_pos (request : PageRequest Row) : 1 ≤ request.cap := by
  unfold PageRequest.cap
  split <;> decide

end Windows

/-- A request keeps the cap exactly if nothing is asked for, or neither of the integers that the
guard lets through is in it. -/
theorem keepsCap_iff {Row : Type} (request : PageRequest Row) (offset limit : Option Int) :
    request.KeepsCap offset limit ↔
      ¬ request.AsksSource ∨
        (offset ≠ some minInteger ∧ limit ≠ some 0 ∧ limit ≠ some minInteger) := by
  by_cases asks : request.AsksSource
  · rw [or_iff_right (not_not.mpr asks), ← getD_mathAbs_nonneg_iff,
      ← cutLimit_pos_iff (defaultSize_pos request) (cap_pos request)]
    have window := @window_of_asksSource _ _ offset limit asks
    have most := cutLimit_le request.defaultSize request.cap limit
    constructor
    · intro keeps
      exact ⟨keeps.first _ window, (keeps.most _ window).1⟩
    · rintro ⟨first, positive⟩
      constructor
      case first =>
        intro handed isHanded
        obtain rfl := Option.some.inj (window.symm.trans isHanded)
        exact first
      case most =>
        intro handed isHanded
        obtain rfl := Option.some.inj (window.symm.trans isHanded)
        exact ⟨positive, most⟩
      case obtains =>
        intro handed isHanded Listed rows
        obtain rfl := Option.some.inj (window.symm.trans isHanded)
        exact (length_queryList_le rows positive).trans most
  · have window := @window_of_not_asksSource _ _ offset limit asks
    refine iff_of_true ⟨?_, ?_, ?_⟩ (.inl asks)
    all_goals
      intro handed isHanded
      rw [window] at isHanded
      cases isHanded

/-- A limit of zero lists everything. -/
theorem not_keepsCap : ¬ (PageRequest.items (List.range 21)).KeepsCap none (some 0) := by
  intro keeps
  exact absurd (keeps.most ⟨0, 0⟩ rfl).1 (by decide)

end GraffiTab
