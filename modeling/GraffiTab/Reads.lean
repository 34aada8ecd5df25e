/-
This file models the operations by which a user reads streamables, comments, likers,
hashtags, activities and profiles.

Each query is a list of rows in the order in which the database returns them; where the
query asks for no order, or leaves ties, the rows keep the order of their table. The
listed rows are cut into a page and mapped to what the answer shows of them.
-/

import Mathlib.Data.Finset.Sort
import Mathlib.Data.String.Basic
import GraffiTab.Writes

namespace GraffiTab

open Tables

/-- What the searches take from below the code: the case mapping of Java, which texts the `like` of
the database accepts for a pattern, and the coordinates at a distance from a point. -/
structure SearchPlatform where
  toLowerCase : String → String
  like : String → String → Bool
  /-- `GPSUtils.offsetCoordinates`. -/
  offsetCoordinates : Rat → Rat → Int → Rat × Rat

/-- Rows in descending order of a key. -/
def orderByDesc {Row : Type} (key : Row → Int) (rows : List Row) : List Row :=
  rows.mergeSort fun first second => key second ≤ key first

/-- The query `User.isFollowedByCurrentUser`. -/
def isFollowedByCurrentUser (currentUserId userId : Long) (store : Store) : Bool :=
  store.following.any fun row => row.userId = currentUserId && row.followingId = userId

/-! ### What the answers show -/

structure AssetDto where
  guid : String
  assetType : AssetType
  state : AssetState
  deriving DecidableEq

structure UserDto where
  id : Long
  guid : String
  username : String
  firstName : String
  lastName : String
  email : String
  website : Option String
  about : Option String
  followedByCurrentUser : Bool
  createdOn : Long
  updatedOn : Option Long
  avatarAsset : Option AssetDto
  coverAsset : Option AssetDto
  deriving DecidableEq

structure FullStreamableDto where
  id : Long
  user : Option UserDto
  createdOn : Long
  updatedOn : Option Long
  isPrivate : Bool
  isFlagged : Bool
  asset : Option AssetDto
  latitude : Option Rat
  longitude : Option Rat
  roll : Option Rat
  yaw : Option Rat
  pitch : Option Rat
  text : Option String
  likersCount : Nat
  commentsCount : Nat
  likedByCurrentUser : Bool
  deriving DecidableEq

structure CommentDto where
  id : Long
  streamable : Option FullStreamableDto
  user : Option UserDto
  text : String
  createdOn : Long
  updatedOn : Option Long
  deriving DecidableEq

inductive ActivityType where
  | comment | createStreamable | follow | like
  deriving DecidableEq, Repr

structure ActivityDto where
  createdOn : Long
  activityType : ActivityType
  followed : Option UserDto
  likedStreamable : Option FullStreamableDto
  commentedStreamable : Option FullStreamableDto
  comment : Option CommentDto
  createdStreamable : Option FullStreamableDto
  deriving DecidableEq

structure ActivityContainerDto where
  user : Option UserDto
  createdOn : Long
  activityType : ActivityType
  activities : List ActivityDto
  deriving DecidableEq

structure ExternalProviderDto where
  externalUserId : String
  externalProviderType : ExternalProviderType
  deriving DecidableEq

structure FullUserDto where
  user : UserDto
  followersCount : Nat
  followingCount : Nat
  streamablesCount : Nat
  externalProviders : Option (List ExternalProviderDto)
  deriving DecidableEq

/-! ### The mapper -/

section Mapper

variable (currentUserId : Long) (store : Store)

def Asset.toDto (asset : Asset) : AssetDto where
  guid := asset.guid
  assetType := asset.assetType
  state := asset.state

/-- `UserMapper`, over the fields of the same names. -/
def User.toDto (user : User) : UserDto where
  id := user.id
  guid := user.guid
  username := user.username
  firstName := user.firstName
  lastName := user.lastName
  email := user.email
  website := user.website
  about := user.about
  followedByCurrentUser := isFollowedByCurrentUser currentUserId user.id store
  createdOn := user.createdOn
  updatedOn := user.updatedOn
  avatarAsset := user.avatarAsset.map Asset.toDto
  coverAsset := user.coverAsset.map Asset.toDto

/-- What is shown of the user with the identifier. -/
def userDto (userId : Long) : Option UserDto :=
  (store.users.find userId).map (User.toDto currentUserId store)

/-- The likers of a streamable, by their identifiers. -/
def likersOf (streamableId : Long) : List Long :=
  (store.likes.filter fun row => row.streamableId = streamableId).map Like.userId

/-- The comments of a streamable that are not deleted. -/
def commentsOf (streamableId : Long) : List Comment :=
  store.comments.select fun row => row.streamableId = streamableId && !row.isDeleted

/-- `FullStreamableMapper`, with the three values of the query `Streamable.stats`. -/
def Streamable.toDto (streamable : Streamable) : FullStreamableDto where
  id := streamable.id
  user := userDto currentUserId store streamable.userId
  createdOn := streamable.createdOn
  updatedOn := streamable.updatedOn
  isPrivate := streamable.isPrivate
  isFlagged := streamable.isFlagged
  asset := streamable.asset.map Asset.toDto
  latitude := streamable.latitude
  longitude := streamable.longitude
  roll := streamable.roll
  yaw := streamable.yaw
  pitch := streamable.pitch
  text := streamable.text
  likersCount := (likersOf store streamable.id).length
  commentsCount := (commentsOf store streamable.id).length
  likedByCurrentUser := (likersOf store streamable.id).contains currentUserId

/-- What is shown of the streamable with the identifier. -/
def streamableDto (streamableId : Long) : Option FullStreamableDto :=
  (store.streamables.find streamableId).map (Streamable.toDto currentUserId store)

def Comment.toDto (comment : Comment) : CommentDto where
  id := comment.id
  streamable := streamableDto currentUserId store comment.streamableId
  user := userDto currentUserId store comment.userId
  text := comment.text
  createdOn := comment.createdOn
  updatedOn := comment.updatedOn

def ActivityContent.activityType : ActivityContent → ActivityType
  | .comment _ _ => .comment
  | .createStreamable _ => .createStreamable
  | .follow _ => .follow
  | .like _ => .like

/-- The fields that an activity of another class has stay null. -/
def Activity.toDto (activity : Activity) : ActivityDto :=
  let dto : ActivityDto :=
    { createdOn := activity.createdOn
      activityType := activity.content.activityType
      followed := none
      likedStreamable := none
      commentedStreamable := none
      comment := none
      createdStreamable := none }
  match activity.content with
  | .comment commentedStreamable comment =>
      { dto with
        commentedStreamable := streamableDto currentUserId store commentedStreamable
        comment := (store.comments.find comment).map (Comment.toDto currentUserId store) }
  | .createStreamable createdStreamable =>
      { dto with createdStreamable := streamableDto currentUserId store createdStreamable }
  | .follow followed => { dto with followed := userDto currentUserId store followed }
  | .like likedStreamable =>
      { dto with likedStreamable := streamableDto currentUserId store likedStreamable }

/-- `FullUserMapper`, with the query `User.stats`: the streamables that are not deleted count,
private or not, and the linked accounts are shown to the user alone. -/
def User.toFullDto (user : User) : FullUserDto where
  user := user.toDto currentUserId store
  followersCount := (store.following.filter fun row => row.followingId = user.id).length
  followingCount := (store.following.filter fun row => row.userId = user.id).length
  streamablesCount :=
    (store.streamables.select fun row => row.userId = user.id && !row.isDeleted).length
  externalProviders :=
    if user.id = currentUserId then
      some ((store.externalProviders.select fun row => row.userId = user.id).map fun row =>
        { externalUserId := row.externalUserId
          externalProviderType := row.externalProviderType })
    else none

end Mapper

/-! ### The queries for streamables -/

section Queries

variable (currentUserId : Long) (store : Store)

/-- The rule for hidden items:
`s.isDeleted = 'N' and (s.isPrivate = 'N' or s.user = :currentUser)`. -/
def Streamable.visibleTo (streamable : Streamable) : Bool :=
  !streamable.isDeleted && (!streamable.isPrivate || streamable.userId = currentUserId)

/-- The query `Streamable.getNewestStreamables`. -/
def newestStreamables : List Streamable :=
  orderByDesc Streamable.createdOn
    (store.streamables.select fun row => row.visibleTo currentUserId)

/-- The query `Streamable.getPopularStreamables`. -/
def popularStreamables : List Streamable :=
  let counted := (store.streamables.select fun row => row.visibleTo currentUserId).map fun row =>
    (row, (likersOf store row.id).length)
  (orderByDesc (fun entry => (entry.2 : Int)) counted).map Prod.fst

/-- The query `Streamable.getLikedStreamables`, with a row for each like. -/
def likedStreamables (userId : Long) : List Streamable :=
  orderByDesc Streamable.createdOn <|
    (store.streamables.select fun row => row.visibleTo currentUserId).flatMap fun row =>
      ((likersOf store row.id).filter fun liker => liker = userId).map fun _ => row

/-- The query `Streamable.getUserStreamables`. -/
def userStreamables (userId : Long) : List Streamable :=
  orderByDesc Streamable.createdOn <|
    store.streamables.select fun row => row.userId = userId && row.visibleTo currentUserId

/-- The notification is about a mention in the streamable. -/
def Notification.mentions (notification : Notification) (streamableId : Long) : Bool :=
  match notification.content with
  | .mention _ mentionedStreamable _ => mentionedStreamable = streamableId
  | _ => false

/-- The query `Streamable.getUserMentions`. -/
def userMentions (userId : Long) : List Streamable :=
  orderByDesc Streamable.createdOn <|
    store.streamables.select fun row =>
      store.notifications.rows.any
          (fun notification => notification.userId = userId && notification.mentions row.id) &&
        row.visibleTo currentUserId

/-- The query `Streamable.getPrivateStreamables`. -/
def privateStreamables : List Streamable :=
  orderByDesc Streamable.createdOn <|
    store.streamables.select fun row =>
      row.userId = currentUserId && !row.isDeleted && row.isPrivate

/-- The streamable lies in the rectangle between the two points. -/
def Streamable.liesBetween (southWest northEast : Rat × Rat) (streamable : Streamable) : Bool :=
  match streamable.latitude, streamable.longitude with
  | some latitude, some longitude =>
      latitude ≤ northEast.1 && southWest.1 ≤ latitude && longitude ≤ northEast.2 &&
        southWest.2 ≤ longitude
  | _, _ => false

/-- The query `Streamable.searchStreamablesAtLocation`. -/
def streamablesAtLocation (southWest northEast : Rat × Rat) : List Streamable :=
  orderByDesc Streamable.createdOn <|
    store.streamables.select fun row =>
      row.liesBetween southWest northEast && row.visibleTo currentUserId

/-- The query `Streamable.searchStreamablesForHashtag`. -/
def streamablesForHashtag (like : String → Bool) : List Streamable :=
  orderByDesc Streamable.createdOn <|
    store.streamables.select fun row => row.hashtags.any like && row.visibleTo currentUserId

/-- The query `Streamable.searchHashtags`, which lists a set of texts. -/
def hashtagsLike (like : String → Bool) : List String :=
  ((store.streamables.rows.flatMap Streamable.hashtags).filter like).toFinset.sort
    fun first second => first ≤ second

/-- The query `User.getLikers`. -/
def listedLikers (streamableId : Long) : List User :=
  ((likersOf store streamableId).filterMap store.users.find).filter fun user =>
    user.accountStatus ≠ .pendingActivation

/-! ### The queries for activities -/

/-- The streamable of a creation, `a.createdStreamable`. -/
def Activity.createdStreamable (activity : Activity) : Option Streamable :=
  match activity.content with
  | .createStreamable createdStreamable => store.streamables.find createdStreamable
  | _ => none

/-- The query `Activity.getUserFeed`. -/
def userFeed : List Streamable :=
  (orderByDesc Activity.createdOn store.activities.rows).filterMap fun activity =>
    if isFollowedByCurrentUser currentUserId activity.userId store ||
        activity.userId = currentUserId then
      (activity.createdStreamable store).filter fun created =>
        !created.isDeleted && (!created.isPrivate || activity.userId = currentUserId)
    else none

/-- The query `Activity.getFollowersActivity`: only the streamables of creations are looked at. -/
def followersActivity : List Activity :=
  orderByDesc Activity.createdOn <|
    store.activities.select fun activity =>
      isFollowedByCurrentUser currentUserId activity.userId store &&
        match activity.createdStreamable store with
        | none => true
        | some created => !created.isDeleted && !created.isPrivate

end Queries

/-! ### Groups of activities -/

/-- `Activity.isSameTypeOfActivity`. -/
def Activity.isSameTypeOfActivity (activity other : Activity) : Bool :=
  activity.content.activityType = other.content.activityType && activity.userId = other.userId

/-- `Activity.isSameActivity` of the four classes, for activities of the same type and user; two
comments are the same activity when they are about one streamable. -/
def Activity.isSameActivity (activity other : Activity) : Bool :=
  match activity.content, other.content with
  | .comment streamable _, .comment otherStreamable _ => streamable = otherStreamable
  | .createStreamable streamable, .createStreamable otherStreamable =>
      streamable = otherStreamable
  | .follow followed, .follow otherFollowed => followed = otherFollowed
  | .like streamable, .like otherStreamable => streamable = otherStreamable
  | _, _ => false

structure ActivityContainer where
  activityType : ActivityType
  createdOn : Long
  userId : Long
  activities : List Activity

/-- A container with its first activity. -/
def ActivityContainer.start (activity : Activity) : ActivityContainer where
  activityType := activity.content.activityType
  createdOn := activity.createdOn
  userId := activity.userId
  activities := [activity]

/-- The loop of `groupActivities`, from the container that is being filled on. -/
def groupFrom (numberOfItemsInGroup : Int) (previous : Activity) (container : ActivityContainer) :
    List Activity → List ActivityContainer
  | [] => [container]
  | activity :: rest =>
      if activity.isSameTypeOfActivity previous &&
          (container.activities.length : Int) < numberOfItemsInGroup then
        if activity.isSameActivity previous then
          groupFrom numberOfItemsInGroup activity container rest
        else
          groupFrom numberOfItemsInGroup activity
            { container with activities := container.activities ++ [activity] } rest
      else
        container :: groupFrom numberOfItemsInGroup activity (.start activity) rest

/-- `ActivityPagingService.groupActivities`; the loop visits the first activity a second time. -/
def groupActivities (numberOfItemsInGroup : Int) : List Activity → List ActivityContainer
  | [] => []
  | first :: rest => groupFrom numberOfItemsInGroup first (.start first) (first :: rest)

def numGroupItemsDefaultValue : Int := 5
def numGroupItemsMaxValue : Int := 20

/-- The size of a group that a request is understood to ask for. -/
def groupSize (numberOfItemsInGroup : Option Int) : Int :=
  let size := (numberOfItemsInGroup.map mathAbs).getD numGroupItemsDefaultValue
  if size > numGroupItemsMaxValue then numGroupItemsMaxValue else size

def ActivityContainer.toDto (currentUserId : Long) (store : Store) (container : ActivityContainer) :
    ActivityContainerDto where
  user := userDto currentUserId store container.userId
  createdOn := container.createdOn
  activityType := container.activityType
  activities := container.activities.map (Activity.toDto currentUserId store)

/-! ### The services -/

section Services

variable (currentUserId : Long) (store : Store)

/-- `StreamableService.getStreamable`, mapped. -/
def getStreamable (streamableId : Long) : Except Throwable FullStreamableDto :=
  match streamableDto currentUserId store streamableId with
  | some dto => .ok dto
  | none =>
      .error (entityNotFoundException .streamableNotFound
        ("Streamable with id " ++ toString streamableId ++ " not found"))

/-- The answer of a listing that first looks for a streamable. -/
def ofStreamable {Answer : Type} (streamableId : Long) (answer : Answer) :
    Except Throwable Answer :=
  if (store.streamables.find streamableId).isSome then .ok answer
  else .error (streamableNotFound streamableId)

/-- The answer of a listing that first looks for a user. -/
def ofUser {Answer : Type} (userId : Long) (answer : Answer) : Except Throwable Answer :=
  if (store.users.find userId).isSome then .ok answer
  else
    .error (restApiException .userNotFound ("User with id " ++ toString userId ++ " not found"))

/-- `StreamableService.getLikersResult`. -/
def getLikersResult (streamableId : Long) (offset limit : Option Int) :
    Except Throwable (PagedList UserDto) :=
  ofStreamable store streamableId
    ((getItems (listedLikers store streamableId) offset limit).map
      (User.toDto currentUserId store))

/-- `CommentService.getCommentsResult`. -/
def getCommentsResult (streamableId : Long) (offset limit : Option Int) :
    Except Throwable (PagedList CommentDto) :=
  ofStreamable store streamableId
    ((getItems (orderByDesc Comment.createdOn (commentsOf store streamableId)) offset limit).map
      (Comment.toDto currentUserId store))

/-- A page of streamables. -/
def streamablesPage (rows : List Streamable) (offset limit : Option Int) :
    PagedList FullStreamableDto :=
  (getItems rows offset limit).map (Streamable.toDto currentUserId store)

/-- `ActivityService.getFollowersActivityResult`: the page counts the activities, and lists the
groups. -/
def getFollowersActivityResult (numberOfItemsInGroup offset limit : Option Int) :
    PagedList ActivityContainerDto :=
  let page := getItems (followersActivity currentUserId store) offset limit
  { items := (groupActivities (groupSize numberOfItemsInGroup) page.items).map
      (ActivityContainer.toDto currentUserId store)
    resultsCount := page.resultsCount
    offset := page.offset
    limit := page.limit }

/-- `UserService.getUser`, mapped to the profile. -/
def getUserProfile (userId : Long) : Except Throwable FullUserDto :=
  match store.users.find userId with
  | some user => .ok (user.toFullDto currentUserId store)
  | none =>
      .error (entityNotFoundException .userNotFound
        ("Could not find user with id " ++ toString userId))

/-- `StreamableService.searchStreamablesAtLocationResult`. -/
def searchStreamablesAtLocationResult (search : SearchPlatform) (latitude longitude : Rat)
    (radius : Int) : PagedList FullStreamableDto :=
  let radius := min radius 6378137
  let northEast := search.offsetCoordinates latitude longitude radius
  let southWest := search.offsetCoordinates latitude longitude (-radius)
  (getLocationItems (streamablesAtLocation currentUserId store southWest northEast) (some 0)
    (some pageSizeMaxValueLocation)).map (Streamable.toDto currentUserId store)

end Services

/-! ### The endpoints -/

/-- The reads that a user can ask for. -/
inductive ReadOperation where
  | getStreamable (streamableId : Long)
  | getLikers (streamableId : Long)
  | getComments (streamableId : Long)
  | getNewestStreamables
  | getPopularStreamables
  | getLikedStreamablesForUser (userId : Long)
  | getUserStreamables (userId : Long)
  | getUserMentions (userId : Long)
  | getPrivateStreamables
  | searchStreamablesAtLocation (latitude longitude : Rat) (radius : Int)
  | searchStreamablesForHashtag (hashtag : String)
  | searchHashtags (hashtag : String)
  | getUserFeed
  | getFollowersActivity (numberOfItemsInGroup : Option Int)
  | getUserProfile (userId : Long)

inductive ReadAnswer where
  | streamable (dto : FullStreamableDto)
  | streamables (page : PagedList FullStreamableDto)
  | users (page : PagedList UserDto)
  | comments (page : PagedList CommentDto)
  | hashtags (page : PagedList String)
  | activities (page : PagedList ActivityContainerDto)
  | profile (dto : FullUserDto)
  deriving DecidableEq

section Endpoints

variable (search : SearchPlatform) (currentUserId : Long)

/-- What the service of a read answers for the window of a request. -/
def ReadOperation.perform (store : Store) (offset limit : Option Int) :
    ReadOperation → Except Throwable ReadAnswer
  | .getStreamable streamableId =>
      (GraffiTab.getStreamable currentUserId store streamableId).map .streamable
  | .getLikers streamableId =>
      (getLikersResult currentUserId store streamableId offset limit).map .users
  | .getComments streamableId =>
      (getCommentsResult currentUserId store streamableId offset limit).map .comments
  | .getNewestStreamables =>
      .ok (.streamables (streamablesPage currentUserId store
        (newestStreamables currentUserId store) offset limit))
  | .getPopularStreamables =>
      .ok (.streamables (streamablesPage currentUserId store
        (popularStreamables currentUserId store) offset limit))
  | .getLikedStreamablesForUser userId =>
      ofUser store userId (.streamables (streamablesPage currentUserId store
        (likedStreamables currentUserId store userId) offset limit))
  | .getUserStreamables userId =>
      ofUser store userId (.streamables (streamablesPage currentUserId store
        (userStreamables currentUserId store userId) offset limit))
  | .getUserMentions userId =>
      ofUser store userId (.streamables (streamablesPage currentUserId store
        (userMentions currentUserId store userId) offset limit))
  | .getPrivateStreamables =>
      .ok (.streamables (streamablesPage currentUserId store
        (privateStreamables currentUserId store) offset limit))
  | .searchStreamablesAtLocation latitude longitude radius =>
      .ok (.streamables
        (searchStreamablesAtLocationResult currentUserId store search latitude longitude radius))
  | .searchStreamablesForHashtag hashtag =>
      .ok (.streamables (streamablesPage currentUserId store
        (streamablesForHashtag currentUserId store
          (search.like ("%" ++ search.toLowerCase hashtag ++ "%"))) offset limit))
  | .searchHashtags hashtag =>
      .ok (.hashtags (getItems
        (hashtagsLike store (search.like (search.toLowerCase hashtag ++ "%"))) offset limit))
  | .getUserFeed =>
      .ok (.streamables (streamablesPage currentUserId store (userFeed currentUserId store) offset
        limit))
  | .getFollowersActivity numberOfItemsInGroup =>
      .ok (.activities
        (getFollowersActivityResult currentUserId store numberOfItemsInGroup offset limit))
  | .getUserProfile userId =>
      (GraffiTab.getUserProfile currentUserId store userId).map .profile

/-- `UserStatusAspect.checkUserStatus` for `@UserStatusRequired(AccountStatus.ACTIVE)`, the
rendering of the array of statuses left out. -/
def checkUserStatus (store : Store) : Except Throwable Unit := do
  let user ← loadCurrentUser currentUserId store
  if user.accountStatus = .active then
    return ()
  else
    throw (restApiException .userNotInExpectedState "Current user is not in the expected state ")

/-- What the endpoint of a read answers. -/
def ReadOperation.answer (operation : ReadOperation) (store : Store) (offset limit : Option Int) :
    Except Throwable ReadAnswer := do
  checkUserStatus currentUserId store
  operation.perform search currentUserId store offset limit

end Endpoints

end GraffiTab
