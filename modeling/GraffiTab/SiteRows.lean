/-
This file says what an operation of the site may do to the rows of all tables.

Users, streamables, comments, notifications and activities are never deleted: a deletion sets a
flag, and no flag and no read mark is ever taken back. Rows also keep their places, and only an
operation that may hide takes something out of sight. What an operation writes refers to what a
row referred to before, or to what is there. So references that find their rows go on doing so.
-/

import GraffiTab.Entities
import GraffiTab.Library.Histories

namespace GraffiTab

open Tables Histories

/-! ### References -/

/-- What a row can refer to: a user, a streamable, a streamable of its creator, or a comment on its
streamable. -/
inductive RowReference where
  | user (userId : Long)
  | streamable (streamableId : Long)
  | streamableBy (streamableId userId : Long)
  | commentOn (commentId streamableId : Long)

def Store.Has (store : Store) : RowReference → Prop
  | .user userId => ∃ row ∈ store.users.rows, row.id = userId
  | .streamable streamableId => ∃ row ∈ store.streamables.rows, row.id = streamableId
  | .streamableBy streamableId userId =>
      ∃ row ∈ store.streamables.rows, row.id = streamableId ∧ row.userId = userId
  | .commentOn commentId streamableId =>
      ∃ row ∈ store.comments.rows, row.id = commentId ∧ row.streamableId = streamableId

def ExternalProvider.references (row : ExternalProvider) : List RowReference := [.user row.userId]

def Device.references (row : Device) : List RowReference := [.user row.userId]

def Location.references (row : Location) : List RowReference := [.user row.userId]

def UserSession.references (row : UserSession) : List RowReference := [.user row.userId]

def Streamable.references (row : Streamable) : List RowReference := [.user row.userId]

def Comment.references (row : Comment) : List RowReference :=
  [.user row.userId, .streamable row.streamableId]

def NotificationContent.references : NotificationContent → List RowReference
  | .comment commenter commentedStreamable commentId =>
      [.user commenter, .streamable commentedStreamable, .commentOn commentId commentedStreamable]
  | .follow follower => [.user follower]
  | .like liker likedStreamable => [.user liker, .streamable likedStreamable]
  | .mention mentioner mentionedStreamable mentionedComment =>
      .user mentioner :: .streamable mentionedStreamable ::
        mentionedComment.toList.map fun commentId => .commentOn commentId mentionedStreamable
  | .welcome => []

def Notification.references (row : Notification) : List RowReference :=
  .user row.userId :: row.content.references

def Activity.references (row : Activity) : List RowReference :=
  .user row.userId ::
    match row.content with
    | .comment commentedStreamable commentId =>
        [.streamable commentedStreamable, .commentOn commentId commentedStreamable]
    | .createStreamable createdStreamable => [.streamableBy createdStreamable row.userId]
    | .follow followed => [.user followed]
    | .like likedStreamable => [.streamable likedStreamable]

def Following.references (row : Following) : List RowReference :=
  [.user row.userId, .user row.followingId]

def Like.references (row : Like) : List RowReference :=
  [.user row.userId, .streamable row.streamableId]

/-- Every reference of every table finds its row. -/
structure Store.RefersToRows (store : Store) : Prop where
  externalProviders :
    AllResolved ExternalProvider.references store.Has store.externalProviders.rows
  devices : AllResolved Device.references store.Has store.devices.rows
  locations : AllResolved Location.references store.Has store.locations.rows
  sessions : AllResolved UserSession.references store.Has store.sessions.rows
  streamables : AllResolved Streamable.references store.Has store.streamables.rows
  comments : AllResolved Comment.references store.Has store.comments.rows
  notifications : AllResolved Notification.references store.Has store.notifications.rows
  activities : AllResolved Activity.references store.Has store.activities.rows
  following : AllResolved Following.references store.Has store.following
  likes : AllResolved Like.references store.Has store.likes

/-! ### Later versions of rows -/

/-- What a request can take out of sight. -/
inductive Hideable where
  | streamable (streamableId : Long)
  | comment (commentId : Long)
  | following (row : Following)

def User.Later (user later : User) : Prop :=
  later.id = user.id ∧ later.guid = user.guid ∧ later.username = user.username ∧
    later.createdOn = user.createdOn

/-- The text of a streamable stays too; a deletion and a flag are not taken back. Unless the
streamable may be hidden, it is neither deleted nor made private. -/
def Streamable.Later (mayHide : Hideable → Prop) (streamable later : Streamable) : Prop :=
  later.id = streamable.id ∧ later.userId = streamable.userId ∧
    later.createdOn = streamable.createdOn ∧ later.text = streamable.text ∧
    (streamable.isDeleted = true → later.isDeleted = true) ∧
    (streamable.isFlagged = true → later.isFlagged = true) ∧
    (¬ mayHide (.streamable streamable.id) →
      (streamable.isDeleted = false → later.isDeleted = false) ∧
        (streamable.isPrivate = false → later.isPrivate = false))

def Comment.Later (mayHide : Hideable → Prop) (comment later : Comment) : Prop :=
  later.id = comment.id ∧ later.streamableId = comment.streamableId ∧
    later.userId = comment.userId ∧ later.createdOn = comment.createdOn ∧
    (comment.isDeleted = true → later.isDeleted = true) ∧
    (¬ mayHide (.comment comment.id) → comment.isDeleted = false → later.isDeleted = false)

def Notification.Later (notification later : Notification) : Prop :=
  later.id = notification.id ∧ later.userId = notification.userId ∧
    later.createdOn = notification.createdOn ∧ later.content = notification.content ∧
    (notification.isRead = true → later.isRead = true)

section Later

variable {mayHide : Hideable → Prop}

theorem User.Later.refl (user : User) : user.Later user := ⟨rfl, rfl, rfl, rfl⟩

theorem Streamable.Later.refl (streamable : Streamable) :
    Streamable.Later mayHide streamable streamable :=
  ⟨rfl, rfl, rfl, rfl, fun deleted => deleted, fun flagged => flagged,
    fun _ => ⟨fun notDeleted => notDeleted, fun isOpen => isOpen⟩⟩

theorem Comment.Later.refl (comment : Comment) : Comment.Later mayHide comment comment :=
  ⟨rfl, rfl, rfl, rfl, fun deleted => deleted, fun _ notDeleted => notDeleted⟩

theorem Notification.Later.refl (notification : Notification) : notification.Later notification :=
  ⟨rfl, rfl, rfl, rfl, fun read => read⟩

theorem User.Later.trans (first second third : User) (before : first.Later second)
    (after : second.Later third) : first.Later third :=
  ⟨after.1.trans before.1, after.2.1.trans before.2.1, after.2.2.1.trans before.2.2.1,
    after.2.2.2.trans before.2.2.2⟩

theorem Streamable.Later.trans (first second third : Streamable)
    (before : Streamable.Later mayHide first second)
    (after : Streamable.Later mayHide second third) : Streamable.Later mayHide first third := by
  obtain ⟨id, userId, createdOn, text, deleted, flagged, inSight⟩ := before
  obtain ⟨nextId, nextUserId, nextCreatedOn, nextText, nextDeleted, nextFlagged, stays⟩ := after
  exact ⟨nextId.trans id, nextUserId.trans userId, nextCreatedOn.trans createdOn,
    nextText.trans text, nextDeleted ∘ deleted, nextFlagged ∘ flagged,
    fun hidesNot =>
      have stillHidesNot := id.symm ▸ hidesNot
      ⟨(stays stillHidesNot).1 ∘ (inSight hidesNot).1,
        (stays stillHidesNot).2 ∘ (inSight hidesNot).2⟩⟩

theorem Comment.Later.trans (first second third : Comment)
    (before : Comment.Later mayHide first second) (after : Comment.Later mayHide second third) :
    Comment.Later mayHide first third := by
  obtain ⟨id, streamableId, userId, createdOn, deleted, inSight⟩ := before
  obtain ⟨nextId, nextStreamableId, nextUserId, nextCreatedOn, nextDeleted, stays⟩ := after
  exact ⟨nextId.trans id, nextStreamableId.trans streamableId, nextUserId.trans userId,
    nextCreatedOn.trans createdOn, nextDeleted ∘ deleted,
    fun hidesNot => stays (id.symm ▸ hidesNot) ∘ inSight hidesNot⟩

theorem Notification.Later.trans (first second third : Notification) (before : first.Later second)
    (after : second.Later third) : first.Later third := by
  obtain ⟨id, userId, createdOn, content, read⟩ := before
  obtain ⟨nextId, nextUserId, nextCreatedOn, nextContent, nextRead⟩ := after
  exact ⟨nextId.trans id, nextUserId.trans userId, nextCreatedOn.trans createdOn,
    nextContent.trans content, nextRead ∘ read⟩

end Later

/-- Nothing of the history of the first store has gone from the second one, and nothing has been
taken out of sight unless it may be hidden. -/
structure Store.Continues (mayHide : Hideable → Prop) (store next : Store) : Prop where
  users : RowsGrow User.Later store.users.rows next.users.rows
  streamables : RowsGrow (Streamable.Later mayHide) store.streamables.rows next.streamables.rows
  comments : RowsGrow (Comment.Later mayHide) store.comments.rows next.comments.rows
  notifications : RowsGrow Notification.Later store.notifications.rows next.notifications.rows
  activities : RowsGrow Eq store.activities.rows next.activities.rows
  following : ∀ row ∈ store.following, ¬ mayHide (.following row) → row ∈ next.following

section Continues

variable {mayHide other : Hideable → Prop} {store middle next : Store}

/-- A store with the same six tables continues the history. -/
theorem Store.Continues.of_eq (users : next.users = store.users)
    (streamables : next.streamables = store.streamables) (comments : next.comments = store.comments)
    (notifications : next.notifications = store.notifications)
    (activities : next.activities = store.activities)
    (following : next.following = store.following) :
    Store.Continues mayHide store next where
  users := users ▸ .refl User.Later.refl _
  streamables := streamables ▸ .refl Streamable.Later.refl _
  comments := comments ▸ .refl Comment.Later.refl _
  notifications := notifications ▸ .refl Notification.Later.refl _
  activities := activities ▸ .refl (fun _ => rfl) _
  following _ member _ := following ▸ member

theorem Store.Continues.refl (store : Store) : Store.Continues mayHide store store :=
  .of_eq rfl rfl rfl rfl rfl rfl

theorem Store.Continues.trans (before : Store.Continues mayHide store middle)
    (after : Store.Continues mayHide middle next) : Store.Continues mayHide store next where
  users := before.users.trans User.Later.trans after.users
  streamables := before.streamables.trans Streamable.Later.trans after.streamables
  comments := before.comments.trans Comment.Later.trans after.comments
  notifications := before.notifications.trans Notification.Later.trans after.notifications
  activities := before.activities.trans (fun _ _ _ first second => first.trans second)
    after.activities
  following row member hidesNot :=
    after.following row (before.following row member hidesNot) hidesNot

theorem Store.Continues.mono (weaker : ∀ thing, mayHide thing → other thing)
    (continues : Store.Continues mayHide store next) : Store.Continues other store next := by
  obtain ⟨users, streamables, comments, notifications, activities, following⟩ := continues
  refine ⟨users, streamables.mono fun row later after => ?_,
    comments.mono fun row later after => ?_, notifications, activities,
    fun row member hidesNot => following row member (mt (weaker _) hidesNot)⟩
  · obtain ⟨id, userId, createdOn, text, deleted, flagged, inSight⟩ := after
    exact ⟨id, userId, createdOn, text, deleted, flagged, inSight ∘ mt (weaker _)⟩
  · obtain ⟨id, streamableId, userId, createdOn, deleted, inSight⟩ := after
    exact ⟨id, streamableId, userId, createdOn, deleted, inSight ∘ mt (weaker _)⟩

/-- What is there stays there. -/
theorem Store.Continues.has (continues : Store.Continues mayHide store next)
    {reference : RowReference} (there : store.Has reference) : next.Has reference := by
  cases reference with
  | user userId =>
      obtain ⟨row, member, rfl⟩ := there
      obtain ⟨later, laterMember, same, -⟩ := continues.users.stay row member
      exact ⟨later, laterMember, same⟩
  | streamable streamableId =>
      obtain ⟨row, member, rfl⟩ := there
      obtain ⟨later, laterMember, same, -⟩ := continues.streamables.stay row member
      exact ⟨later, laterMember, same⟩
  | streamableBy streamableId userId =>
      obtain ⟨row, member, rfl, rfl⟩ := there
      obtain ⟨later, laterMember, same, owner, -⟩ := continues.streamables.stay row member
      exact ⟨later, laterMember, same, owner⟩
  | commentOn commentId streamableId =>
      obtain ⟨row, member, rfl, rfl⟩ := there
      obtain ⟨later, laterMember, same, on, -⟩ := continues.comments.stay row member
      exact ⟨later, laterMember, same, on⟩

end Continues

/-! ### What an operation does -/

/-- An operation continues the history, and what it writes refers to what a row referred to before
or to what is there. -/
structure SiteEffect (mayHide : Hideable → Prop) (store next : Store) : Prop
    extends Store.Continues mayHide store next where
  externalProviders : ReferencesKept ExternalProvider.references next.Has
    store.externalProviders.rows next.externalProviders.rows
  devices : ReferencesKept Device.references next.Has store.devices.rows next.devices.rows
  locations : ReferencesKept Location.references next.Has store.locations.rows next.locations.rows
  sessions : ReferencesKept UserSession.references next.Has store.sessions.rows next.sessions.rows
  ownStreamables : ReferencesKept Streamable.references next.Has
    store.streamables.rows next.streamables.rows
  ownComments : ReferencesKept Comment.references next.Has store.comments.rows next.comments.rows
  ownNotifications : ReferencesKept Notification.references next.Has
    store.notifications.rows next.notifications.rows
  ownActivities : ReferencesKept Activity.references next.Has
    store.activities.rows next.activities.rows
  ownFollowing : ReferencesKept Following.references next.Has store.following next.following
  likes : ReferencesKept Like.references next.Has store.likes next.likes

section Effects

variable {mayHide : Hideable → Prop} {store middle next : Store}

theorem SiteEffect.refl (store : Store) : SiteEffect mayHide store store :=
  ⟨.refl store, .refl _, .refl _, .refl _, .refl _, .refl _, .refl _, .refl _, .refl _, .refl _,
    .refl _⟩

/-- References stay resolved. -/
theorem Store.RefersToRows.after (refers : store.RefersToRows)
    (effect : SiteEffect mayHide store next) :
    next.RefersToRows := by
  have stays (reference : RowReference) (there : store.Has reference) : next.Has reference :=
    effect.has there
  exact
    { externalProviders := refers.externalProviders.after stays effect.externalProviders
      devices := refers.devices.after stays effect.devices
      locations := refers.locations.after stays effect.locations
      sessions := refers.sessions.after stays effect.sessions
      streamables := refers.streamables.after stays effect.ownStreamables
      comments := refers.comments.after stays effect.ownComments
      notifications := refers.notifications.after stays effect.ownNotifications
      activities := refers.activities.after stays effect.ownActivities
      following := refers.following.after stays effect.ownFollowing
      likes := refers.likes.after stays effect.likes }

theorem SiteEffect.trans (before : SiteEffect mayHide store middle)
    (after : SiteEffect mayHide middle next) :
    SiteEffect mayHide store next := by
  have stays (reference : RowReference) (there : middle.Has reference) : next.Has reference :=
    after.has there
  exact
    { before.toContinues.trans after.toContinues with
      externalProviders := before.externalProviders.trans stays after.externalProviders
      devices := before.devices.trans stays after.devices
      locations := before.locations.trans stays after.locations
      sessions := before.sessions.trans stays after.sessions
      ownStreamables := before.ownStreamables.trans stays after.ownStreamables
      ownComments := before.ownComments.trans stays after.ownComments
      ownNotifications := before.ownNotifications.trans stays after.ownNotifications
      ownActivities := before.ownActivities.trans stays after.ownActivities
      ownFollowing := before.ownFollowing.trans stays after.ownFollowing
      likes := before.likes.trans stays after.likes }

/-! ### Effects on one table -/

theorem siteEffect_users {users : Table User} (lastAssetId : Long)
    (grow : RowsGrow User.Later store.users.rows users.rows) :
    SiteEffect mayHide store { store with users, lastAssetId } :=
  ⟨{ Store.Continues.refl store with users := grow }, .refl _, .refl _, .refl _, .refl _, .refl _,
    .refl _, .refl _, .refl _, .refl _, .refl _⟩

theorem siteEffect_streamables {streamables : Table Streamable} (lastAssetId : Long)
    (grow : RowsGrow (Streamable.Later mayHide) store.streamables.rows streamables.rows)
    (kept : ReferencesKept Streamable.references { store with streamables }.Has
      store.streamables.rows streamables.rows) :
    SiteEffect mayHide store { store with streamables, lastAssetId } :=
  ⟨{ Store.Continues.refl store with streamables := grow }, .refl _, .refl _, .refl _, .refl _,
    kept, .refl _, .refl _, .refl _, .refl _, .refl _⟩

theorem siteEffect_comments {comments : Table Comment}
    (grow : RowsGrow (Comment.Later mayHide) store.comments.rows comments.rows)
    (kept : ReferencesKept Comment.references { store with comments }.Has
      store.comments.rows comments.rows) :
    SiteEffect mayHide store { store with comments } :=
  ⟨{ Store.Continues.refl store with comments := grow }, .refl _, .refl _, .refl _, .refl _,
    .refl _, kept, .refl _, .refl _, .refl _, .refl _⟩

theorem siteEffect_notifications {notifications : Table Notification}
    (grow : RowsGrow Notification.Later store.notifications.rows notifications.rows)
    (kept : ReferencesKept Notification.references store.Has
      store.notifications.rows notifications.rows) :
    SiteEffect mayHide store { store with notifications } :=
  ⟨{ Store.Continues.refl store with notifications := grow }, .refl _, .refl _, .refl _, .refl _,
    .refl _, .refl _, kept, .refl _, .refl _, .refl _⟩

theorem siteEffect_activities {activities : Table Activity}
    (grow : RowsGrow Eq store.activities.rows activities.rows)
    (kept : ReferencesKept Activity.references store.Has store.activities.rows activities.rows) :
    SiteEffect mayHide store { store with activities } :=
  ⟨{ Store.Continues.refl store with activities := grow }, .refl _, .refl _, .refl _, .refl _,
    .refl _, .refl _, .refl _, kept, .refl _, .refl _⟩

theorem siteEffect_externalProviders {externalProviders : Table ExternalProvider}
    (kept : ReferencesKept ExternalProvider.references store.Has store.externalProviders.rows
      externalProviders.rows) :
    SiteEffect mayHide store { store with externalProviders } :=
  ⟨.of_eq rfl rfl rfl rfl rfl rfl, kept, .refl _, .refl _, .refl _, .refl _, .refl _, .refl _,
    .refl _, .refl _, .refl _⟩

theorem siteEffect_devices {devices : Table Device}
    (kept : ReferencesKept Device.references store.Has store.devices.rows devices.rows) :
    SiteEffect mayHide store { store with devices } :=
  ⟨.of_eq rfl rfl rfl rfl rfl rfl, .refl _, kept, .refl _, .refl _, .refl _, .refl _, .refl _,
    .refl _, .refl _, .refl _⟩

theorem siteEffect_locations {locations : Table Location}
    (kept : ReferencesKept Location.references store.Has store.locations.rows locations.rows) :
    SiteEffect mayHide store { store with locations } :=
  ⟨.of_eq rfl rfl rfl rfl rfl rfl, .refl _, .refl _, kept, .refl _, .refl _, .refl _, .refl _,
    .refl _, .refl _, .refl _⟩

theorem siteEffect_sessions {sessions : Table UserSession}
    (kept : ReferencesKept UserSession.references store.Has store.sessions.rows sessions.rows) :
    SiteEffect mayHide store { store with sessions } :=
  ⟨.of_eq rfl rfl rfl rfl rfl rfl, .refl _, .refl _, .refl _, kept, .refl _, .refl _, .refl _,
    .refl _, .refl _, .refl _⟩

theorem siteEffect_following {following : List Following}
    (stay : ∀ row ∈ store.following, ¬ mayHide (.following row) → row ∈ following)
    (kept : ReferencesKept Following.references store.Has store.following following) :
    SiteEffect mayHide store { store with following } :=
  ⟨{ Store.Continues.refl store with following := stay }, .refl _, .refl _, .refl _, .refl _,
    .refl _, .refl _, .refl _, .refl _, kept, .refl _⟩

theorem siteEffect_likes {likes : List Like}
    (kept : ReferencesKept Like.references store.Has store.likes likes) :
    SiteEffect mayHide store { store with likes } :=
  ⟨.of_eq rfl rfl rfl rfl rfl rfl, .refl _, .refl _, .refl _, .refl _, .refl _, .refl _, .refl _,
    .refl _, .refl _, kept⟩

end Effects

end GraffiTab
