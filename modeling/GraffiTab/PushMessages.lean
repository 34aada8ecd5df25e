/-
This file models what a push notification says.

A push carries a title, a text and a map of metadata, from which the application on the phone finds
out what has happened. The keys of the map depend on the type of the notification, and the values
are texts. The application gets nothing else, so the metadata have to determine the notification:
who has done something, to which streamable and by which comment.
-/

import Std.Data.String.ToInt
import GraffiTab.Entities

namespace GraffiTab

/-! ### Notifications with their entities -/

inductive NotificationType where
  | comment | like | follow | mention | welcome
  deriving DecidableEq, Repr

def NotificationType.name : NotificationType → String
  | .comment => "COMMENT"
  | .like => "LIKE"
  | .follow => "FOLLOW"
  | .mention => "MENTION"
  | .welcome => "WELCOME"

/-- The classes of notifications, with the entities that the sender has at hand. -/
inductive LoadedNotification where
  | ofComment (commenter : User) (commentedStreamable : Streamable) (comment : Comment)
  | ofFollow (follower : User)
  | ofLike (liker : User) (likedStreamable : Streamable)
  | ofMention (mentioner : User) (mentionedStreamable : Streamable)
      (mentionedComment : Option Comment)
  | ofWelcome
  deriving DecidableEq

def LoadedNotification.notificationType : LoadedNotification → NotificationType
  | .ofComment .. => .comment
  | .ofFollow _ => .follow
  | .ofLike .. => .like
  | .ofMention .. => .mention
  | .ofWelcome => .welcome

/-- What is stored of the notification. -/
def LoadedNotification.content : LoadedNotification → NotificationContent
  | .ofComment commenter commentedStreamable comment =>
      .comment commenter.id commentedStreamable.id comment.id
  | .ofFollow follower => .follow follower.id
  | .ofLike liker likedStreamable => .like liker.id likedStreamable.id
  | .ofMention mentioner mentionedStreamable mentionedComment =>
      .mention mentioner.id mentionedStreamable.id (mentionedComment.map Comment.id)
  | .ofWelcome => .welcome

/-! ### The message -/

/-- `user.getFirstName() + " " + user.getLastName()`. -/
def User.fullName (user : User) : String := user.firstName ++ " " ++ user.lastName

/-- `PushsenderNotificationSenderService.buildMetadataMapForNotification`: the entries of the map.
The type comes first, and no key is put twice. -/
def buildMetadataMapForNotification (notification : LoadedNotification) :
    List (String × String) :=
  ("type", notification.notificationType.name) ::
    match notification with
    | .ofComment user streamable comment =>
        [("commenterId", toString user.id),
          ("commenterName", user.fullName),
          ("commentId", toString comment.id),
          ("commentedStreamableId", toString streamable.id)]
    | .ofLike user streamable =>
        [("likerId", toString user.id),
          ("likerName", user.fullName),
          ("likedStreamableId", toString streamable.id)]
    | .ofFollow user =>
        [("followerId", toString user.id),
          ("followerName", user.fullName)]
    | .ofMention user streamable comment =>
        [match comment with
          | some comment => ("mentionedCommentId", toString comment.id)
          | none => ("mentionedPostId", toString streamable.id),
          ("mentionerId", toString user.id),
          ("mentionerName", user.fullName),
          ("mentionedStreamableId", toString streamable.id)]
    | .ofWelcome => []

/-- `PushsenderNotificationSenderService.buildContentForNotification`; the text of a comment is
never null. -/
def buildContentForNotification : LoadedNotification → String
  | .ofComment user _ _ => user.fullName ++ " commented on your post"
  | .ofLike user _ => user.fullName ++ " liked your post"
  | .ofFollow user => user.fullName ++ " started following you"
  | .ofMention user _ comment =>
      user.fullName ++
        match comment with
        | some _ => " mentioned you in a comment"
        | none => " mentioned you in a post"
  | .ofWelcome => "Welcome to GraffiTab!"

/-- What `sendPush` is called with, beside the token of the device. -/
structure PushMessage where
  title : String
  content : String
  metadata : List (String × String)
  deriving DecidableEq

def LoadedNotification.message (notification : LoadedNotification) : PushMessage where
  title := "GraffiTab"
  content := buildContentForNotification notification
  metadata := buildMetadataMapForNotification notification

/-! ### What the application can read in a message -/

/-- `metadata.get(key)`. -/
def PushMessage.get (message : PushMessage) (key : String) : Option String :=
  message.metadata.lookup key

theorem toString_inj {first second : Long} : toString first = toString second ↔ first = second :=
  Int.repr_inj

theorem NotificationType.name_injective (first second : NotificationType)
    (same : first.name = second.name) : first = second := by
  revert same
  cases first <;> cases second <;> decide

section Metadata

variable {first second : LoadedNotification}

theorem get_type (notification : LoadedNotification) :
    notification.message.get "type" = some notification.notificationType.name := rfl

/-- Messages that agree on the metadata are about notifications of one type. -/
theorem notificationType_eq
    (same : first.message.get "type" = second.message.get "type") :
    first.notificationType = second.notificationType := by
  rw [get_type, get_type, Option.some.injEq] at same
  exact NotificationType.name_injective _ _ same

/-- Of a mention, the metadata tell who made it and where, and in which comment it stands, if it
stands in one. -/
theorem mention_determined_by_metadata {mentioner other : User}
    {streamable otherStreamable : Streamable} {comment otherComment : Option Comment}
    (same : ∀ key, (LoadedNotification.ofMention mentioner streamable comment).message.get key =
      (LoadedNotification.ofMention other otherStreamable otherComment).message.get key) :
    mentioner.id = other.id ∧ mentioner.fullName = other.fullName ∧
      streamable.id = otherStreamable.id ∧
        comment.map Comment.id = otherComment.map Comment.id := by
  have mentionerId := same "mentionerId"
  have mentionerName := same "mentionerName"
  have mentionedStreamableId := same "mentionedStreamableId"
  have mentionedCommentId := same "mentionedCommentId"
  cases comment with
  | none =>
      cases otherComment with
      | none =>
          exact ⟨toString_inj.mp (Option.some.inj mentionerId), Option.some.inj mentionerName,
            toString_inj.mp (Option.some.inj mentionedStreamableId), rfl⟩
      | some otherComment => exact absurd mentionedCommentId nofun
  | some comment =>
      cases otherComment with
      | none => exact absurd mentionedCommentId nofun
      | some otherComment =>
          exact ⟨toString_inj.mp (Option.some.inj mentionerId), Option.some.inj mentionerName,
            toString_inj.mp (Option.some.inj mentionedStreamableId),
            congrArg some (toString_inj.mp (Option.some.inj mentionedCommentId))⟩

/-- The text of a mention depends only on whether it stands in a comment. -/
theorem mention_text_eq {mentioner other : User} (streamable otherStreamable : Streamable)
    {comment otherComment : Option Comment} (name : mentioner.fullName = other.fullName)
    (mentioned : comment.map Comment.id = otherComment.map Comment.id) :
    buildContentForNotification (.ofMention mentioner streamable comment) =
      buildContentForNotification (.ofMention other otherStreamable otherComment) := by
  cases comment with
  | none =>
      cases otherComment with
      | none => exact congrArg (fun name => name ++ " mentioned you in a post") name
      | some otherComment => cases mentioned
  | some comment =>
      cases otherComment with
      | none => cases mentioned
      | some otherComment => exact congrArg (fun name => name ++ " mentioned you in a comment") name

/-- The metadata determine what the notification is about, and the text that the phone shows. -/
theorem message_determined_by_metadata
    (same : ∀ key, first.message.get key = second.message.get key) :
    first.content = second.content ∧ first.message.content = second.message.content := by
  have sameType := notificationType_eq (same "type")
  cases first with
  | ofComment commenter streamable comment =>
      cases second with
      | ofComment other otherStreamable otherComment =>
          have commenterId := toString_inj.mp (Option.some.inj (same "commenterId"))
          have streamableId := toString_inj.mp (Option.some.inj (same "commentedStreamableId"))
          have commentId := toString_inj.mp (Option.some.inj (same "commentId"))
          have name : commenter.fullName = other.fullName :=
            Option.some.inj (same "commenterName")
          constructor
          · rw [LoadedNotification.content, LoadedNotification.content, commenterId, streamableId,
              commentId]
          · exact congrArg (fun name => name ++ " commented on your post") name
      | _ => exact absurd sameType nofun
  | ofFollow follower =>
      cases second with
      | ofFollow other =>
          have followerId := toString_inj.mp (Option.some.inj (same "followerId"))
          have name : follower.fullName = other.fullName := Option.some.inj (same "followerName")
          exact ⟨congrArg NotificationContent.follow followerId,
            congrArg (fun name => name ++ " started following you") name⟩
      | _ => exact absurd sameType nofun
  | ofLike liker streamable =>
      cases second with
      | ofLike other otherStreamable =>
          have likerId := toString_inj.mp (Option.some.inj (same "likerId"))
          have streamableId := toString_inj.mp (Option.some.inj (same "likedStreamableId"))
          have name : liker.fullName = other.fullName := Option.some.inj (same "likerName")
          exact ⟨congrArg₂ NotificationContent.like likerId streamableId,
            congrArg (fun name => name ++ " liked your post") name⟩
      | _ => exact absurd sameType nofun
  | ofMention mentioner streamable comment =>
      cases second with
      | ofMention other otherStreamable otherComment =>
          obtain ⟨mentionerId, name, streamableId, mentioned⟩ :=
            mention_determined_by_metadata same
          refine ⟨?_, mention_text_eq streamable otherStreamable name mentioned⟩
          rw [LoadedNotification.content, LoadedNotification.content, mentionerId, streamableId,
            mentioned]
      | _ => exact absurd sameType nofun
  | ofWelcome =>
      cases second with
      | ofWelcome => exact ⟨rfl, rfl⟩
      | _ => exact absurd sameType nofun

end Metadata

/-- Alice follows, before and after she has chosen another name to log in with. -/
def followOf (username : String) : LoadedNotification :=
  .ofFollow { plainUser 1 "alice" with username }

theorem message_determined_by_metadata_follow :
    (followOf "alice").content = (followOf "wonder").content ∧
      (followOf "alice").message.content = (followOf "wonder").message.content :=
  message_determined_by_metadata fun _ => rfl

end GraffiTab
