/-
This file holds the persistent entities of the backend and the store of their tables.

The fields are those of the entity classes, with `Option` for a column that can be
null. A reference to another entity is the identifier in the foreign key column. An
asset has one owner, a user's avatar or cover or a streamable, and is created and
deleted with that reference, so it is stored in the owner's field. The rows of the
join tables without an identifier are lists in the order of insertion.
-/

import Mathlib.Data.List.AList
import Mathlib.Data.Rat.Init
import GraffiTab.Library.Tables
import GraffiTab.Results

namespace GraffiTab

open Tables

/-- Identifiers, and points in time as milliseconds. -/
abbrev Long := Int

/-! ### Users -/

inductive AccountStatus where
  | pendingActivation | active | suspended | resetPassword
  deriving DecidableEq, Repr

/-- The name of the constant, as the messages print it. -/
def AccountStatus.name : AccountStatus → String
  | .pendingActivation => "PENDING_ACTIVATION"
  | .active => "ACTIVE"
  | .suspended => "SUSPENDED"
  | .resetPassword => "RESET_PASSWORD"

inductive AssetType where
  | image
  deriving DecidableEq, Repr

inductive AssetState where
  | resizing | processing | completed
  deriving DecidableEq, Repr

structure Asset where
  id : Long
  guid : String
  assetType : AssetType
  state : AssetState
  deriving DecidableEq

/-- The key-value pairs stored with a user. -/
abbrev Metadata := AList fun _ : String => String

instance : DecidableEq Metadata := fun first second =>
  decidable_of_iff (first.entries = second.entries) AList.ext_iff.symm

structure User where
  id : Long
  guid : String
  username : String
  firstName : String
  lastName : String
  password : String
  email : String
  website : Option String
  about : Option String
  createdOn : Long
  updatedOn : Option Long
  failedLogins : Option Int
  accountStatus : AccountStatus
  isRecommendation : Bool
  recommendationRank : Option Int
  avatarAsset : Option Asset
  coverAsset : Option Asset
  metadataItems : Metadata
  deriving DecidableEq

inductive ExternalProviderType where
  | facebook | twitter | google
  deriving DecidableEq, Repr

def ExternalProviderType.name : ExternalProviderType → String
  | .facebook => "FACEBOOK"
  | .twitter => "TWITTER"
  | .google => "GOOGLE"

structure ExternalProvider where
  id : Long
  userId : Long
  externalProviderType : ExternalProviderType
  externalUserId : String
  accessToken : String
  deriving DecidableEq

inductive OSType where
  | ios | android
  deriving DecidableEq, Repr

structure Device where
  id : Long
  userId : Long
  token : String
  osType : OSType
  deriving DecidableEq

structure Location where
  id : Long
  userId : Long
  address : String
  latitude : Rat
  longitude : Rat
  createdOn : Long
  updatedOn : Option Long
  deriving DecidableEq

structure UserSession where
  id : Long
  sessionId : String
  createdOn : Long
  userId : Long
  deriving DecidableEq

/-- One user follows another. -/
structure Following where
  userId : Long
  followingId : Long
  deriving DecidableEq

/-! ### Streamables -/

structure Streamable where
  id : Long
  userId : Long
  createdOn : Long
  updatedOn : Option Long
  isPrivate : Bool
  isFlagged : Bool
  isDeleted : Bool
  text : Option String
  asset : Option Asset
  hashtags : List String
  latitude : Option Rat
  longitude : Option Rat
  roll : Option Rat
  yaw : Option Rat
  pitch : Option Rat
  deriving DecidableEq

structure Comment where
  id : Long
  streamableId : Long
  userId : Long
  text : String
  createdOn : Long
  updatedOn : Option Long
  isDeleted : Bool
  deriving DecidableEq

structure Like where
  streamableId : Long
  userId : Long
  deriving DecidableEq

/-! ### Notifications and activities -/

/-- The classes of notifications with the entities they refer to. -/
inductive NotificationContent where
  | comment (commenter commentedStreamable comment : Long)
  | follow (follower : Long)
  | like (liker likedStreamable : Long)
  | mention (mentioner mentionedStreamable : Long) (mentionedComment : Option Long)
  | welcome
  deriving DecidableEq

structure Notification where
  id : Long
  userId : Long
  isRead : Bool
  createdOn : Long
  content : NotificationContent
  deriving DecidableEq

/-- The classes of activities with the entities they refer to. -/
inductive ActivityContent where
  | comment (commentedStreamable comment : Long)
  | createStreamable (createdStreamable : Long)
  | follow (followed : Long)
  | like (likedStreamable : Long)
  deriving DecidableEq

structure Activity where
  id : Long
  userId : Long
  createdOn : Long
  content : ActivityContent
  deriving DecidableEq

/-! ### The store -/

instance : Identified User := ⟨User.id, fun id row => { row with id }, fun _ _ => rfl⟩

instance : Identified ExternalProvider :=
  ⟨ExternalProvider.id, fun id row => { row with id }, fun _ _ => rfl⟩

instance : Identified Device := ⟨Device.id, fun id row => { row with id }, fun _ _ => rfl⟩

instance : Identified Location := ⟨Location.id, fun id row => { row with id }, fun _ _ => rfl⟩

instance : Identified UserSession :=
  ⟨UserSession.id, fun id row => { row with id }, fun _ _ => rfl⟩

instance : Identified Streamable :=
  ⟨Streamable.id, fun id row => { row with id }, fun _ _ => rfl⟩

instance : Identified Comment := ⟨Comment.id, fun id row => { row with id }, fun _ _ => rfl⟩

instance : Identified Notification :=
  ⟨Notification.id, fun id row => { row with id }, fun _ _ => rfl⟩

instance : Identified Activity := ⟨Activity.id, fun id row => { row with id }, fun _ _ => rfl⟩

/-- The database: one table for each entity class, and the join tables. -/
structure Store where
  users : Table User
  externalProviders : Table ExternalProvider
  devices : Table Device
  locations : Table Location
  sessions : Table UserSession
  streamables : Table Streamable
  comments : Table Comment
  notifications : Table Notification
  activities : Table Activity
  following : List Following
  likes : List Like
  /-- The last identifier given to an asset, the assets being stored with their owners. -/
  lastAssetId : Long
  deriving DecidableEq

/-- The database of a new installation. -/
def Store.empty : Store where
  users := .empty
  externalProviders := .empty
  devices := .empty
  locations := .empty
  sessions := .empty
  streamables := .empty
  comments := .empty
  notifications := .empty
  activities := .empty
  following := []
  likes := []
  lastAssetId := 0

/-- An active user that only has a name, for runs on fixed inputs. -/
def plainUser (id : Long) (username : String) : User where
  id := id
  guid := username
  username := username
  firstName := username
  lastName := username
  password := ""
  email := username ++ "@graffitab.com"
  website := none
  about := none
  createdOn := 0
  updatedOn := none
  failedLogins := none
  accountStatus := .active
  isRecommendation := false
  recommendationRank := none
  avatarAsset := none
  coverAsset := none
  metadataItems := ∅

/-! ### Transactions -/

/-- The body of a transaction: it throws, or it returns a value and the next store. -/
abbrev Transaction (Value : Type) := Store → Except Throwable (Value × Store)

/-- Commits the store of a body that returned, and rolls back when it threw. -/
def transaction {Value : Type} (body : Transaction Value) (store : Store) :
    Store × Except Throwable Value :=
  match body store with
  | .ok (value, next) => (next, .ok value)
  | .error thrown => (store, .error thrown)

/-- `TransactionUtils.executeInTransactionWithResult`: the exception of the body leaves the
transaction as the cause of a `RuntimeException`. -/
def executeInTransactionWithResult {Value : Type} (body : Transaction Value) (store : Store) :
    Store × Except Throwable Value :=
  match body store with
  | .ok (value, next) => (next, .ok value)
  | .error thrown => (store, .error (.runtimeException thrown))

section Transactions

variable {Value : Type} (body : Transaction Value) (store : Store)

/-- A transaction either commits what its body returned, or leaves the store as it was. -/
theorem transaction_cases :
    (∃ value next, body store = .ok (value, next) ∧ transaction body store = (next, .ok value)) ∨
      ∃ thrown, body store = .error thrown ∧
        transaction body store = (store, .error thrown) := by
  unfold transaction
  rcases body store with thrown | ⟨value, next⟩
  · exact .inr ⟨thrown, rfl, rfl⟩
  · exact .inl ⟨value, next, rfl, rfl⟩

theorem executeInTransactionWithResult_cases :
    (∃ value next, body store = .ok (value, next) ∧
      executeInTransactionWithResult body store = (next, .ok value)) ∨
      ∃ thrown, body store = .error thrown ∧
        executeInTransactionWithResult body store =
          (store, .error (.runtimeException thrown)) := by
  unfold executeInTransactionWithResult
  rcases body store with thrown | ⟨value, next⟩
  · exact .inr ⟨thrown, rfl, rfl⟩
  · exact .inl ⟨value, next, rfl, rfl⟩

/-- A transaction that throws has changed nothing. -/
theorem transaction_error {body : Transaction Value} {store : Store} {thrown : Throwable}
    (failed : (transaction body store).2 = .error thrown) :
    (transaction body store).1 = store := by
  rcases transaction_cases body store with ⟨value, next, -, same⟩ | ⟨other, -, same⟩
  · rw [same] at failed
    cases failed
  · rw [same]

theorem executeInTransactionWithResult_error {body : Transaction Value} {store : Store}
    {thrown : Throwable} (failed : (executeInTransactionWithResult body store).2 = .error thrown) :
    (executeInTransactionWithResult body store).1 = store := by
  rcases executeInTransactionWithResult_cases body store with
    ⟨value, next, -, same⟩ | ⟨other, -, same⟩
  · rw [same] at failed
    cases failed
  · rw [same]

/-- What holds of the store, and of everything that the body commits, holds after the
transaction. -/
theorem transaction_keeps (Kept : Store → Prop) {body : Transaction Value} {store : Store}
    (held : Kept store) (commits : ∀ value next, body store = .ok (value, next) → Kept next) :
    Kept (transaction body store).1 := by
  rcases transaction_cases body store with ⟨value, next, returned, same⟩ | ⟨thrown, -, same⟩
  · rw [same]
    exact commits value next returned
  · rw [same]
    exact held

theorem executeInTransactionWithResult_keeps (Kept : Store → Prop) {body : Transaction Value}
    {store : Store} (held : Kept store)
    (commits : ∀ value next, body store = .ok (value, next) → Kept next) :
    Kept (executeInTransactionWithResult body store).1 := by
  rcases executeInTransactionWithResult_cases body store with
    ⟨value, next, returned, same⟩ | ⟨thrown, -, same⟩
  · rw [same]
    exact commits value next returned
  · rw [same]
    exact held

theorem transaction_isOk {body : Transaction Value} {store : Store} {value : Value} :
    (transaction body store).2 = .ok value ↔ ∃ next, body store = .ok (value, next) := by
  rcases transaction_cases body store with ⟨returned, next, same, result⟩ | ⟨thrown, same, result⟩
  · rw [result, same]
    simp
  · rw [result, same]
    exact iff_of_false (fun absurdity => by cases absurdity) (by simp)

end Transactions

/-! ### Application properties -/

/-- The properties read from the configuration, and the log level. -/
structure Config where
  /-- `registration.immediateActivation`. -/
  immediateUserActivation : Bool := false
  /-- `session.backups.enabled`. -/
  sessionBackupsEnabled : Bool := true
  /-- `basicAuth.enabled`. -/
  basicAuthEnabled : Bool := true
  /-- Whether the loggers of the security classes are at the debug level. -/
  debugEnabled : Bool := false

end GraffiTab
