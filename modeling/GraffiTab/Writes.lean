/-
This file models the operations by which a user changes streamables, comments, locations,
devices and notifications.

Most of them look for an entity by its identifier and compare its user with the current
one. The two operations that delete from a list of the current user find the entity
among all of its kind and then remove it from that list, where it may not be.
-/

import GraffiTab.Paging
import GraffiTab.Registration

namespace GraffiTab

open Tables

/-! ### The current user -/

/-- `UserService.getCurrentUser` inside a transaction. -/
def loadCurrentUser (currentUserId : Long) (store : Store) : Except Throwable User :=
  match findUserById currentUserId store with
  | some user => .ok user
  | none => .error .nullPointerException

section CurrentUser

variable {currentUserId : Long} {store : Store} {user : User}

theorem loadCurrentUser_ok :
    loadCurrentUser currentUserId store = .ok user ↔
      store.users.find currentUserId = some user := by
  unfold loadCurrentUser findUserById
  cases store.users.find currentUserId with
  | none => exact iff_of_false nofun nofun
  | some found => simp

theorem id_of_loadCurrentUser (loaded : loadCurrentUser currentUserId store = .ok user) :
    user.id = currentUserId :=
  Table.id_of_find (loadCurrentUser_ok.mp loaded)

end CurrentUser

/-! ### Streamables -/

/-- The body of a request to create or to edit a graffiti. -/
structure StreamableGraffitiDto where
  latitude : Option Rat
  longitude : Option Rat
  roll : Option Rat
  yaw : Option Rat
  pitch : Option Rat
  asset : Option AssetInput
  text : Option String
  isPrivate : Option Bool

/-- The length of a text in the 16-bit units of Java. -/
def textLength (text : String) : Nat :=
  text.toList.foldl (fun length char => length + if char.toNat < 65536 then 1 else 2) 0

/-- `TextUtilsService.validateText`. -/
def validateText (text : Option String) : Except Throwable Unit :=
  if hasText text && 5000 < textLength (text.getD "") then
    throw (restApiException .textTooLong "Text sent is too long")
  else
    return ()

/-- `AssetService.transferAssetFile`, where the transfer can fail. -/
def transferAssetFile (transferred : Bool) : Except Throwable Unit :=
  if transferred then
    return ()
  else
    throw (restApiException .generalError "Cannot transfer to temporary file")

/-- `Asset.asset` under the given identifier. -/
def Asset.processing (id : Long) (guid : String) : Asset :=
  { id, guid, assetType := .image, state := .processing }

def streamableNotFound (streamableId : Long) : Throwable :=
  restApiException .streamableNotFound
    ("Streamable with id " ++ toString streamableId ++ " not found")

def streamableNotOwned (streamableId currentUserId : Long) : Throwable :=
  restApiException .userNotOwner
    ("The streamable with id " ++ toString streamableId ++ " cannot be changed by user with id " ++
      toString currentUserId)

/-- The streamable with the identifier, when it is the current user's own. -/
def ownStreamable (currentUserId streamableId : Long) (store : Store) :
    Except Throwable Streamable := do
  match store.streamables.find streamableId with
  | none => throw (streamableNotFound streamableId)
  | some streamable =>
      let currentUser ← loadCurrentUser currentUserId store
      if streamable.userId = currentUser.id then
        return streamable
      else
        throw (streamableNotOwned streamableId currentUser.id)

/-- Only an own streamable is found to be changed. -/
theorem find_of_ownStreamable {currentUserId streamableId : Long} {store : Store}
    {streamable : Streamable}
    (found : ownStreamable currentUserId streamableId store = .ok streamable) :
    store.streamables.find streamableId = some streamable ∧
      streamable.userId = currentUserId := by
  unfold ownStreamable at found
  split at found
  · exact absurd found throw_ne_ok
  · rename_i stored known
    obtain ⟨currentUser, loaded, rest⟩ := bind_eq_ok.mp found
    split at rest
    · rename_i own
      obtain rfl := Except.ok.inj rest
      exact ⟨known, own.trans (id_of_loadCurrentUser loaded)⟩
    · exact absurd rest throw_ne_ok

/-- Only an own streamable of a known user is found to be changed. -/
theorem ownStreamable_ok {currentUserId streamableId : Long} {store : Store}
    {streamable : Streamable} :
    ownStreamable currentUserId streamableId store = .ok streamable ↔
      store.streamables.find streamableId = some streamable ∧
        streamable.userId = currentUserId ∧ (store.users.find currentUserId).isSome := by
  constructor
  · intro found
    obtain ⟨stored, own⟩ := find_of_ownStreamable found
    refine ⟨stored, own, ?_⟩
    rw [ownStreamable, stored] at found
    obtain ⟨currentUser, loaded, -⟩ := bind_eq_ok.mp found
    exact Option.isSome_of_mem (loadCurrentUser_ok.mp loaded)
  · rintro ⟨stored, own, known⟩
    obtain ⟨currentUser, found⟩ := Option.isSome_iff_exists.mp known
    have sameId : currentUser.id = currentUserId := Table.id_of_find found
    rw [ownStreamable, stored]
    refine bind_eq_ok.mpr ⟨currentUser, loadCurrentUser_ok.mpr found, ?_⟩
    rw [if_pos (own.trans sameId.symm)]
    rfl

def Store.saveStreamable (store : Store) (streamable : Streamable) : Store :=
  { store with streamables := store.streamables.set streamable }

/-- The transaction of `editStreamableGraffiti`. -/
def editStreamableGraffitiBody (currentUserId streamableId : Long) (dto : StreamableGraffitiDto)
    (guid : String) (now : Long) : Transaction Streamable := fun store => do
  let streamable ← ownStreamable currentUserId streamableId store
  match streamable.asset with
  | none => throw .nullPointerException
  | some _ =>
      let edited := { streamable with
        asset := some (.processing (store.lastAssetId + 1) guid)
        latitude := dto.latitude
        longitude := dto.longitude
        roll := dto.roll
        yaw := dto.yaw
        pitch := dto.pitch
        updatedOn := some now }
      return (edited, { store.saveStreamable edited with lastAssetId := store.lastAssetId + 1 })

/-- `StreamableService.editStreamableGraffiti`, up to the jobs that it queues for the asset. -/
def editStreamableGraffiti (currentUserId streamableId : Long) (dto : StreamableGraffitiDto)
    (transferred : Bool) (guid : String) (now : Long) (store : Store) :
    Store × Except Throwable Streamable :=
  match validateText dto.text, transferAssetFile transferred with
  | .error thrown, _ => (store, .error thrown)
  | .ok (), .error thrown => (store, .error thrown)
  | .ok (), .ok () =>
      executeInTransactionWithResult
        (editStreamableGraffitiBody currentUserId streamableId dto guid now) store

/-- Writes a change of the current user's own streamable. -/
def changeStreamable (currentUserId streamableId : Long) (change : Streamable → Streamable) :
    Transaction Streamable := fun store => do
  let streamable ← ownStreamable currentUserId streamableId store
  return (change streamable, store.saveStreamable (change streamable))

/-- `StreamableService.deleteStreamable`. -/
def deleteStreamable (currentUserId streamableId : Long) : Transaction Streamable :=
  changeStreamable currentUserId streamableId fun streamable =>
    { streamable with isDeleted := true }

/-- `StreamableService.makePublicOrPrivate`. -/
def makePublicOrPrivate (currentUserId streamableId : Long) (isPrivate : Bool) :
    Transaction Streamable :=
  changeStreamable currentUserId streamableId fun streamable => { streamable with isPrivate }

/-- The transaction of `StreamableService.flag`, with the streamable and whether it is flagged since
now. -/
def flagBody (streamableId : Long) : Transaction (Streamable × Bool) := fun store => do
  match store.streamables.find streamableId with
  | none => throw (streamableNotFound streamableId)
  | some streamable =>
      if streamable.isFlagged then
        return ((streamable, false), store)
      else
        let flagged := { streamable with isFlagged := true }
        return ((flagged, true), store.saveStreamable flagged)

/-! ### Comments -/

/-- Writes a change of the current user's own comment; the streamable only has to exist. -/
def changeComment (currentUserId streamableId commentId : Long) (change : Comment → Comment) :
    Transaction Comment := fun store => do
  match store.streamables.find streamableId with
  | none => throw (streamableNotFound streamableId)
  | some _ =>
      match store.comments.find commentId with
      | none =>
          throw (restApiException .commentNotFound
            ("Comment with id " ++ toString commentId ++ " not found"))
      | some comment =>
          let currentUser ← loadCurrentUser currentUserId store
          if currentUser.id = comment.userId then
            return (change comment, { store with comments := store.comments.set (change comment) })
          else
            throw (restApiException .userNotOwner
              ("The comment with id " ++ toString commentId ++
                " cannot be edited by user with id " ++ toString currentUser.id))

/-- `CommentService.deleteComment`. -/
def deleteComment (currentUserId streamableId commentId : Long) : Transaction Comment :=
  changeComment currentUserId streamableId commentId fun comment =>
    { comment with isDeleted := true }

/-- `CommentService.editComment`. -/
def editComment (currentUserId streamableId commentId : Long) (newText : String) (now : Long) :
    Transaction Comment :=
  changeComment currentUserId streamableId commentId fun comment =>
    { comment with text := newText, updatedOn := some now }

/-! ### Locations -/

/-- `LocationService.createLocation`; the columns of the three values must not be null. -/
def createLocation (currentUserId : Long) (address : Option String)
    (latitude longitude : Option Rat) (now : Long) : Transaction Location := fun store => do
  let currentUser ← loadCurrentUser currentUserId store
  match address, latitude, longitude with
  | some address, some latitude, some longitude =>
      let toAdd : Location :=
        { id := 0, userId := currentUser.id, address, latitude, longitude, createdOn := now
          updatedOn := none }
      return ({ toAdd with id := store.locations.nextId },
        { store with locations := store.locations.insert toAdd })
  | _, _, _ => throw .notNullViolation

/-- `LocationService.deleteLocation`: the location is removed from the list of the current user. -/
def deleteLocation (currentUserId locationId : Long) : Transaction Unit := fun store => do
  match store.locations.find locationId with
  | none =>
      throw (restApiException .locationNotFound
        ("A location with id " ++ toString locationId ++ " was not found"))
  | some toDelete =>
      let currentUser ← loadCurrentUser currentUserId store
      return ((), { store with
        locations := store.locations.remove fun row =>
          row.userId = currentUser.id && row.id = toDelete.id })

/-- `LocationService.editLocation`; the columns of the three values must not be null. -/
def editLocation (currentUserId locationId : Long) (address : Option String)
    (latitude longitude : Option Rat) (now : Long) : Transaction Location := fun store => do
  match store.locations.find locationId with
  | none =>
      throw (restApiException .locationNotFound
        ("Location with id " ++ toString locationId ++ " not found"))
  | some toEdit =>
      let currentUser ← loadCurrentUser currentUserId store
      if currentUser.id = toEdit.userId then
        match address, latitude, longitude with
        | some address, some latitude, some longitude =>
            let edited := { toEdit with address, latitude, longitude, updatedOn := some now }
            return (edited, { store with locations := store.locations.set edited })
        | _, _, _ => throw .notNullViolation
      else
        throw (restApiException .userNotOwner
          ("The location with id " ++ toString locationId ++ " cannot be edited by user with id " ++
            toString currentUser.id))

/-! ### Devices -/

section Devices

variable (platform : Platform)

/-- `DeviceService.findDevicesWithTokenAndType`. -/
def findDevicesWithTokenAndType (token : String) (osType : OSType) (store : Store) :
    Except Throwable (Option Device) :=
  uniqueResult (store.devices.select fun device =>
    SameText platform device.token token && device.osType = osType)

/-- `DeviceService.registerDevice`: nothing happens when anybody has the device. -/
def registerDevice (currentUserId : Long) (token : String) (osType : OSType) :
    Transaction Unit := fun store => do
  let device ← findDevicesWithTokenAndType platform token osType store
  let currentUser ← loadCurrentUser currentUserId store
  match device with
  | none =>
      return ((), { store with
        devices := store.devices.insert { id := 0, userId := currentUser.id, token, osType } })
  | some _ => return ((), store)

/-- `DeviceService.unregisterDevice`: the device is removed from the list of the current user. -/
def unregisterDevice (currentUserId : Long) (token : String) (osType : OSType) :
    Transaction Unit := fun store => do
  let device ← findDevicesWithTokenAndType platform token osType store
  let currentUser ← loadCurrentUser currentUserId store
  match device with
  | none => return ((), store)
  | some device =>
      return ((), { store with
        devices := store.devices.remove fun row =>
          row.userId = currentUser.id && row.id = device.id })

end Devices

/-! ### Notifications -/

/-- The query `Notification.getNotifications`. -/
def getNotifications (currentUserId oneMonthAgo : Long) (store : Store) : List Notification :=
  (store.notifications.select fun notification =>
    notification.userId = currentUserId && oneMonthAgo < notification.createdOn).mergeSort
      fun first second => second.createdOn ≤ first.createdOn

/-- The transaction of `markSingleNotificationAsRead`. -/
def markSingleNotificationAsRead (notificationId : Long) : Transaction Notification :=
  fun store => do
    match store.notifications.find notificationId with
    | none => throw .nullPointerException
    | some inner =>
        let read := { inner with isRead := true }
        return (read, { store with notifications := store.notifications.set read })

/-- `NotificationService.markNotificationAsRead`; an exception of the inner transaction is
wrapped. -/
def markNotificationAsRead (notificationId : Option Long) : Transaction Unit := fun store => do
  match notificationId with
  | none => throw (restApiException .invalidId "Notification ID is null")
  | some notificationId =>
      match markSingleNotificationAsRead notificationId store with
      | .ok (_, next) => return ((), next)
      | .error thrown => throw (.runtimeException thrown)

/-- `NotificationService.markGroupNotificationsAsRead`. -/
def markGroupNotificationsAsRead : List Notification → Transaction Unit
  | [], store => return ((), store)
  | notification :: rest, store =>
      if notification.isRead then markGroupNotificationsAsRead rest store
      else
        match markSingleNotificationAsRead notification.id store with
        | .ok (_, next) => markGroupNotificationsAsRead rest next
        | .error thrown => throw (.runtimeException thrown)

/-- `NotificationService.markAllNotificationsAsReadForCurrentUser`. -/
def markAllNotificationsAsReadForCurrentUser (currentUserId oneMonthAgo : Long) :
    Transaction Unit := fun store => do
  let currentUser ← loadCurrentUser currentUserId store
  let notifications :=
    getItems (getNotifications currentUser.id oneMonthAgo store) (some 0) (some 10000)
  markGroupNotificationsAsRead notifications.items store

end GraffiTab
