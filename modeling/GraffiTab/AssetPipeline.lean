/-
This file models how the images of assets come into the datastore and leave it.

An upload writes the asset into the database and queues a job that saves the two images,
marks the asset as completed, and deletes the images of the asset that was replaced, which
a map from the new GUID to the previous one remembers. The deletion of an avatar or a
cover clears the reference first and deletes the images afterwards. Jobs and deletions
are tasks; a task goes on one instruction at a time, in any order with the others.
-/

import Mathlib.Data.Finset.Basic
import Mathlib.Logic.Function.Basic
import GraffiTab.Writes

namespace GraffiTab

open Tables

/-! ### Where assets are referenced -/

/-- The two images of a user. -/
inductive UserImageAsset where
  | cover | avatar
  deriving DecidableEq

def UserImageAsset.other : UserImageAsset → UserImageAsset
  | .cover => .avatar
  | .avatar => .cover

def User.imageAsset (user : User) : UserImageAsset → Option Asset
  | .cover => user.coverAsset
  | .avatar => user.avatarAsset

def User.withImageAsset (user : User) (image : UserImageAsset) (asset : Option Asset) : User :=
  match image with
  | .cover => { user with coverAsset := asset }
  | .avatar => { user with avatarAsset := asset }

/-- A reference to an asset; the row of an asset belongs to exactly one of them. -/
inductive AssetSlot where
  | image (userId : Long) (image : UserImageAsset)
  | streamable (streamableId : Long)
  deriving DecidableEq

/-- The asset that is referenced there. -/
def Store.assetAt (store : Store) : AssetSlot → Option Asset
  | .image userId image => (store.users.find userId).bind fun user => user.imageAsset image
  | .streamable streamableId => (store.streamables.find streamableId).bind Streamable.asset

/-- The GUID of the asset that is referenced there. -/
def Store.guidAt (store : Store) (slot : AssetSlot) : Option String :=
  (store.assetAt slot).map Asset.guid

/-- The rows of the table of assets. -/
def Store.assets (store : Store) : List Asset :=
  (store.users.rows.flatMap fun user => user.avatarAsset.toList ++ user.coverAsset.toList) ++
    store.streamables.rows.flatMap fun streamable => streamable.asset.toList

/-- Changes every asset. -/
def Store.mapAssets (store : Store) (change : Asset → Asset) : Store :=
  { store with
    users := store.users.mapRows (fun user =>
      { user with
        avatarAsset := user.avatarAsset.map change
        coverAsset := user.coverAsset.map change }) fun _ => rfl
    streamables := store.streamables.mapRows (fun streamable =>
      { streamable with asset := streamable.asset.map change }) fun _ => rfl }

/-! ### The transactions -/

/-- The transaction of `addOrReplaceUserImageAsset`, which finds the GUID of the replaced asset. -/
def replaceUserImageAsset (currentUserId : Long) (image : UserImageAsset) (guid : String)
    (now : Long) : Transaction (Option String) := fun store => do
  match store.users.find currentUserId with
  | none => throw .nullPointerException
  | some user =>
      let replaced := user.withImageAsset image (some (.processing (store.lastAssetId + 1) guid))
      return ((user.imageAsset image).map Asset.guid,
        { store with
          users := store.users.set { replaced with updatedOn := some now }
          lastAssetId := store.lastAssetId + 1 })

/-- `createStreamableInTransaction`, for the asset with its identifier. -/
def createStreamableInTransaction (currentUserId : Long) (dto : StreamableGraffitiDto)
    (asset : Long → Asset) (now : Long) : Transaction Streamable := fun store => do
  let currentUser ← loadCurrentUser currentUserId store
  let streamableGraffiti : Streamable :=
    { id := 0
      userId := currentUser.id
      createdOn := now
      updatedOn := none
      isPrivate := dto.isPrivate.getD false
      isFlagged := false
      isDeleted := false
      text := dto.text
      asset := some (asset (store.lastAssetId + 1))
      hashtags := []
      latitude := dto.latitude
      longitude := dto.longitude
      roll := dto.roll
      yaw := dto.yaw
      pitch := dto.pitch }
  return ({ streamableGraffiti with id := store.streamables.nextId },
    { store with
      streamables := store.streamables.insert streamableGraffiti
      lastAssetId := store.lastAssetId + 1 })

/-- The asset of `addStreamableAssetFromExternalSource`. -/
def Asset.completed (id : Long) (guid : String) : Asset :=
  { id, guid, assetType := .image, state := .completed }

/-- The transaction in which a job marks its asset as completed. -/
def completeAsset (guid : String) : Transaction Unit := fun store => do
  match ← uniqueResult (store.assets.filter fun asset => asset.guid = guid) with
  | none => throw .nullPointerException
  | some toUpdate =>
      return ((), store.mapAssets fun asset =>
        if asset = toUpdate then { asset with state := .completed } else asset)

/-- The transaction of `deleteAvatar` and `deleteCover`: the user as it was read before, without the
image, is merged; its metadata, a collection that was never initialized, stay as they are stored.
The merge looks for the row of its other image: the row as it was read stays, a row that was written
since then is a conflict, and a row that is gone is inserted again. -/
def mergeWithoutImage (image : UserImageAsset) (storedUser : User) (now : Long) :
    Transaction Unit := fun store => do
  match store.users.find storedUser.id with
  | none => throw .nullPointerException
  | some user =>
      let cleared := { storedUser.withImageAsset image none with
        updatedOn := some now, metadataItems := user.metadataItems }
      match storedUser.imageAsset image.other with
      | none => return ((), { store with users := store.users.set cleared })
      | some kept =>
          if user.imageAsset image.other = some kept then
            return ((), { store with users := store.users.set cleared })
          else if (user.imageAsset image.other).map Asset.id = some kept.id then
            throw .staleObjectStateException
          else
            let inserted := { kept with id := store.lastAssetId + 1 }
            return ((), { store with
              users := store.users.set (cleared.withImageAsset image.other (some inserted))
              lastAssetId := store.lastAssetId + 1 })

/-! ### Tasks -/

/-- `ImageUtilsService.ASSET_THUMBNAIL_SUFFIX`. -/
def assetThumbnailSuffix : String := "_thumb"

/-- The keys of the two images of an asset in the datastore. -/
def imageKeys (guid : String) : List String := [guid, guid ++ assetThumbnailSuffix]

/-- What a task does next: a job for an asset from `saveImage` to `forgetPrevious`, and a deletion
from `clearImage` to `deleteThumbnail`. -/
inductive Task where
  | saveImage (guid : String)
  | saveThumbnail (guid : String)
  | complete (guid : String)
  | discardPrevious (guid : String)
  | deletePrevious (guid previous : String)
  | deletePreviousThumbnail (guid previous : String)
  | forgetPrevious (guid : String)
  | clearImage (image : UserImageAsset) (storedUser : User) (guid : String) (now : Long)
  | deleteImage (guid : String)
  | deleteThumbnail (guid : String)
  deriving DecidableEq

/-- The GUIDs that a task knows. -/
def Task.guids : Task → List String
  | .saveImage guid => [guid]
  | .saveThumbnail guid => [guid]
  | .complete guid => [guid]
  | .discardPrevious guid => [guid]
  | .deletePrevious guid previous => [guid, previous]
  | .deletePreviousThumbnail guid previous => [guid, previous]
  | .forgetPrevious guid => [guid]
  | .clearImage _ _ guid _ => [guid]
  | .deleteImage guid => [guid]
  | .deleteThumbnail guid => [guid]

/-- The database, the keys in the datastore, `newAssetGuidToPreviousAssetGuidMap`, and the tasks
that are not finished. -/
structure Pipeline where
  store : Store
  datastore : Finset String
  previousAssetGuids : Metadata
  tasks : List Task

/-- The GUIDs in use: of assets, in the map, and of tasks. -/
def Pipeline.guids (pipeline : Pipeline) : List String :=
  pipeline.store.assets.map Asset.guid ++
    (pipeline.previousAssetGuids.entries.flatMap fun entry => [entry.1, entry.2]) ++
    pipeline.tasks.flatMap Task.guids

/-- The GUID has no key in common with those in use. -/
def Pipeline.isFresh (pipeline : Pipeline) (guid : String) : Bool :=
  pipeline.guids.all fun used => (imageKeys used).all fun key => !(imageKeys guid).contains key

/-- One instruction of a task, and what remains of the task; a failing transaction ends it. -/
def Task.run (pipeline : Pipeline) : Task → Pipeline × Option Task
  | .saveImage guid =>
      ({ pipeline with datastore := insert guid pipeline.datastore }, some (.saveThumbnail guid))
  | .saveThumbnail guid =>
      ({ pipeline with datastore := insert (guid ++ assetThumbnailSuffix) pipeline.datastore },
        some (.complete guid))
  | .complete guid =>
      match transaction (completeAsset guid) pipeline.store with
      | (store, .ok ()) => ({ pipeline with store }, some (.discardPrevious guid))
      | (_, .error _) => (pipeline, none)
  | .discardPrevious guid =>
      match pipeline.previousAssetGuids.lookup guid with
      | some previous => (pipeline, some (.deletePrevious guid previous))
      | none => (pipeline, none)
  | .deletePrevious guid previous =>
      ({ pipeline with datastore := pipeline.datastore.erase previous },
        some (.deletePreviousThumbnail guid previous))
  | .deletePreviousThumbnail guid previous =>
      ({ pipeline with
          datastore := pipeline.datastore.erase (previous ++ assetThumbnailSuffix) },
        some (.forgetPrevious guid))
  | .forgetPrevious guid =>
      ({ pipeline with previousAssetGuids := pipeline.previousAssetGuids.erase guid }, none)
  | .clearImage image storedUser guid now =>
      match transaction (mergeWithoutImage image storedUser now) pipeline.store with
      | (store, .ok ()) => ({ pipeline with store }, some (.deleteImage guid))
      | (_, .error _) => (pipeline, none)
  | .deleteImage guid =>
      ({ pipeline with datastore := pipeline.datastore.erase guid },
        some (.deleteThumbnail guid))
  | .deleteThumbnail guid =>
      ({ pipeline with datastore := pipeline.datastore.erase (guid ++ assetThumbnailSuffix) },
        none)

/-! ### Steps -/

/-- Commits an asset that was uploaded, remembers the GUID that it replaces, and queues its job. -/
def Pipeline.enqueue (pipeline : Pipeline) (store : Store) (guid : String)
    (previous : Option String) : Pipeline where
  store := store
  datastore := pipeline.datastore
  previousAssetGuids :=
    match previous with
    | some previous => pipeline.previousAssetGuids.insert guid previous
    | none => pipeline.previousAssetGuids
  tasks := pipeline.tasks ++ [.saveImage guid]

/-- `UserService.addOrReplaceUserImageAsset`. -/
def addOrReplaceUserImageAsset (currentUserId : Long) (image : UserImageAsset)
    (transferred : Bool) (guid : String) (now : Long) (pipeline : Pipeline) : Pipeline :=
  match transferAssetFile transferred with
  | .error _ => pipeline
  | .ok () =>
      match transaction (replaceUserImageAsset currentUserId image guid now) pipeline.store with
      | (store, .ok previous) => pipeline.enqueue store guid previous
      | (_, .error _) => pipeline

/-- `StreamableService.createStreamableGraffiti`. -/
def createStreamableGraffiti (currentUserId : Long) (dto : StreamableGraffitiDto)
    (transferred : Bool) (guid : String) (now : Long) (pipeline : Pipeline) : Pipeline :=
  match validateText dto.text, transferAssetFile transferred with
  | .ok (), .ok () =>
      match executeInTransactionWithResult (createStreamableInTransaction currentUserId dto
        (fun id => .processing id guid) now) pipeline.store with
      | (store, .ok _) => pipeline.enqueue store guid none
      | (_, .error _) => pipeline
  | _, _ => pipeline

/-- `StreamableService.createStreamableGraffitiFromExternalResource`. -/
def createStreamableGraffitiFromExternalResource (currentUserId : Long)
    (dto : StreamableGraffitiDto) (guid : String) (now : Long) (pipeline : Pipeline) : Pipeline :=
  match dto.asset with
  | none => pipeline
  | some _ =>
      { pipeline with
        store := (executeInTransactionWithResult (createStreamableInTransaction currentUserId dto
          (fun id => .completed id guid) now) pipeline.store).1 }

/-- `StreamableService.editStreamableGraffiti`, with the GUID of the replaced asset. -/
def editStreamableAsset (currentUserId streamableId : Long) (dto : StreamableGraffitiDto)
    (transferred : Bool) (guid : String) (now : Long) (pipeline : Pipeline) : Pipeline :=
  match editStreamableGraffiti currentUserId streamableId dto transferred guid now
    pipeline.store with
  | (store, .ok _) =>
      pipeline.enqueue store guid (pipeline.store.guidAt (.streamable streamableId))
  | (_, .error _) => pipeline

/-- `UserService.deleteAvatar` and `deleteCover`, up to the transaction. -/
def deleteImageAsset (currentUserId : Long) (image : UserImageAsset) (now : Long)
    (pipeline : Pipeline) : Pipeline :=
  match pipeline.store.users.find currentUserId with
  | none => pipeline
  | some user =>
      match user.imageAsset image with
      | none => pipeline
      | some asset =>
          { pipeline with tasks := pipeline.tasks ++ [.clearImage image user asset.guid now] }

inductive PipelineAction where
  | createUser (user : UserInput) (guid userToken salt : String) (now : Long)
  | addOrReplaceUserImageAsset (currentUserId : Long) (image : UserImageAsset)
      (transferred : Bool) (guid : String) (now : Long)
  | createStreamableGraffiti (currentUserId : Long) (dto : StreamableGraffitiDto)
      (transferred : Bool) (guid : String) (now : Long)
  | createStreamableGraffitiFromExternalResource (currentUserId : Long)
      (dto : StreamableGraffitiDto) (guid : String) (now : Long)
  | editStreamableGraffiti (currentUserId streamableId : Long) (dto : StreamableGraffitiDto)
      (transferred : Bool) (guid : String) (now : Long)
  | deleteImageAsset (currentUserId : Long) (image : UserImageAsset) (now : Long)
  | runTask (index : Nat)

/-- A request is served, or one of the tasks goes on. A generated GUID is not in use. -/
def pipelineStep (environment : Environment) (pipeline : Pipeline) :
    PipelineAction → Option Pipeline
  | .createUser user guid userToken salt now =>
      some { pipeline with
        store := (GraffiTab.createUser environment user guid userToken salt now
          pipeline.store).1 }
  | .addOrReplaceUserImageAsset currentUserId image transferred guid now =>
      if pipeline.isFresh guid then
        some (GraffiTab.addOrReplaceUserImageAsset currentUserId image transferred guid now
          pipeline)
      else none
  | .createStreamableGraffiti currentUserId dto transferred guid now =>
      if pipeline.isFresh guid then
        some (GraffiTab.createStreamableGraffiti currentUserId dto transferred guid now pipeline)
      else none
  | .createStreamableGraffitiFromExternalResource currentUserId dto guid now =>
      if pipeline.isFresh guid then
        some (GraffiTab.createStreamableGraffitiFromExternalResource currentUserId dto guid now
          pipeline)
      else none
  | .editStreamableGraffiti currentUserId streamableId dto transferred guid now =>
      if pipeline.isFresh guid then
        some (editStreamableAsset currentUserId streamableId dto transferred guid now pipeline)
      else none
  | .deleteImageAsset currentUserId image now =>
      some (GraffiTab.deleteImageAsset currentUserId image now pipeline)
  | .runTask index =>
      match pipeline.tasks[index]? with
      | some task =>
          let (next, rest) := task.run pipeline
          some { next with tasks := pipeline.tasks.eraseIdx index ++ rest.toList }
      | none => none

end GraffiTab
