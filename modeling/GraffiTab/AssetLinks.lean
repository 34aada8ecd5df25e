/-
This file asks whether the addresses of assets lead to images.

The images of an asset that was uploaded are in the datastore when its job is done. Those of an
asset that was imported never are: its row keeps the addresses that came with the request. One
mapper serves both, and takes for each image the address in the row, if it has text, and else that
of the object in the datastore. So an import that brings only the address of the image shows an
address for its thumbnail at which nothing was ever saved.
-/

import GraffiTab.AssetLeaks
import GraffiTab.AssetProcessing
import GraffiTab.LocaleResolver

namespace GraffiTab

open Tables Runs

/-! ### The mapper -/

/-- The columns of an asset with its own addresses. -/
structure AssetUrls where
  url : Option String
  thumbnailUrl : Option String

/-- A row of the table of assets, up to the sizes of the images. -/
structure AssetRow extends Asset, AssetUrls

/-- `AssetDto`, up to the sizes of the images; requests name the address of the thumbnail
otherwise than answers. -/
structure AssetLinkDto extends AssetInput where
  link : Option String
  thumbnail : Option String
  thumbnailLink : Option String

structure AmazonS3DatastoreService where
  bucketName : String

section Mapper

variable (datastoreService : AmazonS3DatastoreService)

def AmazonS3DatastoreService.generateDownloadLink (assetGuid : String) : String :=
  "http://" ++ datastoreService.bucketName ++ ".s3.amazonaws.com/" ++ generateKey assetGuid

def AmazonS3DatastoreService.generateThumbnailLink (assetGuid : String) : String :=
  "http://" ++ datastoreService.bucketName ++ ".s3.amazonaws.com/" ++ generateKey assetGuid ++
    "_thumb"

/-- `AssetMapper.mapAtoB`, over the fields of the same names. -/
def AssetMapper.mapAtoB (asset : AssetRow) : AssetLinkDto where
  guid := some asset.guid
  assetType := some asset.assetType
  state := some asset.state
  link :=
    if hasText asset.url then asset.url
    else some (datastoreService.generateDownloadLink asset.guid)
  thumbnail :=
    if hasText asset.thumbnailUrl then asset.thumbnailUrl
    else some (datastoreService.generateThumbnailLink asset.guid)
  thumbnailLink := none

/-- `AssetMapper.mapBtoA`. -/
def AssetMapper.mapBtoA (assetDto : AssetLinkDto) (asset : AssetRow) : AssetRow :=
  { asset with
    url := if hasText assetDto.link then assetDto.link else asset.url
    thumbnailUrl :=
      if hasText assetDto.thumbnailLink then assetDto.thumbnailLink
      else asset.thumbnailUrl }

/-- `StreamableService.addStreamableAssetFromExternalSource`: the state, the type and the GUID are
written over those that are copied from the request. -/
def addStreamableAssetFromExternalSource (assetDto : AssetLinkDto) (guid : String) (id : Long) :
    AssetRow :=
  AssetMapper.mapBtoA assetDto
    { toAsset := .completed id guid, url := none, thumbnailUrl := none }

end Mapper

/-! ### The pipeline with the addresses -/

/-- The pipeline, the addresses in the rows of the assets, by identifier, and the requests from
which rows were imported. -/
structure LinkedPipeline where
  pipeline : Pipeline
  urls : Long → AssetUrls
  imported : Long → Option AssetLinkDto

namespace LinkedPipeline

def row (state : LinkedPipeline) (asset : Asset) : AssetRow where
  toAsset := asset
  toAssetUrls := state.urls asset.id

/-- The row that the step inserts, if there is one, has the addresses. -/
def write (state : LinkedPipeline) (urls : AssetUrls) (imported : Option AssetLinkDto)
    (next : Pipeline) : LinkedPipeline where
  pipeline := next
  urls := Function.update state.urls (state.pipeline.store.lastAssetId + 1) urls
  imported := Function.update state.imported (state.pipeline.store.lastAssetId + 1) imported

end LinkedPipeline

/-- The requests that upload an image. -/
def PipelineAction.isUpload : PipelineAction → Bool
  | .addOrReplaceUserImageAsset _ _ _ _ _ => true
  | .createStreamableGraffiti _ _ _ _ _ => true
  | .editStreamableGraffiti _ _ _ _ _ _ => true
  | _ => false

inductive LinkAction where
  | upload (request : PipelineAction)
  | createStreamableGraffitiFromExternalResource (currentUserId : Long)
      (dto : StreamableGraffitiDto) (assetDto : Option AssetLinkDto) (guid : String) (now : Long)
  | runTask (index : Nat)

/-- An image is uploaded or imported, or a job goes on. -/
def linkStep (environment : Environment) (state : LinkedPipeline) :
    LinkAction → Option LinkedPipeline
  | .upload request =>
      if request.isUpload then
        (pipelineStep environment state.pipeline request).map (state.write ⟨none, none⟩ none)
      else none
  | .createStreamableGraffitiFromExternalResource currentUserId dto assetDto guid now =>
      let urls := assetDto.map fun assetDto =>
        (addStreamableAssetFromExternalSource assetDto guid
          (state.pipeline.store.lastAssetId + 1)).toAssetUrls
      (pipelineStep environment state.pipeline
        (.createStreamableGraffitiFromExternalResource currentUserId
          { dto with asset := assetDto.map AssetLinkDto.toAssetInput } guid now)).map
        (state.write (urls.getD ⟨none, none⟩) assetDto)
  | .runTask index =>
      (pipelineStep environment state.pipeline (.runTask index)).map fun next =>
        { state with pipeline := next }

/-! ### Addresses that lead to an image -/

section Links

variable (datastoreService : AmazonS3DatastoreService)

/-- The address was given at the import, or it is that of an object that is saved. -/
def LinkedPipeline.Resolves (state : LinkedPipeline) (given address : Option String) : Prop :=
  (∃ url, given = some url ∧ address = some url) ∨
    ∃ key ∈ state.pipeline.datastore,
      address = some (datastoreService.generateDownloadLink key)

/-- Both addresses of each completed asset lead to an image. -/
def LinkedPipeline.LinksResolve (state : LinkedPipeline) : Prop :=
  ∀ asset ∈ state.pipeline.store.assets, asset.state = .completed →
    let assetDto := AssetMapper.mapAtoB datastoreService (state.row asset)
    state.Resolves datastoreService ((state.imported asset.id).bind AssetLinkDto.link)
        assetDto.link ∧
      state.Resolves datastoreService ((state.imported asset.id).bind AssetLinkDto.thumbnailLink)
        assetDto.thumbnail

/-- The row that is imported from the request shows the addresses of the request. -/
def AssetLinkDto.Reproduced (assetDto : AssetLinkDto) : Prop :=
  ∀ guid id,
    let shown := AssetMapper.mapAtoB datastoreService
      (addStreamableAssetFromExternalSource assetDto guid id)
    shown.link = assetDto.link ∧ shown.thumbnail = assetDto.thumbnailLink

/-- No asset is there yet, and no job. -/
structure LinkedPipeline.Idle (state : LinkedPipeline) : Prop where
  assets : state.pipeline.store.assets = []
  previous : state.pipeline.previousAssetGuids = ∅
  tasks : state.pipeline.tasks = []

/-- In every run whose imports meet the condition, from any pipeline without assets, all addresses
lead to an image; and such an import shows the addresses that it was given. -/
def KeepsLinks (environment : Environment) (Condition : AssetLinkDto → Prop) : Prop :=
  (∀ start : LinkedPipeline, start.Idle → ∀ state,
    Reaches (linkStep environment)
      (fun _ action => ∀ currentUserId dto assetDto guid now,
        action = .createStreamableGraffitiFromExternalResource currentUserId dto (some assetDto)
          guid now → Condition assetDto) start state →
    state.LinksResolve datastoreService) ∧
  ∀ assetDto, Condition assetDto → assetDto.Reproduced datastoreService

/-- The request brings an address for the image and one for the thumbnail. -/
structure AssetLinkDto.BringsLinks (assetDto : AssetLinkDto) : Prop where
  link : hasText assetDto.link = true
  thumbnailLink : hasText assetDto.thumbnailLink = true

end Links

/-! ### The assets of a store -/

section Assets

variable {store next : Store}

/-- The store has one new asset at most. -/
structure InsertsAtMost (store next : Store) (new : Asset) : Prop where
  lastAssetId : store.lastAssetId ≤ next.lastAssetId
  assets : ∀ asset ∈ next.assets,
    asset ∈ store.assets ∨ (asset = new ∧ new.id ≤ next.lastAssetId)

theorem InsertsAtMost.refl (store : Store) (new : Asset) : InsertsAtMost store store new :=
  ⟨Int.le_refl _, fun _ member => .inl member⟩

theorem mem_assets_of_user {user : User} {asset : Asset} (member : user ∈ store.users.rows)
    (shown : asset ∈ user.avatarAsset.toList ++ user.coverAsset.toList) : asset ∈ store.assets :=
  List.mem_append_left _ (List.mem_flatMap.mpr ⟨user, member, shown⟩)

theorem mem_assets_of_streamable {streamable : Streamable} {asset : Asset}
    (member : streamable ∈ store.streamables.rows) (shown : asset ∈ streamable.asset.toList) :
    asset ∈ store.assets :=
  List.mem_append_right _ (List.mem_flatMap.mpr ⟨streamable, member, shown⟩)

theorem assets_withImageAsset {user : User} {image : UserImageAsset} {new asset : Asset}
    (shown : asset ∈ (user.withImageAsset image (some new)).avatarAsset.toList ++
      (user.withImageAsset image (some new)).coverAsset.toList) :
    asset ∈ user.avatarAsset.toList ++ user.coverAsset.toList ∨ asset = new := by
  rw [List.mem_append] at shown ⊢
  cases image with
  | cover =>
      rcases shown with ofAvatar | isNew
      · exact .inl (.inl ofAvatar)
      · exact .inr (List.mem_singleton.mp isNew)
  | avatar =>
      rcases shown with isNew | ofCover
      · exact .inr (List.mem_singleton.mp isNew)
      · exact .inl (.inr ofCover)

theorem insertsAtMost_replaceUserImageAsset {currentUserId : Long} {image : UserImageAsset}
    {guid : String} {now : Long} {previous : Option String}
    (returned : replaceUserImageAsset currentUserId image guid now store = .ok (previous, next)) :
    InsertsAtMost store next (.processing (store.lastAssetId + 1) guid) := by
  unfold replaceUserImageAsset at returned
  split at returned
  · exact absurd returned throw_ne_ok
  rename_i user found
  obtain ⟨-, rfl⟩ := Prod.mk.inj (Except.ok.inj returned)
  refine ⟨Int.le_of_lt (Int.lt_succ _), fun asset member => ?_⟩
  rcases List.mem_append.mp member with ofUser | ofStreamable
  · obtain ⟨written, isRow, shown⟩ := List.mem_flatMap.mp ofUser
    rcases Table.mem_set.mp isRow with ⟨rfl, -⟩ | ⟨old, -⟩
    · rcases assets_withImageAsset shown with before | isNew
      · exact .inl (mem_assets_of_user (Table.mem_of_find found) before)
      · exact .inr ⟨isNew, Int.le_refl _⟩
    · exact .inl (mem_assets_of_user old shown)
  · exact .inl (List.mem_append_right _ ofStreamable)

theorem insertsAtMost_createStreamableInTransaction {currentUserId : Long}
    {dto : StreamableGraffitiDto} {asset : Long → Asset} {now : Long} {created : Streamable}
    (carries : ∀ id, (asset id).id = id)
    (returned : createStreamableInTransaction currentUserId dto asset now store =
      .ok (created, next)) : InsertsAtMost store next (asset (store.lastAssetId + 1)) := by
  obtain ⟨currentUser, -, rest⟩ := bind_eq_ok.mp returned
  obtain ⟨-, rfl⟩ := Prod.mk.inj (Except.ok.inj rest)
  refine ⟨Int.le_of_lt (Int.lt_succ _), fun shown member => ?_⟩
  rcases List.mem_append.mp member with ofUser | ofStreamable
  · exact .inl (List.mem_append_left _ ofUser)
  · obtain ⟨streamable, isRow, isAsset⟩ := List.mem_flatMap.mp ofStreamable
    rcases List.mem_append.mp isRow with old | new
    · exact .inl (mem_assets_of_streamable old isAsset)
    · rw [List.mem_singleton.mp new] at isAsset
      refine .inr ⟨List.mem_singleton.mp isAsset, ?_⟩
      rw [carries]

theorem insertsAtMost_editStreamableGraffiti {currentUserId streamableId : Long}
    {dto : StreamableGraffitiDto} {transferred : Bool} {guid : String} {now : Long}
    {edited : Streamable}
    (returned : editStreamableGraffiti currentUserId streamableId dto transferred guid now store =
      (next, .ok edited)) :
    InsertsAtMost store next (.processing (store.lastAssetId + 1) guid) := by
  obtain ⟨old, -, -, isEdited, rfl⟩ := editStreamableGraffiti_saved returned
  refine ⟨Int.le_of_lt (Int.lt_succ _), fun asset member => ?_⟩
  rcases List.mem_append.mp member with ofUser | ofStreamable
  · exact .inl (List.mem_append_left _ ofUser)
  · obtain ⟨written, isRow, isAsset⟩ := List.mem_flatMap.mp ofStreamable
    rcases Table.mem_set.mp isRow with ⟨rfl, -⟩ | ⟨old, -⟩
    · rw [isEdited] at isAsset
      exact .inr ⟨List.mem_singleton.mp isAsset, Int.le_refl _⟩
    · exact .inl (mem_assets_of_streamable old isAsset)

theorem mem_assets_mapAssets {change : Asset → Asset} {asset : Asset}
    (member : asset ∈ (store.mapAssets change).assets) :
    ∃ before ∈ store.assets, asset = change before := by
  obtain ⟨slot, held⟩ := mem_assets.mp member
  have changed (shown : Option Asset) (isShown : shown.map change = some asset) :
      ∃ before, shown = some before ∧ asset = change before := by
    obtain ⟨before, isBefore, isChange⟩ := Option.map_eq_some_iff.mp isShown
    exact ⟨before, isBefore, isChange.symm⟩
  cases slot with
  | image userId image =>
      simp only [Store.assetAt, Store.mapAssets, Table.find_mapRows] at held
      obtain ⟨written, isRow, isImage⟩ := Option.bind_eq_some_iff.mp held
      obtain ⟨user, found, rfl⟩ := Option.map_eq_some_iff.mp isRow
      have isUser := Table.mem_of_find found
      cases image with
      | cover =>
          obtain ⟨before, shown, rfl⟩ := changed user.coverAsset isImage
          refine ⟨before, mem_assets_of_user isUser (List.mem_append_right _ ?_), rfl⟩
          exact Option.mem_toList.mpr shown
      | avatar =>
          obtain ⟨before, shown, rfl⟩ := changed user.avatarAsset isImage
          refine ⟨before, mem_assets_of_user isUser (List.mem_append_left _ ?_), rfl⟩
          exact Option.mem_toList.mpr shown
  | streamable streamableId =>
      simp only [Store.assetAt, Store.mapAssets, Table.find_mapRows] at held
      obtain ⟨written, isRow, isAsset⟩ := Option.bind_eq_some_iff.mp held
      obtain ⟨streamable, found, rfl⟩ := Option.map_eq_some_iff.mp isRow
      obtain ⟨before, shown, rfl⟩ := changed streamable.asset isAsset
      exact ⟨before, mem_assets_of_streamable (Table.mem_of_find found)
        (Option.mem_toList.mpr shown), rfl⟩

/-- A job completes assets with its GUID, and changes nothing else in them. -/
theorem completeAsset_assets {guid : String}
    (returned : completeAsset guid store = .ok ((), next)) :
    next.lastAssetId = store.lastAssetId ∧ ∀ asset ∈ next.assets,
      asset ∈ store.assets ∨ ∃ before ∈ store.assets,
        before.guid = guid ∧ asset = { before with state := .completed } := by
  obtain ⟨found, unique, rest⟩ := bind_eq_ok.mp returned
  cases found with
  | none => exact absurd rest throw_ne_ok
  | some toUpdate =>
      obtain ⟨-, rfl⟩ := Prod.mk.inj (Except.ok.inj rest)
      refine ⟨rfl, fun asset member => ?_⟩
      obtain ⟨before, isBefore, changed⟩ := mem_assets_mapAssets member
      split at changed
      · rename_i isUpdated
        subst isUpdated
        have listed := List.mem_filter.mp (uniqueResult_eq_some.mp unique).1
        exact .inr ⟨before, isBefore, of_decide_eq_true listed.2, changed⟩
      · exact .inl (changed ▸ isBefore)

/-- A key is unstored when no asset has it. -/
theorem unstored_iff_assets {key : String} :
    Unstored store.guidAt key ↔ ∀ asset ∈ store.assets, key ∉ imageKeys asset.guid := by
  constructor
  · intro unstored asset member
    obtain ⟨slot, held⟩ := mem_assets.mp member
    exact unstored slot asset.guid (congrArg (Option.map Asset.guid) held)
  · intro without slot guid stored
    obtain ⟨asset, held, rfl⟩ := Option.map_eq_some_iff.mp stored
    exact without asset (mem_assets.mpr ⟨slot, held⟩)

end Assets

/-! ### What the steps do with assets -/

section Steps

variable {environment : Environment} {pipeline next : Pipeline}

/-- What an upload does: it writes at most its own asset, and queues at most the job for it. -/
structure Uploads (pipeline next : Pipeline) (guid : String) : Prop where
  fresh : pipeline.isFresh guid = true
  datastore : next.datastore = pipeline.datastore
  inserts : InsertsAtMost pipeline.store next.store
    (.processing (pipeline.store.lastAssetId + 1) guid)
  tasks : ∀ task ∈ next.tasks, task ∈ pipeline.tasks ∨ task = .saveImage guid

theorem Uploads.unchanged {guid : String} (fresh : pipeline.isFresh guid = true) :
    Uploads pipeline pipeline guid :=
  ⟨fresh, rfl, .refl _ _, fun _ member => .inl member⟩

theorem Uploads.enqueue {store : Store} {guid : String} (previous : Option String)
    (fresh : pipeline.isFresh guid = true)
    (inserts : InsertsAtMost pipeline.store store
      (.processing (pipeline.store.lastAssetId + 1) guid)) :
    Uploads pipeline (pipeline.enqueue store guid previous) guid :=
  ⟨fresh, rfl, inserts, fun _ member => (List.mem_append.mp member).imp_right
    List.mem_singleton.mp⟩

theorem uploads_of_isUpload {request : PipelineAction} (isUpload : request.isUpload = true)
    (taken : pipelineStep environment pipeline request = some next) :
    ∃ guid, Uploads pipeline next guid := by
  cases request with
  | addOrReplaceUserImageAsset currentUserId image transferred guid now =>
      obtain ⟨fresh, taken⟩ := Option.ite_none_right_eq_some.mp taken
      obtain rfl := Option.some.inj taken
      refine ⟨guid, ?_⟩
      unfold addOrReplaceUserImageAsset
      split
      · exact .unchanged fresh
      rcases transaction_cases (replaceUserImageAsset currentUserId image guid now)
        pipeline.store with ⟨previous, store, returned, same⟩ | ⟨thrown, -, same⟩
      · rw [same]
        exact .enqueue previous fresh (insertsAtMost_replaceUserImageAsset returned)
      · rw [same]
        exact .unchanged fresh
  | createStreamableGraffiti currentUserId dto transferred guid now =>
      obtain ⟨fresh, taken⟩ := Option.ite_none_right_eq_some.mp taken
      obtain rfl := Option.some.inj taken
      refine ⟨guid, ?_⟩
      unfold createStreamableGraffiti
      split
      · rcases executeInTransactionWithResult_cases (createStreamableInTransaction currentUserId
          dto (fun id => .processing id guid) now) pipeline.store with
          ⟨created, store, returned, same⟩ | ⟨thrown, -, same⟩
        · rw [same]
          exact .enqueue none fresh
            (insertsAtMost_createStreamableInTransaction (fun _ => rfl) returned)
        · rw [same]
          exact .unchanged fresh
      · exact .unchanged fresh
  | editStreamableGraffiti currentUserId streamableId dto transferred guid now =>
      obtain ⟨fresh, taken⟩ := Option.ite_none_right_eq_some.mp taken
      obtain rfl := Option.some.inj taken
      refine ⟨guid, ?_⟩
      unfold editStreamableAsset
      split
      · rename_i store edited returned
        exact .enqueue _ fresh (insertsAtMost_editStreamableGraffiti returned)
      · exact .unchanged fresh
  | createUser _ _ _ _ _ | createStreamableGraffitiFromExternalResource _ _ _ _
  | deleteImageAsset _ _ _ | runTask _ => cases isUpload

theorem import_cases {currentUserId : Long} {dto : StreamableGraffitiDto} {guid : String}
    {now : Long}
    (taken : pipelineStep environment pipeline
      (.createStreamableGraffitiFromExternalResource currentUserId dto guid now) = some next) :
    pipeline.isFresh guid = true ∧ next.datastore = pipeline.datastore ∧
      next.tasks = pipeline.tasks ∧ (dto.asset = none → next.store = pipeline.store) ∧
      InsertsAtMost pipeline.store next.store
        (.completed (pipeline.store.lastAssetId + 1) guid) := by
  obtain ⟨fresh, taken⟩ := Option.ite_none_right_eq_some.mp taken
  obtain rfl := Option.some.inj taken
  unfold createStreamableGraffitiFromExternalResource
  split
  · exact ⟨fresh, rfl, rfl, fun _ => rfl, .refl _ _⟩
  rename_i isAsset
  refine ⟨fresh, rfl, rfl, fun noAsset => ?_, ?_⟩
  · rw [noAsset] at isAsset
    cases isAsset
  · rcases executeInTransactionWithResult_cases (createStreamableInTransaction currentUserId dto
      (fun id => .completed id guid) now) pipeline.store with
      ⟨created, store, returned, same⟩ | ⟨thrown, -, same⟩
    · rw [same]
      exact insertsAtMost_createStreamableInTransaction (fun _ => rfl) returned
    · rw [same]
      exact .refl _ _

/-- The keys that a job has saved before it comes to the task. -/
def Task.laidKeys : Task → List String
  | .saveThumbnail guid => [guid]
  | .complete guid => imageKeys guid
  | _ => []

theorem laidKeys_subset_guids {task : Task} {key : String} (laid : key ∈ task.laidKeys) :
    ∃ guid ∈ task.guids, key ∈ imageKeys guid := by
  cases task with
  | saveThumbnail guid => exact ⟨guid, List.mem_cons_self, List.mem_singleton.mp laid ▸
      self_mem_imageKeys guid⟩
  | complete guid => exact ⟨guid, List.mem_cons_self, laid⟩
  | saveImage _ | discardPrevious _ | deletePrevious _ _ | deletePreviousThumbnail _ _
  | forgetPrevious _ | clearImage _ _ _ _ | deleteImage _ | deleteThumbnail _ =>
      exact absurd laid List.not_mem_nil

/-- What one task of a job does: it completes at most the asset of the job, and what it lays for
the rest it has found laid or saves. -/
theorem run_cases {task : Task} (ofJob : task.job.isSome = true) :
    (task.run pipeline).1.store.lastAssetId = pipeline.store.lastAssetId ∧
      (∀ asset ∈ (task.run pipeline).1.store.assets,
        asset ∈ pipeline.store.assets ∨ ∃ before ∈ pipeline.store.assets,
          task = .complete before.guid ∧ asset = { before with state := .completed }) ∧
      ∀ rest, (task.run pipeline).2 = some rest → rest.job.isSome = true ∧
        ∀ key ∈ rest.laidKeys, key ∈ task.laidKeys ∨ key ∈ (task.run pipeline).1.datastore := by
  have still (asset : Asset) (member : asset ∈ pipeline.store.assets) :
      asset ∈ pipeline.store.assets ∨ ∃ before ∈ pipeline.store.assets,
        task = .complete before.guid ∧ asset = { before with state := .completed } := .inl member
  have nothingLeft {Rest : Task → Prop} (rest : Task) (isRest : none = some rest) : Rest rest :=
    absurd isRest (Option.some_ne_none rest).symm
  cases task with
  | saveImage guid =>
      refine ⟨rfl, still, fun rest isRest => ?_⟩
      obtain rfl := Option.some.inj isRest
      refine ⟨rfl, fun key laid => .inr ?_⟩
      rw [List.mem_singleton.mp laid]
      exact Finset.mem_insert_self _ _
  | saveThumbnail guid =>
      refine ⟨rfl, still, fun rest isRest => ?_⟩
      obtain rfl := Option.some.inj isRest
      refine ⟨rfl, fun key laid => ?_⟩
      rcases List.mem_cons.mp laid with rfl | isThumbnail
      · exact .inl List.mem_cons_self
      · rw [List.mem_singleton.mp isThumbnail]
        exact .inr (Finset.mem_insert_self _ _)
  | complete guid =>
      rw [Task.run]
      rcases transaction_cases (completeAsset guid) pipeline.store with
        ⟨value, store, returned, same⟩ | ⟨thrown, -, same⟩
      · rw [same]
        obtain ⟨lastAssetId, assets⟩ := completeAsset_assets returned
        refine ⟨lastAssetId, fun asset member => (assets asset member).imp_right ?_,
          fun rest isRest => ?_⟩
        · rintro ⟨before, isBefore, rfl, changed⟩
          exact ⟨before, isBefore, rfl, changed⟩
        · obtain rfl := Option.some.inj isRest
          exact ⟨rfl, List.forall_mem_nil _⟩
      · rw [same]
        exact ⟨rfl, still, nothingLeft⟩
  | discardPrevious guid =>
      rcases run_discardPrevious pipeline guid with ⟨previous, -, ran⟩ | ⟨-, ran⟩
      · rw [ran]
        refine ⟨rfl, still, fun rest isRest => ?_⟩
        obtain rfl := Option.some.inj isRest
        exact ⟨rfl, List.forall_mem_nil _⟩
      · rw [ran]
        exact ⟨rfl, still, nothingLeft⟩
  | deletePrevious guid previous | deletePreviousThumbnail guid previous =>
      refine ⟨rfl, still, fun rest isRest => ?_⟩
      obtain rfl := Option.some.inj isRest
      exact ⟨rfl, List.forall_mem_nil _⟩
  | forgetPrevious guid => exact ⟨rfl, still, nothingLeft⟩
  | clearImage _ _ _ _ | deleteImage _ | deleteThumbnail _ => cases ofJob

/-- An image of a stored asset stays in the datastore. -/
theorem Harmless.keeps (harmless : Harmless pipeline) {action : PipelineAction} {key : String}
    (taken : pipelineStep environment pipeline action = some next)
    (present : key ∈ pipeline.datastore) :
    key ∈ next.datastore ∨ Unstored pipeline.store.guidAt key := by
  by_cases deletes : pipeline.deletes action = some key
  · exact .inr (harmless.undamaged.deletes action key deletes)
  · exact .inl ((mem_datastore_step taken present).mpr deletes)

end Steps

/-! ### The addresses that are shown -/

section Shown

variable (datastoreService : AmazonS3DatastoreService)

theorem generateThumbnailLink_eq (assetGuid : String) :
    datastoreService.generateThumbnailLink assetGuid =
      datastoreService.generateDownloadLink (assetGuid ++ assetThumbnailSuffix) := by
  simp only [AmazonS3DatastoreService.generateThumbnailLink,
    AmazonS3DatastoreService.generateDownloadLink, generateKey, assetThumbnailSuffix,
    String.append_assoc]

theorem hasText_generateDownloadLink (assetGuid : String) :
    hasText (some (datastoreService.generateDownloadLink assetGuid)) = true := by
  have first : "http://".toList.any (fun symbol => !Character.isWhitespace symbol) = true := by
    decide
  rw [hasText, Option.any_some, Text.hasText,
    AmazonS3DatastoreService.generateDownloadLink, String.append_assoc, String.append_assoc,
    String.toList_append, List.any_append, first, Bool.true_or]

theorem exists_of_hasText {text : Option String} (present : hasText text = true) :
    ∃ url, text = some url := by
  cases text with
  | none => cases present
  | some url => exact ⟨url, rfl⟩

/-- An address that was given is shown only if it has text. -/
theorem hasText_of_shown {given : Option String} {assetGuid : String}
    (same : (if hasText (if hasText given then given else none) then
      if hasText given then given else none
      else some (datastoreService.generateDownloadLink assetGuid)) = given) :
    hasText given = true := by
  by_contra blank
  rw [if_neg blank, if_neg (show ¬ hasText none = true from Bool.false_ne_true)]
    at same
  exact blank (same ▸ hasText_generateDownloadLink datastoreService assetGuid)

theorem reproduced_iff (assetDto : AssetLinkDto) :
    assetDto.Reproduced datastoreService ↔ assetDto.BringsLinks := by
  constructor
  · intro reproduced
    obtain ⟨link, thumbnail⟩ := reproduced "" 0
    refine ⟨hasText_of_shown datastoreService link, ?_⟩
    rw [AssetMapper.mapAtoB, generateThumbnailLink_eq] at thumbnail
    exact hasText_of_shown datastoreService thumbnail
  · intro brings guid id
    refine ⟨?_, ?_⟩
    · simp only [AssetMapper.mapAtoB, addStreamableAssetFromExternalSource, AssetMapper.mapBtoA,
        brings.link, if_true]
    · simp only [AssetMapper.mapAtoB, addStreamableAssetFromExternalSource, AssetMapper.mapBtoA,
        brings.thumbnailLink, if_true]

end Shown

/-! ### The invariant -/

/-- The row was not imported, and has no addresses, or it has those of its request. -/
def ImportedWith (imported : Option AssetLinkDto) (urls : AssetUrls) : Prop :=
  (imported = none ∧ urls = ⟨none, none⟩) ∨ ∃ assetDto, imported = some assetDto ∧
    assetDto.BringsLinks ∧ urls = ⟨assetDto.link, assetDto.thumbnailLink⟩

/-- The tasks belong to jobs, which have saved what they go on from; and the images of every
completed asset that was not imported are saved. -/
structure LinkedPipeline.Linked (state : LinkedPipeline) : Prop where
  harmless : Harmless state.pipeline
  jobs : ∀ task ∈ state.pipeline.tasks, task.job.isSome = true
  laid : ∀ task ∈ state.pipeline.tasks, ∀ key ∈ task.laidKeys,
    key ∈ state.pipeline.datastore ∨ Unstored state.pipeline.store.guidAt key
  known : ∀ asset ∈ state.pipeline.store.assets,
    asset.id ≤ state.pipeline.store.lastAssetId
  shown : ∀ asset ∈ state.pipeline.store.assets,
    ImportedWith (state.imported asset.id) (state.urls asset.id)
  saved : ∀ asset ∈ state.pipeline.store.assets, asset.state = .completed →
    state.imported asset.id = none → ∀ key ∈ imageKeys asset.guid,
      key ∈ state.pipeline.datastore

section Invariant

variable {environment : Environment} {state : LinkedPipeline}

theorem LinkedPipeline.Idle.linked (idle : state.Idle) : state.Linked := by
  have noAsset (asset : Asset) : asset ∉ state.pipeline.store.assets := by
    rw [idle.assets]
    exact List.not_mem_nil
  have noTask (task : Task) : task ∉ state.pipeline.tasks := by
    rw [idle.tasks]
    exact List.not_mem_nil
  have noGuid (slot : AssetSlot) (guid : String) :
      state.pipeline.store.guidAt slot ≠ some guid := by
    intro stored
    obtain ⟨asset, held, -⟩ := Option.map_eq_some_iff.mp stored
    exact noAsset asset (mem_assets.mpr ⟨slot, held⟩)
  have harmless : Harmless state.pipeline := by
    refine ⟨fun slot guid stored => absurd stored (noGuid slot guid), ?_,
      fun task member => absurd member (noTask task),
      fun _ _ _ _ member => absurd member (noTask _)⟩
    rw [idle.previous]
    exact fun _ _ mapped => absurd mapped (Option.not_mem_none _)
  exact ⟨harmless, fun task member => absurd member (noTask task),
    fun task member => absurd member (noTask task),
    fun asset member => absurd member (noAsset asset),
    fun asset member => absurd member (noAsset asset),
    fun asset member => absurd member (noAsset asset)⟩

/-- An unstored key of a GUID in use stays unstored when a fresh asset is inserted. -/
theorem unstored_of_insertsAtMost {pipeline next : Pipeline} {new : Asset} {used key : String}
    (fresh : pipeline.isFresh new.guid = true)
    (inserts : InsertsAtMost pipeline.store next.store new) (inUse : used ∈ pipeline.guids)
    (isKey : key ∈ imageKeys used) (unstored : Unstored pipeline.store.guidAt key) :
    Unstored next.store.guidAt key := by
  refine unstored_iff_assets.mpr fun asset member => ?_
  rcases inserts.assets asset member with old | ⟨rfl, -⟩
  · exact unstored_iff_assets.mp unstored asset old
  · exact isFresh_iff.mp fresh used inUse key isKey

/-- An asset can be inserted, uncompleted or with the addresses of its request. -/
theorem LinkedPipeline.Linked.write (linked : state.Linked) {next : Pipeline} {new : Asset}
    {urls : AssetUrls} {imported : Option AssetLinkDto} (harmless : Harmless next)
    (isNext : new.id = state.pipeline.store.lastAssetId + 1)
    (fresh : state.pipeline.isFresh new.guid = true)
    (inserts : InsertsAtMost state.pipeline.store next.store new)
    (datastore : next.datastore = state.pipeline.datastore)
    (tasks : ∀ task ∈ next.tasks,
      task ∈ state.pipeline.tasks ∨ ∃ guid, task = .saveImage guid)
    (shown : ImportedWith imported urls)
    (notImported : imported = none → new.state ≠ .completed) :
    (state.write urls imported next).Linked := by
  have before {asset : Asset} (old : asset ∈ state.pipeline.store.assets) :
      asset.id ≠ state.pipeline.store.lastAssetId + 1 :=
    Int.ne_of_lt (Int.lt_add_one_of_le (linked.known asset old))
  refine ⟨harmless, fun task member => ?_, fun task member key isLaid => ?_,
    fun asset member => ?_, fun asset member => ?_, fun asset member completed => ?_⟩
  · rcases tasks task member with old | ⟨guid, rfl⟩
    · exact linked.jobs task old
    · rfl
  · rcases tasks task member with old | ⟨guid, rfl⟩
    · obtain ⟨used, known, isKey⟩ := laidKeys_subset_guids isLaid
      refine (linked.laid task old key isLaid).imp (fun present => ?_) fun unstored => ?_
      · exact (congrArg (key ∈ ·) datastore).mpr present
      · exact unstored_of_insertsAtMost fresh inserts (mem_guids_of_task old known) isKey unstored
    · exact absurd isLaid List.not_mem_nil
  · rcases inserts.assets asset member with old | ⟨rfl, bound⟩
    · exact Int.le_trans (linked.known asset old) inserts.lastAssetId
    · exact bound
  · simp only [LinkedPipeline.write]
    rcases inserts.assets asset member with old | ⟨rfl, -⟩
    · rw [Function.update_of_ne (before old), Function.update_of_ne (before old)]
      exact linked.shown asset old
    · rw [isNext, Function.update_self, Function.update_self]
      exact shown
  · simp only [LinkedPipeline.write]
    rcases inserts.assets asset member with old | ⟨rfl, -⟩
    · rw [Function.update_of_ne (before old), datastore]
      exact linked.saved asset old completed
    · rw [isNext, Function.update_self]
      exact fun isNone => absurd completed (notImported isNone)

/-- A job can go on. -/
theorem LinkedPipeline.Linked.runTask (linked : state.Linked) {index : Nat} {next : Pipeline}
    (harmless : Harmless next)
    (taken : pipelineStep environment state.pipeline (.runTask index) = some next) :
    ({ state with pipeline := next } : LinkedPipeline).Linked := by
  have keeps {key : String} (present : key ∈ state.pipeline.datastore) :
      key ∈ next.datastore ∨ Unstored state.pipeline.store.guidAt key :=
    linked.harmless.keeps taken present
  rw [pipelineStep] at taken
  split at taken
  case h_2 => cases taken
  rename_i task chosen
  have member : task ∈ state.pipeline.tasks := List.mem_of_getElem? chosen
  obtain ⟨lastAssetId, assets, goesOn⟩ :=
    run_cases (linked.jobs task member)
  obtain rfl := Option.some.inj taken
  have unstored {key : String} (before : Unstored state.pipeline.store.guidAt key) :
      Unstored (task.run state.pipeline).1.store.guidAt key := by
    refine unstored_iff_assets.mpr fun asset isAsset => ?_
    rcases assets asset isAsset with old | ⟨old, isOld, -, rfl⟩
    · exact unstored_iff_assets.mp before asset old
    · exact unstored_iff_assets.mp before old isOld
  have laid {key : String} (isLaid : key ∈ task.laidKeys) :
      key ∈ (task.run state.pipeline).1.datastore ∨
        Unstored (task.run state.pipeline).1.store.guidAt key :=
    (linked.laid task member key isLaid).elim
      (fun present => (keeps present).imp_right unstored) fun free => .inr (unstored free)
  refine ⟨harmless, fun other isTask => ?_, fun other isTask key isLaid => ?_,
    fun asset isAsset => ?_, fun asset isAsset => ?_, fun asset isAsset completed notImported
      key isKey => ?_⟩
  · rcases List.mem_append.mp isTask with remains | isRest
    · exact linked.jobs other (List.mem_of_mem_eraseIdx remains)
    · exact (goesOn other (Option.mem_toList.mp isRest)).1
  · rcases List.mem_append.mp isTask with remains | isRest
    · rcases linked.laid other (List.mem_of_mem_eraseIdx remains) key isLaid with present | free
      · exact (keeps present).imp_right unstored
      · exact .inr (unstored free)
    · exact ((goesOn other (Option.mem_toList.mp isRest)).2 key isLaid).elim laid .inl
  · show asset.id ≤ (task.run state.pipeline).1.store.lastAssetId
    rw [lastAssetId]
    rcases assets asset isAsset with old | ⟨old, isOld, -, rfl⟩
    · exact linked.known asset old
    · exact linked.known old isOld
  · rcases assets asset isAsset with old | ⟨old, isOld, -, rfl⟩
    · exact linked.shown asset old
    · exact linked.shown old isOld
  · -- The keys of a stored asset are not unstored.
    have stays (present : key ∈ (task.run state.pipeline).1.datastore ∨
        Unstored (task.run state.pipeline).1.store.guidAt key) :
        key ∈ (task.run state.pipeline).1.datastore :=
      present.resolve_right fun free => unstored_iff_assets.mp free asset isAsset isKey
    rcases assets asset isAsset with old | ⟨old, isOld, rfl, rfl⟩
    · exact stays ((keeps (linked.saved asset old completed notImported key isKey)).imp_right
        unstored)
    · exact stays (laid isKey)

theorem linked_step {Condition : AssetLinkDto → Prop} {action : LinkAction}
    {next : LinkedPipeline} (brings : ∀ assetDto, Condition assetDto → assetDto.BringsLinks)
    (linked : state.Linked)
    (permitted : ∀ currentUserId dto assetDto guid now,
      action = .createStreamableGraffitiFromExternalResource currentUserId dto (some assetDto)
        guid now → Condition assetDto)
    (taken : linkStep environment state action = some next) : next.Linked := by
  have noAddresses : ImportedWith none ⟨none, none⟩ := .inl ⟨rfl, rfl⟩
  cases action with
  | upload request =>
      obtain ⟨isUpload, taken⟩ := Option.ite_none_right_eq_some.mp taken
      obtain ⟨served, serves, rfl⟩ := Option.map_eq_some_iff.mp taken
      obtain ⟨guid, uploads⟩ := uploads_of_isUpload isUpload serves
      have permits : KeepsKeysApart state.pipeline request := by
        cases request with
        | addOrReplaceUserImageAsset _ _ _ _ _ | createStreamableGraffiti _ _ _ _ _
        | editStreamableGraffiti _ _ _ _ _ _ => trivial
        | createUser _ _ _ _ _ | createStreamableGraffitiFromExternalResource _ _ _ _
        | deleteImageAsset _ _ _ | runTask _ => cases isUpload
      exact linked.write (harmless_step linked.harmless permits serves) rfl uploads.fresh
        uploads.inserts uploads.datastore
        (fun task member => (uploads.tasks task member).imp_right fun isNew => ⟨guid, isNew⟩)
        noAddresses fun _ isCompleted => nomatch isCompleted
  | createStreamableGraffitiFromExternalResource currentUserId dto assetDto guid now =>
      obtain ⟨served, serves, rfl⟩ := Option.map_eq_some_iff.mp taken
      obtain ⟨fresh, datastore, tasks, unchanged, inserts⟩ := import_cases serves
      have permits : KeepsKeysApart state.pipeline
          (.createStreamableGraffitiFromExternalResource currentUserId
            { dto with asset := assetDto.map AssetLinkDto.toAssetInput } guid now) := trivial
      have harmless : Harmless served := harmless_step linked.harmless permits serves
      have noTask (task : Task) (member : task ∈ served.tasks) :
          task ∈ state.pipeline.tasks ∨ ∃ guid, task = .saveImage guid := by
        rw [tasks] at member
        exact .inl member
      cases assetDto with
      | none =>
          have same : InsertsAtMost state.pipeline.store served.store
              (.processing (state.pipeline.store.lastAssetId + 1) guid) := by
            rw [unchanged rfl]
            exact .refl _ _
          exact linked.write harmless rfl fresh same datastore noTask noAddresses
            fun _ isCompleted => nomatch isCompleted
      | some assetDto =>
          have links := brings assetDto (permitted _ _ assetDto _ _ rfl)
          refine linked.write harmless rfl fresh inserts datastore noTask
            (.inr ⟨assetDto, rfl, links, ?_⟩) fun isNone => nomatch isNone
          simp only [Option.map_some, Option.getD_some, addStreamableAssetFromExternalSource,
            AssetMapper.mapBtoA, links.link, links.thumbnailLink, if_true]
  | runTask index =>
      obtain ⟨served, serves, rfl⟩ := Option.map_eq_some_iff.mp taken
      have permits : KeepsKeysApart state.pipeline (.runTask index) := by
        intro image user guid now chosen
        have ofJob := linked.jobs _ (List.mem_of_getElem? chosen)
        cases ofJob
      exact linked.runTask (harmless_step linked.harmless permits serves) serves

/-- In a linked state all addresses lead to an image. -/
theorem LinkedPipeline.Linked.linksResolve (linked : state.Linked)
    (datastoreService : AmazonS3DatastoreService) : state.LinksResolve datastoreService := by
  intro asset member completed
  have noText : ¬ hasText none = true := Bool.false_ne_true
  rcases linked.shown asset member with ⟨notImported, urls⟩ | ⟨assetDto, imported, links, urls⟩
  · have saved := linked.saved asset member completed notImported
    refine ⟨.inr ⟨asset.guid, saved _ List.mem_cons_self, ?_⟩,
      .inr ⟨asset.guid ++ assetThumbnailSuffix, saved _ (List.mem_cons_of_mem _
        List.mem_cons_self), ?_⟩⟩
    · simp only [AssetMapper.mapAtoB, LinkedPipeline.row, urls, if_neg noText]
    · simp only [AssetMapper.mapAtoB, LinkedPipeline.row, urls, if_neg noText,
        generateThumbnailLink_eq]
  · obtain ⟨url, isUrl⟩ := exists_of_hasText links.link
    obtain ⟨thumbnailUrl, isThumbnailUrl⟩ := exists_of_hasText links.thumbnailLink
    refine ⟨.inl ⟨url, ?_, ?_⟩, .inl ⟨thumbnailUrl, ?_, ?_⟩⟩
    · rw [imported, Option.bind_some, isUrl]
    · simp only [AssetMapper.mapAtoB, LinkedPipeline.row, urls, links.link, if_true]
      exact isUrl
    · rw [imported, Option.bind_some, isThumbnailUrl]
    · simp only [AssetMapper.mapAtoB, LinkedPipeline.row, urls, links.thumbnailLink, if_true]
      exact isThumbnailUrl

end Invariant

/-- The addresses are kept exactly when every import brings both of them. -/
theorem keepsLinks_iff (datastoreService : AmazonS3DatastoreService) (environment : Environment)
    (Condition : AssetLinkDto → Prop) :
    KeepsLinks datastoreService environment Condition ↔
      ∀ assetDto, Condition assetDto → assetDto.BringsLinks := by
  constructor
  · intro keeps assetDto met
    exact (reproduced_iff datastoreService assetDto).mp (keeps.2 assetDto met)
  · intro brings
    refine ⟨fun start idle state reached => ?_, fun assetDto met =>
      (reproduced_iff datastoreService assetDto).mpr (brings assetDto met)⟩
    have linked : state.Linked := reached.invariant LinkedPipeline.Linked idle.linked
      fun _ _ _ holds permitted taken => linked_step brings holds permitted taken
    exact linked.linksResolve datastoreService

/-! ### An import without a thumbnail -/

/-- The request of an import with the address of the image alone. -/
def importWithoutThumbnail : AssetLinkDto where
  guid := none
  assetType := none
  state := none
  link := some "http://graffiti.org/1.jpg"
  thumbnail := none
  thumbnailLink := none

def graffitiWithoutText : StreamableGraffitiDto where
  latitude := none
  longitude := none
  roll := none
  yaw := none
  pitch := none
  asset := none
  text := none
  isPrivate := none

def oneUserState : LinkedPipeline where
  pipeline := oneUserPipeline
  urls _ := ⟨none, none⟩
  imported _ := none

/-- Alice imports a graffiti. -/
def importingRun : List LinkAction :=
  [.createStreamableGraffitiFromExternalResource 1 graffitiWithoutText
    (some importWithoutThumbnail) "G" 0]

def afterImport : LinkedPipeline :=
  (run (linkStep (plainEnvironment .entry)) oneUserState importingRun).getD oneUserState

/-- The address of its thumbnail leads nowhere. -/
theorem not_keepsLinks :
    ¬ KeepsLinks ⟨"graffitab-eu"⟩ (plainEnvironment .entry) fun _ => True := by
  intro keeps
  have executed : run (linkStep (plainEnvironment .entry)) oneUserState importingRun =
      some afterImport := by
    rfl
  have idle : oneUserState.Idle := ⟨rfl, rfl, rfl⟩
  have resolves := keeps.1 oneUserState idle afterImport
    (reaches_of_run importingRun (fun _ _ _ _ _ _ _ _ _ => trivial) executed)
  have thumbnail := (resolves (.completed 1 "G") List.mem_cons_self rfl).2
  rcases thumbnail with ⟨url, given, -⟩ | ⟨key, saved, -⟩
  · cases given
  · exact absurd saved (Finset.notMem_empty key)

end GraffiTab
