/-
This file says what each step of the asset pipeline does to the references of assets.

Every transaction is summed up by the GUIDs that the references carry before and after it:
an upload puts a new GUID in one place, a completed job changes none, a deletion clears
one. `PipelineEffect` lists all that a step can do, with what is known where it happens,
so that the invariants are proved from it by cases.
-/

import GraffiTab.AssetPipeline

namespace GraffiTab

open Tables

/-! ### References -/

section References

variable {store next : Store}

@[simp] theorem imageAsset_withImageAsset (user : User) (image : UserImageAsset)
    (asset : Option Asset) : (user.withImageAsset image asset).imageAsset image = asset := by
  cases image <;> rfl

@[simp] theorem imageAsset_withImageAsset_other (user : User) (image : UserImageAsset)
    (asset : Option Asset) :
    (user.withImageAsset image asset).imageAsset image.other = user.imageAsset image.other := by
  cases image <;> rfl

@[simp] theorem id_withImageAsset (user : User) (image : UserImageAsset) (asset : Option Asset) :
    (user.withImageAsset image asset).id = user.id := by
  cases image <;> rfl

theorem imageAsset_updated (user : User) (now : Long) (metadataItems : Metadata)
    (image : UserImageAsset) :
    ({ user with updatedOn := some now, metadataItems } : User).imageAsset image =
      user.imageAsset image := by
  cases image <;> rfl

theorem other_other (image : UserImageAsset) : image.other.other = image := by
  cases image <;> rfl

theorem eq_or_eq_other (image chosen : UserImageAsset) : image = chosen ∨ image = chosen.other := by
  cases image <;> cases chosen <;> decide

/-- The assets are those that some reference has. -/
theorem mem_assets {asset : Asset} :
    asset ∈ store.assets ↔ ∃ slot, store.assetAt slot = some asset := by
  unfold Store.assets
  rw [List.mem_append, List.mem_flatMap, List.mem_flatMap]
  constructor
  · rintro (⟨user, member, held⟩ | ⟨streamable, member, held⟩)
    · have found : store.users.find user.id = some user := Table.find_of_mem member
      rcases List.mem_append.mp held with avatar | cover
      · refine ⟨.image user.id .avatar, ?_⟩
        rw [Store.assetAt, found]
        exact Option.mem_toList.mp avatar
      · refine ⟨.image user.id .cover, ?_⟩
        rw [Store.assetAt, found]
        exact Option.mem_toList.mp cover
    · have found : store.streamables.find streamable.id = some streamable :=
        Table.find_of_mem member
      refine ⟨.streamable streamable.id, ?_⟩
      rw [Store.assetAt, found]
      exact Option.mem_toList.mp held
  · rintro ⟨slot, held⟩
    cases slot with
    | image userId image =>
        obtain ⟨user, found, isImage⟩ := Option.bind_eq_some_iff.mp held
        refine .inl ⟨user, Table.mem_of_find found, List.mem_append.mpr ?_⟩
        cases image with
        | avatar => exact .inl (Option.mem_toList.mpr isImage)
        | cover => exact .inr (Option.mem_toList.mpr isImage)
    | streamable streamableId =>
        obtain ⟨streamable, found, isAsset⟩ := Option.bind_eq_some_iff.mp held
        exact .inr ⟨streamable, Table.mem_of_find found, Option.mem_toList.mpr isAsset⟩

/-- The references after a user is written back. -/
theorem assetAt_setUser {old new : User} (found : store.users.find new.id = some old)
    (lastAssetId : Long) (slot : AssetSlot) :
    ({ store with users := store.users.set new, lastAssetId } : Store).assetAt slot =
      match slot with
      | .image userId image =>
          if userId = new.id then new.imageAsset image else store.assetAt (.image userId image)
      | .streamable streamableId => store.assetAt (.streamable streamableId) := by
  cases slot with
  | streamable streamableId => rfl
  | image userId image =>
      simp only [Store.assetAt]
      split
      · rename_i own
        rw [own, show (store.users.set new).find new.id = some new from
          Table.find_set_self found]
        rfl
      · rename_i other
        rw [Table.find_set_other store.users other]

theorem slot_other_ne (userId : Long) (image : UserImageAsset) :
    AssetSlot.image userId image.other ≠ .image userId image := by
  cases image <;> exact nofun

/-- Writing back a user writes its two references. -/
theorem guidAt_setUser {old : User} (new : User) (found : store.users.find new.id = some old)
    (image : UserImageAsset) (lastAssetId : Long) :
    ({ store with users := store.users.set new, lastAssetId } : Store).guidAt =
      Function.update
        (Function.update store.guidAt (.image new.id image)
          ((new.imageAsset image).map Asset.guid))
        (.image new.id image.other) ((new.imageAsset image.other).map Asset.guid) := by
  funext slot
  rw [Store.guidAt, assetAt_setUser found]
  by_cases other : slot = .image new.id image.other
  · rw [other, Function.update_self]
    simp only [if_true]
  rw [Function.update_of_ne other]
  by_cases same : slot = .image new.id image
  · rw [same, Function.update_self]
    simp only [if_true]
  rw [Function.update_of_ne same]
  cases slot with
  | streamable streamableId => rfl
  | image userId chosen =>
      have notOwn : userId ≠ new.id := by
        rintro rfl
        rcases eq_or_eq_other chosen image with isImage | isOther
        · exact same (isImage ▸ rfl)
        · exact other (isOther ▸ rfl)
      simp only [notOwn, if_false, Store.guidAt]

/-- Writing back a streamable changes its reference. -/
theorem guidAt_setStreamable {old : Streamable} (new : Streamable)
    (found : store.streamables.find new.id = some old) (lastAssetId : Long) :
    ({ store with streamables := store.streamables.set new, lastAssetId } : Store).guidAt =
      Function.update store.guidAt (.streamable new.id) (new.asset.map Asset.guid) := by
  funext slot
  by_cases changed : slot = .streamable new.id
  · rw [changed, Function.update_self, Store.guidAt, Store.assetAt]
    rw [show (store.streamables.set new).find new.id = some new from Table.find_set_self found]
    rfl
  · rw [Function.update_of_ne changed]
    cases slot with
    | image userId image => rfl
    | streamable streamableId =>
        have other : streamableId ≠ new.id := fun same => changed (same ▸ rfl)
        rw [Store.guidAt, Store.assetAt, Table.find_set_other store.streamables other]
        rfl

theorem guidAt_none_of_nextId (store : Store) :
    store.guidAt (.streamable store.streamables.nextId) = none := by
  rw [Store.guidAt, Store.assetAt, Table.find_nextId]
  rfl

theorem guidAt_none_of_nextUserId (store : Store) (image : UserImageAsset) :
    store.guidAt (.image store.users.nextId image) = none := by
  rw [Store.guidAt, Store.assetAt, Table.find_nextId]
  rfl

/-- A new streamable brings one reference. -/
theorem guidAt_insertStreamable (new : Streamable) (lastAssetId : Long) :
    ({ store with streamables := store.streamables.insert new, lastAssetId } : Store).guidAt =
      Function.update store.guidAt (.streamable store.streamables.nextId)
        (new.asset.map Asset.guid) := by
  funext slot
  by_cases changed : slot = .streamable store.streamables.nextId
  · rw [changed, Function.update_self, Store.guidAt, Store.assetAt,
      Table.find_insert_new store.streamables new]
    rfl
  · rw [Function.update_of_ne changed]
    cases slot with
    | image userId image => rfl
    | streamable streamableId =>
        have other : streamableId ≠ store.streamables.nextId := fun same => changed (same ▸ rfl)
        rw [Store.guidAt, Store.assetAt, Table.find_insert_other store.streamables new other]
        rfl

/-- A new user brings two references. -/
theorem guidAt_insertUser (new : User) (lastAssetId : Long) :
    ({ store with users := store.users.insert new, lastAssetId } : Store).guidAt =
      Function.update (Function.update store.guidAt (.image store.users.nextId .avatar)
        (new.avatarAsset.map Asset.guid)) (.image store.users.nextId .cover)
        (new.coverAsset.map Asset.guid) := by
  funext slot
  by_cases cover : slot = .image store.users.nextId .cover
  · rw [cover, Function.update_self, Store.guidAt, Store.assetAt,
      Table.find_insert_new store.users new]
    rfl
  rw [Function.update_of_ne cover]
  by_cases avatar : slot = .image store.users.nextId .avatar
  · rw [avatar, Function.update_self, Store.guidAt, Store.assetAt,
      Table.find_insert_new store.users new]
    rfl
  rw [Function.update_of_ne avatar]
  cases slot with
  | streamable streamableId => rfl
  | image userId image =>
      have other : userId ≠ store.users.nextId := by
        rintro rfl
        cases image with
        | avatar => exact avatar rfl
        | cover => exact cover rfl
      rw [Store.guidAt, Store.assetAt, Table.find_insert_other store.users new other]
      rfl

/-- A change that keeps the GUIDs of assets changes no reference. -/
theorem guidAt_mapAssets (store : Store) {change : Asset → Asset}
    (same : ∀ asset, (change asset).guid = asset.guid) :
    (store.mapAssets change).guidAt = store.guidAt := by
  have kept (asset : Option Asset) : (asset.map change).map Asset.guid = asset.map Asset.guid := by
    rw [Option.map_map]
    exact Option.map_congr fun asset _ => same asset
  funext slot
  cases slot with
  | image userId image =>
      simp only [Store.guidAt, Store.assetAt, Store.mapAssets, Table.find_mapRows]
      cases store.users.find userId with
      | none => rfl
      | some user =>
          cases image with
          | cover => exact kept user.coverAsset
          | avatar => exact kept user.avatarAsset
  | streamable streamableId =>
      simp only [Store.guidAt, Store.assetAt, Store.mapAssets, Table.find_mapRows]
      cases store.streamables.find streamableId with
      | none => rfl
      | some streamable => exact kept streamable.asset

end References

/-! ### Transactions -/

section Transactions

variable {store next : Store}

/-- An upload of an avatar or a cover puts the new GUID in the place of the previous one. -/
theorem replaceUserImageAsset_ok {currentUserId : Long} {image : UserImageAsset} {guid : String}
    {now : Long} {previous : Option String}
    (returned : replaceUserImageAsset currentUserId image guid now store = .ok (previous, next)) :
    previous = store.guidAt (.image currentUserId image) ∧
      next.guidAt = Function.update store.guidAt (.image currentUserId image) (some guid) := by
  unfold replaceUserImageAsset at returned
  split at returned
  · exact absurd returned throw_ne_ok
  · rename_i user found
    obtain rfl : user.id = currentUserId := Table.id_of_find found
    obtain ⟨rfl, rfl⟩ := Prod.mk.inj (Except.ok.inj returned)
    refine ⟨?_, ?_⟩
    · rw [Store.guidAt, Store.assetAt, found]
      rfl
    · let new : User :=
        { user.withImageAsset image (some (.processing (store.lastAssetId + 1) guid)) with
          updatedOn := some now }
      have sameId : new.id = user.id := id_withImageAsset _ _ _
      have images (chosen : UserImageAsset) : new.imageAsset chosen =
          (user.withImageAsset image
            (some (.processing (store.lastAssetId + 1) guid))).imageAsset chosen :=
        imageAsset_updated _ now _ chosen
      have written := guidAt_setUser new (sameId ▸ found) image (store.lastAssetId + 1)
      rw [images, images, imageAsset_withImageAsset, imageAsset_withImageAsset_other,
        sameId] at written
      refine written.trans (Function.update_eq_self_iff.mpr ?_)
      rw [Function.update_of_ne (slot_other_ne user.id image), Store.guidAt, Store.assetAt, found]
      rfl

/-- An edit that returns has put the streamable back with an asset to process. -/
theorem editStreamableGraffiti_saved {currentUserId streamableId : Long}
    {dto : StreamableGraffitiDto} {transferred : Bool} {guid : String} {now : Long}
    {edited : Streamable}
    (returned : editStreamableGraffiti currentUserId streamableId dto transferred guid now store =
      (next, .ok edited)) :
    ∃ old, store.streamables.find streamableId = some old ∧ edited.id = streamableId ∧
      edited.asset = some (.processing (store.lastAssetId + 1) guid) ∧
        next = { store with
          streamables := store.streamables.set edited
          lastAssetId := store.lastAssetId + 1 } := by
  unfold editStreamableGraffiti at returned
  split at returned
  · cases (Prod.mk.inj returned).2
  · cases (Prod.mk.inj returned).2
  rcases executeInTransactionWithResult_cases
    (editStreamableGraffitiBody currentUserId streamableId dto guid now) store with
    ⟨value, final, body, same⟩ | ⟨thrown, -, same⟩
  · rw [same] at returned
    obtain ⟨rfl, isValue⟩ := Prod.mk.inj returned
    obtain rfl := Except.ok.inj isValue
    obtain ⟨streamable, owned, rest⟩ := bind_eq_ok.mp body
    split at rest
    · exact absurd rest throw_ne_ok
    obtain ⟨rfl, rfl⟩ := Prod.mk.inj (Except.ok.inj rest)
    have found := (find_of_ownStreamable owned).1
    exact ⟨streamable, found, Table.id_of_find found, rfl, rfl⟩
  · rw [same] at returned
    cases (Prod.mk.inj returned).2

theorem editStreamableGraffiti_ok {currentUserId streamableId : Long}
    {dto : StreamableGraffitiDto} {transferred : Bool} {guid : String} {now : Long}
    {edited : Streamable}
    (returned : editStreamableGraffiti currentUserId streamableId dto transferred guid now store =
      (next, .ok edited)) :
    next.guidAt = Function.update store.guidAt (.streamable streamableId) (some guid) := by
  obtain ⟨old, found, rfl, isAsset, rfl⟩ := editStreamableGraffiti_saved returned
  rw [guidAt_setStreamable edited found, isAsset]
  rfl

theorem createStreamableInTransaction_ok {currentUserId : Long} {dto : StreamableGraffitiDto}
    {asset : Long → Asset} {guid : String} {now : Long} {created : Streamable}
    (carries : ∀ id, (asset id).guid = guid)
    (returned : createStreamableInTransaction currentUserId dto asset now store =
      .ok (created, next)) :
    ∃ streamableId, store.guidAt (.streamable streamableId) = none ∧
      next.guidAt = Function.update store.guidAt (.streamable streamableId) (some guid) := by
  obtain ⟨currentUser, -, rest⟩ := bind_eq_ok.mp returned
  obtain ⟨-, rfl⟩ := Prod.mk.inj (Except.ok.inj rest)
  refine ⟨store.streamables.nextId, guidAt_none_of_nextId store, ?_⟩
  rw [guidAt_insertStreamable, Option.map_some, carries]

/-- The GUID of an asset that a request brings with it. -/
def AssetInput.givenGuid (asset : Option AssetInput) : Option String := asset.bind AssetInput.guid

theorem persistAsset_guid {asset : Option AssetInput} {lastAssetId last : Long}
    {persisted : Option Asset} (returned : persistAsset asset lastAssetId = .ok (persisted, last)) :
    persisted.map Asset.guid = AssetInput.givenGuid asset := by
  unfold persistAsset at returned
  split at returned
  · obtain ⟨rfl, -⟩ := Prod.mk.inj (Except.ok.inj returned)
    rfl
  · obtain ⟨rfl, -⟩ := Prod.mk.inj (Except.ok.inj returned)
    rfl
  · cases returned

/-- A new user has the GUIDs of the request for its avatar and its cover. -/
theorem createUser_guidAt (environment : Environment) (user : UserInput)
    (guid userToken salt : String) (now : Long) (store : Store) :
    (createUser environment user guid userToken salt now store).1 = store ∨
      ∃ userId, (∀ image, store.guidAt (.image userId image) = none) ∧
        (createUser environment user guid userToken salt now store).1.guidAt =
          Function.update (Function.update store.guidAt (.image userId .avatar)
            (AssetInput.givenGuid user.avatarAsset)) (.image userId .cover)
            (AssetInput.givenGuid user.coverAsset) := by
  unfold createUser
  split
  · rcases executeInTransactionWithResult_cases
      (insertCreatedUser environment user guid userToken salt now) store with
      ⟨created, next, returned, same⟩ | ⟨thrown, -, same⟩
    · rw [same]
      obtain ⟨⟨avatarAsset, afterAvatar⟩, avatar, rest⟩ := bind_eq_ok.mp returned
      obtain ⟨⟨coverAsset, lastAssetId⟩, cover, rest⟩ := bind_eq_ok.mp rest
      obtain ⟨-, rfl⟩ := Prod.mk.inj (Except.ok.inj rest)
      refine .inr ⟨store.users.nextId, guidAt_none_of_nextUserId store, ?_⟩
      rw [← persistAsset_guid avatar, ← persistAsset_guid cover]
      exact guidAt_insertUser _ lastAssetId
    · rw [same]
      exact .inl rfl
  · exact .inl rfl

/-- A job that completes an asset changes no GUID. -/
theorem completeAsset_ok {guid : String} (returned : completeAsset guid store = .ok ((), next)) :
    next.guidAt = store.guidAt := by
  obtain ⟨found, -, rest⟩ := bind_eq_ok.mp returned
  cases found with
  | none => exact absurd rest throw_ne_ok
  | some toUpdate =>
      obtain ⟨-, rfl⟩ := Prod.mk.inj (Except.ok.inj rest)
      refine guidAt_mapAssets store fun asset => ?_
      split <;> rfl

/-- Writing back a user without the image that shows the other image as it was read. -/
theorem guidAt_mergeUser {user storedUser : User} {image : UserImageAsset} (new : User)
    (lastAssetId : Long) (found : store.users.find storedUser.id = some user)
    (sameId : new.id = storedUser.id) (cleared : new.imageAsset image = none)
    (other : (new.imageAsset image.other).map Asset.guid =
      (storedUser.imageAsset image.other).map Asset.guid) :
    ({ store with users := store.users.set new, lastAssetId } : Store).guidAt =
      Function.update (Function.update store.guidAt (.image storedUser.id image) none)
        (.image storedUser.id image.other)
        ((storedUser.imageAsset image.other).map Asset.guid) := by
  rw [guidAt_setUser new (sameId ▸ found) image lastAssetId, cleared, other, sameId]
  rfl

/-- A merge clears the image, and leaves the other image with the GUID that was read before; its
row is there unless it is inserted again. -/
theorem mergeWithoutImage_ok {image : UserImageAsset} {storedUser : User} {now : Long}
    (returned : mergeWithoutImage image storedUser now store = .ok ((), next)) :
    next.guidAt = Function.update
        (Function.update store.guidAt (.image storedUser.id image) none)
        (.image storedUser.id image.other) ((storedUser.imageAsset image.other).map Asset.guid) ∧
      ∀ kept ∈ storedUser.imageAsset image.other,
        store.assetAt (.image storedUser.id image.other) = some kept ∨
          (store.assetAt (.image storedUser.id image.other)).map Asset.id ≠ some kept.id := by
  unfold mergeWithoutImage at returned
  split at returned
  · exact absurd returned throw_ne_ok
  rename_i user found
  have atOther : store.assetAt (.image storedUser.id image.other) =
      user.imageAsset image.other := by
    rw [Store.assetAt, found, Option.bind_some]
  rw [atOther]
  have sameId := id_withImageAsset storedUser image none
  have clearedImage :=
    (imageAsset_updated (storedUser.withImageAsset image none) now user.metadataItems image).trans
      (imageAsset_withImageAsset _ _ _)
  have keptImage := (imageAsset_updated (storedUser.withImageAsset image none) now
    user.metadataItems image.other).trans (imageAsset_withImageAsset_other _ _ _)
  split at returned
  · rename_i absent
    obtain ⟨-, rfl⟩ := Prod.mk.inj (Except.ok.inj returned)
    refine ⟨guidAt_mergeUser _ store.lastAssetId found sameId clearedImage
      (congrArg _ keptImage), fun kept isKept => ?_⟩
    rw [absent] at isKept
    exact absurd isKept (Option.not_mem_none _)
  rename_i kept isKept
  split at returned
  · rename_i present
    obtain ⟨-, rfl⟩ := Prod.mk.inj (Except.ok.inj returned)
    refine ⟨guidAt_mergeUser _ store.lastAssetId found sameId clearedImage
      (congrArg _ keptImage), fun other isOther => .inl ?_⟩
    rw [present, ← isKept]
    exact isOther
  split at returned
  · exact absurd returned throw_ne_ok
  · rename_i gone
    obtain ⟨-, rfl⟩ := Prod.mk.inj (Except.ok.inj returned)
    refine ⟨guidAt_mergeUser _ (store.lastAssetId + 1) found
      ((id_withImageAsset _ _ _).trans sameId) ?_ ?_, fun other isOther => .inr ?_⟩
    · -- The row that is inserted again is that of the other image.
      have unchanged := imageAsset_withImageAsset_other
        { storedUser.withImageAsset image none with
          updatedOn := some now, metadataItems := user.metadataItems } image.other
        (some { kept with id := store.lastAssetId + 1 })
      rw [other_other] at unchanged
      exact unchanged.trans clearedImage
    · rw [imageAsset_withImageAsset, isKept]
      rfl
    · rw [isKept] at isOther
      rw [← Option.some.inj isOther]
      exact gone

/-- A merge whose other image still has its row only clears. -/
theorem mergeWithoutImage_clears {image : UserImageAsset}
    {storedUser : User} {now : Long}
    (returned : mergeWithoutImage image storedUser now store = .ok ((), next))
    (present : ∀ kept ∈ storedUser.imageAsset image.other,
      (store.assetAt (.image storedUser.id image.other)).map Asset.id = some kept.id)
    (slot : AssetSlot) (guid : String) (stored : next.guidAt slot = some guid) :
    slot ≠ .image storedUser.id image ∧ store.guidAt slot = some guid := by
  obtain ⟨written, rows⟩ := mergeWithoutImage_ok returned
  rw [written] at stored
  by_cases isOther : slot = .image storedUser.id image.other
  · refine ⟨isOther ▸ slot_other_ne storedUser.id image, ?_⟩
    rw [isOther, Function.update_self] at stored
    obtain ⟨kept, isKept, sameGuid⟩ := Option.map_eq_some_iff.mp stored
    rcases rows kept isKept with there | gone
    · rw [isOther, Store.guidAt, there, Option.map_some, sameGuid]
    · exact absurd (present kept isKept) gone
  rw [Function.update_of_ne isOther] at stored
  by_cases isImage : slot = .image storedUser.id image
  · rw [isImage, Function.update_self] at stored
    exact absurd stored (Option.not_mem_none _)
  · rw [Function.update_of_ne isImage] at stored
    exact ⟨isImage, stored⟩

/-- A merge whose other image still has its row, or was absent and still is, clears the image. -/
theorem mergeWithoutImage_clearsOnly {image : UserImageAsset} {storedUser : User} {now : Long}
    (returned : mergeWithoutImage image storedUser now store = .ok ((), next))
    (sameOther : (store.assetAt (.image storedUser.id image.other)).map Asset.id =
      (storedUser.imageAsset image.other).map Asset.id) :
    next.guidAt = Function.update store.guidAt (.image storedUser.id image) none := by
  obtain ⟨written, rows⟩ := mergeWithoutImage_ok returned
  have sameGuid : (storedUser.imageAsset image.other).map Asset.guid =
      store.guidAt (.image storedUser.id image.other) := by
    rw [Store.guidAt]
    cases read : storedUser.imageAsset image.other with
    | none =>
        rw [read] at sameOther
        rw [Option.map_eq_none_iff.mp sameOther]
    | some kept =>
        rw [read] at sameOther
        rcases rows kept read with there | gone
        · rw [there]
        · exact absurd sameOther gone
  rw [written, sameGuid]
  refine Function.update_eq_self_iff.mpr ?_
  rw [Function.update_of_ne (slot_other_ne storedUser.id image)]

/-- A job completes its asset when exactly one has the GUID. -/
theorem completeAsset_isOk {slot : AssetSlot} {guid : String}
    (stored : store.guidAt slot = some guid)
    (only : ∀ other, store.guidAt other = some guid → other = slot) :
    ∃ next, completeAsset guid store = .ok ((), next) := by
  obtain ⟨asset, held, rfl⟩ := Option.map_eq_some_iff.mp stored
  have one : ∀ row ∈ store.assets.filter fun row => row.guid = asset.guid, row = asset := by
    intro row member
    obtain ⟨listed, same⟩ := List.mem_filter.mp member
    obtain ⟨other, otherHeld⟩ := mem_assets.mp listed
    have otherGuid : store.guidAt other = some asset.guid := by
      rw [Store.guidAt, otherHeld, Option.map_some, of_decide_eq_true same]
    rw [only other otherGuid, held] at otherHeld
    exact (Option.some.inj otherHeld).symm
  have listed : asset ∈ store.assets.filter fun row => row.guid = asset.guid :=
    List.mem_filter.mpr ⟨mem_assets.mpr ⟨slot, held⟩, decide_eq_true rfl⟩
  unfold completeAsset
  rw [uniqueResult_eq_some.mpr ⟨listed, one⟩]
  exact ⟨_, rfl⟩

end Transactions

/-! ### Tasks -/

section Tasks

variable (pipeline : Pipeline)

/-- A job marks its asset as completed and goes on, or ends without a change. -/
theorem run_complete (guid : String) :
    (∃ store, store.guidAt = pipeline.store.guidAt ∧
      Task.run pipeline (.complete guid) =
        ({ pipeline with store }, some (.discardPrevious guid))) ∨
    (∀ next, completeAsset guid pipeline.store ≠ .ok ((), next)) ∧
      Task.run pipeline (.complete guid) = (pipeline, none) := by
  rw [Task.run]
  rcases transaction_cases (completeAsset guid) pipeline.store with
    ⟨value, store, returned, same⟩ | ⟨thrown, failed, same⟩
  · rw [same]
    exact .inl ⟨store, completeAsset_ok returned, rfl⟩
  · rw [same]
    refine .inr ⟨fun next returned => ?_, rfl⟩
    rw [failed] at returned
    cases returned

/-- A job goes on to delete what the map remembers for its asset. -/
theorem run_discardPrevious (guid : String) :
    (∃ previous, pipeline.previousAssetGuids.lookup guid = some previous ∧
      Task.run pipeline (.discardPrevious guid) =
        (pipeline, some (.deletePrevious guid previous))) ∨
    pipeline.previousAssetGuids.lookup guid = none ∧
      Task.run pipeline (.discardPrevious guid) = (pipeline, none) := by
  rw [Task.run]
  cases mapped : pipeline.previousAssetGuids.lookup guid with
  | none => exact .inr ⟨rfl, rfl⟩
  | some previous => exact .inl ⟨previous, rfl, rfl⟩

/-- A deletion clears the image and goes on, or ends without a change. -/
theorem run_clearImage (image : UserImageAsset) (storedUser : User) (guid : String) (now : Long) :
    (∃ store, mergeWithoutImage image storedUser now pipeline.store = .ok ((), store) ∧
      Task.run pipeline (.clearImage image storedUser guid now) =
        ({ pipeline with store }, some (.deleteImage guid))) ∨
    Task.run pipeline (.clearImage image storedUser guid now) = (pipeline, none) := by
  rw [Task.run]
  rcases transaction_cases (mergeWithoutImage image storedUser now) pipeline.store with
    ⟨value, store, returned, same⟩ | ⟨thrown, -, same⟩
  · rw [same]
    exact .inl ⟨store, returned, rfl⟩
  · rw [same]
    exact .inr rfl

end Tasks

/-! ### Steps -/

/-- What a step does, with what is known where it happens. -/
inductive PipelineEffect (pipeline : Pipeline) : PipelineAction → Pipeline → Prop
  | unchanged {action : PipelineAction} : PipelineEffect pipeline action pipeline
  | creates {user : UserInput} {guid userToken salt : String} {now : Long} {store : Store}
      (userId : Long) (absent : ∀ image, pipeline.store.guidAt (.image userId image) = none)
      (written : store.guidAt = Function.update
        (Function.update pipeline.store.guidAt (.image userId .avatar)
          (AssetInput.givenGuid user.avatarAsset)) (.image userId .cover)
        (AssetInput.givenGuid user.coverAsset)) :
      PipelineEffect pipeline (.createUser user guid userToken salt now) { pipeline with store }
  | uploads {action : PipelineAction} {store : Store} {guid : String} (slot : AssetSlot)
      (fresh : pipeline.isFresh guid = true)
      (written : store.guidAt = Function.update pipeline.store.guidAt slot (some guid)) :
      PipelineEffect pipeline action
        (pipeline.enqueue store guid (pipeline.store.guidAt slot))
  | imports {currentUserId : Long} {dto : StreamableGraffitiDto} {guid : String} {now : Long}
      {store : Store} (slot : AssetSlot) (fresh : pipeline.isFresh guid = true)
      (absent : pipeline.store.guidAt slot = none)
      (written : store.guidAt = Function.update pipeline.store.guidAt slot (some guid)) :
      PipelineEffect pipeline
        (.createStreamableGraffitiFromExternalResource currentUserId dto guid now)
        { pipeline with store }
  | startsDeletion {action : PipelineAction} {image : UserImageAsset} {user : User}
      {guid : String} {now : Long}
      (stored : pipeline.store.guidAt (.image user.id image) = some guid) :
      PipelineEffect pipeline action
        { pipeline with tasks := pipeline.tasks ++ [.clearImage image user guid now] }
  | runs {index : Nat} (task : Task) (chosen : pipeline.tasks[index]? = some task) :
      PipelineEffect pipeline (.runTask index)
        { (task.run pipeline).1 with
          tasks := pipeline.tasks.eraseIdx index ++ (task.run pipeline).2.toList }

section Steps

variable {pipeline next : Pipeline}

theorem addOrReplaceUserImageAsset_effect {action : PipelineAction} {guid : String}
    (fresh : pipeline.isFresh guid = true) (currentUserId : Long) (image : UserImageAsset)
    (transferred : Bool) (now : Long) : PipelineEffect pipeline action
      (addOrReplaceUserImageAsset currentUserId image transferred guid now pipeline) := by
  unfold addOrReplaceUserImageAsset
  split
  · exact .unchanged
  rcases transaction_cases (replaceUserImageAsset currentUserId image guid now) pipeline.store
    with ⟨previous, store, returned, same⟩ | ⟨thrown, -, same⟩
  · rw [same]
    obtain ⟨rfl, written⟩ := replaceUserImageAsset_ok returned
    exact .uploads _ fresh written
  · rw [same]
    exact .unchanged

theorem createStreamableGraffiti_effect {action : PipelineAction} {guid : String}
    (fresh : pipeline.isFresh guid = true) (currentUserId : Long) (dto : StreamableGraffitiDto)
    (transferred : Bool) (now : Long) : PipelineEffect pipeline action
      (createStreamableGraffiti currentUserId dto transferred guid now pipeline) := by
  unfold createStreamableGraffiti
  split
  · rcases executeInTransactionWithResult_cases (createStreamableInTransaction currentUserId dto
      (fun id => .processing id guid) now) pipeline.store with
      ⟨created, store, returned, same⟩ | ⟨thrown, -, same⟩
    · rw [same]
      obtain ⟨streamableId, absent, written⟩ :=
        createStreamableInTransaction_ok (fun _ => rfl) returned
      have effect : PipelineEffect pipeline action
          (pipeline.enqueue store guid (pipeline.store.guidAt (.streamable streamableId))) :=
        .uploads _ fresh written
      rw [absent] at effect
      exact effect
    · rw [same]
      exact .unchanged
  · exact .unchanged

theorem createStreamableGraffitiFromExternalResource_effect {guid : String}
    (fresh : pipeline.isFresh guid = true) (currentUserId : Long) (dto : StreamableGraffitiDto)
    (now : Long) : PipelineEffect pipeline
      (.createStreamableGraffitiFromExternalResource currentUserId dto guid now)
      (createStreamableGraffitiFromExternalResource currentUserId dto guid now pipeline) := by
  unfold createStreamableGraffitiFromExternalResource
  split
  · exact .unchanged
  rcases executeInTransactionWithResult_cases (createStreamableInTransaction currentUserId dto
    (fun id => .completed id guid) now) pipeline.store with
    ⟨created, store, returned, same⟩ | ⟨thrown, -, same⟩
  · rw [same]
    obtain ⟨streamableId, absent, written⟩ :=
      createStreamableInTransaction_ok (fun _ => rfl) returned
    exact .imports _ fresh absent written
  · rw [same]
    exact .unchanged

theorem editStreamableAsset_effect {action : PipelineAction} {guid : String}
    (fresh : pipeline.isFresh guid = true) (currentUserId streamableId : Long)
    (dto : StreamableGraffitiDto) (transferred : Bool) (now : Long) :
    PipelineEffect pipeline action
      (editStreamableAsset currentUserId streamableId dto transferred guid now pipeline) := by
  unfold editStreamableAsset
  split
  · rename_i store edited returned
    exact .uploads _ fresh (editStreamableGraffiti_ok returned)
  · exact .unchanged

theorem deleteImageAsset_effect {action : PipelineAction} (currentUserId : Long)
    (image : UserImageAsset) (now : Long) : PipelineEffect pipeline action
      (deleteImageAsset currentUserId image now pipeline) := by
  unfold deleteImageAsset
  split
  · exact .unchanged
  split
  · exact .unchanged
  · rename_i user found _ asset isImage
    refine .startsDeletion ?_
    obtain rfl : user.id = currentUserId := Table.id_of_find found
    rw [Store.guidAt, Store.assetAt, found, Option.bind_some, isImage]
    rfl

theorem pipelineStep_effect {environment : Environment} {action : PipelineAction}
    (taken : pipelineStep environment pipeline action = some next) :
    PipelineEffect pipeline action next := by
  cases action with
  | createUser user guid userToken salt now =>
      obtain rfl := Option.some.inj taken
      rcases createUser_guidAt environment user guid userToken salt now pipeline.store with
        same | ⟨userId, absent, written⟩
      · rw [same]
        exact .unchanged
      · exact .creates userId absent written
  | addOrReplaceUserImageAsset currentUserId image transferred guid now =>
      obtain ⟨fresh, taken⟩ := Option.ite_none_right_eq_some.mp taken
      obtain rfl := Option.some.inj taken
      exact addOrReplaceUserImageAsset_effect fresh currentUserId image transferred now
  | createStreamableGraffiti currentUserId dto transferred guid now =>
      obtain ⟨fresh, taken⟩ := Option.ite_none_right_eq_some.mp taken
      obtain rfl := Option.some.inj taken
      exact createStreamableGraffiti_effect fresh currentUserId dto transferred now
  | createStreamableGraffitiFromExternalResource currentUserId dto guid now =>
      obtain ⟨fresh, taken⟩ := Option.ite_none_right_eq_some.mp taken
      obtain rfl := Option.some.inj taken
      exact createStreamableGraffitiFromExternalResource_effect fresh currentUserId dto now
  | editStreamableGraffiti currentUserId streamableId dto transferred guid now =>
      obtain ⟨fresh, taken⟩ := Option.ite_none_right_eq_some.mp taken
      obtain rfl := Option.some.inj taken
      exact editStreamableAsset_effect fresh currentUserId streamableId dto transferred now
  | deleteImageAsset currentUserId image now =>
      obtain rfl := Option.some.inj taken
      exact deleteImageAsset_effect currentUserId image now
  | runTask index =>
      rw [pipelineStep] at taken
      split at taken
      · rename_i task chosen
        obtain rfl := Option.some.inj taken
        exact .runs task chosen
      · exact absurd taken (Option.not_mem_none _)

end Steps

end GraffiTab
