/-
This file asks whether the asset pipeline can damage an asset that is still stored.

Deletions happen later than the decisions for them and go by keys, so the invariant says
of every key that a task or the map will delete that no stored asset has it. Generated
GUIDs keep it. It is lost when a new user brings a GUID that is in use, and when a merge
inserts an asset again that was deleted in the meantime.
-/

import GraffiTab.AssetEffects
import GraffiTab.Library.Runs

namespace GraffiTab

open Tables Runs

/-! ### Stored keys -/

/-- No reference has an asset with the key. -/
def Unstored (guids : AssetSlot → Option String) (key : String) : Prop :=
  ∀ slot guid, guids slot = some guid → key ∉ imageKeys guid

/-- The keys of each asset are those of no other asset. -/
def KeysApart (guids : AssetSlot → Option String) : Prop :=
  ∀ slot guid, guids slot = some guid → ∀ key ∈ imageKeys guid,
    Unstored (Function.update guids slot none) key

/-- The rows of the assets have pairwise distinct GUIDs. -/
def DistinctGuids (store : Store) : Prop :=
  ∀ slot other guid, store.guidAt slot = some guid → store.guidAt other = some guid → slot = other

/-- The key that a task deletes with its next instruction. -/
def Task.deletes : Task → Option String
  | .deletePrevious _ previous => some previous
  | .deletePreviousThumbnail _ previous => some (previous ++ assetThumbnailSuffix)
  | .deleteImage guid => some guid
  | .deleteThumbnail guid => some (guid ++ assetThumbnailSuffix)
  | _ => none

/-- The key that a step deletes from the datastore. -/
def Pipeline.deletes (pipeline : Pipeline) : PipelineAction → Option String
  | .runTask index => pipeline.tasks[index]?.bind Task.deletes
  | _ => none

/-- GUIDs are distinct, and no step deletes an image of a stored asset. -/
structure Undamaged (pipeline : Pipeline) : Prop where
  distinct : DistinctGuids pipeline.store
  deletes : ∀ action, ∀ key ∈ pipeline.deletes action, Unstored pipeline.store.guidAt key

/-- No asset is damaged in any run whose steps meet the condition, from any pipeline without tasks
whose assets have no keys in common. -/
def DamagesNothing (environment : Environment)
    (condition : Pipeline → PipelineAction → Prop) : Prop :=
  ∀ start : Pipeline, start.tasks = [] → start.previousAssetGuids = ∅ →
    KeysApart start.store.guidAt →
    ∀ state, Reaches (pipelineStep environment) condition start state → Undamaged state

/-- A new user brings no GUID that is in use, and no merge inserts an asset again. -/
def KeepsKeysApart (pipeline : Pipeline) : PipelineAction → Prop
  | .createUser user _ _ _ _ =>
      (∀ guid ∈ AssetInput.givenGuid user.avatarAsset, pipeline.isFresh guid = true) ∧
        (∀ guid ∈ AssetInput.givenGuid user.coverAsset, pipeline.isFresh guid = true) ∧
        ∀ avatar ∈ AssetInput.givenGuid user.avatarAsset,
          ∀ cover ∈ AssetInput.givenGuid user.coverAsset,
          (imageKeys avatar).Disjoint (imageKeys cover)
  | .runTask index =>
      ∀ image user guid now, pipeline.tasks[index]? = some (.clearImage image user guid now) →
        ∀ kept ∈ user.imageAsset image.other,
          (pipeline.store.assetAt (.image user.id image.other)).map Asset.id = some kept.id
  | _ => True

/-! ### Keys that stay unstored -/

section Keys

variable {guids next : AssetSlot → Option String} {key : String}

/-- A key stays unstored when each stored GUID was stored there before or has not the key. -/
theorem Unstored.of_sources (unstored : Unstored guids key)
    (sources : ∀ slot guid, next slot = some guid →
      guids slot = some guid ∨ key ∉ imageKeys guid) : Unstored next key := by
  intro slot guid stored
  rcases sources slot guid stored with before | without
  · exact unstored slot guid before
  · exact without

theorem Unstored.shrink (unstored : Unstored guids key)
    (shrinks : ∀ slot guid, next slot = some guid → guids slot = some guid) :
    Unstored next key :=
  unstored.of_sources fun slot guid stored => .inl (shrinks slot guid stored)

theorem Unstored.update (unstored : Unstored guids key) (slot : AssetSlot) {value : Option String}
    (without : ∀ guid ∈ value, key ∉ imageKeys guid) :
    Unstored (Function.update guids slot value) key := by
  refine unstored.of_sources fun other guid stored => ?_
  by_cases here : other = slot
  · rw [here, Function.update_self] at stored
    exact .inr (without guid stored)
  · rw [Function.update_of_ne here] at stored
    exact .inl stored

/-- A GUID whose keys are unstored elsewhere can be put in a place. -/
theorem KeysApart.update (apart : KeysApart guids) (slot : AssetSlot) {value : Option String}
    (new : ∀ guid ∈ value, ∀ key ∈ imageKeys guid,
      Unstored (Function.update guids slot none) key) :
    KeysApart (Function.update guids slot value) := by
  intro place guid stored key isKey
  by_cases here : place = slot
  · subst here
    rw [Function.update_self] at stored
    rw [Function.update_idem]
    exact new guid stored key isKey
  · rw [Function.update_of_ne here] at stored
    have elsewhere := apart place guid stored key isKey
    rw [Function.update_comm (Ne.symm here)]
    refine elsewhere.update slot fun placed isPlaced shared => ?_
    refine new placed isPlaced key shared place guid ?_ isKey
    rw [Function.update_of_ne here]
    exact stored

theorem KeysApart.shrink (apart : KeysApart guids)
    (shrinks : ∀ slot guid, next slot = some guid → guids slot = some guid) :
    KeysApart next := by
  intro slot guid stored key isKey
  refine (apart slot guid (shrinks slot guid stored) key isKey).shrink
    fun other otherGuid otherStored => ?_
  by_cases here : other = slot
  · rw [here, Function.update_self] at otherStored
    exact absurd otherStored (Option.not_mem_none _)
  · rw [Function.update_of_ne here] at otherStored ⊢
    exact shrinks other otherGuid otherStored

theorem self_mem_imageKeys (guid : String) : guid ∈ imageKeys guid := List.mem_cons_self

theorem KeysApart.distinct {store : Store} (apart : KeysApart store.guidAt) :
    DistinctGuids store := by
  intro slot other guid stored otherStored
  by_contra different
  refine apart slot guid stored guid (self_mem_imageKeys guid) other guid ?_
    (self_mem_imageKeys guid)
  rw [Function.update_of_ne (Ne.symm different)]
  exact otherStored

end Keys

/-! ### GUIDs in use -/

section Use

variable {pipeline : Pipeline} {guid : String}

theorem isFresh_iff : pipeline.isFresh guid = true ↔
    ∀ used ∈ pipeline.guids, ∀ key ∈ imageKeys used, key ∉ imageKeys guid := by
  simp only [Pipeline.isFresh, List.all_eq_true, Bool.not_eq_true', List.contains_eq_mem,
    decide_eq_false_iff_not]

theorem mem_guids_of_stored {slot : AssetSlot}
    (stored : pipeline.store.guidAt slot = some guid) : guid ∈ pipeline.guids := by
  obtain ⟨asset, held, rfl⟩ := Option.map_eq_some_iff.mp stored
  refine List.mem_append_left _ (List.mem_append_left _ ?_)
  exact List.mem_map_of_mem (mem_assets.mpr ⟨slot, held⟩)

theorem mem_guids_of_previous {newGuid : String}
    (mapped : pipeline.previousAssetGuids.lookup newGuid = some guid) : guid ∈ pipeline.guids := by
  refine List.mem_append_left _ (List.mem_append_right _ ?_)
  exact List.mem_flatMap.mpr ⟨⟨newGuid, guid⟩, AList.mem_lookup_iff.mp mapped,
    List.mem_cons_of_mem _ List.mem_cons_self⟩

theorem mem_guids_of_task {task : Task} (member : task ∈ pipeline.tasks)
    (known : guid ∈ task.guids) : guid ∈ pipeline.guids :=
  List.mem_append_right _ (List.mem_flatMap.mpr ⟨task, member, known⟩)

/-- The keys of a fresh GUID are unstored. -/
theorem unstored_of_isFresh (fresh : pipeline.isFresh guid = true) {key : String}
    (isKey : key ∈ imageKeys guid) : Unstored pipeline.store.guidAt key :=
  fun _ _ stored shared =>
    isFresh_iff.mp fresh _ (mem_guids_of_stored stored) key shared isKey

end Use

/-! ### The invariant -/

/-- The keys that a task is about to delete. -/
def Task.doomedKeys : Task → List String
  | .deletePrevious _ previous => imageKeys previous
  | .deletePreviousThumbnail _ previous => [previous ++ assetThumbnailSuffix]
  | .deleteImage guid => imageKeys guid
  | .deleteThumbnail guid => [guid ++ assetThumbnailSuffix]
  | _ => []

/-- What will be deleted is stored nowhere, or only where a deletion clears it before. -/
structure Harmless (pipeline : Pipeline) : Prop where
  apart : KeysApart pipeline.store.guidAt
  previous : ∀ guid previous, pipeline.previousAssetGuids.lookup guid = some previous →
    ∀ key ∈ imageKeys previous, Unstored pipeline.store.guidAt key
  doomed : ∀ task ∈ pipeline.tasks, ∀ key ∈ task.doomedKeys, Unstored pipeline.store.guidAt key
  clears : ∀ image user guid now, .clearImage image user guid now ∈ pipeline.tasks →
    ∀ key ∈ imageKeys guid,
      Unstored (Function.update pipeline.store.guidAt (.image user.id image) none) key

section Invariant

variable {pipeline next : Pipeline}

theorem doomedKeys_subset_guids {task : Task} {key : String} (isDoomed : key ∈ task.doomedKeys) :
    ∃ guid ∈ task.guids, key ∈ imageKeys guid := by
  cases task with
  | deletePrevious guid previous =>
      exact ⟨previous, List.mem_cons_of_mem _ List.mem_cons_self, isDoomed⟩
  | deletePreviousThumbnail guid previous =>
      exact ⟨previous, List.mem_cons_of_mem _ List.mem_cons_self,
        List.mem_cons_of_mem _ isDoomed⟩
  | deleteImage guid => exact ⟨guid, List.mem_cons_self, isDoomed⟩
  | deleteThumbnail guid => exact ⟨guid, List.mem_cons_self, List.mem_cons_of_mem _ isDoomed⟩
  | saveImage _ | saveThumbnail _ | complete _ | discardPrevious _ | forgetPrevious _
  | clearImage _ _ _ _ => exact absurd isDoomed List.not_mem_nil

/-- The invariant is kept when every stored GUID was stored there before or is fresh, as long as the
keys stay apart. -/
theorem Harmless.of_sources (harmless : Harmless pipeline) {store : Store}
    (sources : ∀ slot guid, store.guidAt slot = some guid →
      pipeline.store.guidAt slot = some guid ∨ pipeline.isFresh guid = true)
    (apart : KeysApart store.guidAt) : Harmless { pipeline with store } := by
  have without {used key guid : String} (inUse : used ∈ pipeline.guids)
      (isKey : key ∈ imageKeys used) (fresh : pipeline.isFresh guid = true) :
      key ∉ imageKeys guid := isFresh_iff.mp fresh used inUse key isKey
  refine ⟨apart, fun guid previous mapped key isKey => ?_, fun task member key isDoomed => ?_,
    fun image user guid now member key isKey => ?_⟩
  · refine (harmless.previous guid previous mapped key isKey).of_sources fun slot other stored => ?_
    exact (sources slot other stored).imp_right
      (without (mem_guids_of_previous mapped) isKey)
  · obtain ⟨guid, known, isKey⟩ := doomedKeys_subset_guids isDoomed
    refine (harmless.doomed task member key isDoomed).of_sources fun slot other stored => ?_
    exact (sources slot other stored).imp_right (without (mem_guids_of_task member known) isKey)
  · refine (harmless.clears image user guid now member key isKey).of_sources
      fun slot other stored => ?_
    by_cases cleared : slot = .image user.id image
    · rw [cleared, Function.update_self] at stored
      exact absurd stored (Option.not_mem_none _)
    · rw [Function.update_of_ne cleared] at stored ⊢
      exact (sources slot other stored).imp_right
        (without (mem_guids_of_task member List.mem_cons_self) isKey)

/-- A fresh GUID can be put in a place. -/
theorem Harmless.write (harmless : Harmless pipeline) {store : Store} {slot : AssetSlot}
    {guid : String} (fresh : pipeline.isFresh guid = true)
    (written : store.guidAt = Function.update pipeline.store.guidAt slot (some guid)) :
    Harmless { pipeline with store } := by
  refine harmless.of_sources (fun other otherGuid stored => ?_) ?_
  · rw [written] at stored
    by_cases here : other = slot
    · rw [here, Function.update_self] at stored
      exact .inr (Option.some.inj stored ▸ fresh)
    · rw [Function.update_of_ne here] at stored
      exact .inl stored
  · rw [written]
    refine harmless.apart.update slot fun new isNew key isKey => ?_
    obtain rfl := Option.some.inj isNew
    exact (unstored_of_isFresh fresh isKey).update slot
      fun _ isNone => absurd isNone (Option.not_mem_none _)

/-- A new user can bring fresh GUIDs without common keys. -/
theorem Harmless.create (harmless : Harmless pipeline) {store : Store} {userId : Long}
    {avatar cover : Option String} (avatarFresh : ∀ guid ∈ avatar, pipeline.isFresh guid = true)
    (coverFresh : ∀ guid ∈ cover, pipeline.isFresh guid = true)
    (disjoint : ∀ first ∈ avatar, ∀ second ∈ cover,
      (imageKeys first).Disjoint (imageKeys second))
    (written : store.guidAt = Function.update
      (Function.update pipeline.store.guidAt (.image userId .avatar) avatar)
      (.image userId .cover) cover) :
    Harmless { pipeline with store } := by
  refine harmless.of_sources (fun slot guid stored => ?_) ?_
  · rw [written] at stored
    by_cases isCover : slot = .image userId .cover
    · rw [isCover, Function.update_self] at stored
      exact .inr (coverFresh guid stored)
    rw [Function.update_of_ne isCover] at stored
    by_cases isAvatar : slot = .image userId .avatar
    · rw [isAvatar, Function.update_self] at stored
      exact .inr (avatarFresh guid stored)
    · rw [Function.update_of_ne isAvatar] at stored
      exact .inl stored
  · have noGuid (key : String) : ∀ guid ∈ (none : Option String), key ∉ imageKeys guid :=
      fun _ isNone => absurd isNone (Option.not_mem_none _)
    rw [written]
    refine (harmless.apart.update _ fun guid isAvatar key isKey => ?_).update _
      fun guid isCover key isKey => ?_
    · exact (unstored_of_isFresh (avatarFresh guid isAvatar) isKey).update _ (noGuid key)
    · refine ((unstored_of_isFresh (coverFresh guid isCover) isKey).update _
        fun first isAvatar shared => ?_).update _ (noGuid key)
      exact disjoint first isAvatar guid isCover shared isKey

/-- An upload writes a fresh GUID, and remembers a previous one that is stored nowhere else. -/
theorem Harmless.upload (harmless : Harmless pipeline) {store : Store} {slot : AssetSlot}
    {guid : String} (fresh : pipeline.isFresh guid = true)
    (written : store.guidAt = Function.update pipeline.store.guidAt slot (some guid)) :
    Harmless (pipeline.enqueue store guid (pipeline.store.guidAt slot)) := by
  have kept := harmless.write fresh written
  refine ⟨kept.apart, fun newGuid previous mapped => ?_, fun task member => ?_,
    fun image user clearedGuid now member => ?_⟩
  · cases replaced : pipeline.store.guidAt slot with
    | none =>
        rw [replaced] at mapped
        exact kept.previous newGuid previous mapped
    | some old =>
        rw [replaced] at mapped
        by_cases isNew : newGuid = guid
        · -- The replaced GUID was stored in this place only.
          have isOld : old = previous := by
            rw [isNew] at mapped
            exact Option.some.inj ((AList.lookup_insert _).symm.trans mapped)
          subst isOld
          intro key isKey
          show Unstored store.guidAt key
          rw [written]
          refine (harmless.apart slot old replaced key isKey).of_sources
            fun other otherGuid stored => ?_
          by_cases here : other = slot
          · rw [here, Function.update_self] at stored
            rw [← Option.some.inj stored]
            exact .inr (isFresh_iff.mp fresh old (mem_guids_of_stored replaced) key isKey)
          · rw [Function.update_of_ne here] at stored ⊢
            exact .inl stored
        · exact kept.previous newGuid previous ((AList.lookup_insert_ne isNew).symm.trans mapped)
  · rcases List.mem_append.mp member with old | new
    · exact kept.doomed task old
    · rw [List.mem_singleton.mp new]
      exact List.forall_mem_nil _
  · rcases List.mem_append.mp member with old | new
    · exact kept.clears image user clearedGuid now old
    · cases List.mem_singleton.mp new

/-- What runs of tasks keep: the stored GUIDs and the map only shrink, and what remains of the
task deletes only keys that are stored nowhere. -/
theorem Harmless.run (harmless : Harmless pipeline) (ran : Pipeline) {rest : Option Task}
    {index : Nat}
    (shrinks : ∀ slot guid, ran.store.guidAt slot = some guid →
      pipeline.store.guidAt slot = some guid)
    (maps : ∀ guid previous, ran.previousAssetGuids.lookup guid = some previous →
      pipeline.previousAssetGuids.lookup guid = some previous)
    (doomed : ∀ task, rest = some task → ∀ key ∈ task.doomedKeys, Unstored ran.store.guidAt key)
    (noClear : ∀ image user guid now, rest ≠ some (.clearImage image user guid now)) :
    Harmless { ran with tasks := pipeline.tasks.eraseIdx index ++ rest.toList } := by
  have old {task : Task} (member : task ∈ pipeline.tasks.eraseIdx index) :
      task ∈ pipeline.tasks := List.mem_of_mem_eraseIdx member
  refine ⟨harmless.apart.shrink shrinks, fun guid previous mapped key isKey => ?_,
    fun task member key isDoomed => ?_, fun image user guid now member key isKey => ?_⟩
  · exact (harmless.previous guid previous (maps guid previous mapped) key isKey).shrink shrinks
  · rcases List.mem_append.mp member with others | remains
    · exact (harmless.doomed task (old others) key isDoomed).shrink shrinks
    · exact doomed task (Option.mem_toList.mp remains) key isDoomed
  · rcases List.mem_append.mp member with others | remains
    · refine (harmless.clears image user guid now (old others) key isKey).shrink
        fun slot other stored => ?_
      by_cases cleared : slot = .image user.id image
      · rw [cleared, Function.update_self] at stored
        exact absurd stored (Option.not_mem_none _)
      · rw [Function.update_of_ne cleared] at stored ⊢
        exact shrinks slot other stored
    · exact absurd (Option.mem_toList.mp remains) (noClear image user guid now)

/-- A task goes on without a change of references and the map. -/
theorem Harmless.advance (harmless : Harmless pipeline) (ran : Pipeline) {following : Task}
    {index : Nat} (sameGuids : ran.store.guidAt = pipeline.store.guidAt)
    (sameMap : ran.previousAssetGuids = pipeline.previousAssetGuids)
    (doomed : ∀ key ∈ following.doomedKeys, Unstored pipeline.store.guidAt key)
    (noClear : ∀ image user guid now, following ≠ .clearImage image user guid now) :
    Harmless { ran with
      tasks := pipeline.tasks.eraseIdx index ++ (some following).toList } := by
  refine harmless.run ran (fun slot guid stored => ?_) (fun guid previous mapped => ?_)
    (fun task isRest key isDoomed => ?_) fun image user guid now isClear =>
      noClear image user guid now (Option.some.inj isClear)
  · rw [← sameGuids]
    exact stored
  · rw [← sameMap]
    exact mapped
  · rw [sameGuids]
    exact doomed key (Option.some.inj isRest ▸ isDoomed)

/-- A task ends without a change of references, and the map only shrinks. -/
theorem Harmless.finish (harmless : Harmless pipeline) (ran : Pipeline) {index : Nat}
    (sameStore : ran.store = pipeline.store)
    (maps : ∀ guid previous, ran.previousAssetGuids.lookup guid = some previous →
      pipeline.previousAssetGuids.lookup guid = some previous) :
    Harmless { ran with
      tasks := pipeline.tasks.eraseIdx index ++ (none : Option Task).toList } := by
  refine harmless.run ran (fun slot guid stored => ?_) maps
    (fun _ isRest => absurd isRest (Option.not_mem_none _))
    fun _ _ _ _ isRest => absurd isRest (Option.not_mem_none _)
  rw [← sameStore]
  exact stored

/-- A deletion that finds the row of the other image leaves its keys stored nowhere. -/
theorem Harmless.clear (harmless : Harmless pipeline) {image : UserImageAsset} {user : User}
    {guid : String} {now : Long} {store : Store} {index : Nat}
    (member : .clearImage image user guid now ∈ pipeline.tasks)
    (clears : ∀ slot other, store.guidAt slot = some other →
      slot ≠ .image user.id image ∧ pipeline.store.guidAt slot = some other) :
    Harmless { pipeline with
      store
      tasks := pipeline.tasks.eraseIdx index ++ (some (Task.deleteImage guid)).toList } := by
  refine harmless.run { pipeline with store }
    (fun slot other stored => (clears slot other stored).2) (fun _ _ mapped => mapped)
    (fun task isRest key isDoomed => ?_) fun _ _ _ _ isRest => ?_
  · -- What was cleared was the only place of the keys.
    rw [← Option.some.inj isRest] at isDoomed
    refine (harmless.clears image user guid now member key isDoomed).shrink
      fun slot other stored => ?_
    obtain ⟨notCleared, before⟩ := clears slot other stored
    rw [Function.update_of_ne notCleared]
    exact before
  · cases Option.some.inj isRest

/-- Running a task keeps the invariant. -/
theorem Harmless.runTask (harmless : Harmless pipeline) {index : Nat} {task : Task}
    (chosen : pipeline.tasks[index]? = some task)
    (present : ∀ image user guid now, task = .clearImage image user guid now →
      ∀ kept ∈ user.imageAsset image.other,
        (pipeline.store.assetAt (.image user.id image.other)).map Asset.id = some kept.id) :
    Harmless { (task.run pipeline).1 with
      tasks := pipeline.tasks.eraseIdx index ++ (task.run pipeline).2.toList } := by
  have member : task ∈ pipeline.tasks := List.mem_of_getElem? chosen
  have doomed := harmless.doomed task member
  cases task with
  | saveImage guid | saveThumbnail guid =>
      exact harmless.advance _ rfl rfl (List.forall_mem_nil _) fun _ _ _ _ isClear => by
        cases isClear
  | complete guid =>
      rcases run_complete pipeline guid with ⟨store, sameGuids, ran⟩ | ⟨-, ran⟩
      · rw [ran]
        exact harmless.advance _ sameGuids rfl (List.forall_mem_nil _) fun _ _ _ _ isClear => by
          cases isClear
      · rw [ran]
        exact harmless.finish _ rfl fun _ _ mapped => mapped
  | discardPrevious guid =>
      rcases run_discardPrevious pipeline guid with ⟨previous, mapped, ran⟩ | ⟨-, ran⟩
      · rw [ran]
        exact harmless.advance _ rfl rfl (harmless.previous guid previous mapped)
          fun _ _ _ _ isClear => by cases isClear
      · rw [ran]
        exact harmless.finish _ rfl fun _ _ mapped => mapped
  | deletePrevious guid previous | deleteImage guid =>
      refine harmless.advance _ rfl rfl (fun key isDoomed => ?_) fun _ _ _ _ isClear => by
        cases isClear
      exact doomed key (List.mem_cons_of_mem _ isDoomed)
  | deletePreviousThumbnail guid previous =>
      exact harmless.advance _ rfl rfl (List.forall_mem_nil _) fun _ _ _ _ isClear => by
        cases isClear
  | forgetPrevious guid =>
      refine harmless.finish _ rfl fun newGuid previous mapped => ?_
      by_cases forgotten : newGuid = guid
      · subst forgotten
        exact absurd ((AList.lookup_erase _ _).symm.trans mapped) (Option.not_mem_none _)
      · exact (AList.lookup_erase_ne forgotten).symm.trans mapped
  | clearImage image user guid now =>
      rcases run_clearImage pipeline image user guid now with ⟨store, returned, ran⟩ | ran
      · rw [ran]
        exact harmless.clear member
          (mergeWithoutImage_clears returned (present image user guid now rfl))
      · rw [ran]
        exact harmless.finish _ rfl fun _ _ mapped => mapped
  | deleteThumbnail guid => exact harmless.finish _ rfl fun _ _ mapped => mapped

/-- A deletion that starts has to clear what the user shows now. -/
theorem Harmless.startDeletion (harmless : Harmless pipeline) {image : UserImageAsset}
    {user : User} {guid : String} (now : Long)
    (stored : pipeline.store.guidAt (.image user.id image) = some guid) :
    Harmless { pipeline with
      tasks := pipeline.tasks ++ [.clearImage image user guid now] } := by
  refine ⟨harmless.apart, harmless.previous, fun task member => ?_,
    fun other otherUser otherGuid later member => ?_⟩
  · rcases List.mem_append.mp member with old | new
    · exact harmless.doomed task old
    · rw [List.mem_singleton.mp new]
      exact List.forall_mem_nil _
  · rcases List.mem_append.mp member with old | new
    · exact harmless.clears other otherUser otherGuid later old
    · obtain ⟨rfl, rfl, rfl, rfl⟩ := Task.clearImage.inj (List.mem_singleton.mp new)
      exact harmless.apart _ otherGuid stored

theorem harmless_step {environment : Environment} {action : PipelineAction}
    (harmless : Harmless pipeline) (permitted : KeepsKeysApart pipeline action)
    (taken : pipelineStep environment pipeline action = some next) : Harmless next := by
  cases pipelineStep_effect taken with
  | unchanged => exact harmless
  | creates userId absent written =>
      obtain ⟨avatarFresh, coverFresh, disjoint⟩ := permitted
      exact harmless.create avatarFresh coverFresh disjoint written
  | uploads slot fresh written => exact harmless.upload fresh written
  | imports slot fresh absent written => exact harmless.write fresh written
  | startsDeletion stored => exact harmless.startDeletion _ stored
  | runs task chosen =>
      refine harmless.runTask chosen fun image user guid now isClear => ?_
      exact permitted image user guid now (isClear ▸ chosen)

end Invariant

/-! ### Deletions -/

section Deletions

variable {pipeline next : Pipeline}

theorem mem_doomedKeys_of_deletes {task : Task} {key : String}
    (deletes : task.deletes = some key) : key ∈ task.doomedKeys := by
  cases task with
  | deletePrevious _ previous => exact Option.some.inj deletes ▸ List.mem_cons_self
  | deletePreviousThumbnail _ previous => exact Option.some.inj deletes ▸ List.mem_cons_self
  | deleteImage guid => exact Option.some.inj deletes ▸ List.mem_cons_self
  | deleteThumbnail guid => exact Option.some.inj deletes ▸ List.mem_cons_self
  | saveImage _ | saveThumbnail _ | complete _ | discardPrevious _ | forgetPrevious _
  | clearImage _ _ _ _ => exact absurd deletes (Option.not_mem_none _)

theorem Harmless.undamaged (harmless : Harmless pipeline) : Undamaged pipeline := by
  refine ⟨harmless.apart.distinct, fun action key isDeleted => ?_⟩
  cases action with
  | runTask index =>
      obtain ⟨task, chosen, deletes⟩ := Option.bind_eq_some_iff.mp isDeleted
      exact harmless.doomed task (List.mem_of_getElem? chosen) key
        (mem_doomedKeys_of_deletes deletes)
  | createUser _ _ _ _ _ | addOrReplaceUserImageAsset _ _ _ _ _
  | createStreamableGraffiti _ _ _ _ _ | createStreamableGraffitiFromExternalResource _ _ _ _
  | editStreamableGraffiti _ _ _ _ _ _ | deleteImageAsset _ _ _ =>
      exact absurd isDeleted (Option.not_mem_none _)

theorem mem_datastore_run (task : Task) {key : String} (present : key ∈ pipeline.datastore) :
    key ∈ (task.run pipeline).1.datastore ↔ task.deletes ≠ some key := by
  have keeps (remaining : Finset String) (kept : pipeline.datastore ⊆ remaining) :
      key ∈ remaining ↔ (none : Option String) ≠ some key :=
    iff_of_true (kept present) (Option.some_ne_none key).symm
  have erases (deleted : String) :
      key ∈ pipeline.datastore.erase deleted ↔ some deleted ≠ some key := by
    rw [Finset.mem_erase, Ne, Ne, Option.some.injEq, eq_comm]
    exact and_iff_left present
  cases task with
  | saveImage guid => exact keeps _ (Finset.subset_insert _ _)
  | saveThumbnail guid => exact keeps _ (Finset.subset_insert _ _)
  | complete guid =>
      rcases run_complete pipeline guid with ⟨store, -, ran⟩ | ⟨-, ran⟩
      all_goals
        rw [ran]
        exact keeps _ (Finset.Subset.refl _)
  | discardPrevious guid =>
      rcases run_discardPrevious pipeline guid with ⟨previous, -, ran⟩ | ⟨-, ran⟩
      all_goals
        rw [ran]
        exact keeps _ (Finset.Subset.refl _)
  | deletePrevious _ previous => exact erases _
  | deletePreviousThumbnail _ previous => exact erases _
  | forgetPrevious guid => exact keeps _ (Finset.Subset.refl _)
  | clearImage image user guid now =>
      rcases run_clearImage pipeline image user guid now with ⟨store, -, ran⟩ | ran
      all_goals
        rw [ran]
        exact keeps _ (Finset.Subset.refl _)
  | deleteImage guid => exact erases _
  | deleteThumbnail guid => exact erases _

/-- A step takes from the datastore the key that it deletes, and nothing else. -/
theorem mem_datastore_step {environment : Environment} {action : PipelineAction} {key : String}
    (taken : pipelineStep environment pipeline action = some next)
    (present : key ∈ pipeline.datastore) :
    key ∈ next.datastore ↔ pipeline.deletes action ≠ some key := by
  cases action with
  | runTask index =>
      rw [pipelineStep] at taken
      split at taken
      · rename_i task chosen
        obtain rfl := Option.some.inj taken
        rw [Pipeline.deletes, chosen]
        exact mem_datastore_run task present
      · exact absurd taken (Option.not_mem_none _)
  | createUser _ _ _ _ _ | addOrReplaceUserImageAsset _ _ _ _ _
  | createStreamableGraffiti _ _ _ _ _ | createStreamableGraffitiFromExternalResource _ _ _ _
  | editStreamableGraffiti _ _ _ _ _ _ | deleteImageAsset _ _ _ =>
      have same : next.datastore = pipeline.datastore := by
        cases pipelineStep_effect taken <;> rfl
      rw [same]
      exact iff_of_true present (Option.some_ne_none key).symm

end Deletions

/-- Nothing is damaged in any run in which no new user brings a GUID that is in use and no merge
inserts an asset again. -/
theorem damagesNothing_of_keepsKeysApart (environment : Environment) :
    DamagesNothing environment KeepsKeysApart := by
  intro start noTasks noPrevious apart state reached
  have harmless : Harmless state := by
    refine reached.invariant Harmless ⟨apart, ?_, ?_, ?_⟩
      fun _ _ _ holds permitted taken => harmless_step holds permitted taken
    · rw [noPrevious]
      exact fun _ _ mapped => absurd mapped (Option.not_mem_none _)
    · rw [noTasks]
      exact List.forall_mem_nil _
    · rw [noTasks]
      exact fun _ _ _ _ member => absurd member List.not_mem_nil
  exact harmless.undamaged

/-! ### A GUID that is in use -/

/-- A request for bob with the GUID of the avatar of alice. -/
def requestWithAvatar (guid : String) : UserInput :=
  { plainInput "bob" with avatarAsset := some ⟨some guid, some .image, some .completed⟩ }

/-- The first user uploads an avatar, and the second one is created with its GUID. -/
def sharedAvatar : List PipelineAction :=
  [.createUser (plainInput "alice") "A" "T" "" 0,
    .addOrReplaceUserImageAsset 1 .avatar true "G" 0,
    .createUser (requestWithAvatar "G") "B" "U" "" 0]

def emptyPipeline : Pipeline := ⟨Store.empty, ∅, ∅, []⟩

def afterSharedAvatar : Pipeline :=
  (run (pipelineStep (plainEnvironment .entry)) emptyPipeline sharedAvatar).getD emptyPipeline

/-- Two assets with one GUID are stored. -/
theorem not_damagesNothing : ¬ DamagesNothing (plainEnvironment .entry) unrestricted := by
  intro always
  have executed : run (pipelineStep (plainEnvironment .entry)) emptyPipeline sharedAvatar =
      some afterSharedAvatar := by
    rfl
  have noGuid : KeysApart emptyPipeline.store.guidAt := by
    intro slot guid stored
    cases slot <;> exact absurd stored (Option.not_mem_none _)
  have undamaged := always emptyPipeline rfl rfl noGuid afterSharedAvatar
    (reaches_of_run_unrestricted sharedAvatar executed)
  have same := undamaged.distinct (.image 1 .avatar) (.image 2 .avatar) "G" (by decide) (by decide)
  exact absurd same (by decide)

end GraffiTab
