/-
This file asks whether the asset pipeline can leave images behind.

When no task is left, the datastore should have the images of the stored assets and no
others, and the map should be empty. Until then every key is accounted for: an image that
should go by the task that will delete it, and an image that is missing by the task that
will save it. The accounts fail when a job saves an image whose deletion has been before,
when it ends at its completion with a predecessor to delete, and when a deletion clears an
image that it has not read.
-/

import Mathlib.Data.List.Perm.Basic
import GraffiTab.AssetDamage

namespace GraffiTab

open Tables Runs

/-! ### Accounted keys -/

/-- Some reference has an asset with the key. -/
def StoredKey (guids : AssetSlot → Option String) (key : String) : Prop :=
  ∃ slot guid, guids slot = some guid ∧ key ∈ imageKeys guid

/-- The datastore has the images of the stored assets, and the map is empty. -/
structure Unleaked (pipeline : Pipeline) : Prop where
  datastore : ∀ key, key ∈ pipeline.datastore ↔ StoredKey pipeline.store.guidAt key
  previous : pipeline.previousAssetGuids = ∅

/-- Assets come from uploads, and not from the request of a new user or an external source. -/
def PipelineAction.isOnUploads : PipelineAction → Bool
  | .createUser _ _ _ _ _ => false
  | .createStreamableGraffitiFromExternalResource _ _ _ _ => false
  | _ => true

/-- Nothing is left behind at the end of any run whose steps meet the condition, from any
pipeline without tasks that has left nothing behind. -/
def LeaksNothing (environment : Environment)
    (condition : Pipeline → PipelineAction → Prop) : Prop :=
  ∀ start : Pipeline, start.tasks = [] → Unleaked start → KeysApart start.store.guidAt →
    ∀ state, Reaches (pipelineStep environment)
      (fun pipeline action => action.isOnUploads = true ∧ condition pipeline action) start state →
    state.tasks = [] → Unleaked state

/-- The asset for whose job the task is. -/
def Task.job : Task → Option String
  | .saveImage guid => some guid
  | .saveThumbnail guid => some guid
  | .complete guid => some guid
  | .discardPrevious guid => some guid
  | .deletePrevious guid _ => some guid
  | .deletePreviousThumbnail guid _ => some guid
  | .forgetPrevious guid => some guid
  | .clearImage _ _ _ _ => none
  | .deleteImage _ => none
  | .deleteThumbnail _ => none

/-- The keys that a task will save. -/
def Task.savedKeys : Task → List String
  | .saveImage guid => imageKeys guid
  | .saveThumbnail guid => [guid ++ assetThumbnailSuffix]
  | _ => []

/-- The keys that a task will delete, as the map is now. -/
def Task.awaitedKeys (previousAssetGuids : Metadata) : Task → List String
  | .saveImage guid => (previousAssetGuids.lookup guid).toList.flatMap imageKeys
  | .saveThumbnail guid => (previousAssetGuids.lookup guid).toList.flatMap imageKeys
  | .complete guid => (previousAssetGuids.lookup guid).toList.flatMap imageKeys
  | .discardPrevious guid => (previousAssetGuids.lookup guid).toList.flatMap imageKeys
  | task => task.doomedKeys

/-- Some task will delete the key. -/
def Pipeline.Awaits (pipeline : Pipeline) (key : String) : Prop :=
  ∃ task ∈ pipeline.tasks, key ∈ task.awaitedKeys pipeline.previousAssetGuids

/-- Some reference has the asset. -/
def Pipeline.Stores (pipeline : Pipeline) (guid : String) : Prop :=
  ∃ slot, pipeline.store.guidAt slot = some guid

/-- A job saves an image only as long as it is the image of a stored asset or is still to be
deleted, and completes an asset that is stored or has no predecessor. A deletion finds the two
images of the user as it has read them. -/
def Task.LeavesNothing (pipeline : Pipeline) : Task → Prop
  | .saveImage guid => pipeline.Stores guid ∨ pipeline.Awaits guid
  | .saveThumbnail guid => pipeline.Stores guid ∨ pipeline.Awaits (guid ++ assetThumbnailSuffix)
  | .complete guid => pipeline.Stores guid ∨ pipeline.previousAssetGuids.lookup guid = none
  | .clearImage image user guid _ =>
      (∀ shown ∈ pipeline.store.guidAt (.image user.id image), shown = guid) ∧
        (pipeline.store.assetAt (.image user.id image.other)).map Asset.id =
          (user.imageAsset image.other).map Asset.id
  | _ => True

/-- The task that goes on leaves nothing behind. -/
def LeavesNothing (pipeline : Pipeline) : PipelineAction → Prop
  | .runTask index => ∀ task, pipeline.tasks[index]? = some task → task.LeavesNothing pipeline
  | _ => True

/-! ### The invariant -/

/-- Every key in the datastore is stored or will be deleted, every stored key is there or will be
saved, and what the map remembers has a job. -/
structure Accounted (pipeline : Pipeline) : Prop where
  harmless : Harmless pipeline
  jobs : (pipeline.tasks.filterMap Task.job).Nodup
  pending : ∀ guid previous, pipeline.previousAssetGuids.lookup guid = some previous →
    ∃ task ∈ pipeline.tasks, task.job = some guid
  kept : ∀ key ∈ pipeline.datastore,
    StoredKey pipeline.store.guidAt key ∨ pipeline.Awaits key
  present : ∀ key, StoredKey pipeline.store.guidAt key →
    key ∈ pipeline.datastore ∨ ∃ task ∈ pipeline.tasks, key ∈ task.savedKeys

/-- What running a task does to the accounts. -/
structure Progress (pipeline : Pipeline) (task : Task) (ran : Pipeline) (rest : Option Task) :
    Prop where
  job : ∀ next, rest = some next → next.job = task.job
  others : ∀ guid, task.job ≠ some guid →
    ran.previousAssetGuids.lookup guid = pipeline.previousAssetGuids.lookup guid
  ends : ∀ guid, task.job = some guid → rest = none → ran.previousAssetGuids.lookup guid = none
  shrinks : ∀ slot guid, ran.store.guidAt slot = some guid →
    pipeline.store.guidAt slot = some guid
  saves : ∀ key ∈ task.savedKeys,
    key ∈ ran.datastore ∨ ∃ next, rest = some next ∧ key ∈ next.savedKeys
  keeps : ∀ key ∈ pipeline.datastore, StoredKey ran.store.guidAt key → key ∈ ran.datastore
  adds : ∀ key ∈ ran.datastore, key ∈ pipeline.datastore ∨
    StoredKey pipeline.store.guidAt key ∨ pipeline.Awaits key
  clears : ∀ key, StoredKey pipeline.store.guidAt key →
    StoredKey ran.store.guidAt key ∨
      ∃ next, rest = some next ∧ key ∈ next.awaitedKeys ran.previousAssetGuids
  awaits : ∀ key ∈ ran.datastore, key ∈ task.awaitedKeys pipeline.previousAssetGuids →
    ∃ next, rest = some next ∧ key ∈ next.awaitedKeys ran.previousAssetGuids

section Invariant

variable {pipeline next ran : Pipeline} {index : Nat} {task : Task} {rest : Option Task}

theorem StoredKey.shrink {guids remaining : AssetSlot → Option String} {key : String}
    (stored : StoredKey remaining key)
    (shrinks : ∀ slot guid, remaining slot = some guid → guids slot = some guid) :
    StoredKey guids key := by
  obtain ⟨slot, guid, held, isKey⟩ := stored
  exact ⟨slot, guid, shrinks slot guid held, isKey⟩

theorem Unstored.ne_of_stored {guids : AssetSlot → Option String} {key stored : String}
    (unstored : Unstored guids key) (isStored : StoredKey guids stored) : stored ≠ key := by
  rintro rfl
  obtain ⟨slot, guid, held, isKey⟩ := isStored
  exact unstored slot guid held isKey

theorem Pipeline.Stores.storedKey {guid key : String} (stores : pipeline.Stores guid)
    (isKey : key ∈ imageKeys guid) : StoredKey pipeline.store.guidAt key := by
  obtain ⟨slot, held⟩ := stores
  exact ⟨slot, guid, held, isKey⟩

/-- What a job will delete depends on what the map remembers for its asset. -/
theorem awaitedKeys_congr {task : Task} {before after : Metadata}
    (same : ∀ guid, task.job = some guid → after.lookup guid = before.lookup guid) :
    task.awaitedKeys after = task.awaitedKeys before := by
  cases task with
  | saveImage guid | saveThumbnail guid | complete guid | discardPrevious guid =>
      exact congrArg (fun previous => previous.toList.flatMap imageKeys) (same guid rfl)
  | deletePrevious _ _ | deletePreviousThumbnail _ _ | forgetPrevious _ | clearImage _ _ _ _
  | deleteImage _ | deleteThumbnail _ => rfl

theorem mem_guids_of_job {task : Task} {guid : String} (isJob : task.job = some guid) :
    guid ∈ task.guids := by
  cases task with
  | saveImage _ | saveThumbnail _ | complete _ | discardPrevious _ | deletePrevious _ _
  | deletePreviousThumbnail _ _ | forgetPrevious _ =>
      rw [← Option.some.inj isJob]
      exact List.mem_cons_self
  | clearImage _ _ _ _ | deleteImage _ | deleteThumbnail _ =>
      exact absurd isJob (Option.not_mem_none _)

/-- Without tasks, what is accounted for is not leaked. -/
theorem Accounted.unleaked (accounted : Accounted pipeline) (noTasks : pipeline.tasks = []) :
    Unleaked pipeline := by
  refine ⟨fun key => ⟨fun held => ?_, fun stored => ?_⟩, ?_⟩
  · rcases accounted.kept key held with stored | ⟨task, member, -⟩
    · exact stored
    · rw [noTasks] at member
      exact absurd member List.not_mem_nil
  · rcases accounted.present key stored with held | ⟨task, member, -⟩
    · exact held
    · rw [noTasks] at member
      exact absurd member List.not_mem_nil
  · refine AList.ext (List.eq_nil_iff_forall_not_mem.mpr fun entry member => ?_)
    obtain ⟨task, pending, -⟩ :=
      accounted.pending entry.1 entry.2 (AList.mem_lookup_iff.mpr member)
    rw [noTasks] at pending
    exact absurd pending List.not_mem_nil

theorem perm_chosen (chosen : pipeline.tasks[index]? = some task) :
    (task :: pipeline.tasks.eraseIdx index).Perm pipeline.tasks := by
  obtain ⟨bound, isTask⟩ := List.getElem?_eq_some_iff.mp chosen
  exact isTask ▸ List.getElem_cons_eraseIdx_perm bound

/-- Other tasks are not for the same job. -/
theorem Accounted.job_ne (accounted : Accounted pipeline) {other : Task}
    (chosen : pipeline.tasks[index]? = some task)
    (member : other ∈ pipeline.tasks.eraseIdx index) {guid : String}
    (isJob : other.job = some guid) : task.job ≠ some guid := by
  intro same
  have distinct : ((task :: pipeline.tasks.eraseIdx index).filterMap Task.job).Nodup :=
    ((perm_chosen chosen).filterMap Task.job).nodup_iff.mpr accounted.jobs
  rw [List.filterMap_cons_some same] at distinct
  exact (List.nodup_cons.mp distinct).1 (List.mem_filterMap.mpr ⟨other, member, isJob⟩)

/-- Jobs stay distinct when what remains of a task is for the same job. -/
theorem Accounted.jobs_run (accounted : Accounted pipeline)
    (chosen : pipeline.tasks[index]? = some task)
    (job : ∀ next, rest = some next → next.job = task.job) :
    ((pipeline.tasks.eraseIdx index ++ rest.toList).filterMap Task.job).Nodup := by
  have distinct : ((task :: pipeline.tasks.eraseIdx index).filterMap Task.job).Nodup :=
    ((perm_chosen chosen).filterMap Task.job).nodup_iff.mpr accounted.jobs
  cases rest with
  | none =>
      refine distinct.sublist (List.Sublist.filterMap _ ?_)
      rw [Option.toList_none, List.append_nil]
      exact List.sublist_cons_self _ _
  | some next =>
      have sameJobs : (next :: pipeline.tasks.eraseIdx index).filterMap Task.job =
          (task :: pipeline.tasks.eraseIdx index).filterMap Task.job := by
        rw [List.filterMap_cons, List.filterMap_cons, job next rfl]
      refine ((List.perm_append_singleton next _).filterMap Task.job).nodup_iff.mpr ?_
      rw [sameJobs]
      exact distinct

/-- A key that was to be deleted is deleted or still to be deleted. -/
theorem Progress.awaited (progress : Progress pipeline task ran rest)
    (accounted : Accounted pipeline) (chosen : pipeline.tasks[index]? = some task) {key : String}
    (held : key ∈ ran.datastore) (awaits : pipeline.Awaits key) :
    Pipeline.Awaits { ran with tasks := pipeline.tasks.eraseIdx index ++ rest.toList } key := by
  obtain ⟨other, member, isAwaited⟩ := awaits
  rcases List.mem_cons.mp ((perm_chosen chosen).mem_iff.mpr member) with rfl | others
  · obtain ⟨next, isRest, still⟩ := progress.awaits key held isAwaited
    exact ⟨next, List.mem_append_right _ (Option.mem_toList.mpr isRest), still⟩
  · refine ⟨other, List.mem_append_left _ others, ?_⟩
    rw [awaitedKeys_congr fun guid isJob =>
      progress.others guid (accounted.job_ne chosen others isJob)]
    exact isAwaited

/-- The accounts are kept by a task that makes progress. -/
theorem Accounted.run (accounted : Accounted pipeline)
    (chosen : pipeline.tasks[index]? = some task) (progress : Progress pipeline task ran rest)
    (harmless : Harmless { ran with tasks := pipeline.tasks.eraseIdx index ++ rest.toList }) :
    Accounted { ran with tasks := pipeline.tasks.eraseIdx index ++ rest.toList } := by
  have cases {other : Task} (member : other ∈ pipeline.tasks) :
      other = task ∨ other ∈ pipeline.tasks.eraseIdx index :=
    List.mem_cons.mp ((perm_chosen chosen).mem_iff.mpr member)
  have old {other : Task} (member : other ∈ pipeline.tasks.eraseIdx index) :
      other ∈ pipeline.tasks.eraseIdx index ++ rest.toList := List.mem_append_left _ member
  have new {next : Task} (isRest : rest = some next) :
      next ∈ pipeline.tasks.eraseIdx index ++ rest.toList :=
    List.mem_append_right _ (Option.mem_toList.mpr isRest)
  refine ⟨harmless, accounted.jobs_run chosen progress.job, fun guid previous mapped => ?_,
    fun key held => ?_, fun key stored => ?_⟩
  · by_cases own : task.job = some guid
    · cases remains : rest with
      | none => exact absurd ((progress.ends guid own remains).symm.trans mapped) nofun
      | some next =>
          rw [← remains]
          exact ⟨next, new remains, (progress.job next remains).trans own⟩
    · have before := (progress.others guid own).symm.trans mapped
      obtain ⟨other, member, isJob⟩ := accounted.pending guid previous before
      rcases cases member with rfl | others
      · exact absurd isJob own
      · exact ⟨other, old others, isJob⟩
  · rcases (progress.adds key held).elim (accounted.kept key) id with stored | awaits
    · refine (progress.clears key stored).imp_right ?_
      rintro ⟨next, isRest, still⟩
      exact ⟨next, new isRest, still⟩
    · exact .inr (progress.awaited accounted chosen held awaits)
  · rcases accounted.present key (stored.shrink progress.shrinks) with held |
      ⟨other, member, isSaved⟩
    · exact .inl (progress.keeps key held stored)
    · rcases cases member with rfl | others
      · refine (progress.saves key isSaved).imp_right ?_
        rintro ⟨next, isRest, still⟩
        exact ⟨next, new isRest, still⟩
      · exact .inr ⟨other, old others, isSaved⟩

/-- Progress of a task that changes neither a reference nor the map. -/
theorem Progress.of_same
    (sameGuids : ran.store.guidAt = pipeline.store.guidAt)
    (sameMap : ran.previousAssetGuids = pipeline.previousAssetGuids)
    (job : ∀ next, rest = some next → next.job = task.job)
    (ends : ∀ guid, task.job = some guid → rest = none →
      pipeline.previousAssetGuids.lookup guid = none)
    (saves : ∀ key ∈ task.savedKeys,
      key ∈ ran.datastore ∨ ∃ next, rest = some next ∧ key ∈ next.savedKeys)
    (keeps : ∀ key ∈ pipeline.datastore, StoredKey pipeline.store.guidAt key →
      key ∈ ran.datastore)
    (adds : ∀ key ∈ ran.datastore, key ∈ pipeline.datastore ∨
      StoredKey pipeline.store.guidAt key ∨ pipeline.Awaits key)
    (awaits : ∀ key ∈ ran.datastore, key ∈ task.awaitedKeys pipeline.previousAssetGuids →
      ∃ next, rest = some next ∧ key ∈ next.awaitedKeys pipeline.previousAssetGuids) :
    Progress pipeline task ran rest := by
  refine ⟨job, fun guid _ => by rw [sameMap], ?_, fun slot guid held => ?_, saves, ?_, adds,
    fun key stored => .inl ?_, ?_⟩
  · rw [sameMap]
    exact ends
  · rw [← sameGuids]
    exact held
  · rw [sameGuids]
    exact keeps
  · rw [sameGuids]
    exact stored
  · rw [sameMap]
    exact awaits

/-- A job that saves an image. -/
theorem Progress.save {next : Task} {saved : String} (job : next.job = task.job)
    (awaits : task.awaitedKeys pipeline.previousAssetGuids =
      next.awaitedKeys pipeline.previousAssetGuids)
    (saves : ∀ key ∈ task.savedKeys, key = saved ∨ key ∈ next.savedKeys)
    (accounted : StoredKey pipeline.store.guidAt saved ∨ pipeline.Awaits saved) :
    Progress pipeline task { pipeline with datastore := insert saved pipeline.datastore }
      (some next) := by
  refine .of_same rfl rfl (fun _ isRest => Option.some.inj isRest ▸ job)
    (fun _ _ isRest => absurd isRest (Option.some_ne_none next)) (fun key isSaved => ?_)
    (fun key held _ => Finset.mem_insert_of_mem held) (fun key held => ?_)
    fun key _ isAwaited => ⟨next, rfl, awaits ▸ isAwaited⟩
  · rcases saves key isSaved with rfl | later
    · exact .inl (Finset.mem_insert_self _ _)
    · exact .inr ⟨next, rfl, later⟩
  · rcases Finset.mem_insert.mp held with rfl | before
    · exact .inr accounted
    · exact .inl before

/-- A task that deletes a key which is not stored. -/
theorem Progress.delete {deleted : String}
    (unstored : Unstored pipeline.store.guidAt deleted)
    (job : ∀ next, rest = some next → next.job = task.job)
    (ends : ∀ guid, task.job = some guid → rest ≠ none) (saves : task.savedKeys = [])
    (awaits : ∀ key ∈ task.awaitedKeys pipeline.previousAssetGuids, key = deleted ∨
      ∃ next, rest = some next ∧ key ∈ next.awaitedKeys pipeline.previousAssetGuids) :
    Progress pipeline task { pipeline with datastore := pipeline.datastore.erase deleted }
      rest := by
  refine .of_same rfl rfl job (fun guid isJob isRest => absurd isRest (ends guid isJob))
    (fun key isSaved => ?_)
    (fun key held stored => Finset.mem_erase.mpr ⟨unstored.ne_of_stored stored, held⟩)
    (fun key held => .inl (Finset.mem_of_mem_erase held)) fun key held isAwaited => ?_
  · rw [saves] at isSaved
    exact absurd isSaved List.not_mem_nil
  · exact (awaits key isAwaited).resolve_left (Finset.ne_of_mem_erase held)

/-- A task that ends without a change. -/
theorem Progress.stop (saves : task.savedKeys = [])
    (ends : ∀ guid, task.job = some guid → pipeline.previousAssetGuids.lookup guid = none)
    (awaits : task.awaitedKeys pipeline.previousAssetGuids = []) :
    Progress pipeline task pipeline none := by
  refine .of_same rfl rfl (fun _ isRest => absurd isRest.symm (Option.some_ne_none _))
    (fun guid isJob _ => ends guid isJob) (fun key isSaved => ?_) (fun _ held _ => held)
    (fun _ held => .inl held) fun key _ isAwaited => ?_
  · rw [saves] at isSaved
    exact absurd isSaved List.not_mem_nil
  · rw [awaits] at isAwaited
    exact absurd isAwaited List.not_mem_nil

/-- A task that goes on without a change of references, keys and the map. -/
theorem Progress.advance {next : Task} {store : Store}
    (sameGuids : store.guidAt = pipeline.store.guidAt) (job : next.job = task.job)
    (saves : task.savedKeys = [])
    (awaits : task.awaitedKeys pipeline.previousAssetGuids =
      next.awaitedKeys pipeline.previousAssetGuids) :
    Progress pipeline task { pipeline with store } (some next) := by
  refine .of_same sameGuids rfl (fun _ isRest => Option.some.inj isRest ▸ job)
    (fun _ _ isRest => absurd isRest (Option.some_ne_none next)) (fun key isSaved => ?_)
    (fun _ held _ => held) (fun _ held => .inl held)
    fun key _ isAwaited => ⟨next, rfl, awaits ▸ isAwaited⟩
  rw [saves] at isSaved
  exact absurd isSaved List.not_mem_nil

/-- A job forgets the predecessor that it has deleted. -/
theorem Progress.forget (guid : String) : Progress pipeline (.forgetPrevious guid)
    { pipeline with previousAssetGuids := pipeline.previousAssetGuids.erase guid } none := by
  refine ⟨fun _ isRest => absurd isRest.symm (Option.some_ne_none _), fun other isOther => ?_,
    fun other isJob _ => ?_, fun _ _ held => held, List.forall_mem_nil _, fun _ held _ => held,
    fun _ held => .inl held, fun _ stored => .inl stored,
    fun key _ isAwaited => absurd isAwaited List.not_mem_nil⟩
  · exact AList.lookup_erase_ne fun same => isOther (same ▸ rfl)
  · rw [← Option.some.inj isJob]
    exact AList.lookup_erase _ _

/-- A deletion that finds the images as it has read them clears one of them. -/
theorem Progress.clear {image : UserImageAsset} {user : User} {guid : String} {now : Long}
    {store : Store} (returned : mergeWithoutImage image user now pipeline.store = .ok ((), store))
    (leaves : Task.LeavesNothing pipeline (.clearImage image user guid now)) :
    Progress pipeline (.clearImage image user guid now) { pipeline with store }
      (some (.deleteImage guid)) := by
  obtain ⟨shows, sameOther⟩ := leaves
  have written : store.guidAt =
      Function.update pipeline.store.guidAt (.image user.id image) none :=
    mergeWithoutImage_clearsOnly returned sameOther
  refine ⟨fun _ isRest => Option.some.inj isRest ▸ rfl, fun _ _ => rfl,
    fun _ isJob _ => absurd isJob (Option.not_mem_none _), fun slot other held => ?_,
    List.forall_mem_nil _, fun _ held _ => held, fun _ held => .inl held, ?_,
    fun key _ isAwaited => absurd isAwaited List.not_mem_nil⟩
  · rw [show ({ pipeline with store } : Pipeline).store.guidAt = _ from written] at held
    by_cases cleared : slot = .image user.id image
    · rw [cleared, Function.update_self] at held
      exact absurd held (Option.not_mem_none _)
    · rw [Function.update_of_ne cleared] at held
      exact held
  · rintro key ⟨slot, other, held, isKey⟩
    by_cases cleared : slot = .image user.id image
    · -- The image that is cleared is the one that will be deleted.
      subst cleared
      exact .inr ⟨.deleteImage guid, rfl, shows other held ▸ isKey⟩
    · refine .inl ⟨slot, other, ?_, isKey⟩
      show store.guidAt slot = some other
      rw [written, Function.update_of_ne cleared]
      exact held

/-- A task that leaves nothing behind makes progress. -/
theorem progress_run (accounted : Accounted pipeline)
    (member : task ∈ pipeline.tasks) (leaves : task.LeavesNothing pipeline) :
    Progress pipeline task (task.run pipeline).1 (task.run pipeline).2 := by
  have doomed := accounted.harmless.doomed task member
  -- What a job awaits is nothing when the map remembers nothing for it.
  have awaitsNothing {guid : String} (absent : pipeline.previousAssetGuids.lookup guid = none) :
      (pipeline.previousAssetGuids.lookup guid).toList.flatMap imageKeys = [] := by
    rw [absent]
    rfl
  cases task with
  | saveImage guid =>
      refine .save rfl rfl (fun key isSaved => ?_)
        (leaves.imp_left fun stores => stores.storedKey (self_mem_imageKeys guid))
      exact List.mem_cons.mp isSaved
  | saveThumbnail guid =>
      refine .save rfl rfl (fun key isSaved => .inl (List.mem_singleton.mp isSaved))
        (leaves.imp_left fun stores => stores.storedKey ?_)
      exact List.mem_cons_of_mem _ List.mem_cons_self
  | complete guid =>
      rcases run_complete pipeline guid with ⟨store, sameGuids, ran⟩ | ⟨failed, ran⟩
      · rw [ran]
        exact .advance sameGuids rfl rfl rfl
      · rw [ran]
        rcases leaves with ⟨slot, stored⟩ | absent
        · obtain ⟨store, returned⟩ := completeAsset_isOk stored fun other otherStored =>
            accounted.harmless.apart.distinct other slot guid otherStored stored
          exact absurd returned (failed store)
        · exact .stop rfl (fun _ isJob => Option.some.inj isJob ▸ absent) (awaitsNothing absent)
  | discardPrevious guid =>
      rcases run_discardPrevious pipeline guid with ⟨previous, mapped, ran⟩ | ⟨absent, ran⟩
      · rw [ran]
        refine .advance rfl rfl rfl ?_
        show (pipeline.previousAssetGuids.lookup guid).toList.flatMap imageKeys = _
        rw [mapped]
        exact List.flatMap_singleton imageKeys previous
      · rw [ran]
        exact .stop rfl (fun _ isJob => Option.some.inj isJob ▸ absent) (awaitsNothing absent)
  | deletePrevious guid previous =>
      refine .delete (doomed previous (self_mem_imageKeys previous))
        (fun _ isRest => Option.some.inj isRest ▸ rfl) (fun _ _ => Option.some_ne_none _) rfl
        fun key isAwaited => ?_
      exact (List.mem_cons.mp isAwaited).imp_right fun later => ⟨_, rfl, later⟩
  | deletePreviousThumbnail guid previous =>
      refine .delete (doomed _ List.mem_cons_self)
        (fun _ isRest => Option.some.inj isRest ▸ rfl) (fun _ _ => Option.some_ne_none _) rfl
        fun key isAwaited => .inl (List.mem_singleton.mp isAwaited)
  | forgetPrevious guid => exact .forget guid
  | clearImage image user guid now =>
      rcases run_clearImage pipeline image user guid now with ⟨store, returned, ran⟩ | ran
      · rw [ran]
        exact .clear returned leaves
      · rw [ran]
        exact .stop rfl (fun _ isJob => absurd isJob (Option.not_mem_none _)) rfl
  | deleteImage guid =>
      refine .delete (doomed guid (self_mem_imageKeys guid))
        (fun _ isRest => Option.some.inj isRest ▸ rfl) (fun _ _ => Option.some_ne_none _) rfl
        fun key isAwaited => ?_
      exact (List.mem_cons.mp isAwaited).imp_right fun later => ⟨_, rfl, later⟩
  | deleteThumbnail guid =>
      refine .delete (doomed _ List.mem_cons_self)
        (fun _ isRest => absurd isRest.symm (Option.some_ne_none _))
        (fun _ isJob => absurd isJob (Option.not_mem_none _)) rfl
        fun key isAwaited => .inl (List.mem_singleton.mp isAwaited)

theorem ne_of_isFresh {used guid : String} (fresh : pipeline.isFresh guid = true)
    (inUse : used ∈ pipeline.guids) : used ≠ guid := by
  rintro rfl
  exact isFresh_iff.mp fresh used inUse used (self_mem_imageKeys used) (self_mem_imageKeys used)

/-- An upload changes what the map remembers for the new asset only. -/
theorem lookup_enqueue (store : Store) (previous : Option String) {guid other : String}
    (different : other ≠ guid) :
    (pipeline.enqueue store guid previous).previousAssetGuids.lookup other =
      pipeline.previousAssetGuids.lookup other := by
  cases previous with
  | none => rfl
  | some previous => exact AList.lookup_insert_ne different

/-- An upload accounts for the new asset and for the one that it replaces. -/
theorem Accounted.upload (accounted : Accounted pipeline) {store : Store} {slot : AssetSlot}
    {guid : String} (fresh : pipeline.isFresh guid = true)
    (written : store.guidAt = Function.update pipeline.store.guidAt slot (some guid)) :
    Accounted (pipeline.enqueue store guid (pipeline.store.guidAt slot)) := by
  have old {task : Task} (member : task ∈ pipeline.tasks) :
      task ∈ pipeline.tasks ++ [.saveImage guid] := List.mem_append_left _ member
  have job : .saveImage guid ∈ pipeline.tasks ++ [.saveImage guid] :=
    List.mem_append_right _ List.mem_cons_self
  refine ⟨accounted.harmless.upload fresh written, ?_, fun newGuid previous mapped => ?_,
    fun key held => ?_, fun key stored => ?_⟩
  · refine ((List.perm_append_singleton _ _).filterMap Task.job).nodup_iff.mpr ?_
    refine List.nodup_cons.mpr ⟨fun member => ?_, accounted.jobs⟩
    obtain ⟨task, pending, isJob⟩ := List.mem_filterMap.mp member
    exact ne_of_isFresh fresh (mem_guids_of_task pending (mem_guids_of_job isJob)) rfl
  · by_cases isNew : newGuid = guid
    · exact ⟨.saveImage guid, job, congrArg some isNew.symm⟩
    · obtain ⟨task, member, isJob⟩ :=
        accounted.pending newGuid previous ((lookup_enqueue store _ isNew).symm.trans mapped)
      exact ⟨task, old member, isJob⟩
  · rcases accounted.kept key held with ⟨place, used, stored, isKey⟩ | ⟨task, member, isAwaited⟩
    · by_cases here : place = slot
      · -- The job of the upload will delete the replaced asset.
        subst here
        refine .inr ⟨.saveImage guid, job, ?_⟩
        rw [stored]
        show key ∈ ((pipeline.previousAssetGuids.insert guid used).lookup guid).toList.flatMap
          imageKeys
        rw [AList.lookup_insert]
        exact List.mem_flatMap.mpr ⟨used, List.mem_cons_self, isKey⟩
      · refine .inl ⟨place, used, ?_, isKey⟩
        show store.guidAt place = some used
        rw [written, Function.update_of_ne here]
        exact stored
    · refine .inr ⟨task, old member, ?_⟩
      rw [awaitedKeys_congr fun used isJob =>
        lookup_enqueue store _
          (ne_of_isFresh fresh (mem_guids_of_task member (mem_guids_of_job isJob)))]
      exact isAwaited
  · obtain ⟨place, used, stored, isKey⟩ := stored
    have stored : Function.update pipeline.store.guidAt slot (some guid) place = some used := by
      rw [← written]
      exact stored
    by_cases here : place = slot
    · rw [here, Function.update_self] at stored
      exact .inr ⟨.saveImage guid, job, Option.some.inj stored ▸ isKey⟩
    · rw [Function.update_of_ne here] at stored
      refine (accounted.present key ⟨place, used, stored, isKey⟩).imp_right ?_
      rintro ⟨task, member, isSaved⟩
      exact ⟨task, old member, isSaved⟩

/-- A deletion that starts changes no account. -/
theorem Accounted.startDeletion (accounted : Accounted pipeline) {image : UserImageAsset}
    {user : User} {guid : String} (now : Long)
    (stored : pipeline.store.guidAt (.image user.id image) = some guid) :
    Accounted { pipeline with
      tasks := pipeline.tasks ++ [.clearImage image user guid now] } := by
  refine ⟨accounted.harmless.startDeletion now stored, ?_, fun newGuid previous mapped => ?_,
    fun key held => (accounted.kept key held).imp_right ?_,
    fun key isStored => (accounted.present key isStored).imp_right ?_⟩
  · rw [List.filterMap_append]
    exact (List.append_nil _).symm ▸ accounted.jobs
  · obtain ⟨task, member, isJob⟩ := accounted.pending newGuid previous mapped
    exact ⟨task, List.mem_append_left _ member, isJob⟩
  · rintro ⟨task, member, isAwaited⟩
    exact ⟨task, List.mem_append_left _ member, isAwaited⟩
  · rintro ⟨task, member, isSaved⟩
    exact ⟨task, List.mem_append_left _ member, isSaved⟩

theorem accounted_step {environment : Environment} {action : PipelineAction}
    (accounted : Accounted pipeline) (onUploads : action.isOnUploads = true)
    (leaves : LeavesNothing pipeline action)
    (taken : pipelineStep environment pipeline action = some next) : Accounted next := by
  cases pipelineStep_effect taken with
  | unchanged => exact accounted
  | creates userId absent written => exact absurd onUploads Bool.false_ne_true
  | uploads slot fresh written => exact accounted.upload fresh written
  | imports slot fresh absent written => exact absurd onUploads Bool.false_ne_true
  | startsDeletion stored => exact accounted.startDeletion _ stored
  | runs task chosen =>
      have leavesNothing := leaves task chosen
      refine accounted.run chosen
        (progress_run accounted (List.mem_of_getElem? chosen) leavesNothing)
        (accounted.harmless.runTask chosen fun image user guid now isClear kept isKept => ?_)
      subst isClear
      rw [leavesNothing.2, isKept]
      rfl

end Invariant

/-- Nothing is left behind in any run in which every task that goes on leaves nothing behind. -/
theorem leaksNothing_of_leavesNothing (environment : Environment) :
    LeaksNothing environment LeavesNothing := by
  intro start noTasks unleaked apart state reached ended
  have accounted : Accounted state := by
    refine reached.invariant Accounted ⟨⟨apart, ?_, ?_, ?_⟩, ?_, ?_, fun key held => ?_,
      fun key stored => .inl ((unleaked.datastore key).mpr stored)⟩
      fun _ _ _ holds permitted taken => accounted_step holds permitted.1 permitted.2 taken
    · rw [unleaked.previous]
      exact fun _ _ mapped => absurd mapped (Option.not_mem_none _)
    · rw [noTasks]
      exact List.forall_mem_nil _
    · rw [noTasks]
      exact fun _ _ _ _ member => absurd member List.not_mem_nil
    · rw [noTasks]
      exact List.nodup_nil
    · rw [unleaked.previous]
      exact fun _ _ mapped => absurd mapped (Option.not_mem_none _)
    · exact .inl ((unleaked.datastore key).mp held)
  exact accounted.unleaked ended

/-! ### A job that comes too late -/

/-- Alice has signed up, and nothing is uploaded yet. -/
def oneUserPipeline : Pipeline where
  store := (createUser (plainEnvironment .entry) (plainInput "alice") "A" "T" "" 0 Store.empty).1
  datastore := ∅
  previousAssetGuids := ∅
  tasks := []

/-- Alice uploads an avatar and another one; the job of the second runs before that of the first. -/
def overtakenJob : List PipelineAction :=
  [.addOrReplaceUserImageAsset 1 .avatar true "G" 0,
    .addOrReplaceUserImageAsset 1 .avatar true "H" 0,
    .runTask 1, .runTask 1, .runTask 1, .runTask 1, .runTask 1, .runTask 1, .runTask 1,
    .runTask 0, .runTask 0, .runTask 0]

def afterOvertakenJob : Pipeline :=
  (run (pipelineStep (plainEnvironment .entry)) oneUserPipeline overtakenJob).getD oneUserPipeline

/-- The images of the first avatar stay in the datastore. -/
theorem not_leaksNothing : ¬ LeaksNothing (plainEnvironment .entry) unrestricted := by
  intro always
  have executed : run (pipelineStep (plainEnvironment .entry)) oneUserPipeline overtakenJob =
      some afterOvertakenJob := by
    rfl
  have noAssets (slot : AssetSlot) (guid : String) :
      oneUserPipeline.store.guidAt slot ≠ some guid := by
    intro stored
    obtain ⟨asset, held, -⟩ := Option.map_eq_some_iff.mp stored
    exact absurd (mem_assets.mpr ⟨slot, held⟩) (List.not_mem_nil)
  have unleaked : Unleaked oneUserPipeline := by
    refine ⟨fun key => iff_of_false (Finset.notMem_empty key) ?_, rfl⟩
    rintro ⟨slot, guid, stored, -⟩
    exact noAssets slot guid stored
  have onUploads : ∀ action ∈ overtakenJob, action.isOnUploads = true := by decide
  have reached : Reaches (pipelineStep (plainEnvironment .entry))
      (fun pipeline action => action.isOnUploads = true ∧ unrestricted pipeline action)
      oneUserPipeline afterOvertakenJob :=
    reaches_of_run overtakenJob (fun _ action member => ⟨onUploads action member, trivial⟩)
      executed
  have apart : KeysApart oneUserPipeline.store.guidAt :=
    fun slot guid stored => absurd stored (noAssets slot guid)
  have final :=
    always oneUserPipeline rfl unleaked apart afterOvertakenJob reached (by decide)
  obtain ⟨slot, guid, stored, isKey⟩ := (final.datastore "G").mp (by decide)
  obtain ⟨asset, held, rfl⟩ := Option.map_eq_some_iff.mp stored
  have others : ∀ asset ∈ afterOvertakenJob.store.assets, "G" ∉ imageKeys asset.guid := by decide
  exact others asset (mem_assets.mpr ⟨slot, held⟩) isKey

end GraffiTab
