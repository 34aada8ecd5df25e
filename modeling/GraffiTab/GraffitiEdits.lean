/-
This file asks whether the edit of a graffiti is all or nothing.

An edit writes the upload into the temporary directory, changes the row in a transaction, and
then remembers the GUID of the previous asset and queues the job for the new one. The upload
comes before the checks of the transaction, and nothing takes it back when they fail. The row
gets five values and the asset of the request; the text and the privacy flag, which the
creation of a graffiti stores as well, stay as they were.
-/

import GraffiTab.AssetEffects

namespace GraffiTab

open Tables

/-! ### The server -/

/-- What `TransferableStream.transferTo` makes of an upload: the file, or an exception and what it
had written until then. -/
inductive Upload where
  | transferred (content : List UInt8)
  | failed (left : Option (List UInt8))

/-- Whether the file has arrived. -/
def Upload.isTransferred : Upload → Bool
  | .transferred _ => true
  | .failed _ => false

/-- What the upload has written. -/
def Upload.left : Upload → Option (List UInt8)
  | .transferred content => some content
  | .failed left => left

/-- What is in the temporary directory, by the name of the file. -/
abbrev TemporaryFiles : Type := String → Option (List UInt8)

/-- The directory with what is written to a file, if anything is. -/
def TemporaryFiles.write (files : TemporaryFiles) (name : String) :
    Option (List UInt8) → TemporaryFiles
  | some content => Function.update files name (some content)
  | none => files

/-- The database, the map of previous GUIDs, the queue of jobs, and the temporary directory. -/
structure ServerState where
  pipeline : Pipeline
  temporaryFiles : TemporaryFiles

/-- A call of `editStreamableGraffiti` with what it gets from outside: the generated GUID, the
clock, and whether the database commits. -/
structure EditCall where
  currentUserId : Long
  streamableId : Long
  dto : StreamableGraffitiDto
  upload : Upload
  guid : String
  now : Long
  commit : Except Throwable Unit

/-- `AssetService.transferAssetToTemporaryArea`. -/
def transferAssetToTemporaryArea (upload : Upload) (assetGuid : String) (files : TemporaryFiles) :
    TemporaryFiles × Except Throwable Unit :=
  (files.write assetGuid upload.left, transferAssetFile upload.isTransferred)

/-- `executeInTransactionWithResult`, with a commit that may fail. -/
def executeAndCommit {Value : Type} (commit : Except Throwable Unit) (body : Transaction Value)
    (store : Store) : Store × Except Throwable Value :=
  match executeInTransactionWithResult body store, commit with
  | (_, .ok _), .error thrown => (store, .error thrown)
  | answered, _ => answered

/-- `StreamableService.editStreamableGraffiti`. -/
def EditCall.editStreamableGraffiti (call : EditCall) (state : ServerState) :
    ServerState × Except Throwable Streamable :=
  match validateText call.dto.text with
  | .error thrown => (state, .error thrown)
  | .ok () =>
      match transferAssetToTemporaryArea call.upload call.guid state.temporaryFiles with
      | (temporaryFiles, .error thrown) => ({ state with temporaryFiles }, .error thrown)
      | (temporaryFiles, .ok ()) =>
          match executeAndCommit call.commit
            (editStreamableGraffitiBody call.currentUserId call.streamableId call.dto call.guid
              call.now) state.pipeline.store with
          | (store, .ok streamable) =>
              ({ pipeline := state.pipeline.enqueue store call.guid
                  (state.pipeline.store.guidAt (.streamable call.streamableId))
                 temporaryFiles }, .ok streamable)
          | (store, .error thrown) =>
              ({ pipeline := { state.pipeline with store }, temporaryFiles }, .error thrown)

/-! ### All or nothing -/

/-- What a graffiti takes from the request that creates it. -/
structure GraffitiProperties where
  latitude : Option Rat
  longitude : Option Rat
  roll : Option Rat
  yaw : Option Rat
  pitch : Option Rat
  text : Option String
  isPrivate : Bool
  deriving DecidableEq

def Streamable.properties (streamable : Streamable) : GraffitiProperties where
  latitude := streamable.latitude
  longitude := streamable.longitude
  roll := streamable.roll
  yaw := streamable.yaw
  pitch := streamable.pitch
  text := streamable.text
  isPrivate := streamable.isPrivate

section Edits

variable (call : EditCall) (state : ServerState)

/-- Everything is done: the row has the properties and the asset of a graffiti that the same
request creates, the GUID of the previous asset is mapped, and one job is queued. -/
structure EditCall.Done (next : ServerState) : Prop where
  stored : ∃ before after created afterCreation,
    state.pipeline.store.streamables.find call.streamableId = some before ∧
      next.pipeline.store.streamables.find call.streamableId = some after ∧
      createStreamableInTransaction call.currentUserId call.dto
        (fun id => .processing id call.guid) call.now state.pipeline.store =
          .ok (created, afterCreation) ∧
      after.properties = created.properties ∧ after.asset = created.asset ∧
      ∃ previous, before.asset = some previous ∧
        next.pipeline.previousAssetGuids.lookup call.guid = some previous.guid
  queued : next.pipeline.tasks = state.pipeline.tasks ++ [.saveImage call.guid]

/-- A call that returns has done everything, and a call that throws has changed nothing. -/
def EditCall.AllOrNothing : Prop :=
  match call.editStreamableGraffiti state with
  | (next, .ok _) => call.Done state next
  | (next, .error _) => next = state

/-- The file arrives, the transaction finds the graffiti, owned by the caller, and it can be
committed. -/
structure EditCall.Succeeds (streamable : Streamable) : Prop where
  arrives : call.upload.isTransferred = true
  stored : state.pipeline.store.streamables.find call.streamableId = some streamable
  own : streamable.userId = call.currentUserId
  known : (state.pipeline.store.users.find call.currentUserId).isSome
  hasAsset : streamable.asset.isSome
  commits : call.commit = .ok ()

/-- The upload writes nothing that is not in the temporary directory already. -/
def EditCall.LeavesDirectory : Prop :=
  ∀ content ∈ call.upload.left, state.temporaryFiles call.guid = some content

/-- The text is refused, or the call fails and leaves the temporary directory, or it succeeds and
the request has the text and the privacy flag that the graffiti has already. -/
def EditCall.EndsCleanly : Prop :=
  validateText call.dto.text ≠ .ok () ∨
    ((∀ streamable, ¬ call.Succeeds state streamable) ∧ call.LeavesDirectory state) ∨
    ∃ streamable, call.Succeeds state streamable ∧ call.dto.text = streamable.text ∧
      call.dto.isPrivate.getD false = streamable.isPrivate

end Edits

/-! ### The transaction -/

section Transactions

variable {call : EditCall} {state : ServerState} {streamable : Streamable}

/-- The row after the edit. -/
def EditCall.edited (call : EditCall) (store : Store) (streamable : Streamable) : Streamable :=
  { streamable with
    asset := some (.processing (store.lastAssetId + 1) call.guid)
    latitude := call.dto.latitude
    longitude := call.dto.longitude
    roll := call.dto.roll
    yaw := call.dto.yaw
    pitch := call.dto.pitch
    updatedOn := some call.now }

/-- The store that the edit commits. -/
def EditCall.saved (call : EditCall) (store : Store) (streamable : Streamable) : Store :=
  { store.saveStreamable (call.edited store streamable) with lastAssetId := store.lastAssetId + 1 }

/-- The transaction goes through exactly for an own graffiti, unless the commit fails. -/
theorem executeAndCommit_ok (arrives : call.upload.isTransferred = true) {store : Store}
    {answer : Streamable} :
    executeAndCommit call.commit
        (editStreamableGraffitiBody call.currentUserId call.streamableId call.dto call.guid
          call.now) state.pipeline.store = (store, .ok answer) ↔
      ∃ found, call.Succeeds state found ∧ answer = call.edited state.pipeline.store found ∧
        store = call.saved state.pipeline.store found := by
  constructor
  · intro executed
    unfold executeAndCommit at executed
    split at executed
    · cases (Prod.mk.inj executed).2
    rename_i uncommitted
    rcases executeInTransactionWithResult_cases (editStreamableGraffitiBody call.currentUserId
      call.streamableId call.dto call.guid call.now) state.pipeline.store with
      ⟨value, next, returned, same⟩ | ⟨thrown, -, same⟩
    · rw [same] at executed uncommitted
      obtain ⟨rfl, isAnswer⟩ := Prod.mk.inj executed
      obtain rfl := Except.ok.inj isAnswer
      have commits : call.commit = .ok () := by
        cases outcome : call.commit with
        | ok value => rfl
        | error thrown => exact absurd outcome (uncommitted _ _ thrown rfl)
      obtain ⟨found, owned, rest⟩ := bind_eq_ok.mp returned
      obtain ⟨stored, own, known⟩ := ownStreamable_ok.mp owned
      split at rest
      · exact absurd rest throw_ne_ok
      · rename_i asset hasAsset
        obtain ⟨rfl, rfl⟩ := Prod.mk.inj (Except.ok.inj rest)
        exact ⟨found, ⟨arrives, stored, own, known, Option.isSome_of_mem hasAsset, commits⟩,
          rfl, rfl⟩
    · rw [same] at executed
      cases (Prod.mk.inj executed).2
  · rintro ⟨found, succeeds, rfl, rfl⟩
    obtain ⟨asset, hasAsset⟩ := Option.isSome_iff_exists.mp succeeds.hasAsset
    have returned : editStreamableGraffitiBody call.currentUserId call.streamableId call.dto
        call.guid call.now state.pipeline.store =
          .ok (call.edited state.pipeline.store found, call.saved state.pipeline.store found) := by
      refine bind_eq_ok.mpr ⟨found, ownStreamable_ok.mpr
        ⟨succeeds.stored, succeeds.own, succeeds.known⟩, ?_⟩
      simp only [hasAsset]
      rfl
    unfold executeAndCommit executeInTransactionWithResult
    rw [returned, succeeds.commits]

/-- A transaction that fails leaves the database. -/
theorem executeAndCommit_error {Value : Type} {commit : Except Throwable Unit}
    {body : Transaction Value} {store next : Store} {thrown : Throwable}
    (failed : executeAndCommit commit body store = (next, .error thrown)) : next = store := by
  unfold executeAndCommit at failed
  split at failed
  · exact (Prod.mk.inj failed).1.symm
  · have answered : (executeInTransactionWithResult body store).2 = .error thrown := by rw [failed]
    rw [← executeInTransactionWithResult_error answered, failed]

/-- What the creation of a graffiti takes from its request. -/
theorem createStreamableInTransaction_properties {currentUserId : Long}
    {dto : StreamableGraffitiDto} {asset : Long → Asset} {now : Long} {store next : Store}
    {created : Streamable}
    (returned : createStreamableInTransaction currentUserId dto asset now store =
      .ok (created, next)) :
    created.properties = ⟨dto.latitude, dto.longitude, dto.roll, dto.yaw, dto.pitch, dto.text,
        dto.isPrivate.getD false⟩ ∧ created.asset = some (asset (store.lastAssetId + 1)) := by
  obtain ⟨currentUser, -, rest⟩ := bind_eq_ok.mp returned
  obtain ⟨rfl, -⟩ := Prod.mk.inj (Except.ok.inj rest)
  exact ⟨rfl, rfl⟩

theorem createStreamableInTransaction_of_known {currentUserId : Long} {store : Store}
    (known : (store.users.find currentUserId).isSome) (dto : StreamableGraffitiDto)
    (asset : Long → Asset) (now : Long) :
    ∃ created next, createStreamableInTransaction currentUserId dto asset now store =
      .ok (created, next) := by
  obtain ⟨currentUser, found⟩ := Option.isSome_iff_exists.mp known
  exact ⟨_, _, bind_eq_ok.mpr ⟨currentUser, loadCurrentUser_ok.mpr found, rfl⟩⟩

end Transactions

/-! ### The call -/

section Calls

variable {call : EditCall} {state : ServerState}

/-- A call whose text is refused stops before the upload. -/
theorem editStreamableGraffiti_refused {thrown : Throwable}
    (refused : validateText call.dto.text = .error thrown) :
    call.editStreamableGraffiti state = (state, .error thrown) := by
  rw [EditCall.editStreamableGraffiti, refused]

/-- A call that fails leaves what the upload has written. -/
theorem editStreamableGraffiti_failed (valid : validateText call.dto.text = .ok ())
    (fails : ∀ streamable, ¬ call.Succeeds state streamable) :
    ∃ thrown, call.editStreamableGraffiti state =
      ({ state with temporaryFiles := state.temporaryFiles.write call.guid call.upload.left },
        .error thrown) := by
  rw [EditCall.editStreamableGraffiti, valid]
  cases arrives : call.upload.isTransferred with
  | false => exact ⟨_, by simp only [transferAssetToTemporaryArea, arrives]; rfl⟩
  | true =>
      simp only [transferAssetToTemporaryArea, arrives, transferAssetFile, if_true]
      generalize executed : executeAndCommit call.commit _ state.pipeline.store = answer
      obtain ⟨store, result⟩ := answer
      cases result with
      | ok answer =>
          obtain ⟨found, succeeds, -⟩ := (executeAndCommit_ok arrives).mp executed
          exact absurd succeeds (fails found)
      | error thrown =>
          obtain rfl := executeAndCommit_error executed
          exact ⟨thrown, rfl⟩

/-- A call that returns has changed the row, mapped the previous GUID and queued the job. -/
theorem editStreamableGraffiti_returned {streamable : Streamable}
    (valid : validateText call.dto.text = .ok ()) (succeeds : call.Succeeds state streamable) :
    call.editStreamableGraffiti state =
      ({ pipeline := state.pipeline.enqueue (call.saved state.pipeline.store streamable) call.guid
          (streamable.asset.map Asset.guid)
         temporaryFiles := state.temporaryFiles.write call.guid call.upload.left },
        .ok (call.edited state.pipeline.store streamable)) := by
  have guid : state.pipeline.store.guidAt (.streamable call.streamableId) =
      streamable.asset.map Asset.guid := by
    rw [Store.guidAt, Store.assetAt, succeeds.stored]
    rfl
  have executed := (executeAndCommit_ok succeeds.arrives).mpr ⟨streamable, succeeds, rfl, rfl⟩
  rw [EditCall.editStreamableGraffiti, valid]
  simp only [transferAssetToTemporaryArea, succeeds.arrives, transferAssetFile, if_true, guid,
    executed]
  rfl

/-- What a call leaves of the pipeline is what the model of the assets says, unless the commit
fails. -/
theorem editStreamableGraffiti_pipeline (commits : call.commit = .ok ()) :
    (call.editStreamableGraffiti state).1.pipeline =
      editStreamableAsset call.currentUserId call.streamableId call.dto
        call.upload.isTransferred call.guid call.now state.pipeline := by
  unfold EditCall.editStreamableGraffiti editStreamableAsset GraffiTab.editStreamableGraffiti
    executeAndCommit
  rw [commits]
  cases validateText call.dto.text with
  | error thrown => rfl
  | ok value =>
      rcases call.upload with content | ⟨_ | left⟩
      · rcases executeInTransactionWithResult_cases (editStreamableGraffitiBody call.currentUserId
          call.streamableId call.dto call.guid call.now) state.pipeline.store with
          ⟨edited, store, -, same⟩ | ⟨thrown, -, same⟩
        · simp only [transferAssetToTemporaryArea, transferAssetFile, Upload.isTransferred, same]
          rfl
        · simp only [transferAssetToTemporaryArea, transferAssetFile, Upload.isTransferred, same]
          rfl
      · rfl
      · rfl

/-- The directory stays as it is exactly if nothing is written that is not there already. -/
theorem leavesDirectory_iff :
    { state with temporaryFiles := state.temporaryFiles.write call.guid call.upload.left } =
      state ↔ call.LeavesDirectory state := by
  have files : { state with
      temporaryFiles := state.temporaryFiles.write call.guid call.upload.left } = state ↔
        state.temporaryFiles.write call.guid call.upload.left = state.temporaryFiles :=
    ⟨congrArg ServerState.temporaryFiles, fun same => by rw [same]⟩
  rw [files, EditCall.LeavesDirectory]
  cases call.upload.left with
  | none => exact iff_of_true rfl fun _ absent => absurd absent (Option.not_mem_none _)
  | some content =>
      rw [TemporaryFiles.write, Function.update_eq_self_iff]
      constructor
      · rintro same _ ⟨⟩
        exact same.symm
      · intro same
        exact (same content rfl).symm

/-- A call that returns has done everything exactly for the text and the privacy flag that the
graffiti had. -/
theorem done_iff {files : TemporaryFiles} {streamable : Streamable}
    (succeeds : call.Succeeds state streamable) :
    call.Done state
        { pipeline := state.pipeline.enqueue (call.saved state.pipeline.store streamable) call.guid
            (streamable.asset.map Asset.guid)
          temporaryFiles := files } ↔
      call.dto.text = streamable.text ∧ call.dto.isPrivate.getD false = streamable.isPrivate := by
  have sameId : streamable.id = call.streamableId := Table.id_of_find succeeds.stored
  have saved : (call.saved state.pipeline.store streamable).streamables.find call.streamableId =
      some (call.edited state.pipeline.store streamable) :=
    Table.find_eq_some.mpr ⟨Table.mem_set.mpr
      (.inl ⟨rfl, streamable, Table.mem_of_find succeeds.stored, rfl⟩), sameId⟩
  constructor
  · rintro ⟨⟨before, after, created, afterCreation, -, isAfter, creates, sameProperties, -⟩, -⟩
    obtain rfl := Option.some.inj (saved.symm.trans isAfter)
    rw [(createStreamableInTransaction_properties creates).1] at sameProperties
    exact ⟨(congrArg GraffitiProperties.text sameProperties).symm,
      (congrArg GraffitiProperties.isPrivate sameProperties).symm⟩
  · rintro ⟨sameText, samePrivacy⟩
    obtain ⟨asset, hasAsset⟩ := Option.isSome_iff_exists.mp succeeds.hasAsset
    obtain ⟨created, afterCreation, creates⟩ := createStreamableInTransaction_of_known
      succeeds.known call.dto (fun id => .processing id call.guid) call.now
    obtain ⟨properties, createdAsset⟩ := createStreamableInTransaction_properties creates
    refine ⟨⟨streamable, _, created, afterCreation, succeeds.stored, saved, creates, ?_, ?_,
      asset, hasAsset, ?_⟩, rfl⟩
    · rw [properties, sameText, samePrivacy]
      rfl
    · rw [createdAsset]
      rfl
    · rw [hasAsset]
      exact AList.lookup_insert _

end Calls

/-- A call is all or nothing exactly if its text is refused, or it fails and leaves the temporary
directory, or it succeeds and asks for the text and the privacy flag that the graffiti has. -/
theorem allOrNothing_iff (call : EditCall) (state : ServerState) :
    call.AllOrNothing state ↔ call.EndsCleanly state := by
  unfold EditCall.AllOrNothing EditCall.EndsCleanly
  cases valid : validateText call.dto.text with
  | error thrown =>
      rw [editStreamableGraffiti_refused valid]
      exact iff_of_true rfl (.inl nofun)
  | ok value =>
      have notRefused : ¬ (Except.ok value : Except Throwable Unit) ≠ .ok () := fun refused =>
        refused rfl
      rw [or_iff_right notRefused]
      by_cases found : ∃ streamable, call.Succeeds state streamable
      · obtain ⟨streamable, succeeds⟩ := found
        rw [editStreamableGraffiti_returned valid succeeds]
        refine (done_iff succeeds).trans ⟨fun same => .inr ⟨streamable, succeeds, same⟩, ?_⟩
        rintro (⟨fails, -⟩ | ⟨other, otherSucceeds, same⟩)
        · exact absurd succeeds (fails streamable)
        · obtain rfl : other = streamable :=
            Option.some.inj (otherSucceeds.stored.symm.trans succeeds.stored)
          exact same
      · have fails : ∀ streamable, ¬ call.Succeeds state streamable := not_exists.mp found
        obtain ⟨thrown, answered⟩ := editStreamableGraffiti_failed valid fails
        rw [answered]
        refine leavesDirectory_iff.trans ⟨fun leaves => .inl ⟨fails, leaves⟩, ?_⟩
        rintro (⟨-, leaves⟩ | ⟨streamable, succeeds, -⟩)
        · exact leaves
        · exact absurd succeeds (fails streamable)

/-! ### Another text, and another user -/

/-- A graffiti of Alice with its image. -/
def oldGraffiti : Streamable where
  id := 1
  userId := 1
  createdOn := 0
  updatedOn := none
  isPrivate := false
  isFlagged := false
  isDeleted := false
  text := some "old"
  asset := some { id := 1, guid := "G", assetType := .image, state := .completed }
  hashtags := []
  latitude := none
  longitude := none
  roll := none
  yaw := none
  pitch := none

def beforeEdit : ServerState where
  pipeline :=
    { store :=
        { Store.empty with
          users := (Table.empty.insert (plainUser 0 "alice")).insert (plainUser 0 "bob")
          streamables := Table.empty.insert oldGraffiti
          lastAssetId := 1 }
      datastore := {"G", "G_thumb"}
      previousAssetGuids := ∅
      tasks := [] }
  temporaryFiles _ := none

/-- A user asks for a text of the graffiti, with a new image. -/
def editText (currentUserId : Long) (text : String) : EditCall where
  currentUserId := currentUserId
  streamableId := 1
  dto :=
    { latitude := none
      longitude := none
      roll := none
      yaw := none
      pitch := none
      asset := none
      text := some text
      isPrivate := none }
  upload := .transferred []
  guid := "H"
  now := 1
  commit := .ok ()

theorem succeeds_editText (text : String) : (editText 1 text).Succeeds beforeEdit oldGraffiti where
  arrives := rfl
  stored := rfl
  own := rfl
  known := rfl
  hasAsset := rfl
  commits := rfl

/-- Alice asks for a new text and keeps the old one, and what Bob uploads for the graffiti stays in
the temporary directory. -/
theorem not_allOrNothing :
    ¬ (editText 1 "new").AllOrNothing beforeEdit ∧
      ¬ (editText 2 "old").AllOrNothing beforeEdit := by
  constructor
  · intro ends
    have answered := editStreamableGraffiti_returned
      (show validateText (editText 1 "new").dto.text = .ok () from rfl) (succeeds_editText "new")
    rw [EditCall.AllOrNothing, answered] at ends
    obtain ⟨sameText, -⟩ := (done_iff (succeeds_editText "new")).mp ends
    exact absurd sameText (by decide)
  · intro ends
    have fails : ∀ streamable, ¬ (editText 2 "old").Succeeds beforeEdit streamable := by
      intro streamable succeeds
      obtain rfl : oldGraffiti = streamable := Option.some.inj succeeds.stored
      exact absurd succeeds.own (by decide)
    obtain ⟨thrown, answered⟩ := editStreamableGraffiti_failed
      (show validateText (editText 2 "old").dto.text = .ok () from rfl) fails
    rw [EditCall.AllOrNothing, answered] at ends
    exact Option.some_ne_none [] (leavesDirectory_iff.mp ends [] rfl).symm

end GraffiTab
