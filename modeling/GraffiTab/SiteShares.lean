/-
This file shows that users change only what is theirs, over the runs of the whole site.

The share of a user is what the user has put on the site: the profile, streamables, comments,
locations, linked accounts, likes and followed users. A request acts as its current user, or as
the user whose cached copy it merges; all others, the resets of passwords, failed logins and jobs
among them, act as nobody. Whatever the interleaving, the share of a user stays as it is as long as
nothing acts as that user. Flags and the states of assets are left out of a share, since others and
the jobs set them.
-/

import GraffiTab.Library.Views
import GraffiTab.SiteHistory

namespace GraffiTab

open Tables Runs Simulations Views

/-! ### Shares -/

/-- What users say of themselves, with the identifiers of their images. -/
structure Profile where
  guid : String
  username : String
  email : String
  firstName : String
  lastName : String
  website : Option String
  about : Option String
  avatar : Option String
  cover : Option String
  deriving DecidableEq

def User.profile (user : User) : Profile where
  guid := user.guid
  username := user.username
  email := user.email
  firstName := user.firstName
  lastName := user.lastName
  website := user.website
  about := user.about
  avatar := user.avatarAsset.map Asset.guid
  cover := user.coverAsset.map Asset.guid

/-- The streamable without its flag, and with its asset as it was before any job. -/
def Streamable.authored (streamable : Streamable) : Streamable :=
  { streamable with
    isFlagged := false
    asset := streamable.asset.map fun asset => { asset with state := .processing } }

/-- The linked account without the access token, which every login with it renews. -/
def ExternalProvider.linked (provider : ExternalProvider) : ExternalProvider :=
  { provider with accessToken := "" }

structure Share where
  profile : List Profile
  streamables : List Streamable
  comments : List Comment
  locations : List Location
  externalProviders : List ExternalProvider
  following : List Following
  likes : List Like
  deriving DecidableEq

def Store.shareOf (userId : Long) (store : Store) : Share where
  profile := shown (ofOwner User.id User.profile userId) store.users.rows
  streamables := shown (ofOwner Streamable.userId Streamable.authored userId) store.streamables.rows
  comments := shown (ofOwner Comment.userId id userId) store.comments.rows
  locations := shown (ofOwner Location.userId id userId) store.locations.rows
  externalProviders :=
    shown (ofOwner ExternalProvider.userId ExternalProvider.linked userId)
      store.externalProviders.rows
  following := shown (ofOwner Following.userId id userId) store.following
  likes := shown (ofOwner Like.userId id userId) store.likes

section Effects

variable {userId currentUserId : Long} {store next : Store}

/-! ### Operations on one table -/

theorem shareOf_users {users : Table User}
    (same : shown (ofOwner User.id User.profile userId) users.rows =
      shown (ofOwner User.id User.profile userId) store.users.rows) (lastAssetId : Long) :
    Store.shareOf userId { store with users, lastAssetId } = store.shareOf userId := by
  simp only [Store.shareOf, same]

theorem shareOf_streamables {streamables : Table Streamable}
    (same : shown (ofOwner Streamable.userId Streamable.authored userId) streamables.rows =
      shown (ofOwner Streamable.userId Streamable.authored userId) store.streamables.rows)
    (lastAssetId : Long) :
    Store.shareOf userId { store with streamables, lastAssetId } = store.shareOf userId := by
  simp only [Store.shareOf, same]

theorem shareOf_comments {comments : Table Comment}
    (same : shown (ofOwner Comment.userId id userId) comments.rows =
      shown (ofOwner Comment.userId id userId) store.comments.rows) :
    Store.shareOf userId { store with comments } = store.shareOf userId := by
  simp only [Store.shareOf, same]

theorem shareOf_locations {locations : Table Location}
    (same : shown (ofOwner Location.userId id userId) locations.rows =
      shown (ofOwner Location.userId id userId) store.locations.rows) :
    Store.shareOf userId { store with locations } = store.shareOf userId := by
  simp only [Store.shareOf, same]

theorem shareOf_externalProviders {externalProviders : Table ExternalProvider}
    (same : shown (ofOwner ExternalProvider.userId ExternalProvider.linked userId)
        externalProviders.rows =
      shown (ofOwner ExternalProvider.userId ExternalProvider.linked userId)
        store.externalProviders.rows) :
    Store.shareOf userId { store with externalProviders } = store.shareOf userId := by
  simp only [Store.shareOf, same]

theorem shareOf_following {following : List Following}
    (same : shown (ofOwner Following.userId id userId) following =
      shown (ofOwner Following.userId id userId) store.following) :
    Store.shareOf userId { store with following } = store.shareOf userId := by
  simp only [Store.shareOf, same]

theorem shareOf_likes {likes : List Like}
    (same : shown (ofOwner Like.userId id userId) likes =
      shown (ofOwner Like.userId id userId) store.likes) :
    Store.shareOf userId { store with likes } = store.shareOf userId := by
  simp only [Store.shareOf, same]

/-- What a body does not change whenever it returns, its transaction does not change. -/
theorem shareOf_transaction {Value : Type} {body : Transaction Value}
    (commits : ∀ value next, body store = .ok (value, next) →
      next.shareOf userId = store.shareOf userId) :
    (transaction body store).1.shareOf userId = store.shareOf userId :=
  transaction_keeps (fun next => next.shareOf userId = store.shareOf userId) rfl commits

theorem shareOf_executeInTransaction {Value : Type} {body : Transaction Value}
    (commits : ∀ value next, body store = .ok (value, next) →
      next.shareOf userId = store.shareOf userId) :
    (executeInTransactionWithResult body store).1.shareOf userId = store.shareOf userId :=
  executeInTransactionWithResult_keeps
    (fun next => next.shareOf userId = store.shareOf userId) rfl commits

/-! ### Accounts -/

/-- A user is written back whose profile stays. -/
theorem shareOf_saveUser {found changed : User} (stored : found ∈ store.users.rows)
    (sameId : changed.id = found.id) (same : changed.profile = found.profile) :
    (store.saveUser changed).shareOf userId = store.shareOf userId :=
  shareOf_users (shown_set stored sameId (ofOwner_congr sameId same)) store.lastAssetId

/-- Another user is written back. -/
theorem shareOf_setOther {changed : User} (other : changed.id ≠ userId) (lastAssetId : Long) :
    Store.shareOf userId { store.saveUser changed with lastAssetId } = store.shareOf userId := by
  refine shareOf_users (shown_set_hidden (ofOwner_other other) fun old _ sameId => ?_) lastAssetId
  exact ofOwner_other fun isUser => other (sameId.symm.trans isUser)

/-- The share of a user who is there has a profile. -/
theorem hasUser_of_profile (someProfile : (store.shareOf userId).profile ≠ []) :
    store.Has (.user userId) :=
  exists_of_shown_ne_nil someProfile

theorem profile_of_hasUser (known : store.Has (.user userId)) :
    (store.shareOf userId).profile ≠ [] := by
  obtain ⟨row, member, owned⟩ := known
  exact shown_ne_nil member owned

theorem shareOf_insertUser (known : store.Has (.user userId)) (row : User) (lastAssetId : Long) :
    Store.shareOf userId { store with users := store.users.insert row, lastAssetId } =
      store.shareOf userId := by
  obtain ⟨user, stored, rfl⟩ := known
  refine shareOf_users (shown_insert store.users (ofOwner_other fun same => ?_)) lastAssetId
  exact Table.ne_nextId stored same.symm

/-- The user as whom an operation on accounts is called. -/
def AccountAction.actor : AccountAction → Option Long
  | .editUser currentUserId _ _ => some currentUserId
  | .changePassword currentUserId _ _ _ _ _ => some currentUserId
  | _ => none

theorem accountStep_shareOf {environment : Environment} {state after : AccountState}
    {action : AccountAction} (known : state.store.Has (.user userId))
    (notActor : action.actor ≠ some userId)
    (taken : accountStep environment state action = some after) :
    after.store.shareOf userId = state.store.shareOf userId := by
  cases action with
  | createUser user guid userToken salt now =>
      simp only [accountStep, Option.ite_none_right_eq_some, Option.some.injEq] at taken
      obtain ⟨-, rfl⟩ := taken
      rcases createUser_cases environment user guid userToken salt now state.store with
        ⟨thrown, same⟩ | ⟨row, lastAssetId, -, -, same⟩
      · rw [same]
      · rw [same]
        exact shareOf_insertUser known row lastAssetId
  | createExternalUser user account guid salt generated now =>
      obtain rfl := Option.some.inj taken
      show Store.shareOf userId (createExternalUser _ _ _ _ _ _ _ _).1 = _
      rcases createExternalUser_cases environment user account guid salt generated now state.store
        with same | ⟨row, lastAssetId, -, -, same⟩
      · rw [same]
      · rw [same]
        obtain ⟨owner, stored, rfl⟩ := known
        have inserted := shareOf_insertUser ⟨owner, stored, rfl⟩ row lastAssetId
        refine (shareOf_externalProviders (shown_insert _ (ofOwner_other fun isNew => ?_))).trans
          inserted
        exact Table.ne_nextId stored isNew.symm
  | editUser currentUserId toEdit now =>
      obtain rfl := Option.some.inj taken
      refine shareOf_transaction fun edited next returned => ?_
      obtain ⟨found, checked, -, rfl⟩ := editUser_ok environment returned
      obtain ⟨-, isCurrent, -⟩ := checkEditUser_ok environment checked
      refine shareOf_setOther (fun same => notActor ?_) state.store.lastAssetId
      exact congrArg some (isCurrent.symm.trans same)
  | activateUser token now =>
      obtain rfl := Option.some.inj taken
      refine shareOf_executeInTransaction fun changed next returned => ?_
      obtain ⟨found, answer, -, -, rfl, rfl⟩ := activateUserBody_ok returned
      exact shareOf_saveUser (findUsersWithMetadataValues_eq_some.mp answer).1.1 rfl rfl
  | resetPassword email token now =>
      simp only [accountStep, Option.ite_none_right_eq_some, Option.some.injEq] at taken
      obtain ⟨-, rfl⟩ := taken
      refine shareOf_executeInTransaction fun changed next returned => ?_
      obtain ⟨found, answer, rfl, rfl⟩ := resetPasswordBody_ok returned
      exact shareOf_saveUser (findByEmail_eq_some answer).1 rfl rfl
  | completePasswordReset token salt newPassword now =>
      obtain rfl := Option.some.inj taken
      refine shareOf_transaction fun changed next returned => ?_
      obtain ⟨found, answer, -, -, rfl, rfl⟩ := completePasswordResetBody_ok returned
      have stored := (findUsersWithMetadataValues_eq_some.mp answer).1.1
      have saved : (state.store.saveUser
          (withResetPassword environment found salt newPassword)).shareOf userId =
            state.store.shareOf userId := shareOf_saveUser stored rfl rfl
      exact saved
  | changePassword currentUserId currentPassword salt newPassword session now =>
      obtain rfl := Option.some.inj taken
      refine shareOf_transaction fun changed next returned => ?_
      obtain ⟨found, known, -, -, rfl, rfl⟩ := changePasswordBody_ok returned
      have stored := Table.mem_of_find known
      have saved : (state.store.saveUser
          (withChangedPassword environment found salt newPassword now)).shareOf userId =
            state.store.shareOf userId := shareOf_saveUser stored rfl rfl
      exact saved
  | updateLoginAttempts usernameOrEmail =>
      obtain rfl := Option.some.inj taken
      show Store.shareOf userId (updateLoginAttempts environment usernameOrEmail state.store).1 = _
      rw [updateLoginAttempts_store]
      refine shareOf_executeInTransaction fun locked next returned => ?_
      obtain ⟨found, answer, outcome⟩ := updateLoginAttemptsBody_ok returned
      have stored := mem_of_findByUsernameOrEmail answer
      rcases outcome with ⟨-, rfl⟩ | ⟨-, rfl⟩
      · exact shareOf_saveUser stored rfl rfl
      · exact shareOf_saveUser stored rfl rfl
  | resetLoginAttempts usernameOrEmail =>
      obtain rfl := Option.some.inj taken
      show Store.shareOf userId (resetLoginAttempts environment usernameOrEmail state.store).1 = _
      rcases resetLoginAttempts_cases environment state.store usernameOrEmail with
        same | ⟨found, stored, same⟩
      · rw [same]
      · rw [same]
        exact shareOf_saveUser stored rfl rfl

/-- A cached copy of another user is merged. -/
theorem mergeWithoutImage_shareOf (image : UserImageAsset) {storedUser : User}
    (other : storedUser.id ≠ userId) (now : Long) :
    (transaction (mergeWithoutImage image storedUser now) store).1.shareOf userId =
      store.shareOf userId := by
  have sameId (asset : Option Asset) (user : User) (shown : UserImageAsset) :
      (user.withImageAsset shown asset).id = user.id := by cases shown <;> rfl
  let cleared (metadataItems : Metadata) : User :=
    { storedUser.withImageAsset image none with updatedOn := some now, metadataItems }
  have clearedOther (metadataItems : Metadata) : (cleared metadataItems).id ≠ userId := by
    show (storedUser.withImageAsset image none).id ≠ userId
    rwa [sameId]
  have merged (metadataItems : Metadata) :
      (store.saveUser (cleared metadataItems)).shareOf userId = store.shareOf userId :=
    shareOf_setOther (clearedOther metadataItems) store.lastAssetId
  refine shareOf_transaction fun value next returned => ?_
  unfold mergeWithoutImage at returned
  split at returned
  · exact absurd returned throw_ne_ok
  split at returned
  · obtain ⟨-, rfl⟩ := Prod.mk.inj (Except.ok.inj returned)
    exact merged _
  split at returned
  · obtain ⟨-, rfl⟩ := Prod.mk.inj (Except.ok.inj returned)
    exact merged _
  split at returned
  · exact absurd returned throw_ne_ok
  · obtain ⟨-, rfl⟩ := Prod.mk.inj (Except.ok.inj returned)
    refine shareOf_setOther ?_ (store.lastAssetId + 1)
    rw [sameId]
    exact clearedOther _

theorem replaceUserImageAsset_shareOf (other : currentUserId ≠ userId) (image : UserImageAsset)
    (guid : String) (now : Long) (store : Store) :
    (transaction (replaceUserImageAsset currentUserId image guid now) store).1.shareOf userId =
      store.shareOf userId := by
  refine shareOf_transaction fun previous next returned => ?_
  unfold replaceUserImageAsset at returned
  split at returned
  · exact absurd returned throw_ne_ok
  · rename_i user found
    obtain ⟨-, rfl⟩ := Prod.mk.inj (Except.ok.inj returned)
    refine shareOf_setOther ?_ (store.lastAssetId + 1)
    have isCurrent : user.id = currentUserId := Table.id_of_find found
    cases image <;> exact fun same => other (isCurrent.symm.trans same)

/-- A change of assets that sets their states alone. -/
theorem mapAssets_shareOf {change : Asset → Asset}
    (stateOnly : ∀ asset, { change asset with state := .processing } =
      { asset with state := .processing }) (store : Store) :
    (store.mapAssets change).shareOf userId = store.shareOf userId := by
  have guids (asset : Option Asset) :
      (asset.map change).map Asset.guid = asset.map Asset.guid := by
    rw [Option.map_map]
    refine Option.map_congr fun asset _ => ?_
    have sameGuid := congrArg Asset.guid (stateOnly asset)
    exact sameGuid
  have users : shown (ofOwner User.id User.profile userId) (store.mapAssets change).users.rows =
      shown (ofOwner User.id User.profile userId) store.users.rows := by
    refine shown_map store.users.rows fun user => ofOwner_congr rfl ?_
    simp only [User.profile, guids]
  have streamables :
      shown (ofOwner Streamable.userId Streamable.authored userId)
          (store.mapAssets change).streamables.rows =
        shown (ofOwner Streamable.userId Streamable.authored userId) store.streamables.rows := by
    refine shown_map store.streamables.rows fun streamable => ofOwner_congr rfl ?_
    have assets : (streamable.asset.map change).map (fun asset =>
        { asset with state := .processing }) =
          streamable.asset.map fun asset => { asset with state := .processing } := by
      rw [Option.map_map]
      exact Option.map_congr fun asset _ => stateOnly asset
    simp only [Streamable.authored, assets]
  simp only [Store.shareOf, users, streamables]
  rfl

theorem completeAsset_shareOf (guid : String) (store : Store) :
    (transaction (completeAsset guid) store).1.shareOf userId = store.shareOf userId := by
  refine shareOf_transaction fun value next returned => ?_
  obtain ⟨found, -, rest⟩ := bind_eq_ok.mp returned
  cases found with
  | none => exact absurd rest throw_ne_ok
  | some toUpdate =>
      obtain ⟨-, rfl⟩ := Prod.mk.inj (Except.ok.inj rest)
      refine mapAssets_shareOf (fun asset => ?_) store
      split <;> rfl

/-! ### Streamables and comments -/

/-- A streamable is written back that shows others what it has shown. -/
theorem shareOf_saveStreamable {old new : Streamable} (stored : old ∈ store.streamables.rows)
    (sameId : new.id = old.id) (sameUser : new.userId = old.userId)
    (same : old.userId = userId → new.authored = old.authored) (lastAssetId : Long) :
    Store.shareOf userId { store.saveStreamable new with lastAssetId } = store.shareOf userId := by
  refine shareOf_streamables (shown_set stored sameId ?_) lastAssetId
  by_cases owned : old.userId = userId
  · exact ofOwner_congr sameUser (same owned)
  · rw [ofOwner_other owned, ofOwner_other (sameUser ▸ owned)]

theorem changeStreamable_shareOf (other : currentUserId ≠ userId) (streamableId : Long)
    (change : Streamable → Streamable) (sameId : ∀ row, (change row).id = row.id)
    (sameUser : ∀ row, (change row).userId = row.userId) (store : Store) :
    (transaction (changeStreamable currentUserId streamableId change) store).1.shareOf userId =
      store.shareOf userId := by
  refine shareOf_transaction fun changed next returned => ?_
  obtain ⟨streamable, found, rest⟩ := bind_eq_ok.mp returned
  obtain ⟨-, rfl⟩ := Prod.mk.inj (Except.ok.inj rest)
  obtain ⟨known, own⟩ := find_of_ownStreamable found
  exact shareOf_saveStreamable (Table.mem_of_find known) (sameId streamable) (sameUser streamable)
    (fun owned => absurd (own.symm.trans owned) other) store.lastAssetId

theorem editStreamableGraffiti_shareOf (other : currentUserId ≠ userId) (streamableId : Long)
    (dto : StreamableGraffitiDto) (transferred : Bool) (guid : String) (now : Long)
    (store : Store) :
    (editStreamableGraffiti currentUserId streamableId dto transferred guid now
      store).1.shareOf userId = store.shareOf userId := by
  unfold editStreamableGraffiti
  split
  · rfl
  · rfl
  refine shareOf_executeInTransaction fun edited next returned => ?_
  obtain ⟨streamable, owned, rest⟩ := bind_eq_ok.mp returned
  split at rest
  · exact absurd rest throw_ne_ok
  obtain ⟨-, rfl⟩ := Prod.mk.inj (Except.ok.inj rest)
  obtain ⟨known, own⟩ := find_of_ownStreamable owned
  refine shareOf_saveStreamable (Table.mem_of_find known) ?_ ?_
    (fun owned => absurd (own.symm.trans owned) other) _
  · rfl
  · rfl

theorem createStreamable_shareOf (other : currentUserId ≠ userId) {now : Long}
    {dto : StreamableGraffitiDto} {asset : Long → Asset} {streamable : Streamable}
    (returned : createStreamableInTransaction currentUserId dto asset now store =
      .ok (streamable, next)) : next.shareOf userId = store.shareOf userId := by
  obtain ⟨currentUser, loaded, rest⟩ := bind_eq_ok.mp returned
  obtain ⟨rfl, rfl⟩ := Prod.mk.inj (Except.ok.inj rest)
  refine shareOf_streamables (shown_insert _ (ofOwner_other fun same => other ?_)) _
  exact (id_of_loadCurrentUser loaded).symm.trans same

theorem changeComment_shareOf (other : currentUserId ≠ userId) (streamableId commentId : Long)
    (change : Comment → Comment) (sameId : ∀ row, (change row).id = row.id)
    (sameUser : ∀ row, (change row).userId = row.userId) (store : Store) :
    (transaction (changeComment currentUserId streamableId commentId change) store).1.shareOf
      userId = store.shareOf userId := by
  refine shareOf_transaction fun changed next returned => ?_
  unfold changeComment at returned
  split at returned
  · exact absurd returned throw_ne_ok
  split at returned
  · exact absurd returned throw_ne_ok
  rename_i comment known
  obtain ⟨currentUser, loaded, rest⟩ := bind_eq_ok.mp returned
  split at rest
  · rename_i own
    obtain ⟨-, rfl⟩ := Prod.mk.inj (Except.ok.inj rest)
    have notOwned : comment.userId ≠ userId := fun same =>
      other ((id_of_loadCurrentUser loaded).symm.trans (own.trans same))
    refine shareOf_comments (shown_set (Table.mem_of_find known) (sameId comment) ?_)
    rw [ofOwner_other notOwned, ofOwner_other ((sameUser comment).symm ▸ notOwned)]
  · exact absurd rest throw_ne_ok

theorem postComment_shareOf (other : currentUserId ≠ userId) (streamableId : Long) (text : String)
    (now : Long) (store : Store) :
    (executeInTransactionWithResult (postCommentBody currentUserId streamableId text now)
      store).1.shareOf userId = store.shareOf userId := by
  refine shareOf_executeInTransaction fun comment next returned => ?_
  unfold postCommentBody at returned
  split at returned
  · exact absurd returned throw_ne_ok
  obtain ⟨currentUser, loaded, rest⟩ := bind_eq_ok.mp returned
  obtain ⟨-, rfl⟩ := Prod.mk.inj (Except.ok.inj rest)
  refine shareOf_comments (shown_insert _ (ofOwner_other fun same => other ?_))
  exact (id_of_loadCurrentUser loaded).symm.trans same

/-- A flag is not part of anybody's share. -/
theorem flag_shareOf (streamableId : Long) (store : Store) :
    (executeInTransactionWithResult (flagBody streamableId) store).1.shareOf userId =
      store.shareOf userId := by
  refine shareOf_executeInTransaction fun value next returned => ?_
  unfold flagBody at returned
  split at returned
  · exact absurd returned throw_ne_ok
  rename_i streamable found
  split at returned
  · obtain ⟨-, rfl⟩ := Prod.mk.inj (Except.ok.inj returned)
    rfl
  · obtain ⟨-, rfl⟩ := Prod.mk.inj (Except.ok.inj returned)
    refine shareOf_saveStreamable (Table.mem_of_find found) ?_ ?_ (fun _ => ?_)
      store.lastAssetId
    · rfl
    · rfl
    · rfl

/-! ### Locations and external providers -/

theorem createLocation_shareOf (other : currentUserId ≠ userId) (address : Option String)
    (latitude longitude : Option Rat) (now : Long) (store : Store) :
    (transaction (createLocation currentUserId address latitude longitude now) store).1.shareOf
      userId = store.shareOf userId := by
  refine shareOf_transaction fun created next returned => ?_
  obtain ⟨currentUser, loaded, rest⟩ := bind_eq_ok.mp returned
  split at rest
  · obtain ⟨-, rfl⟩ := Prod.mk.inj (Except.ok.inj rest)
    refine shareOf_locations (shown_insert _ (ofOwner_other fun same => other ?_))
    exact (id_of_loadCurrentUser loaded).symm.trans same
  · exact absurd rest throw_ne_ok

theorem editLocation_shareOf (other : currentUserId ≠ userId) (locationId : Long)
    (address : Option String) (latitude longitude : Option Rat) (now : Long) (store : Store) :
    (transaction (editLocation currentUserId locationId address latitude longitude now)
      store).1.shareOf userId = store.shareOf userId := by
  refine shareOf_transaction fun edited next returned => ?_
  unfold editLocation at returned
  split at returned
  · exact absurd returned throw_ne_ok
  rename_i toEdit known
  obtain ⟨currentUser, loaded, rest⟩ := bind_eq_ok.mp returned
  split at rest
  · rename_i own
    have notOwned : toEdit.userId ≠ userId := fun same =>
      other ((id_of_loadCurrentUser loaded).symm.trans (own.trans same))
    split at rest
    · obtain ⟨-, rfl⟩ := Prod.mk.inj (Except.ok.inj rest)
      refine shareOf_locations (shown_set (Table.mem_of_find known) rfl ?_)
      rw [ofOwner_other notOwned]
      exact ofOwner_other notOwned
    · exact absurd rest throw_ne_ok
  · exact absurd rest throw_ne_ok

theorem deleteLocation_shareOf (other : currentUserId ≠ userId) (locationId : Long)
    (store : Store) :
    (transaction (deleteLocation currentUserId locationId) store).1.shareOf userId =
      store.shareOf userId := by
  refine shareOf_transaction fun _ next returned => ?_
  unfold deleteLocation at returned
  split at returned
  · exact absurd returned throw_ne_ok
  obtain ⟨currentUser, loaded, rest⟩ := bind_eq_ok.mp returned
  obtain ⟨-, rfl⟩ := Prod.mk.inj (Except.ok.inj rest)
  refine shareOf_locations (shown_remove fun row _ removed => ofOwner_other fun same => other ?_)
  rw [Bool.and_eq_true, decide_eq_true_eq] at removed
  exact (id_of_loadCurrentUser loaded).symm.trans (removed.1.symm.trans same)

theorem linkExternalProvider_shareOf (environment : Environment) (other : currentUserId ≠ userId)
    (account : ExternalAccount) (store : Store) :
    (transaction (linkExternalProvider environment currentUserId account) store).1.shareOf userId =
      store.shareOf userId := by
  refine shareOf_transaction fun _ next returned => ?_
  obtain ⟨currentUser, checked, rest⟩ := bind_eq_ok.mp returned
  obtain ⟨-, rfl⟩ := Prod.mk.inj (Except.ok.inj rest)
  have known := ((checkLinkExternalProvider_ok environment).mp checked).1
  refine shareOf_externalProviders (shown_insert _ (ofOwner_other fun same => other ?_))
  exact (Table.id_of_find known).symm.trans same

theorem unlinkExternalProvider_shareOf (other : currentUserId ≠ userId)
    (type : ExternalProviderType) (store : Store) :
    (transaction (unlinkExternalProvider currentUserId type) store).1.shareOf userId =
      store.shareOf userId := by
  refine shareOf_transaction fun _ next returned => ?_
  unfold unlinkExternalProvider at returned
  split at returned
  · exact absurd returned throw_ne_ok
  rename_i currentUser known
  obtain ⟨found, search, rest⟩ := bind_eq_ok.mp returned
  cases found with
  | none => exact absurd rest throw_ne_ok
  | some provider =>
      obtain ⟨-, rfl⟩ := Prod.mk.inj (Except.ok.inj rest)
      obtain ⟨stored, -, owned⟩ := findExternalProvider_eq_some search
      refine shareOf_externalProviders (shown_remove fun row member removed => ?_)
      obtain rfl : row = provider := Table.eq_of_id_eq member stored (of_decide_eq_true removed)
      refine ofOwner_other fun same => other ?_
      exact (Table.id_of_find known).symm.trans (owned.symm.trans same)

/-! ### Operations that change no share -/

theorem markSingleNotificationAsRead_shareOf {notificationId : Long} {read : Notification}
    (marked : markSingleNotificationAsRead notificationId store = .ok (read, next)) :
    next.shareOf userId = store.shareOf userId := by
  obtain ⟨inner, -, -, rfl⟩ := markSingleNotificationAsRead_ok.mp marked
  rfl

theorem markGroupNotificationsAsRead_shareOf (notifications : List Notification)
    (returned : markGroupNotificationsAsRead notifications store = .ok ((), next)) :
    next.shareOf userId = store.shareOf userId := by
  induction notifications generalizing store with
  | nil =>
      obtain ⟨-, rfl⟩ := Prod.mk.inj (Except.ok.inj returned)
      rfl
  | cons notification rest inductionHypothesis =>
      rw [markGroupNotificationsAsRead] at returned
      split at returned
      · exact inductionHypothesis returned
      split at returned
      · rename_i marked
        exact (inductionHypothesis returned).trans (markSingleNotificationAsRead_shareOf marked)
      · exact absurd returned throw_ne_ok

theorem registerDevice_shareOf (platform : Platform) (currentUserId : Long) (token : String)
    (osType : OSType) (store : Store) :
    (transaction (registerDevice platform currentUserId token osType) store).1.shareOf userId =
      store.shareOf userId := by
  refine shareOf_transaction fun _ next returned => ?_
  obtain ⟨device, -, afterwards⟩ := bind_eq_ok.mp returned
  obtain ⟨currentUser, -, rest⟩ := bind_eq_ok.mp afterwards
  cases device with
  | none | some =>
      obtain ⟨-, rfl⟩ := Prod.mk.inj (Except.ok.inj rest)
      rfl

theorem unregisterDevice_shareOf (platform : Platform) (currentUserId : Long) (token : String)
    (osType : OSType) (store : Store) :
    (transaction (unregisterDevice platform currentUserId token osType) store).1.shareOf userId =
      store.shareOf userId := by
  refine shareOf_transaction fun _ next returned => ?_
  obtain ⟨device, -, afterwards⟩ := bind_eq_ok.mp returned
  obtain ⟨currentUser, -, rest⟩ := bind_eq_ok.mp afterwards
  cases device with
  | none | some =>
      obtain ⟨-, rfl⟩ := Prod.mk.inj (Except.ok.inj rest)
      rfl

theorem WriteOperation.shareOf (environment : Environment) (other : currentUserId ≠ userId)
    (store : Store) (operation : WriteOperation) :
    (operation.perform environment currentUserId store).shareOf userId = store.shareOf userId := by
  cases operation with
  | editStreamableGraffiti streamableId dto transferred guid now =>
      exact editStreamableGraffiti_shareOf other streamableId dto transferred guid now store
  | deleteStreamable streamableId =>
      exact changeStreamable_shareOf other streamableId
        (fun streamable => { streamable with isDeleted := true }) (fun _ => rfl) (fun _ => rfl)
        store
  | makePublicOrPrivate streamableId isPrivate =>
      exact changeStreamable_shareOf other streamableId
        (fun streamable => { streamable with isPrivate }) (fun _ => rfl) (fun _ => rfl) store
  | editComment streamableId commentId newText now =>
      exact changeComment_shareOf other streamableId commentId
        (fun comment => { comment with text := newText, updatedOn := some now }) (fun _ => rfl)
        (fun _ => rfl) store
  | deleteComment streamableId commentId =>
      exact changeComment_shareOf other streamableId commentId
        (fun comment => { comment with isDeleted := true }) (fun _ => rfl) (fun _ => rfl) store
  | editLocation locationId address latitude longitude now =>
      exact editLocation_shareOf other locationId address latitude longitude now store
  | deleteLocation locationId => exact deleteLocation_shareOf other locationId store
  | registerDevice token osType => exact registerDevice_shareOf _ currentUserId token osType store
  | unregisterDevice token osType =>
      exact unregisterDevice_shareOf _ currentUserId token osType store
  | linkExternalProvider account =>
      exact linkExternalProvider_shareOf environment other account store
  | unlinkExternalProvider type => exact unlinkExternalProvider_shareOf other type store
  | markNotificationAsRead notificationId =>
      rcases markNotificationAsRead_cases notificationId store with
        ⟨inner, -, -, same⟩ | ⟨-, same⟩
      · exact (congrArg (Store.shareOf userId) same).trans rfl
      · exact congrArg (Store.shareOf userId) same
  | markAllNotificationsAsRead oneMonthAgo =>
      refine shareOf_transaction fun _ next returned => ?_
      obtain ⟨currentUser, -, rest⟩ := bind_eq_ok.mp returned
      exact markGroupNotificationsAsRead_shareOf _ rest

/-! ### Edges -/

theorem like_shareOf (other : currentUserId ≠ userId) (toLikeId : Long) (store : Store) :
    (executeInTransactionWithResult (like currentUserId toLikeId) store).1.shareOf userId =
      store.shareOf userId := by
  refine shareOf_executeInTransaction fun _ next returned => ?_
  obtain ⟨innerUser, loaded, rest⟩ := bind_eq_ok.mp returned
  split at rest
  · split at rest
    · obtain ⟨-, rfl⟩ := Prod.mk.inj (Except.ok.inj rest)
      rfl
    · obtain ⟨-, rfl⟩ := Prod.mk.inj (Except.ok.inj rest)
      refine shareOf_likes (shown_append_hidden _ (ofOwner_other fun same => other ?_))
      exact (id_of_loadCurrentUser loaded).symm.trans same
  · exact absurd rest throw_ne_ok

theorem unlike_shareOf (other : currentUserId ≠ userId) (toUnlikeId : Long) (store : Store) :
    (transaction (unlike currentUserId toUnlikeId) store).1.shareOf userId =
      store.shareOf userId := by
  refine shareOf_transaction fun _ next returned => ?_
  rw [unlike] at returned
  split at returned
  · obtain ⟨currentUser, loaded, rest⟩ := bind_eq_ok.mp returned
    obtain ⟨-, rfl⟩ := Prod.mk.inj (Except.ok.inj rest)
    refine shareOf_likes (shown_erase_hidden _ (ofOwner_other fun same => other ?_))
    exact (id_of_loadCurrentUser loaded).symm.trans same
  · exact absurd returned throw_ne_ok

theorem follow_shareOf (other : currentUserId ≠ userId) (toFollowId : Long) (store : Store) :
    (executeInTransactionWithResult (follow currentUserId toFollowId) store).1.shareOf userId =
      store.shareOf userId := by
  refine shareOf_executeInTransaction fun _ next returned => ?_
  obtain ⟨innerUser, loaded, rest⟩ := bind_eq_ok.mp returned
  split at rest
  · split at rest
    · exact absurd rest throw_ne_ok
    split at rest
    · obtain ⟨-, rfl⟩ := Prod.mk.inj (Except.ok.inj rest)
      rfl
    · obtain ⟨-, rfl⟩ := Prod.mk.inj (Except.ok.inj rest)
      refine shareOf_following (shown_append_hidden _ (ofOwner_other fun same => other ?_))
      exact (id_of_loadCurrentUser loaded).symm.trans same
  · exact absurd rest throw_ne_ok

theorem unfollow_shareOf (other : currentUserId ≠ userId) (toUnfollowId : Long) (store : Store) :
    (transaction (unfollow currentUserId toUnfollowId) store).1.shareOf userId =
      store.shareOf userId := by
  refine shareOf_transaction fun _ next returned => ?_
  rw [unfollow] at returned
  split at returned
  · obtain ⟨currentUser, loaded, rest⟩ := bind_eq_ok.mp returned
    obtain ⟨-, rfl⟩ := Prod.mk.inj (Except.ok.inj rest)
    refine shareOf_following (shown_erase_hidden _ (ofOwner_other fun same => other ?_))
    exact (id_of_loadCurrentUser loaded).symm.trans same
  · exact absurd returned throw_ne_ok

/-- The user as whom a request for an edge is called. -/
def EdgeRequest.actor : EdgeRequest → Long
  | .like currentUserId _ | .unlike currentUserId _ => currentUserId
  | .follow currentUserId _ | .unfollow currentUserId _ => currentUserId

theorem followRequest_shareOf (other : currentUserId ≠ userId) (toFollowId first second : Long)
    (store : Store) :
    ((FeedRequest.follow currentUserId toFollowId).perform first second store).1.shareOf userId =
      store.shareOf userId := by
  have followed := follow_shareOf other toFollowId store
  rw [FeedRequest.perform]
  split
  all_goals
    rename_i same
    rwa [same] at followed

theorem EdgeRequest.shareOf (request : EdgeRequest) (other : request.actor ≠ userId)
    (first second : Long) (store : Store) :
    (request.serve first second store).1.shareOf userId = store.shareOf userId := by
  cases request with
  | like currentUserId toLikeId =>
      rw [serve_like_fst]
      exact like_shareOf other toLikeId store
  | unlike currentUserId toUnlikeId => exact unlike_shareOf other toUnlikeId store
  | follow currentUserId toFollowId =>
      exact followRequest_shareOf other toFollowId first second store
  | unfollow currentUserId toUnfollowId => exact unfollow_shareOf other toUnfollowId store

/-! ### Creations -/

/-- The user as whom a request of the feed is called. -/
def FeedRequest.actor : FeedRequest → Long
  | .createStreamableGraffiti currentUserId _ _ _ => currentUserId
  | .createStreamableGraffitiFromExternalResource currentUserId _ _ => currentUserId
  | .deleteStreamable currentUserId _ => currentUserId
  | .makePublicOrPrivate currentUserId _ _ => currentUserId
  | .follow currentUserId _ | .unfollow currentUserId _ => currentUserId

theorem createRequest_shareOf (other : currentUserId ≠ userId) (dto : StreamableGraffitiDto)
    (asset : Long → Asset) (others : List Job) (first second : Long) (store : Store) :
    (createStreamable currentUserId dto asset others first second store).1.shareOf userId =
      store.shareOf userId := by
  have created : (executeInTransactionWithResult
      (createStreamableInTransaction currentUserId dto asset first) store).1.shareOf userId =
        store.shareOf userId :=
    shareOf_executeInTransaction fun _ _ returned => createStreamable_shareOf other returned
  rw [createStreamable]
  split
  all_goals
    rename_i same
    rwa [same] at created

theorem FeedRequest.shareOf (request : FeedRequest) (other : request.actor ≠ userId)
    (first second : Long) (store : Store) :
    (request.perform first second store).1.shareOf userId = store.shareOf userId := by
  cases request with
  | createStreamableGraffiti currentUserId dto transferred guid =>
      rw [FeedRequest.perform]
      split
      · exact createRequest_shareOf other dto _ _ first second store
      · rfl
  | createStreamableGraffitiFromExternalResource currentUserId dto guid =>
      rw [FeedRequest.perform]
      split
      · rfl
      · exact createRequest_shareOf other dto _ _ first second store
  | deleteStreamable currentUserId streamableId =>
      exact changeStreamable_shareOf other streamableId
        (fun streamable => { streamable with isDeleted := true }) (fun _ => rfl) (fun _ => rfl)
        store
  | makePublicOrPrivate currentUserId streamableId isPrivate =>
      exact changeStreamable_shareOf other streamableId
        (fun streamable => { streamable with isPrivate }) (fun _ => rfl) (fun _ => rfl) store
  | follow currentUserId toFollowId =>
      exact followRequest_shareOf other toFollowId first second store
  | unfollow currentUserId toUnfollowId => exact unfollow_shareOf other toUnfollowId store

/-! ### Sessions -/

/-- A merge changes the share of the merged user alone, and not even this when it writes the row
back as it is. -/
theorem mergeUser_shareOf {detached : User}
    (unchanged : detached.id ≠ userId ∨ detached ∈ store.users.rows) :
    (store.mergeUser detached).shareOf userId = store.shareOf userId := by
  refine shareOf_users ?_ store.lastAssetId
  cases found : findUserById detached.id store with
  | none => rfl
  | some stored =>
      rcases unchanged with other | member
      · have cleared :
            ({ detached with metadataItems := stored.metadataItems } : User).id ≠ userId :=
          other
        exact congrArg Share.profile (shareOf_setOther cleared store.lastAssetId)
      · obtain rfl : stored = detached :=
          Table.eq_of_id_eq (Table.mem_of_find found) member (Table.id_of_find found)
        exact congrArg Share.profile (shareOf_saveUser member rfl rfl)

theorem saveOrUpdateSessionData_shareOf {platform : Platform} {sessionId : String}
    {currentUser : User} {now : Long}
    (unchanged : currentUser.id ≠ userId ∨ currentUser ∈ store.users.rows) {value : Unit}
    (returned : saveOrUpdateSessionData platform sessionId currentUser now store =
      .ok (value, next)) :
    next.shareOf userId = store.shareOf userId := by
  obtain ⟨found, -, rest⟩ := bind_eq_ok.mp returned
  cases found with
  | none =>
      obtain ⟨-, rfl⟩ := Prod.mk.inj (Except.ok.inj rest)
      exact mergeUser_shareOf unchanged
  | some row =>
      obtain ⟨-, rfl⟩ := Prod.mk.inj (Except.ok.inj rest)
      rfl

theorem touchSession_shareOf (platform : Platform) (sessionId : String) (now : Long)
    (store : Store) :
    (transaction (touchSession platform sessionId now) store).1.shareOf userId =
      store.shareOf userId := by
  refine shareOf_transaction fun _ next returned => ?_
  obtain ⟨found, -, rest⟩ := bind_eq_ok.mp returned
  cases found with
  | none | some =>
      obtain ⟨-, rfl⟩ := Prod.mk.inj (Except.ok.inj rest)
      rfl

/-- A restoration merges the user as the table has it. -/
theorem restoreFromDb_shareOf (platform : Platform) (requestedSessionId created : String)
    (now : Long) (store : Store) :
    (transaction (restoreFromDb platform requestedSessionId created now) store).1.shareOf userId =
      store.shareOf userId := by
  refine shareOf_transaction fun _ next returned => ?_
  obtain ⟨found, -, rest⟩ := bind_eq_ok.mp returned
  cases found with
  | none =>
      obtain ⟨-, rfl⟩ := Prod.mk.inj (Except.ok.inj rest)
      rfl
  | some persisted =>
      simp only at rest
      split at rest
      · exact absurd rest throw_ne_ok
      rename_i user known
      obtain ⟨⟨⟨⟩, saved⟩, save, rest⟩ := bind_eq_ok.mp rest
      obtain ⟨-, rfl⟩ := Prod.mk.inj (Except.ok.inj rest)
      exact saveOrUpdateSessionData_shareOf (.inr (Table.mem_of_find known)) save

/-! ### Jobs -/

theorem Job.shareOf (uploaded : Bool) (job : Job) (store : Store) :
    (job.run uploaded store).shareOf userId = store.shareOf userId := by
  cases job with
  | addActivity activity =>
      refine shareOf_transaction fun _ next returned => ?_
      unfold addUserActivity at returned
      split at returned
      · exact absurd returned throw_ne_ok
      · obtain ⟨-, rfl⟩ := Prod.mk.inj (Except.ok.inj returned)
        rfl
  | addNotification notification =>
      refine shareOf_transaction fun _ next returned => ?_
      unfold addNotificationToUser at returned
      split at returned
      · exact absurd returned throw_ne_ok
      · obtain ⟨-, rfl⟩ := Prod.mk.inj (Except.ok.inj returned)
        rfl
  | processAsset guid =>
      cases uploaded with
      | false => rfl
      | true => exact completeAsset_shareOf guid store

end Effects

/-! ### Requests -/

/-- The user as whom a request acts: its current user, or the one whose cached copy it merges. -/
def SiteRequest.actor (cachedUsers : List User) : SiteRequest → Option Long
  | .account action _ => action.actor
  | .write currentUserId _ => some currentUserId
  | .feed request _ _ => some request.actor
  | .edge request _ _ => some request.actor
  | .postComment currentUserId _ _ _ => some currentUserId
  | .createLocation currentUserId _ _ _ _ => some currentUserId
  | .addOrReplaceUserImageAsset currentUserId _ _ _ _ => some currentUserId
  | .mergeWithoutImage copy _ _ => (cachedUsers[copy]?).map User.id
  | .saveSessionData copy _ _ => (cachedUsers[copy]?).map User.id
  | .flag _ | .cacheUser _ | .touchSession _ _ | .deleteSession _ | .restoreFromDb _ _ _ => none

section Requests

variable {userId : Long} {environment : Environment} {uploaded : Job → Bool}

theorem SiteRequest.performShareOf (environment : Environment) {cachedUsers : List User}
    {store : Store} (request : SiteRequest) (notActor : request.actor cachedUsers ≠ some userId) :
    (request.perform environment cachedUsers store).1.shareOf userId = store.shareOf userId := by
  have other {currentUserId : Long} (isActor : request.actor cachedUsers = some currentUserId) :
      currentUserId ≠ userId := fun same => notActor (same ▸ isActor)
  cases request with
  | account | cacheUser => rfl
  | write currentUserId operation => exact operation.shareOf environment (other rfl) store
  | feed request first second => exact request.shareOf (other rfl) first second store
  | edge request first second => exact request.shareOf (other rfl) first second store
  | postComment currentUserId streamableId text now =>
      rw [SiteRequest.perform]
      split
      · rfl
      · exact postComment_shareOf (other rfl) streamableId text now store
  | flag streamableId => exact flag_shareOf streamableId store
  | createLocation currentUserId address latitude longitude now =>
      exact createLocation_shareOf (other rfl) address latitude longitude now store
  | addOrReplaceUserImageAsset currentUserId image transferred guid now =>
      have replaced := replaceUserImageAsset_shareOf (other rfl) image guid now store
      rw [SiteRequest.perform]
      split
      · rfl
      split
      all_goals
        rename_i same
        rwa [same] at replaced
  | mergeWithoutImage copy image now =>
      rw [SiteRequest.perform]
      split
      · rename_i storedUser found
        refine mergeWithoutImage_shareOf image (other ?_) now
        rw [SiteRequest.actor, found, Option.map_some]
      · rfl
  | saveSessionData copy sessionId now =>
      rw [SiteRequest.perform]
      split
      · rename_i currentUser found
        have otherUser : currentUser.id ≠ userId :=
          other (by rw [SiteRequest.actor, found, Option.map_some])
        exact shareOf_transaction fun _ _ returned =>
          saveOrUpdateSessionData_shareOf (.inl otherUser) returned
      · rfl
  | touchSession sessionId now => exact touchSession_shareOf _ sessionId now store
  | deleteSession sessionId => rfl
  | restoreFromDb requestedSessionId created now =>
      exact restoreFromDb_shareOf _ requestedSessionId created now store

theorem SiteRequest.serveShareOf {world : SiteWorld} (known : world.store.Has (.user userId))
    (request : SiteRequest) (notActor : request.actor world.cachedUsers ≠ some userId) :
    (request.serve environment world).1.store.shareOf userId = world.store.shareOf userId := by
  cases request with
  | account action notified =>
      show (action.serve environment notified world.accounts).1.store.shareOf userId = _
      rw [AccountAction.serve]
      cases taken : accountStep environment world.accounts action with
      | none => rfl
      | some next => exact accountStep_shareOf known notActor taken
  | cacheUser => rfl
  | _ => exact performShareOf environment _ notActor

/-! ### Runs -/

/-- The step serves a request that acts as the user. -/
def ActsAs (userId : Long) (state : PoolState SiteWorld Job)
    (action : PoolAction SiteRequest Job) : Prop :=
  ∃ request, action = .serve request ∧ request.actor state.world.cachedUsers = some userId

theorem poolStep_shareOf {state next : PoolState SiteWorld Job}
    {action : PoolAction SiteRequest Job} (known : state.world.store.Has (.user userId))
    (untouched : ∀ queued ∈ state.pool.queue, queued.isOver = false)
    (notActor : ¬ ActsAs userId state action)
    (taken : poolStep (siteServer environment uploaded) state action = some next) :
    next.world.store.shareOf userId = state.world.store.shareOf userId := by
  cases (poolStep_effect untouched taken).2 with
  | served request world =>
      rw [world]
      exact request.serveShareOf known fun isActor => notActor ⟨request, rfl, isActor⟩
  | moved world => rw [world]
  | committed thread job world =>
      rw [world]
      exact job.shareOf (uploaded job) state.world.store

variable (environment uploaded userId)

/-- Between two states of a run, the share of a user stays as it is when nothing acts as the
user. -/
theorem shareOf_between (nThreads : Nat) (start : SiteWorld) (state later : PoolState SiteWorld Job)
    (reached : Reaches (poolStep (siteServer environment uploaded)) unrestricted
      (.initial nThreads start) state)
    (known : state.world.store.Has (.user userId))
    (afterwards : Reaches (poolStep (siteServer environment uploaded))
      (fun current action => ¬ ActsAs userId current action) state later) :
    later.world.store.shareOf userId = state.world.store.shareOf userId := by
  have untouched : ∀ queued ∈ state.pool.queue, queued.isOver = false :=
    reached.invariant (fun state => ∀ queued ∈ state.pool.queue, queued.isOver = false)
      (fun _ absent => absurd absent List.not_mem_nil)
      fun _ _ _ untouched _ taken => (poolStep_effect untouched taken).1
  -- the profile in the share tells that the user is still there
  refine (afterwards.invariant (fun current =>
    (∀ queued ∈ current.pool.queue, queued.isOver = false) ∧
      current.world.store.shareOf userId = state.world.store.shareOf userId)
    ⟨untouched, rfl⟩ ?_).2
  intro current action next ⟨currentUntouched, same⟩ notActor taken
  have stillKnown : current.world.store.Has (.user userId) :=
    hasUser_of_profile (same ▸ profile_of_hasUser known)
  exact ⟨(poolStep_effect currentUntouched taken).1,
    (poolStep_shareOf stillKnown currentUntouched notActor taken).trans same⟩

end Requests

/-! ### A run -/

/-- Bob signs up, activates the account, likes the graffiti of Alice, flags it, and tries to delete
it; the worker stores the welcome of Alice, which it took before. -/
def actsOfBob : List (PoolAction SiteRequest Job) :=
  [.serve (.account (.createUser (plainInput "bob") "B" "U" "" 6) 7),
    .serve (.account (.activateUser "U" 8) 9), .serve (.edge (.like 2 1) 10 11),
    .serve (.flag 1), .serve (.write 2 (.deleteStreamable 1)), .commit 0]

theorem run_actsOfBob :
    run (poolStep plainSite) (siteAfter firstGraffiti) actsOfBob =
      some (siteAfter (firstGraffiti ++ actsOfBob)) := by
  rfl

theorem shareOf_between_bob :
    (siteAfter (firstGraffiti ++ actsOfBob)).world.store.shareOf 1 =
      (siteAfter firstGraffiti).world.store.shareOf 1 := by
  refine shareOf_between 1 (plainEnvironment .entry) (fun _ => true) 1 emptySite
    (siteAfter firstGraffiti) _ (reaches_of_run_unrestricted firstGraffiti run_firstGraffiti) ?_
    (reaches_of_run actsOfBob (fun state action member => ?_) run_actsOfBob)
  · exact ⟨_, List.mem_cons_self, rfl⟩
  · rintro ⟨request, rfl, isActor⟩
    simp only [actsOfBob, List.mem_cons, PoolAction.serve.injEq, reduceCtorEq, List.not_mem_nil,
      or_false] at member
    rcases member with rfl | rfl | rfl | rfl | rfl <;>
      simp [SiteRequest.actor, AccountAction.actor, EdgeRequest.actor] at isActor

end GraffiTab
