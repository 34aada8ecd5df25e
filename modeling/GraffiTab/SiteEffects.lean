/-
This file shows of each operation of the site what it does to the rows of all tables.
-/

import GraffiTab.Ownership
import GraffiTab.Sessions
import GraffiTab.SiteRows
import GraffiTab.TextLimits

namespace GraffiTab

open Tables Histories

section Effects

variable {mayHide : Hideable → Prop} {store middle next : Store}

theorem siteEffect_transaction {Value : Type} {body : Transaction Value}
    (commits : ∀ value next, body store = .ok (value, next) → SiteEffect mayHide store next) :
    SiteEffect mayHide store (transaction body store).1 :=
  transaction_keeps (SiteEffect mayHide store) (.refl store) commits

theorem siteEffect_executeInTransaction {Value : Type} {body : Transaction Value}
    (commits : ∀ value next, body store = .ok (value, next) → SiteEffect mayHide store next) :
    SiteEffect mayHide store (executeInTransactionWithResult body store).1 :=
  executeInTransactionWithResult_keeps (SiteEffect mayHide store) (.refl store) commits

/-! ### Accounts -/

theorem hasUser_of_mem {user : User} (stored : user ∈ store.users.rows) :
    store.Has (.user user.id) :=
  ⟨user, stored, rfl⟩

theorem hasUser_of_loadCurrentUser {currentUserId : Long} {user : User}
    (loaded : loadCurrentUser currentUserId store = .ok user) : store.Has (.user user.id) :=
  hasUser_of_mem (Table.mem_of_find (loadCurrentUser_ok.mp loaded))

theorem siteEffect_saveUser {found changed : User} (stored : found ∈ store.users.rows)
    (later : found.Later changed) : SiteEffect mayHide store (store.saveUser changed) :=
  siteEffect_users store.lastAssetId (.set User.Later.refl stored later.1 later)

theorem accountStep_siteEffect {environment : Environment} {state after : AccountState}
    {action : AccountAction} (taken : accountStep environment state action = some after) :
    SiteEffect mayHide state.store after.store := by
  cases action with
  | createUser user guid userToken salt now =>
      simp only [accountStep, Option.ite_none_right_eq_some, Option.some.injEq] at taken
      obtain ⟨-, rfl⟩ := taken
      rcases createUser_cases environment user guid userToken salt now state.store with
        ⟨thrown, same⟩ | ⟨row, lastAssetId, -, -, same⟩
      · rw [same]
        exact .refl _
      · rw [same]
        exact siteEffect_users lastAssetId (.insert User.Later.refl _ _)
  | createExternalUser user account guid salt generated now =>
      obtain rfl := Option.some.inj taken
      rcases createExternalUser_cases environment user account guid salt generated now state.store
        with same | ⟨row, lastAssetId, -, -, same⟩
      · show SiteEffect mayHide state.store (createExternalUser _ _ _ _ _ _ _ _).1
        rw [same]
        exact .refl _
      · show SiteEffect mayHide state.store (createExternalUser _ _ _ _ _ _ _ _).1
        rw [same]
        have inserted : SiteEffect mayHide state.store
            { state.store with users := state.store.users.insert row, lastAssetId } :=
          siteEffect_users lastAssetId (.insert User.Later.refl state.store.users row)
        refine inserted.trans (siteEffect_externalProviders (.insert _ fun reference refers => ?_))
        rw [List.mem_singleton.mp refers]
        exact ⟨_, Table.mem_insert.mpr (.inr rfl), rfl⟩
  | editUser currentUserId toEdit now =>
      obtain rfl := Option.some.inj taken
      refine siteEffect_transaction fun edited next returned => ?_
      obtain ⟨found, checked, -, rfl⟩ := editUser_ok environment returned
      exact siteEffect_saveUser (checkEditUser_ok environment checked).1 (.refl found)
  | activateUser token now =>
      obtain rfl := Option.some.inj taken
      refine siteEffect_executeInTransaction fun changed next returned => ?_
      obtain ⟨found, answer, -, -, rfl, rfl⟩ := activateUserBody_ok returned
      exact siteEffect_saveUser (findUsersWithMetadataValues_eq_some.mp answer).1.1 (.refl found)
  | resetPassword email token now =>
      simp only [accountStep, Option.ite_none_right_eq_some, Option.some.injEq] at taken
      obtain ⟨-, rfl⟩ := taken
      refine siteEffect_executeInTransaction fun changed next returned => ?_
      obtain ⟨found, answer, rfl, rfl⟩ := resetPasswordBody_ok returned
      exact siteEffect_saveUser (findByEmail_eq_some answer).1 (.refl found)
  | completePasswordReset token salt newPassword now =>
      obtain rfl := Option.some.inj taken
      refine siteEffect_transaction fun changed next returned => ?_
      obtain ⟨found, answer, -, -, rfl, rfl⟩ := completePasswordResetBody_ok returned
      have stored := (findUsersWithMetadataValues_eq_some.mp answer).1.1
      have saved : SiteEffect mayHide state.store
          (state.store.saveUser (withResetPassword environment found salt newPassword)) :=
        siteEffect_saveUser stored (.refl found)
      exact saved.trans (siteEffect_sessions (.remove _ _))
  | changePassword currentUserId currentPassword salt newPassword session now =>
      obtain rfl := Option.some.inj taken
      refine siteEffect_transaction fun changed next returned => ?_
      obtain ⟨found, known, -, -, rfl, rfl⟩ := changePasswordBody_ok returned
      have stored := Table.mem_of_find known
      have saved : SiteEffect mayHide state.store
          (state.store.saveUser (withChangedPassword environment found salt newPassword now)) :=
        siteEffect_saveUser stored (.refl found)
      exact saved.trans (siteEffect_sessions (.remove _ _))
  | updateLoginAttempts usernameOrEmail =>
      obtain rfl := Option.some.inj taken
      show SiteEffect mayHide state.store
        (updateLoginAttempts environment usernameOrEmail state.store).1
      rw [updateLoginAttempts_store]
      refine siteEffect_executeInTransaction fun locked next returned => ?_
      obtain ⟨found, answer, outcome⟩ := updateLoginAttemptsBody_ok returned
      have stored := mem_of_findByUsernameOrEmail answer
      rcases outcome with ⟨-, rfl⟩ | ⟨-, rfl⟩
      · exact siteEffect_saveUser stored (.refl found)
      · exact siteEffect_saveUser stored (.refl found)
  | resetLoginAttempts usernameOrEmail =>
      obtain rfl := Option.some.inj taken
      show SiteEffect mayHide state.store
        (resetLoginAttempts environment usernameOrEmail state.store).1
      rcases resetLoginAttempts_cases environment state.store usernameOrEmail with
        same | ⟨found, stored, same⟩
      · rw [same]
        exact .refl _
      · rw [same]
        exact siteEffect_saveUser stored (.refl found)

/-- A copy of a user that is merged is a version of the user in the table. -/
theorem siteEffect_mergeUser {storedUser cleared : User} (lastAssetId : Long)
    (known : ∃ row ∈ store.users.rows, storedUser.Later row) (later : storedUser.Later cleared) :
    SiteEffect mayHide store { store.saveUser cleared with lastAssetId } := by
  obtain ⟨row, stored, id, guid, username, createdOn⟩ := known
  obtain ⟨clearedId, clearedGuid, clearedName, clearedDate⟩ := later
  have rowLater : row.Later cleared := ⟨clearedId.trans id.symm, clearedGuid.trans guid.symm,
    clearedName.trans username.symm, clearedDate.trans createdOn.symm⟩
  exact siteEffect_users lastAssetId (.set User.Later.refl stored rowLater.1 rowLater)

theorem withImageAsset_later (user : User) (image : UserImageAsset) (asset : Option Asset)
    (updatedOn : Option Long) :
    user.Later { user.withImageAsset image asset with updatedOn } := by
  cases image <;> exact .refl user

theorem mergeWithoutImage_siteEffect {storedUser : User} (image : UserImageAsset) (now : Long)
    (known : ∃ row ∈ store.users.rows, storedUser.Later row) :
    SiteEffect mayHide store (transaction (mergeWithoutImage image storedUser now) store).1 := by
  refine siteEffect_transaction fun value next returned => ?_
  have later := withImageAsset_later storedUser image none (some now)
  unfold mergeWithoutImage at returned
  split at returned
  · exact absurd returned throw_ne_ok
  split at returned
  · obtain ⟨-, rfl⟩ := Prod.mk.inj (Except.ok.inj returned)
    exact siteEffect_mergeUser store.lastAssetId known later
  split at returned
  · obtain ⟨-, rfl⟩ := Prod.mk.inj (Except.ok.inj returned)
    exact siteEffect_mergeUser store.lastAssetId known later
  split at returned
  · exact absurd returned throw_ne_ok
  · obtain ⟨-, rfl⟩ := Prod.mk.inj (Except.ok.inj returned)
    refine siteEffect_mergeUser (store.lastAssetId + 1) known ?_
    exact later.trans _ _ _ (withImageAsset_later _ image.other _ _)

theorem replaceUserImageAsset_siteEffect (currentUserId : Long) (image : UserImageAsset)
    (guid : String) (now : Long) (store : Store) :
    SiteEffect mayHide store
      (transaction (replaceUserImageAsset currentUserId image guid now) store).1 := by
  refine siteEffect_transaction fun previous next returned => ?_
  unfold replaceUserImageAsset at returned
  split at returned
  · exact absurd returned throw_ne_ok
  · rename_i user found
    obtain ⟨-, rfl⟩ := Prod.mk.inj (Except.ok.inj returned)
    exact siteEffect_mergeUser _ ⟨user, Table.mem_of_find found, .refl user⟩
      (withImageAsset_later user image _ _)

/-- The completion of an asset changes nothing but assets. -/
theorem completeAsset_siteEffect (guid : String) (store : Store) :
    SiteEffect mayHide store (transaction (completeAsset guid) store).1 := by
  refine siteEffect_transaction fun value next returned => ?_
  obtain ⟨found, -, rest⟩ := bind_eq_ok.mp returned
  cases found with
  | none => exact absurd rest throw_ne_ok
  | some toUpdate =>
      obtain ⟨-, rfl⟩ := Prod.mk.inj (Except.ok.inj rest)
      have changed : SiteEffect mayHide store { store with
          users := (store.mapAssets fun asset =>
            if asset = toUpdate then { asset with state := .completed } else asset).users } :=
        siteEffect_users store.lastAssetId (.map _ fun user _ => .refl user)
      exact changed.trans
        (siteEffect_streamables _ (.map _ fun _ _ => ⟨rfl, rfl, rfl, rfl, fun deleted => deleted,
          fun flagged => flagged, fun _ => ⟨fun notDeleted => notDeleted, fun isOpen => isOpen⟩⟩)
          (.map _ fun _ => rfl))

/-! ### Streamables and comments -/

theorem siteEffect_saveStreamable {old new : Streamable} (stored : old ∈ store.streamables.rows)
    (later : Streamable.Later mayHide old new) (lastAssetId : Long) :
    SiteEffect mayHide store { store.saveStreamable new with lastAssetId } :=
  siteEffect_streamables lastAssetId (.set Streamable.Later.refl stored later.1 later)
    (.set stored (congrArg (fun userId => [RowReference.user userId]) later.2.1))

theorem changeStreamable_siteEffect (currentUserId : Long) {streamableId : Long}
    {change : Streamable → Streamable}
    (later : ∀ row, row.id = streamableId → Streamable.Later mayHide row (change row))
    (store : Store) :
    SiteEffect mayHide store
      (transaction (changeStreamable currentUserId streamableId change) store).1 := by
  refine siteEffect_transaction fun changed next returned => ?_
  obtain ⟨streamable, found, rest⟩ := bind_eq_ok.mp returned
  obtain ⟨-, rfl⟩ := Prod.mk.inj (Except.ok.inj rest)
  have stored := (find_of_ownStreamable found).1
  exact siteEffect_saveStreamable (Table.mem_of_find stored)
    (later streamable (Table.id_of_find stored)) store.lastAssetId

theorem deleteStreamable_siteEffect (currentUserId : Long) {streamableId : Long}
    (hides : mayHide (.streamable streamableId)) (store : Store) :
    SiteEffect mayHide store
      (transaction (deleteStreamable currentUserId streamableId) store).1 := by
  refine changeStreamable_siteEffect currentUserId (fun row isRow => ?_) store
  exact ⟨rfl, rfl, rfl, rfl, fun _ => rfl, fun flagged => flagged,
    fun hidesNot => absurd (isRow ▸ hides) hidesNot⟩

theorem makePublicOrPrivate_siteEffect (currentUserId : Long) {streamableId : Long}
    {isPrivate : Bool} (hides : isPrivate = true → mayHide (.streamable streamableId))
    (store : Store) :
    SiteEffect mayHide store
      (transaction (makePublicOrPrivate currentUserId streamableId isPrivate) store).1 := by
  refine changeStreamable_siteEffect currentUserId (fun row isRow => ?_) store
  refine ⟨rfl, rfl, rfl, rfl, fun deleted => deleted, fun flagged => flagged,
    fun hidesNot => ⟨fun notDeleted => notDeleted, fun _ => ?_⟩⟩
  exact Bool.eq_false_iff.mpr fun madePrivate => hidesNot (isRow ▸ hides madePrivate)

theorem editStreamableGraffiti_siteEffect (currentUserId streamableId : Long)
    (dto : StreamableGraffitiDto) (transferred : Bool) (guid : String) (now : Long)
    (store : Store) :
    SiteEffect mayHide store
      (editStreamableGraffiti currentUserId streamableId dto transferred guid now store).1 := by
  unfold editStreamableGraffiti
  split
  · exact .refl store
  · exact .refl store
  refine siteEffect_executeInTransaction fun edited next returned => ?_
  obtain ⟨streamable, owned, rest⟩ := bind_eq_ok.mp returned
  split at rest
  · exact absurd rest throw_ne_ok
  obtain ⟨-, rfl⟩ := Prod.mk.inj (Except.ok.inj rest)
  refine siteEffect_saveStreamable (Table.mem_of_find (find_of_ownStreamable owned).1) ?_ _
  exact ⟨rfl, rfl, rfl, rfl, fun deleted => deleted, fun flagged => flagged,
    fun _ => ⟨fun notDeleted => notDeleted, fun isOpen => isOpen⟩⟩

/-- A new streamable refers to its creator. -/
theorem createStreamable_siteEffect {currentUserId now : Long} {dto : StreamableGraffitiDto}
    {asset : Long → Asset} {streamable : Streamable}
    (returned : createStreamableInTransaction currentUserId dto asset now store =
      .ok (streamable, next)) :
    SiteEffect mayHide store next ∧ streamable ∈ next.streamables.rows := by
  obtain ⟨currentUser, loaded, rest⟩ := bind_eq_ok.mp returned
  obtain ⟨rfl, rfl⟩ := Prod.mk.inj (Except.ok.inj rest)
  refine ⟨?_, Table.mem_insert.mpr (.inr rfl)⟩
  refine siteEffect_streamables _ (.insert Streamable.Later.refl _ _)
    (.insert _ fun reference refers => ?_)
  rw [List.mem_singleton.mp refers]
  exact hasUser_of_loadCurrentUser loaded

theorem changeComment_siteEffect (currentUserId streamableId : Long) {commentId : Long}
    {change : Comment → Comment}
    (later : ∀ row, row.id = commentId → Comment.Later mayHide row (change row)) (store : Store) :
    SiteEffect mayHide store
      (transaction (changeComment currentUserId streamableId commentId change) store).1 := by
  refine siteEffect_transaction fun changed next returned => ?_
  unfold changeComment at returned
  split at returned
  · exact absurd returned throw_ne_ok
  split at returned
  · exact absurd returned throw_ne_ok
  rename_i comment known
  obtain ⟨currentUser, -, rest⟩ := bind_eq_ok.mp returned
  split at rest
  · obtain ⟨-, rfl⟩ := Prod.mk.inj (Except.ok.inj rest)
    have stored := Table.mem_of_find known
    have after := later comment (Table.id_of_find known)
    refine siteEffect_comments (.set Comment.Later.refl stored after.1 after) (.set stored ?_)
    rw [Comment.references, after.2.1, after.2.2.1]
    rfl
  · exact absurd rest throw_ne_ok

theorem postComment_siteEffect (currentUserId streamableId : Long) (text : String) (now : Long)
    (store : Store) :
    SiteEffect mayHide store
      (executeInTransactionWithResult (postCommentBody currentUserId streamableId text now)
        store).1 := by
  refine siteEffect_executeInTransaction fun comment next returned => ?_
  unfold postCommentBody at returned
  split at returned
  · exact absurd returned throw_ne_ok
  rename_i streamable found
  obtain ⟨currentUser, loaded, rest⟩ := bind_eq_ok.mp returned
  obtain ⟨-, rfl⟩ := Prod.mk.inj (Except.ok.inj rest)
  refine siteEffect_comments (.insert Comment.Later.refl _ _) (.insert _ ?_)
  exact List.forall_mem_cons.mpr ⟨hasUser_of_loadCurrentUser loaded,
    List.forall_mem_singleton.mpr ⟨streamable, Table.mem_of_find found, rfl⟩⟩

theorem flag_siteEffect (streamableId : Long) (store : Store) :
    SiteEffect mayHide store (executeInTransactionWithResult (flagBody streamableId) store).1 := by
  refine siteEffect_executeInTransaction fun value next returned => ?_
  unfold flagBody at returned
  split at returned
  · exact absurd returned throw_ne_ok
  rename_i streamable found
  split at returned
  · obtain ⟨-, rfl⟩ := Prod.mk.inj (Except.ok.inj returned)
    exact .refl store
  · obtain ⟨-, rfl⟩ := Prod.mk.inj (Except.ok.inj returned)
    refine siteEffect_saveStreamable (Table.mem_of_find found) ?_ store.lastAssetId
    exact ⟨rfl, rfl, rfl, rfl, fun deleted => deleted, fun _ => rfl,
      fun _ => ⟨fun notDeleted => notDeleted, fun isOpen => isOpen⟩⟩

/-! ### Locations, devices and external providers -/

theorem createLocation_siteEffect (currentUserId : Long) (address : Option String)
    (latitude longitude : Option Rat) (now : Long) (store : Store) :
    SiteEffect mayHide store
      (transaction (createLocation currentUserId address latitude longitude now) store).1 := by
  refine siteEffect_transaction fun created next returned => ?_
  obtain ⟨currentUser, loaded, rest⟩ := bind_eq_ok.mp returned
  split at rest
  · obtain ⟨-, rfl⟩ := Prod.mk.inj (Except.ok.inj rest)
    refine siteEffect_locations (.insert _ fun reference refers => ?_)
    rw [List.mem_singleton.mp refers]
    exact hasUser_of_loadCurrentUser loaded
  · exact absurd rest throw_ne_ok

theorem editLocation_siteEffect (currentUserId locationId : Long) (address : Option String)
    (latitude longitude : Option Rat) (now : Long) (store : Store) :
    SiteEffect mayHide store
      (transaction (editLocation currentUserId locationId address latitude longitude now)
        store).1 := by
  refine siteEffect_transaction fun edited next returned => ?_
  unfold editLocation at returned
  split at returned
  · exact absurd returned throw_ne_ok
  rename_i toEdit known
  obtain ⟨currentUser, -, rest⟩ := bind_eq_ok.mp returned
  split at rest
  · split at rest
    · obtain ⟨-, rfl⟩ := Prod.mk.inj (Except.ok.inj rest)
      exact siteEffect_locations (.set (Table.mem_of_find known) rfl)
    · exact absurd rest throw_ne_ok
  · exact absurd rest throw_ne_ok

theorem deleteLocation_siteEffect (currentUserId locationId : Long) (store : Store) :
    SiteEffect mayHide store (transaction (deleteLocation currentUserId locationId) store).1 := by
  refine siteEffect_transaction fun _ next returned => ?_
  unfold deleteLocation at returned
  split at returned
  · exact absurd returned throw_ne_ok
  obtain ⟨currentUser, -, rest⟩ := bind_eq_ok.mp returned
  obtain ⟨-, rfl⟩ := Prod.mk.inj (Except.ok.inj rest)
  exact siteEffect_locations (.remove _ _)

theorem registerDevice_siteEffect (platform : Platform) (currentUserId : Long) (token : String)
    (osType : OSType) (store : Store) :
    SiteEffect mayHide store
      (transaction (registerDevice platform currentUserId token osType) store).1 := by
  refine siteEffect_transaction fun _ next returned => ?_
  obtain ⟨device, -, afterwards⟩ := bind_eq_ok.mp returned
  obtain ⟨currentUser, loaded, rest⟩ := bind_eq_ok.mp afterwards
  cases device with
  | none =>
      obtain ⟨-, rfl⟩ := Prod.mk.inj (Except.ok.inj rest)
      refine siteEffect_devices (.insert _ fun reference refers => ?_)
      rw [List.mem_singleton.mp refers]
      exact hasUser_of_loadCurrentUser loaded
  | some device =>
      obtain ⟨-, rfl⟩ := Prod.mk.inj (Except.ok.inj rest)
      exact .refl store

theorem unregisterDevice_siteEffect (platform : Platform) (currentUserId : Long) (token : String)
    (osType : OSType) (store : Store) :
    SiteEffect mayHide store
      (transaction (unregisterDevice platform currentUserId token osType) store).1 := by
  refine siteEffect_transaction fun _ next returned => ?_
  obtain ⟨device, -, afterwards⟩ := bind_eq_ok.mp returned
  obtain ⟨currentUser, -, rest⟩ := bind_eq_ok.mp afterwards
  cases device with
  | none =>
      obtain ⟨-, rfl⟩ := Prod.mk.inj (Except.ok.inj rest)
      exact .refl store
  | some device =>
      obtain ⟨-, rfl⟩ := Prod.mk.inj (Except.ok.inj rest)
      exact siteEffect_devices (.remove _ _)

theorem linkExternalProvider_siteEffect (environment : Environment) (currentUserId : Long)
    (account : ExternalAccount) (store : Store) :
    SiteEffect mayHide store
      (transaction (linkExternalProvider environment currentUserId account) store).1 := by
  refine siteEffect_transaction fun _ next returned => ?_
  obtain ⟨currentUser, checked, rest⟩ := bind_eq_ok.mp returned
  obtain ⟨-, rfl⟩ := Prod.mk.inj (Except.ok.inj rest)
  have known := ((checkLinkExternalProvider_ok environment).mp checked).1
  refine siteEffect_externalProviders (.insert _ fun reference refers => ?_)
  rw [List.mem_singleton.mp refers]
  exact hasUser_of_mem (Table.mem_of_find known)

theorem unlinkExternalProvider_siteEffect (currentUserId : Long) (type : ExternalProviderType)
    (store : Store) :
    SiteEffect mayHide store (transaction (unlinkExternalProvider currentUserId type) store).1 := by
  refine siteEffect_transaction fun _ next returned => ?_
  unfold unlinkExternalProvider at returned
  split at returned
  · exact absurd returned throw_ne_ok
  obtain ⟨found, -, rest⟩ := bind_eq_ok.mp returned
  cases found with
  | none => exact absurd rest throw_ne_ok
  | some provider =>
      obtain ⟨-, rfl⟩ := Prod.mk.inj (Except.ok.inj rest)
      exact siteEffect_externalProviders (.remove _ _)

/-! ### Notifications -/

theorem markSingleNotificationAsRead_siteEffect {notificationId : Long} {read : Notification}
    (marked : markSingleNotificationAsRead notificationId store = .ok (read, next)) :
    SiteEffect mayHide store next := by
  obtain ⟨inner, found, rfl, rfl⟩ := markSingleNotificationAsRead_ok.mp marked
  have stored := Table.mem_of_find found
  exact siteEffect_notifications
    (.set Notification.Later.refl stored rfl ⟨rfl, rfl, rfl, rfl, fun _ => rfl⟩) (.set stored rfl)

theorem markNotificationAsRead_siteEffect (notificationId : Option Long) (store : Store) :
    SiteEffect mayHide store (transaction (markNotificationAsRead notificationId) store).1 := by
  refine siteEffect_transaction fun _ next returned => ?_
  unfold markNotificationAsRead at returned
  split at returned
  · exact absurd returned throw_ne_ok
  split at returned
  · rename_i marked
    obtain ⟨-, rfl⟩ := Prod.mk.inj (Except.ok.inj returned)
    exact markSingleNotificationAsRead_siteEffect marked
  · exact absurd returned throw_ne_ok

theorem markGroupNotificationsAsRead_siteEffect (notifications : List Notification)
    (returned : markGroupNotificationsAsRead notifications store = .ok ((), next)) :
    SiteEffect mayHide store next := by
  induction notifications generalizing store with
  | nil =>
      obtain ⟨-, rfl⟩ := Prod.mk.inj (Except.ok.inj returned)
      exact .refl store
  | cons notification rest inductionHypothesis =>
      rw [markGroupNotificationsAsRead] at returned
      split at returned
      · exact inductionHypothesis returned
      split at returned
      · rename_i marked
        exact (markSingleNotificationAsRead_siteEffect marked).trans (inductionHypothesis returned)
      · exact absurd returned throw_ne_ok

theorem markAllNotificationsAsRead_siteEffect (currentUserId oneMonthAgo : Long) (store : Store) :
    SiteEffect mayHide store
      (transaction (markAllNotificationsAsReadForCurrentUser currentUserId oneMonthAgo)
        store).1 := by
  refine siteEffect_transaction fun _ next returned => ?_
  obtain ⟨currentUser, -, rest⟩ := bind_eq_ok.mp returned
  exact markGroupNotificationsAsRead_siteEffect _ rest

/-- What the operation takes out of sight. -/
def WriteOperation.hides : WriteOperation → Option Hideable
  | .deleteStreamable streamableId => some (.streamable streamableId)
  | .makePublicOrPrivate streamableId true => some (.streamable streamableId)
  | .deleteComment _ commentId => some (.comment commentId)
  | _ => none

theorem WriteOperation.siteEffect (environment : Environment) (currentUserId : Long)
    (store : Store) (operation : WriteOperation) :
    SiteEffect (· ∈ operation.hides) store
      (operation.perform environment currentUserId store) := by
  cases operation with
  | editStreamableGraffiti streamableId dto transferred guid now =>
      exact editStreamableGraffiti_siteEffect currentUserId streamableId dto transferred guid now
        store
  | deleteStreamable streamableId =>
      refine deleteStreamable_siteEffect currentUserId ?_ store
      rfl
  | makePublicOrPrivate streamableId isPrivate =>
      refine makePublicOrPrivate_siteEffect currentUserId (fun madePrivate => ?_) store
      rw [madePrivate]
      rfl
  | editComment streamableId commentId newText now =>
      refine changeComment_siteEffect currentUserId streamableId (fun row _ => ?_) store
      exact ⟨rfl, rfl, rfl, rfl, fun deleted => deleted, fun _ notDeleted => notDeleted⟩
  | deleteComment streamableId commentId =>
      refine changeComment_siteEffect currentUserId streamableId (fun row isRow => ?_) store
      exact ⟨rfl, rfl, rfl, rfl, fun _ => rfl, fun hidesNot => absurd (isRow ▸ rfl) hidesNot⟩
  | editLocation locationId address latitude longitude now =>
      exact editLocation_siteEffect currentUserId locationId address latitude longitude now store
  | deleteLocation locationId => exact deleteLocation_siteEffect currentUserId locationId store
  | registerDevice token osType => 
      exact registerDevice_siteEffect environment.platform currentUserId token osType store
  | unregisterDevice token osType =>
      exact unregisterDevice_siteEffect environment.platform currentUserId token osType store
  | linkExternalProvider account =>
      exact linkExternalProvider_siteEffect environment currentUserId account store
  | unlinkExternalProvider type => exact unlinkExternalProvider_siteEffect currentUserId type store
  | markNotificationAsRead notificationId =>
      exact markNotificationAsRead_siteEffect notificationId store
  | markAllNotificationsAsRead oneMonthAgo =>
      exact markAllNotificationsAsRead_siteEffect currentUserId oneMonthAgo store

/-! ### Sessions -/

theorem mergeUser_siteEffect {detached : User}
    (known : ∃ row ∈ store.users.rows, detached.Later row) :
    SiteEffect mayHide store (store.mergeUser detached) := by
  unfold Store.mergeUser
  split
  · rename_i stored found
    exact siteEffect_mergeUser store.lastAssetId known (.refl detached)
  · exact .refl store

theorem saveOrUpdateSessionData_siteEffect {platform : Platform} {sessionId : String}
    {currentUser : User} {now : Long} (known : ∃ row ∈ store.users.rows, currentUser.Later row)
    (returned : saveOrUpdateSessionData platform sessionId currentUser now store =
      .ok ((), next)) :
    SiteEffect mayHide store next := by
  obtain ⟨found, -, rest⟩ := bind_eq_ok.mp returned
  cases found with
  | none =>
      obtain ⟨-, rfl⟩ := Prod.mk.inj (Except.ok.inj rest)
      have saved : SiteEffect mayHide store (store.mergeUser currentUser) :=
        mergeUser_siteEffect known
      obtain ⟨row, stored, later⟩ := known
      have there : store.Has (.user currentUser.id) := ⟨row, stored, later.1⟩
      refine saved.trans (siteEffect_sessions (.insert _ fun reference refers => ?_))
      rw [List.mem_singleton.mp refers]
      exact saved.has there
  | some row =>
      obtain ⟨-, rfl⟩ := Prod.mk.inj (Except.ok.inj rest)
      exact .refl store

theorem touchSession_siteEffect (platform : Platform) (sessionId : String) (now : Long)
    (store : Store) :
    SiteEffect mayHide store (transaction (touchSession platform sessionId now) store).1 := by
  refine siteEffect_transaction fun _ next returned => ?_
  obtain ⟨found, answer, rest⟩ := bind_eq_ok.mp returned
  cases found with
  | none =>
      obtain ⟨-, rfl⟩ := Prod.mk.inj (Except.ok.inj rest)
      exact .refl store
  | some row =>
      obtain ⟨-, rfl⟩ := Prod.mk.inj (Except.ok.inj rest)
      have stored := (Table.mem_select.mp (uniqueResult_eq_some.mp answer).1).1
      exact siteEffect_sessions (.set stored rfl)

theorem deleteSession_siteEffect (platform : Platform) (sessionId : String) (store : Store) :
    SiteEffect mayHide store (transaction (deleteSession platform sessionId) store).1 :=
  siteEffect_sessions (.remove _ _)

theorem restoreFromDb_siteEffect (platform : Platform) (requestedSessionId created : String)
    (now : Long) (store : Store) :
    SiteEffect mayHide store
      (transaction (restoreFromDb platform requestedSessionId created now) store).1 := by
  refine siteEffect_transaction fun user next returned => ?_
  obtain ⟨found, -, rest⟩ := bind_eq_ok.mp returned
  cases found with
  | none =>
      obtain ⟨-, rfl⟩ := Prod.mk.inj (Except.ok.inj rest)
      exact .refl store
  | some persisted =>
      simp only at rest
      split at rest
      · exact absurd rest throw_ne_ok
      rename_i user known
      obtain ⟨⟨⟨⟩, saved⟩, save, rest⟩ := bind_eq_ok.mp rest
      obtain ⟨-, rfl⟩ := Prod.mk.inj (Except.ok.inj rest)
      exact saveOrUpdateSessionData_siteEffect ⟨user, Table.mem_of_find known, .refl user⟩ save

end Effects

end GraffiTab
