/-
This file asks whether a user can change what belongs to another user.

`UnchangedFor` compares two stores on the rows of some of the users in six tables. Each
operation either compares the user of an entity with the current one or deletes from the
current user's own list, with one exception: marking a notification as read takes the
identifier of any notification. The operation changes another user's row exactly when
the notification is another user's and was not read.
-/

import GraffiTab.Library.Runs
import GraffiTab.Writes

namespace GraffiTab

open Tables

/-- Every streamable, comment, location, device, external provider and notification whose user
satisfies the condition is the same in both stores. -/
structure UnchangedFor (Owner : Long → Prop) (store next : Store) : Prop where
  streamables : Table.AgreeOn (fun row : Streamable => Owner row.userId)
    store.streamables next.streamables
  comments : Table.AgreeOn (fun row : Comment => Owner row.userId) store.comments next.comments
  locations : Table.AgreeOn (fun row : Location => Owner row.userId)
    store.locations next.locations
  devices : Table.AgreeOn (fun row : Device => Owner row.userId) store.devices next.devices
  externalProviders : Table.AgreeOn (fun row : ExternalProvider => Owner row.userId)
    store.externalProviders next.externalProviders
  notifications : Table.AgreeOn (fun row : Notification => Owner row.userId)
    store.notifications next.notifications

/-- What belongs to a user other than the given one is the same in both stores. -/
abbrev OthersUnchanged (currentUserId : Long) (store next : Store) : Prop :=
  UnchangedFor (fun userId => userId ≠ currentUserId) store next

/-! ### The operations -/

/-- The operations by which a user changes an entity, with what a request gives them. -/
inductive WriteOperation where
  | editStreamableGraffiti (streamableId : Long) (dto : StreamableGraffitiDto)
      (transferred : Bool) (guid : String) (now : Long)
  | deleteStreamable (streamableId : Long)
  | makePublicOrPrivate (streamableId : Long) (isPrivate : Bool)
  | editComment (streamableId commentId : Long) (newText : String) (now : Long)
  | deleteComment (streamableId commentId : Long)
  | editLocation (locationId : Long) (address : Option String) (latitude longitude : Option Rat)
      (now : Long)
  | deleteLocation (locationId : Long)
  | registerDevice (token : String) (osType : OSType)
  | unregisterDevice (token : String) (osType : OSType)
  | linkExternalProvider (account : ExternalAccount)
  | unlinkExternalProvider (type : ExternalProviderType)
  | markNotificationAsRead (notificationId : Option Long)
  | markAllNotificationsAsRead (oneMonthAgo : Long)

/-- The store after an operation of the current user, whether it returned or threw. -/
def WriteOperation.perform (environment : Environment) (currentUserId : Long) (store : Store) :
    WriteOperation → Store
  | .editStreamableGraffiti streamableId dto transferred guid now =>
      (GraffiTab.editStreamableGraffiti currentUserId streamableId dto transferred guid now
        store).1
  | .deleteStreamable streamableId =>
      (transaction (GraffiTab.deleteStreamable currentUserId streamableId) store).1
  | .makePublicOrPrivate streamableId isPrivate =>
      (transaction (GraffiTab.makePublicOrPrivate currentUserId streamableId isPrivate) store).1
  | .editComment streamableId commentId newText now =>
      (transaction (GraffiTab.editComment currentUserId streamableId commentId newText now)
        store).1
  | .deleteComment streamableId commentId =>
      (transaction (GraffiTab.deleteComment currentUserId streamableId commentId) store).1
  | .editLocation locationId address latitude longitude now =>
      (transaction
        (GraffiTab.editLocation currentUserId locationId address latitude longitude now) store).1
  | .deleteLocation locationId =>
      (transaction (GraffiTab.deleteLocation currentUserId locationId) store).1
  | .registerDevice token osType =>
      (transaction (GraffiTab.registerDevice environment.platform currentUserId token osType)
        store).1
  | .unregisterDevice token osType =>
      (transaction (GraffiTab.unregisterDevice environment.platform currentUserId token osType)
        store).1
  | .linkExternalProvider account =>
      (transaction (GraffiTab.linkExternalProvider environment currentUserId account) store).1
  | .unlinkExternalProvider type =>
      (transaction (GraffiTab.unlinkExternalProvider currentUserId type) store).1
  | .markNotificationAsRead notificationId =>
      (transaction (GraffiTab.markNotificationAsRead notificationId) store).1
  | .markAllNotificationsAsRead oneMonthAgo =>
      (transaction (markAllNotificationsAsReadForCurrentUser currentUserId oneMonthAgo) store).1

/-- The operation marks an unread notification of another user. -/
def MarksForeignNotification (currentUserId : Long) (store : Store) (operation : WriteOperation) :
    Prop :=
  ∃ notification ∈ store.notifications.rows,
    operation = .markNotificationAsRead (some notification.id) ∧
      notification.userId ≠ currentUserId ∧ notification.isRead = false

/-! ### What stays unchanged -/

section Unchanged

variable {Owner : Long → Prop} {currentUserId : Long} {store middle next : Store}

theorem UnchangedFor.refl (store : Store) : UnchangedFor Owner store store :=
  ⟨.refl _, .refl _, .refl _, .refl _, .refl _, .refl _⟩

theorem UnchangedFor.trans (first : UnchangedFor Owner store middle)
    (second : UnchangedFor Owner middle next) : UnchangedFor Owner store next where
  streamables := first.streamables.trans second.streamables
  comments := first.comments.trans second.comments
  locations := first.locations.trans second.locations
  devices := first.devices.trans second.devices
  externalProviders := first.externalProviders.trans second.externalProviders
  notifications := first.notifications.trans second.notifications

/-- What is the same for every user but one is the same for each of them. -/
theorem UnchangedFor.mono {Narrower : Long → Prop} (unchanged : UnchangedFor Owner store next)
    (narrower : ∀ userId, Narrower userId → Owner userId) : UnchangedFor Narrower store next where
  streamables row owner := unchanged.streamables row (narrower _ owner)
  comments row owner := unchanged.comments row (narrower _ owner)
  locations row owner := unchanged.locations row (narrower _ owner)
  devices row owner := unchanged.devices row (narrower _ owner)
  externalProviders row owner := unchanged.externalProviders row (narrower _ owner)
  notifications row owner := unchanged.notifications row (narrower _ owner)

/-- What a body leaves unchanged whenever it returns, its transaction leaves unchanged. -/
theorem othersUnchanged_transaction {Value : Type} {body : Transaction Value}
    (unchanged : ∀ value next, body store = .ok (value, next) →
      OthersUnchanged currentUserId store next) :
    OthersUnchanged currentUserId store (transaction body store).1 :=
  transaction_keeps (OthersUnchanged currentUserId store) (.refl store) unchanged

theorem othersUnchanged_executeInTransaction {Value : Type} {body : Transaction Value}
    (unchanged : ∀ value next, body store = .ok (value, next) →
      OthersUnchanged currentUserId store next) :
    OthersUnchanged currentUserId store (executeInTransactionWithResult body store).1 :=
  executeInTransactionWithResult_keeps (OthersUnchanged currentUserId store) (.refl store) unchanged

/-! ### Streamables and comments -/

theorem othersUnchanged_setStreamable {old new : Streamable}
    (stored : old ∈ store.streamables.rows) (own : old.userId = currentUserId)
    (sameId : new.id = old.id) (sameUser : new.userId = old.userId) (lastAssetId : Long) :
    OthersUnchanged currentUserId store
      { store with streamables := store.streamables.set new, lastAssetId } where
  streamables := Table.agreeOn_set _ stored sameId.symm (not_not.mpr own)
    (not_not.mpr (sameUser.trans own))
  comments := .refl _
  locations := .refl _
  devices := .refl _
  externalProviders := .refl _
  notifications := .refl _

theorem editStreamableGraffitiBody_othersUnchanged {streamableId : Long}
    {dto : StreamableGraffitiDto} {guid : String} {now : Long} {edited : Streamable}
    (returned : editStreamableGraffitiBody currentUserId streamableId dto guid now store =
      .ok (edited, next)) : OthersUnchanged currentUserId store next := by
  obtain ⟨streamable, found, rest⟩ := bind_eq_ok.mp returned
  obtain ⟨known, own⟩ := find_of_ownStreamable found
  have stored := Table.mem_of_find known
  split at rest
  · exact absurd rest throw_ne_ok
  · obtain ⟨same, rfl⟩ := Prod.mk.inj (Except.ok.inj rest)
    rw [same]
    have sameId : edited.id = streamable.id := by rw [← same]
    have sameUser : edited.userId = streamable.userId := by rw [← same]
    exact othersUnchanged_setStreamable stored own sameId sameUser _

theorem editStreamableGraffiti_othersUnchanged (streamableId : Long) (dto : StreamableGraffitiDto)
    (transferred : Bool) (guid : String) (now : Long) (store : Store) :
    OthersUnchanged currentUserId store
      (editStreamableGraffiti currentUserId streamableId dto transferred guid now store).1 := by
  unfold editStreamableGraffiti
  split
  · exact .refl store
  · exact .refl store
  · exact othersUnchanged_executeInTransaction fun _ _ returned =>
      editStreamableGraffitiBody_othersUnchanged returned

/-- A change that keeps the identifier and the user of a streamable changes no other user's. -/
theorem changeStreamable_othersUnchanged {streamableId : Long} (change : Streamable → Streamable)
    (sameId : ∀ streamable, (change streamable).id = streamable.id)
    (sameUser : ∀ streamable, (change streamable).userId = streamable.userId) (store : Store) :
    OthersUnchanged currentUserId store
      (transaction (changeStreamable currentUserId streamableId change) store).1 := by
  refine othersUnchanged_transaction fun changed next returned => ?_
  obtain ⟨streamable, found, rest⟩ := bind_eq_ok.mp returned
  obtain ⟨-, rfl⟩ := Prod.mk.inj (Except.ok.inj rest)
  obtain ⟨known, own⟩ := find_of_ownStreamable found
  exact othersUnchanged_setStreamable (Table.mem_of_find known) own (sameId streamable)
    (sameUser streamable)
    store.lastAssetId

theorem changeComment_othersUnchanged {streamableId commentId : Long} (change : Comment → Comment)
    (sameId : ∀ comment, (change comment).id = comment.id)
    (sameUser : ∀ comment, (change comment).userId = comment.userId) (store : Store) :
    OthersUnchanged currentUserId store
      (transaction (changeComment currentUserId streamableId commentId change) store).1 := by
  refine othersUnchanged_transaction fun changed next returned => ?_
  unfold changeComment at returned
  split at returned
  · exact absurd returned throw_ne_ok
  split at returned
  · exact absurd returned throw_ne_ok
  · rename_i comment known
    obtain ⟨currentUser, loaded, rest⟩ := bind_eq_ok.mp returned
    split at rest
    · rename_i own
      obtain ⟨-, rfl⟩ := Prod.mk.inj (Except.ok.inj rest)
      have isOwn : comment.userId = currentUserId :=
        own.symm.trans (id_of_loadCurrentUser loaded)
      refine ⟨.refl _, ?_, .refl _, .refl _, .refl _, .refl _⟩
      exact Table.agreeOn_set _ (Table.mem_of_find known) (sameId comment).symm
        (not_not.mpr isOwn) (not_not.mpr ((sameUser comment).trans isOwn))
    · exact absurd rest throw_ne_ok

/-! ### Locations and devices -/

theorem editLocation_othersUnchanged (locationId : Long) (address : Option String)
    (latitude longitude : Option Rat) (now : Long) (store : Store) :
    OthersUnchanged currentUserId store
      (transaction (editLocation currentUserId locationId address latitude longitude now)
        store).1 := by
  refine othersUnchanged_transaction fun edited next returned => ?_
  unfold editLocation at returned
  split at returned
  · exact absurd returned throw_ne_ok
  rename_i toEdit known
  obtain ⟨currentUser, loaded, rest⟩ := bind_eq_ok.mp returned
  split at rest
  · rename_i own
    have isOwn : toEdit.userId = currentUserId := own.symm.trans (id_of_loadCurrentUser loaded)
    split at rest
    · obtain ⟨same, rfl⟩ := Prod.mk.inj (Except.ok.inj rest)
      rw [same]
      have sameId : edited.id = toEdit.id := by rw [← same]
      have sameUser : edited.userId = toEdit.userId := by rw [← same]
      refine ⟨.refl _, .refl _, ?_, .refl _, .refl _, .refl _⟩
      exact Table.agreeOn_set _ (Table.mem_of_find known) sameId.symm (not_not.mpr isOwn)
        (not_not.mpr (sameUser.trans isOwn))
    · exact absurd rest throw_ne_ok
  · exact absurd rest throw_ne_ok

/-- A location of another user is found, but it is not in the list from which it is removed. -/
theorem deleteLocation_othersUnchanged (locationId : Long) (store : Store) :
    OthersUnchanged currentUserId store
      (transaction (deleteLocation currentUserId locationId) store).1 := by
  refine othersUnchanged_transaction fun _ next returned => ?_
  unfold deleteLocation at returned
  split at returned
  · exact absurd returned throw_ne_ok
  obtain ⟨currentUser, loaded, rest⟩ := bind_eq_ok.mp returned
  obtain ⟨-, rfl⟩ := Prod.mk.inj (Except.ok.inj rest)
  refine ⟨.refl _, .refl _, ?_, .refl _, .refl _, .refl _⟩
  refine Table.agreeOn_remove _ fun row _ removed => not_not.mpr ?_
  have owned : row.userId = currentUser.id := by
    simp only [Bool.and_eq_true, decide_eq_true_eq] at removed
    exact removed.1
  exact owned.trans (id_of_loadCurrentUser loaded)

theorem registerDevice_othersUnchanged (platform : Platform) (token : String) (osType : OSType)
    (store : Store) :
    OthersUnchanged currentUserId store
      (transaction (registerDevice platform currentUserId token osType) store).1 := by
  refine othersUnchanged_transaction fun _ next returned => ?_
  obtain ⟨device, -, afterwards⟩ := bind_eq_ok.mp returned
  obtain ⟨currentUser, loaded, rest⟩ := bind_eq_ok.mp afterwards
  cases device with
  | none =>
      obtain ⟨-, rfl⟩ := Prod.mk.inj (Except.ok.inj rest)
      refine ⟨.refl _, .refl _, .refl _, ?_, .refl _, .refl _⟩
      exact Table.agreeOn_insert _ (not_not.mpr (id_of_loadCurrentUser loaded))
  | some device =>
      obtain ⟨-, rfl⟩ := Prod.mk.inj (Except.ok.inj rest)
      exact .refl store

theorem unregisterDevice_othersUnchanged (platform : Platform) (token : String) (osType : OSType)
    (store : Store) :
    OthersUnchanged currentUserId store
      (transaction (unregisterDevice platform currentUserId token osType) store).1 := by
  refine othersUnchanged_transaction fun _ next returned => ?_
  obtain ⟨device, -, afterwards⟩ := bind_eq_ok.mp returned
  obtain ⟨currentUser, loaded, rest⟩ := bind_eq_ok.mp afterwards
  cases device with
  | none =>
      obtain ⟨-, rfl⟩ := Prod.mk.inj (Except.ok.inj rest)
      exact .refl store
  | some device =>
      obtain ⟨-, rfl⟩ := Prod.mk.inj (Except.ok.inj rest)
      refine ⟨.refl _, .refl _, .refl _, ?_, .refl _, .refl _⟩
      refine Table.agreeOn_remove _ fun row _ removed => not_not.mpr ?_
      have owned : row.userId = currentUser.id := by
        simp only [Bool.and_eq_true, decide_eq_true_eq] at removed
        exact removed.1
      exact owned.trans (id_of_loadCurrentUser loaded)

/-! ### External providers -/

theorem linkExternalProvider_othersUnchanged (environment : Environment)
    (account : ExternalAccount) (store : Store) :
    OthersUnchanged currentUserId store
      (transaction (linkExternalProvider environment currentUserId account) store).1 := by
  refine othersUnchanged_transaction fun _ next returned => ?_
  obtain ⟨currentUser, checked, rest⟩ := bind_eq_ok.mp returned
  obtain ⟨-, rfl⟩ := Prod.mk.inj (Except.ok.inj rest)
  have known := ((checkLinkExternalProvider_ok environment).mp checked).1
  refine ⟨.refl _, .refl _, .refl _, .refl _, ?_, .refl _⟩
  exact Table.agreeOn_insert _ (not_not.mpr (Table.id_of_find known))

theorem unlinkExternalProvider_othersUnchanged (type : ExternalProviderType) (store : Store) :
    OthersUnchanged currentUserId store
      (transaction (unlinkExternalProvider currentUserId type) store).1 := by
  refine othersUnchanged_transaction fun _ next returned => ?_
  unfold unlinkExternalProvider at returned
  split at returned
  · exact absurd returned throw_ne_ok
  rename_i currentUser known
  obtain ⟨found, search, rest⟩ := bind_eq_ok.mp returned
  cases found with
  | none => exact absurd rest throw_ne_ok
  | some provider =>
      obtain ⟨-, rfl⟩ := Prod.mk.inj (Except.ok.inj rest)
      obtain ⟨stored, -, owned⟩ := findExternalProvider_eq_some search
      refine ⟨.refl _, .refl _, .refl _, .refl _, ?_, .refl _⟩
      refine Table.agreeOn_remove _ fun row member removed => not_not.mpr ?_
      have same : row = provider :=
        Table.eq_of_id_eq member stored (of_decide_eq_true removed)
      rw [same, owned]
      exact Table.id_of_find known

/-! ### Notifications -/

theorem othersUnchanged_setNotification {old new : Notification}
    (stored : old ∈ store.notifications.rows) (own : old.userId = currentUserId)
    (sameId : new.id = old.id) (sameUser : new.userId = old.userId) :
    OthersUnchanged currentUserId store
      { store with notifications := store.notifications.set new } where
  streamables := .refl _
  comments := .refl _
  locations := .refl _
  devices := .refl _
  externalProviders := .refl _
  notifications := Table.agreeOn_set _ stored sameId.symm (not_not.mpr own)
    (not_not.mpr (sameUser.trans own))

theorem markSingleNotificationAsRead_ok {notificationId : Long} {read : Notification} :
    markSingleNotificationAsRead notificationId store = .ok (read, next) ↔
      ∃ inner, store.notifications.find notificationId = some inner ∧
        read = { inner with isRead := true } ∧
        next = { store with notifications := store.notifications.set read } := by
  unfold markSingleNotificationAsRead
  cases store.notifications.find notificationId with
  | none => exact iff_of_false throw_ne_ok fun ⟨_, absurdity, _⟩ => Option.not_mem_none _ absurdity
  | some inner =>
      constructor
      · intro returned
        obtain ⟨same, after⟩ := Prod.mk.inj (Except.ok.inj returned)
        exact ⟨inner, rfl, same.symm, same ▸ after.symm⟩
      · rintro ⟨found, same, rfl, rfl⟩
        rw [Option.some.inj same]
        rfl

/-- Along the list every notification is found among the rows of the current user, because the
marked ones keep their user. -/
theorem markGroupNotificationsAsRead_othersUnchanged (notifications : List Notification)
    (own : ∀ notification ∈ notifications, ∃ stored ∈ store.notifications.rows,
      stored.id = notification.id ∧ stored.userId = currentUserId)
    (returned : markGroupNotificationsAsRead notifications store = .ok ((), next)) :
    OthersUnchanged currentUserId store next := by
  induction notifications generalizing store with
  | nil =>
      obtain ⟨-, rfl⟩ := Prod.mk.inj (Except.ok.inj returned)
      exact .refl store
  | cons notification rest inductionHypothesis =>
      rw [List.forall_mem_cons] at own
      rw [markGroupNotificationsAsRead] at returned
      split at returned
      · exact inductionHypothesis own.2 returned
      split at returned
      · rename_i read middle marked
        obtain ⟨inner, found, rfl, rfl⟩ := markSingleNotificationAsRead_ok.mp marked
        obtain ⟨stored, member, sameId, isOwn⟩ := own.1
        have innerIs : inner = stored :=
          Table.eq_of_id_eq (Table.mem_of_find found) member
            ((Table.id_of_find found).trans sameId.symm)
        subst innerIs
        have marks : OthersUnchanged currentUserId store
            { store with notifications := store.notifications.set { inner with isRead := true } } :=
          othersUnchanged_setNotification member isOwn rfl rfl
        refine marks.trans (inductionHypothesis (fun other listed => ?_) returned)
        obtain ⟨row, rowMember, rowId, rowOwn⟩ := own.2 other listed
        by_cases marksIt : row.id = inner.id
        · exact ⟨_, Table.mem_set.mpr (.inl ⟨rfl, inner, member, rfl⟩),
            marksIt.symm.trans rowId, isOwn⟩
        · exact ⟨row, Table.mem_set.mpr (.inr ⟨rowMember, marksIt⟩), rowId, rowOwn⟩
      · exact absurd returned throw_ne_ok

theorem markAllNotificationsAsRead_othersUnchanged (oneMonthAgo : Long) (store : Store) :
    OthersUnchanged currentUserId store
      (transaction (markAllNotificationsAsReadForCurrentUser currentUserId oneMonthAgo)
        store).1 := by
  refine othersUnchanged_transaction fun _ next returned => ?_
  obtain ⟨currentUser, loaded, rest⟩ := bind_eq_ok.mp returned
  refine markGroupNotificationsAsRead_othersUnchanged _ (fun notification listed => ?_) rest
  have queried := List.mem_mergeSort.mp (mem_getPage listed)
  obtain ⟨member, chosen⟩ := Table.mem_select.mp queried
  simp only [Bool.and_eq_true, decide_eq_true_eq] at chosen
  exact ⟨notification, member, rfl, chosen.1.trans (id_of_loadCurrentUser loaded)⟩

/-- Marking a notification writes it back as read, if there is one with the identifier. -/
theorem markNotificationAsRead_cases (notificationId : Option Long) (store : Store) :
    (∃ inner ∈ store.notifications.rows, notificationId = some inner.id ∧
      (transaction (markNotificationAsRead notificationId) store).1 =
        { store with notifications := store.notifications.set { inner with isRead := true } }) ∨
      (∀ inner ∈ store.notifications.rows, notificationId ≠ some inner.id) ∧
        (transaction (markNotificationAsRead notificationId) store).1 = store := by
  cases notificationId with
  | none => exact .inr ⟨fun _ _ => nofun, rfl⟩
  | some notificationId =>
      cases found : store.notifications.find notificationId with
      | none =>
          refine .inr ⟨fun inner member same => ?_, ?_⟩
          · exact Table.find_eq_none.mp found inner member (Option.some.inj same).symm
          · simp only [transaction, markNotificationAsRead, markSingleNotificationAsRead, found]
            rfl
      | some inner =>
          obtain rfl := Table.id_of_find found
          refine .inl ⟨inner, Table.mem_of_find found, rfl, ?_⟩
          simp only [transaction, markNotificationAsRead, markSingleNotificationAsRead, found]
          rfl

/-- Marking a notification changes a row of another user exactly when it is one of that user
that was not read. -/
theorem markNotificationAsRead_othersUnchanged (notificationId : Option Long) (store : Store) :
    OthersUnchanged currentUserId store
        (transaction (markNotificationAsRead notificationId) store).1 ↔
      ∀ inner ∈ store.notifications.rows, notificationId = some inner.id →
        inner.userId = currentUserId ∨ inner.isRead = true := by
  rcases markNotificationAsRead_cases notificationId store with
    ⟨inner, member, rfl, same⟩ | ⟨absent, same⟩
  · rw [same]
    constructor
    · intro unchanged other otherMember sameId
      have otherIs : other = inner :=
        Table.eq_of_id_eq otherMember member (Option.some.inj sameId).symm
      subst otherIs
      by_cases own : other.userId = currentUserId
      · exact .inl own
      have kept := (unchanged.notifications other own).mpr member
      rcases Table.mem_set.mp kept with ⟨marked, -⟩ | ⟨-, otherId⟩
      · exact .inr (congrArg Notification.isRead marked)
      · exact absurd rfl otherId
    · intro permitted
      rcases permitted inner member rfl with own | read
      · exact othersUnchanged_setNotification member own rfl rfl
      · have alreadyRead : { inner with isRead := true } = inner := by rw [← read]
        rw [alreadyRead, Table.set_of_mem member]
        exact .refl store
  · rw [same]
    exact iff_of_true (.refl store) fun inner member isIt => absurd isIt (absent inner member)

end Unchanged

/-! ### Every operation -/

/-- Every operation of a user leaves what belongs to other users as it is, except the marking of
another user's notification that was not read. -/
theorem othersUnchanged_iff (environment : Environment) (currentUserId : Long) (store : Store)
    (operation : WriteOperation) :
    OthersUnchanged currentUserId store (operation.perform environment currentUserId store) ↔
      ¬ MarksForeignNotification currentUserId store operation := by
  have other (different : ∀ notificationId, operation ≠ .markNotificationAsRead notificationId) :
      ¬ MarksForeignNotification currentUserId store operation :=
    fun ⟨_, _, marks, _⟩ => different _ marks
  cases operation with
  | editStreamableGraffiti streamableId dto transferred guid now =>
      exact iff_of_true (editStreamableGraffiti_othersUnchanged streamableId dto transferred guid
        now store) (other fun _ => nofun)
  | deleteStreamable streamableId =>
      exact iff_of_true (changeStreamable_othersUnchanged
        (fun streamable => { streamable with isDeleted := true }) (fun _ => rfl) (fun _ => rfl)
        store) (other fun _ => nofun)
  | makePublicOrPrivate streamableId isPrivate =>
      exact iff_of_true (changeStreamable_othersUnchanged
        (fun streamable => { streamable with isPrivate }) (fun _ => rfl) (fun _ => rfl) store)
        (other fun _ => nofun)
  | editComment streamableId commentId newText now =>
      exact iff_of_true (changeComment_othersUnchanged
        (fun comment => { comment with text := newText, updatedOn := some now }) (fun _ => rfl)
        (fun _ => rfl) store) (other fun _ => nofun)
  | deleteComment streamableId commentId =>
      exact iff_of_true (changeComment_othersUnchanged
        (fun comment => { comment with isDeleted := true }) (fun _ => rfl) (fun _ => rfl) store)
        (other fun _ => nofun)
  | editLocation locationId address latitude longitude now =>
      exact iff_of_true (editLocation_othersUnchanged locationId address latitude longitude now
        store) (other fun _ => nofun)
  | deleteLocation locationId =>
      exact iff_of_true (deleteLocation_othersUnchanged locationId store) (other fun _ => nofun)
  | registerDevice token osType =>
      exact iff_of_true (registerDevice_othersUnchanged _ token osType store)
        (other fun _ => nofun)
  | unregisterDevice token osType =>
      exact iff_of_true (unregisterDevice_othersUnchanged _ token osType store)
        (other fun _ => nofun)
  | linkExternalProvider account =>
      exact iff_of_true (linkExternalProvider_othersUnchanged environment account store)
        (other fun _ => nofun)
  | unlinkExternalProvider type =>
      exact iff_of_true (unlinkExternalProvider_othersUnchanged type store)
        (other fun _ => nofun)
  | markNotificationAsRead notificationId =>
      refine (markNotificationAsRead_othersUnchanged notificationId store).trans ?_
      constructor
      · rintro permitted ⟨notification, member, marks, foreign, unread⟩
        rcases permitted notification member
          (WriteOperation.markNotificationAsRead.inj marks) with own | read
        · exact foreign own
        · rw [unread] at read
          exact absurd read Bool.false_ne_true
      · rintro notForeign inner member rfl
        by_contra neither
        rw [not_or, Bool.not_eq_true] at neither
        exact notForeign ⟨inner, member, rfl, neither⟩
  | markAllNotificationsAsRead oneMonthAgo =>
      exact iff_of_true (markAllNotificationsAsRead_othersUnchanged oneMonthAgo store)
        (other fun _ => nofun)

/-- Two users have signed up, and the first one has an unread notification. -/
def notifiedStore : Store :=
  let signUp (username guid userToken : String) (store : Store) : Store :=
    (createUser (plainEnvironment .entry) (plainInput username) guid userToken "" 0 store).1
  let store := signUp "bob" "B" "U" (signUp "alice" "A" "T" Store.empty)
  { store with
    notifications := store.notifications.insert
      { id := 0, userId := 1, isRead := false, createdOn := 0, content := .welcome } }

/-- The second user marks the notification of the first one. -/
theorem not_othersUnchanged :
    ¬ OthersUnchanged 2 notifiedStore
      ((WriteOperation.markNotificationAsRead (some 1)).perform (plainEnvironment .entry) 2
        notifiedStore) := by
  intro unchanged
  have kept := unchanged.notifications
    { id := 1, userId := 1, isRead := false, createdOn := 0, content := .welcome } (by decide)
  exact absurd kept (by decide)

/-! ### Runs -/

/-- One of the users performs an operation. -/
def operationStep (environment : Environment) (store : Store) (action : Long × WriteOperation) :
    Option Store :=
  some (action.2.perform environment action.1 store)

/-- Whatever the other users do, what belongs to a user stays the same, as long as nobody marks
the notifications of others. -/
theorem unchanged_run (environment : Environment) (owner : Long) {start final : Store}
    (reached : Runs.Reaches (operationStep environment)
      (fun store action => action.1 ≠ owner ∧ ¬ MarksForeignNotification action.1 store action.2)
      start final) :
    UnchangedFor (fun userId => userId = owner) start final := by
  refine reached.invariant (UnchangedFor _ start) (.refl start)
    fun store action next sofar permitted taken => ?_
  obtain rfl := Option.some.inj taken
  have step := (othersUnchanged_iff environment action.1 store action.2).mpr permitted.2
  exact sofar.trans (step.mono fun userId isOwner => isOwner ▸ permitted.1.symm)

end GraffiTab
