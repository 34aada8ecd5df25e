/-
This file asks whether marking all notifications leaves none unread.

`markAllNotificationsAsReadForCurrentUser` asks the paging service for 10000 notifications,
and the service cuts that down to the largest page. So the operation marks what is unread
on the first page of the notifications of the past month. Marking changes neither the
window nor the order, and calling it again finds the same page, where nothing is left to
do; what was unread beyond that page stays unread.
-/

import GraffiTab.Writes

namespace GraffiTab

open Tables

/-! ### The operations on all notifications -/

section Operations

variable (currentUserId oneMonthAgo : Long)

/-- The condition of the two queries on the notifications of the current user. -/
def Notification.isInWindow (notification : Notification) : Bool :=
  notification.userId = currentUserId && oneMonthAgo < notification.createdOn

/-- `NotificationService.getUnreadNotificationsCount`. -/
def getUnreadNotificationsCount (store : Store) : Except Throwable Nat := do
  let currentUser ← loadCurrentUser currentUserId store
  return (store.notifications.select fun notification =>
    notification.isInWindow currentUser.id oneMonthAgo && !notification.isRead).length

/-- The store after a call of the current user. -/
def afterMarkingAll (store : Store) : Store :=
  (transaction (markAllNotificationsAsReadForCurrentUser currentUserId oneMonthAgo) store).1

/-- What marking all notifications is there for. -/
structure MarksAllNotifications (store : Store) : Prop where
  noneUnread : getUnreadNotificationsCount currentUserId oneMonthAgo
    (afterMarkingAll currentUserId oneMonthAgo store) = .ok 0
  outsideUnchanged : Table.AgreeOn
    (fun notification => notification.isInWindow currentUserId oneMonthAgo = false)
    store.notifications (afterMarkingAll currentUserId oneMonthAgo store).notifications
  secondCallChangesNothing :
    afterMarkingAll currentUserId oneMonthAgo (afterMarkingAll currentUserId oneMonthAgo store) =
      afterMarkingAll currentUserId oneMonthAgo store

/-- The notifications that fit on the largest page. -/
def firstPage (store : Store) : List Notification :=
  (getNotifications currentUserId oneMonthAgo store).take pageSizeMaxValue.toNat

/-- Every unread notification of the window is on the first page. -/
def UnreadOnFirstPage (store : Store) : Prop :=
  ∀ notification ∈ getNotifications currentUserId oneMonthAgo store,
    notification.isRead = false →
      notification ∈ firstPage currentUserId oneMonthAgo store

end Operations

/-! ### Marked notifications -/

/-- The notification, read if its identifier is among those that are marked. -/
def Notification.marked (identifiers : List Long) (notification : Notification) : Notification :=
  if notification.id ∈ identifiers then { notification with isRead := true } else notification

theorem marked_id (identifiers : List Long) (notification : Notification) :
    (notification.marked identifiers).id = notification.id := by
  unfold Notification.marked
  split <;> rfl

theorem marked_isInWindow (identifiers : List Long) (notification : Notification)
    (currentUserId oneMonthAgo : Long) :
    (notification.marked identifiers).isInWindow currentUserId oneMonthAgo =
      notification.isInWindow currentUserId oneMonthAgo := by
  unfold Notification.marked
  split <;> rfl

theorem marked_createdOn (identifiers : List Long) (notification : Notification) :
    (notification.marked identifiers).createdOn = notification.createdOn := by
  unfold Notification.marked
  split <;> rfl

theorem marked_isRead (identifiers : List Long) (notification : Notification) :
    (notification.marked identifiers).isRead = true ↔
      notification.id ∈ identifiers ∨ notification.isRead = true := by
  unfold Notification.marked
  split
  · rename_i listed
    exact iff_of_true rfl (.inl listed)
  · rename_i unlisted
    exact (or_iff_right unlisted).symm

theorem marked_marked (first second : List Long) (notification : Notification) :
    (notification.marked first).marked second = notification.marked (first ++ second) := by
  simp only [Notification.marked, List.mem_append]
  split <;> split <;> simp_all

/-- The store with the notifications read that have one of the identifiers. -/
def Store.markNotifications (store : Store) (identifiers : List Long) : Store :=
  { store with
    notifications := store.notifications.mapRows (Notification.marked identifiers)
      (marked_id identifiers) }

/-- The identifiers of the unread notifications of a list. -/
def unreadIds (notifications : List Notification) : List Long :=
  (notifications.filter fun notification => !notification.isRead).map Notification.id

section Marks

variable {store : Store} {currentUserId oneMonthAgo : Long}

theorem markNotifications_nil (store : Store) : store.markNotifications [] = store := by
  have same : Notification.marked [] = id := by
    funext notification
    exact if_neg List.not_mem_nil
  have rows : store.notifications.mapRows (Notification.marked []) (marked_id []) =
      store.notifications :=
    Table.ext ((congrArg (List.map · store.notifications.rows) same).trans (List.map_id _)) rfl
  rw [Store.markNotifications, rows]

theorem markNotifications_markNotifications (store : Store) (first second : List Long) :
    (store.markNotifications first).markNotifications second =
      store.markNotifications (first ++ second) := by
  have same : Notification.marked second ∘ Notification.marked first =
      Notification.marked (first ++ second) := by
    funext notification
    exact marked_marked first second notification
  simp only [Store.markNotifications, Table.mapRows, List.map_map, same]

/-- Writing a notification back as read marks it. -/
theorem set_isRead {inner : Notification} (member : inner ∈ store.notifications.rows) :
    { store with notifications := store.notifications.set { inner with isRead := true } } =
      store.markNotifications [inner.id] := by
  have rows : store.notifications.set { inner with isRead := true } =
      store.notifications.mapRows (Notification.marked [inner.id]) (marked_id [inner.id]) := by
    refine Table.ext (List.map_congr_left fun row rowMember => ?_) rfl
    by_cases same : row.id = inner.id
    · have isInner : row = inner := Table.eq_of_id_eq rowMember member same
      rw [isInner]
      exact (if_pos rfl).trans (if_pos (List.mem_singleton.mpr rfl)).symm
    · exact (if_neg same).trans (if_neg (mt List.mem_singleton.mp same)).symm
  rw [rows]
  rfl

/-- A list of stored notifications is marked as far as it is unread. -/
theorem markGroupNotificationsAsRead_eq (notifications : List Notification) :
    ∀ store : Store, (∀ notification ∈ notifications, ∃ stored ∈ store.notifications.rows,
      stored.id = notification.id) →
      markGroupNotificationsAsRead notifications store =
        .ok ((), store.markNotifications (unreadIds notifications)) := by
  induction notifications with
  | nil =>
      intro store _
      rw [markGroupNotificationsAsRead, unreadIds, List.filter_nil, List.map_nil,
        markNotifications_nil]
      rfl
  | cons notification rest inductionHypothesis =>
      intro store known
      rw [List.forall_mem_cons] at known
      rw [markGroupNotificationsAsRead]
      cases read : notification.isRead with
      | true =>
          rw [if_pos rfl, inductionHypothesis store known.2, unreadIds, unreadIds,
            List.filter_cons_of_neg (by rw [read]; exact Bool.false_ne_true)]
      | false =>
          obtain ⟨stored, member, sameId⟩ := known.1
          have found : store.notifications.find notification.id = some stored :=
            Table.find_eq_some.mpr ⟨member, sameId⟩
          have step : markSingleNotificationAsRead notification.id store =
              .ok ({ stored with isRead := true }, store.markNotifications [stored.id]) := by
            rw [markSingleNotificationAsRead, found, ← set_isRead member]
            rfl
          have kept : ∀ other ∈ rest, ∃ row ∈ (store.markNotifications
              [stored.id]).notifications.rows, row.id = other.id := by
            intro other listed
            obtain ⟨row, rowMember, rowId⟩ := known.2 other listed
            exact ⟨row.marked [stored.id], List.mem_map_of_mem rowMember,
              (marked_id _ row).trans rowId⟩
          rw [if_neg Bool.false_ne_true, step]
          show markGroupNotificationsAsRead rest (store.markNotifications [stored.id]) = _
          rw [inductionHypothesis _ kept, markNotifications_markNotifications, sameId, unreadIds,
            unreadIds, List.filter_cons_of_pos (by rw [read]; rfl)]
          rfl

/-! ### The first page -/

theorem mem_getNotifications {notification : Notification} :
    notification ∈ getNotifications currentUserId oneMonthAgo store ↔
      notification ∈ store.notifications.rows ∧
        notification.isInWindow currentUserId oneMonthAgo = true :=
  List.mem_mergeSort.trans Table.mem_select

/-- The page of 10000 notifications is the largest page. -/
theorem items_getItems :
    (getItems (getNotifications currentUserId oneMonthAgo store) (some 0) (some 10000)).items =
      firstPage currentUserId oneMonthAgo store := by
  rfl

/-- A call marks what is unread on the first page. -/
theorem afterMarkingAll_eq {user : User} (known : store.users.find currentUserId = some user) :
    afterMarkingAll currentUserId oneMonthAgo store =
      store.markNotifications (unreadIds (firstPage currentUserId oneMonthAgo store)) := by
  have loaded := loadCurrentUser_ok.mpr known
  have sameId := id_of_loadCurrentUser loaded
  have marks := markGroupNotificationsAsRead_eq (firstPage currentUserId oneMonthAgo store) store
    fun notification listed =>
      ⟨notification, (mem_getNotifications.mp (List.mem_of_mem_take listed)).1, rfl⟩
  have body : markAllNotificationsAsReadForCurrentUser currentUserId oneMonthAgo store =
      .ok ((),
        store.markNotifications (unreadIds (firstPage currentUserId oneMonthAgo store))) := by
    rw [markAllNotificationsAsReadForCurrentUser, loaded, ← marks, ← items_getItems, ← sameId]
    rfl
  rw [afterMarkingAll, transaction, body]

/-- Marking changes neither the window nor the order. -/
theorem getNotifications_markNotifications (identifiers : List Long) :
    getNotifications currentUserId oneMonthAgo (store.markNotifications identifiers) =
      (getNotifications currentUserId oneMonthAgo store).map (Notification.marked identifiers) := by
  have selected : (store.markNotifications identifiers).notifications.select
      (Notification.isInWindow currentUserId oneMonthAgo) =
        (store.notifications.select (Notification.isInWindow currentUserId oneMonthAgo)).map
          (Notification.marked identifiers) := by
    have sameWindow : Notification.isInWindow currentUserId oneMonthAgo ∘
        Notification.marked identifiers = Notification.isInWindow currentUserId oneMonthAgo := by
      funext notification
      exact marked_isInWindow identifiers notification currentUserId oneMonthAgo
    rw [Table.select, Table.select, Store.markNotifications, Table.mapRows, List.filter_map,
      sameWindow]
  show List.mergeSort ((store.markNotifications identifiers).notifications.select
    (Notification.isInWindow currentUserId oneMonthAgo)) _ = List.map _ (List.mergeSort _ _)
  rw [selected]
  refine (List.map_mergeSort fun first _ second _ => ?_).symm
  rw [marked_createdOn, marked_createdOn]

theorem firstPage_markNotifications (identifiers : List Long) :
    firstPage currentUserId oneMonthAgo (store.markNotifications identifiers) =
      (firstPage currentUserId oneMonthAgo store).map (Notification.marked identifiers) := by
  rw [firstPage, firstPage, getNotifications_markNotifications, List.map_take]

/-- A page of marked notifications has nothing left to mark. -/
theorem unreadIds_marked (notifications : List Notification) :
    unreadIds (notifications.map (Notification.marked (unreadIds notifications))) = [] := by
  rw [unreadIds, List.map_eq_nil_iff, List.filter_eq_nil_iff]
  intro row listed
  obtain ⟨notification, member, rfl⟩ := List.mem_map.mp listed
  rw [Bool.not_eq_true, Bool.not_eq_false', marked_isRead]
  cases read : notification.isRead with
  | true => exact .inr rfl
  | false =>
      exact .inl (List.mem_map_of_mem (List.mem_filter.mpr ⟨member, by rw [read]; rfl⟩))

/-! ### What a call leaves -/

/-- A call marks a stored notification if it is unread and on the first page. -/
theorem mem_unreadIds {row : Notification} (member : row ∈ store.notifications.rows) :
    row.id ∈ unreadIds (firstPage currentUserId oneMonthAgo store) ↔
      row.isRead = false ∧ row ∈ firstPage currentUserId oneMonthAgo store := by
  rw [unreadIds, List.mem_map]
  constructor
  · rintro ⟨notification, listed, sameId⟩
    obtain ⟨onPage, unread⟩ := List.mem_filter.mp listed
    have stored := (mem_getNotifications.mp (List.mem_of_mem_take onPage)).1
    have isRow : notification = row := Table.eq_of_id_eq stored member sameId
    exact isRow ▸ ⟨(Bool.not_eq_true' _).mp unread, onPage⟩
  · rintro ⟨unread, onPage⟩
    exact ⟨row, List.mem_filter.mpr ⟨onPage, (Bool.not_eq_true' _).mpr unread⟩, rfl⟩

/-- A second call finds the same page. -/
theorem afterMarkingAll_again {user : User}
    (known : store.users.find currentUserId = some user) :
    afterMarkingAll currentUserId oneMonthAgo (afterMarkingAll currentUserId oneMonthAgo store) =
      afterMarkingAll currentUserId oneMonthAgo store := by
  have stillKnown : (store.markNotifications (unreadIds
      (firstPage currentUserId oneMonthAgo store))).users.find currentUserId = some user := known
  rw [afterMarkingAll_eq known, afterMarkingAll_eq stillKnown, firstPage_markNotifications,
    unreadIds_marked, markNotifications_nil]

/-- A notification outside the window stays as it is. -/
theorem marked_outside {row : Notification} (member : row ∈ store.notifications.rows)
    (outside : row.isInWindow currentUserId oneMonthAgo = false) :
    row.marked (unreadIds (firstPage currentUserId oneMonthAgo store)) = row := by
  refine if_neg fun listed => ?_
  have onPage := List.mem_of_mem_take ((mem_unreadIds member).mp listed).2
  exact absurd (mem_getNotifications.mp onPage).2 (outside ▸ Bool.false_ne_true)

theorem afterMarkingAll_outside {user : User}
    (known : store.users.find currentUserId = some user) :
    Table.AgreeOn
      (fun notification => notification.isInWindow currentUserId oneMonthAgo = false)
      store.notifications (afterMarkingAll currentUserId oneMonthAgo store).notifications := by
  rw [afterMarkingAll_eq known]
  intro row outside
  constructor
  · intro member
    obtain ⟨old, oldMember, rfl⟩ := List.mem_map.mp member
    rw [marked_isInWindow] at outside
    rw [marked_outside oldMember outside]
    exact oldMember
  · intro member
    exact List.mem_map.mpr ⟨row, member, marked_outside member outside⟩

/-- Nothing of the window is unread after a call exactly if nothing was unread beyond the first
page. -/
theorem noneUnread_iff {user : User} (known : store.users.find currentUserId = some user) :
    getUnreadNotificationsCount currentUserId oneMonthAgo
        (afterMarkingAll currentUserId oneMonthAgo store) = .ok 0 ↔
      UnreadOnFirstPage currentUserId oneMonthAgo store := by
  rw [afterMarkingAll_eq known]
  have loaded : loadCurrentUser currentUserId (store.markNotifications (unreadIds
      (firstPage currentUserId oneMonthAgo store))) = .ok user :=
    loadCurrentUser_ok.mpr known
  have counted : getUnreadNotificationsCount currentUserId oneMonthAgo (store.markNotifications
      (unreadIds (firstPage currentUserId oneMonthAgo store))) = .ok 0 ↔
      ∀ row ∈ store.notifications.rows, row.isInWindow currentUserId oneMonthAgo = true →
        (row.marked (unreadIds (firstPage currentUserId oneMonthAgo store))).isRead = true := by
    rw [getUnreadNotificationsCount, loaded]
    show Except.ok _ = Except.ok _ ↔ _
    rw [Except.ok.injEq, List.length_eq_zero_iff, Table.select, List.filter_eq_nil_iff,
      id_of_loadCurrentUser loaded, Store.markNotifications, Table.mapRows, List.forall_mem_map]
    refine forall₂_congr fun row _ => ?_
    rw [marked_isInWindow, Bool.and_eq_true, not_and, Bool.not_eq_true, Bool.not_eq_false']
  rw [counted]
  constructor
  · intro read notification listed unread
    obtain ⟨member, inWindow⟩ := mem_getNotifications.mp listed
    rcases (marked_isRead _ _).mp (read notification member inWindow) with marked | alreadyRead
    · exact ((mem_unreadIds member).mp marked).2
    · exact absurd (unread.symm.trans alreadyRead) Bool.false_ne_true
  · intro onPage row member inWindow
    rw [marked_isRead, mem_unreadIds member]
    cases unread : row.isRead with
    | true => exact .inr rfl
    | false => exact .inl ⟨rfl, onPage row (mem_getNotifications.mpr ⟨member, inWindow⟩) unread⟩

/-- No page has room for more unread notifications than its size. -/
theorem count_le_of_unreadOnFirstPage {count : Nat}
    (counted : getUnreadNotificationsCount currentUserId oneMonthAgo store = .ok count)
    (onPage : UnreadOnFirstPage currentUserId oneMonthAgo store) :
    count ≤ pageSizeMaxValue.toNat := by
  obtain ⟨user, loaded, selected⟩ := bind_eq_ok.mp counted
  rw [id_of_loadCurrentUser loaded] at selected
  rw [← Except.ok.inj selected]
  have distinct : (store.notifications.select fun notification =>
      notification.isInWindow currentUserId oneMonthAgo && !notification.isRead).Nodup :=
    (List.Nodup.of_map _ store.notifications.distinct).filter _
  have shown : (store.notifications.select fun notification =>
      notification.isInWindow currentUserId oneMonthAgo && !notification.isRead) ⊆
        firstPage currentUserId oneMonthAgo store := by
    intro row listed
    obtain ⟨member, unread⟩ := Table.mem_select.mp listed
    rw [Bool.and_eq_true, Bool.not_eq_true'] at unread
    exact onPage row (mem_getNotifications.mpr ⟨member, unread.1⟩) unread.2
  exact le_trans (List.subperm_of_subset distinct shown).length_le (List.length_take_le _ _)

end Marks

/-! ### Marking all notifications -/

/-- Marking all notifications does what it is there for exactly if what is unread in the window is
on the first page. -/
theorem marksAllNotifications_iff (currentUserId oneMonthAgo : Long) (store : Store) (user : User)
    (known : store.users.find currentUserId = some user) :
    MarksAllNotifications currentUserId oneMonthAgo store ↔
      UnreadOnFirstPage currentUserId oneMonthAgo store := by
  constructor
  · intro marks
    exact (noneUnread_iff known).mp marks.noneUnread
  · intro onPage
    exact ⟨(noneUnread_iff known).mpr onPage, afterMarkingAll_outside known,
      afterMarkingAll_again known⟩

/-- A user with unread notifications, one of each second. -/
def storeOfUnread (count : Nat) : Store :=
  { Store.empty with
    users := Table.empty.insert (plainUser 0 "alice")
    notifications := (List.range count).foldl
      (fun table (second : Nat) => table.insert ⟨0, 1, false, 1000 * (second + 1), .welcome⟩)
      Table.empty }

/-- Five notifications meet the condition. -/
theorem marksAllNotifications_iff_five :
    MarksAllNotifications 1 0 (storeOfUnread 5) ↔ UnreadOnFirstPage 1 0 (storeOfUnread 5) :=
  marksAllNotifications_iff 1 0 (storeOfUnread 5) (plainUser 1 "alice") (by decide)

/-- Of 21 unread notifications one stays unread. -/
theorem not_marksAllNotifications :
    ¬ ∀ store user, store.users.find 1 = some user → MarksAllNotifications 1 0 store := by
  intro always
  have known : (storeOfUnread 21).users.find 1 = some (plainUser 1 "alice") := by decide
  have counted : getUnreadNotificationsCount 1 0 (storeOfUnread 21) = .ok 21 := by decide
  have onPage := (noneUnread_iff known).mp (always _ _ known).noneUnread
  exact absurd (count_le_of_unreadOnFirstPage counted onPage) (by decide)

end GraffiTab
