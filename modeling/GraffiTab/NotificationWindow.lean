/-
This file asks whether the notifications of a user are those of the past month.

Both queries for notifications take the edge of the window from a constant that the class
computes when it is loaded. So the edge stays one month before the start of the server, and
a call is right exactly if no notification of the user lies between that edge and the one
that the time of the call asks for. Soon after the start there is hardly any time between the
two; later the window has grown beyond a month.
-/

import GraffiTab.Library.Calendar
import GraffiTab.Listings
import GraffiTab.NotificationMarks
import GraffiTab.UserFeed

namespace GraffiTab

open Tables Runs

/-! ### The service -/

/-- The service in its process: when the class was loaded, and the database. -/
structure NotificationService where
  classLoadedOn : Long
  store : Store

inductive NotificationCall where
  | addNotification (receiverId : Long) (content : NotificationContent)
  | getNotificationsResult (currentUserId : Long) (offset limit : Option Int)
  | getUnreadNotificationsCount (currentUserId : Long)

structure TimedCall where
  time : Long
  call : NotificationCall

section Service

-- `DateTime.minusMonths` in the time zone of the server.
variable (minusMonths : Long → Int → Long)

/-- `ONE_MONTH_AGO`. -/
def NotificationService.oneMonthAgo (service : NotificationService) : Long :=
  minusMonths service.classLoadedOn 1

/-- The list that `findNotificationsForCurrentUser` has cut into pages. -/
def NotificationService.queriedNotifications (service : NotificationService)
    (currentUserId : Long) : Except Throwable (List Notification) := do
  let currentUser ← loadCurrentUser currentUserId service.store
  return getNotifications currentUser.id (service.oneMonthAgo minusMonths) service.store

def NotificationService.findNotificationsForCurrentUser (service : NotificationService)
    (currentUserId : Long) (offset limit : Option Int) :
    Except Throwable (PagedList Notification) :=
  match service.queriedNotifications minusMonths currentUserId with
  | .ok notifications => .ok (getItems notifications offset limit)
  | .error thrown => .error (.runtimeException thrown)

def NotificationService.unreadNotificationsCount (service : NotificationService)
    (currentUserId : Long) : Except Throwable Nat :=
  getUnreadNotificationsCount currentUserId (service.oneMonthAgo minusMonths) service.store

/-- A call in the running process; only an addition changes the database. -/
def notificationStep (service : NotificationService) (timed : TimedCall) :
    Option NotificationService :=
  match timed.call with
  | .addNotification receiverId content =>
      some { service with
        store := (transaction (addNotificationToUser
          { id := 0, userId := receiverId, isRead := false, createdOn := timed.time, content })
            service.store).1 }
  | .getNotificationsResult _ _ _ | .getUnreadNotificationsCount _ => some service

/-! ### The past month -/

/-- The rows are the notifications of the user after the edge, newest first. -/
structure ListsAfter (store : Store) (userId edge : Long) (rows : List Notification) : Prop where
  exact : ∀ notification, notification ∈ rows ↔
    notification ∈ store.notifications.rows ∧ notification.userId = userId ∧
      edge < notification.createdOn
  distinct : rows.Nodup
  newestFirst : rows.Pairwise fun first second => second.createdOn ≤ first.createdOn

/-- The unread notifications of the user after the edge. -/
def unreadAfter (store : Store) (userId edge : Long) : List Notification :=
  store.notifications.rows.filter fun notification =>
    notification.userId = userId ∧ edge < notification.createdOn ∧ notification.isRead = false

/-- A call is answered over the month before it. -/
def AnswersOverPastMonth (service : NotificationService) (timed : TimedCall) : Prop :=
  match timed.call with
  | .addNotification _ _ => True
  | .getNotificationsResult currentUserId offset limit =>
      ∀ page, service.findNotificationsForCurrentUser minusMonths currentUserId offset limit =
        .ok page → ∃ rows, service.queriedNotifications minusMonths currentUserId = .ok rows ∧
          page = getItems rows offset limit ∧
            ListsAfter service.store currentUserId (minusMonths timed.time 1) rows
  | .getUnreadNotificationsCount currentUserId =>
      ∀ count, service.unreadNotificationsCount minusMonths currentUserId = .ok count →
        count = (unreadAfter service.store currentUserId (minusMonths timed.time 1)).length

/-- The point in time is after the one edge but not after the other. -/
def IsBetweenEdges (first second time : Int) : Prop :=
  min first second < time ∧ time ≤ max first second

/-- No notification that the call is about was created between the edge of the month before the
start and that of the month before the call. -/
def NothingBetweenEdges (startedOn : Long) (service : NotificationService) (timed : TimedCall) :
    Prop :=
  match timed.call with
  | .addNotification _ _ => True
  | .getNotificationsResult currentUserId _ _ =>
      (service.store.users.find currentUserId).isSome →
        ∀ notification ∈ service.store.notifications.rows, notification.userId = currentUserId →
          ¬IsBetweenEdges (minusMonths startedOn 1) (minusMonths timed.time 1)
            notification.createdOn
  | .getUnreadNotificationsCount currentUserId =>
      (service.store.users.find currentUserId).isSome →
        ∀ notification ∈ service.store.notifications.rows, notification.userId = currentUserId →
          notification.isRead = false →
            ¬IsBetweenEdges (minusMonths startedOn 1) (minusMonths timed.time 1)
              notification.createdOn

end Service

/-! ### Two edges -/

section Edges

variable {first second : Int} {store : Store} {userId : Long}

theorem not_isBetweenEdges {time : Int} :
    ¬IsBetweenEdges first second time ↔ (first < time ↔ second < time) := by
  unfold IsBetweenEdges
  omega

/-- The list of the query is that of its own edge. -/
theorem listsAfter_getNotifications (edge : Long) :
    ListsAfter store userId edge (getNotifications userId edge store) where
  exact notification := by
    rw [mem_getNotifications, Notification.isInWindow, Bool.and_eq_true, decide_eq_true_eq,
      decide_eq_true_eq]
  distinct :=
    (List.mergeSort_perm _ _).nodup_iff.mpr
      ((List.Nodup.of_map _ store.notifications.distinct).filter _)
  newestFirst := ordered_orderByDesc Notification.createdOn _

/-- Two edges have the same list exactly if no notification lies between them. -/
theorem listsAfter_iff :
    ListsAfter store userId second (getNotifications userId first store) ↔
      ∀ notification ∈ store.notifications.rows, notification.userId = userId →
        ¬IsBetweenEdges first second notification.createdOn := by
  have own : ListsAfter store userId first (getNotifications userId first store) :=
    listsAfter_getNotifications first
  constructor
  · intro lists notification member isOf
    have same := (own.exact notification).symm.trans (lists.exact notification)
    rw [not_isBetweenEdges]
    simpa only [member, isOf, true_and] using same
  · intro outside
    refine ⟨fun notification => (own.exact notification).trans ?_, own.distinct, own.newestFirst⟩
    refine and_congr_right fun member => and_congr_right fun isOf => ?_
    exact not_isBetweenEdges.mp (outside notification member isOf)

/-- The earlier edge has as many unread notifications as the later one exactly if none of its own
is before the later one. -/
theorem length_unreadAfter_eq_iff_of_le (ordered : first ≤ second) :
    (unreadAfter store userId first).length = (unreadAfter store userId second).length ↔
      ∀ notification ∈ store.notifications.rows, notification.userId = userId →
        notification.isRead = false → first < notification.createdOn →
          second < notification.createdOn := by
  have narrowed : unreadAfter store userId second =
      (unreadAfter store userId first).filter fun notification =>
        second < notification.createdOn := by
    rw [unreadAfter, unreadAfter, List.filter_filter]
    refine List.filter_congr fun notification _ => ?_
    rw [← Bool.decide_and, decide_eq_decide]
    constructor
    · rintro ⟨isOf, after, unread⟩
      exact ⟨after, isOf, lt_of_le_of_lt ordered after, unread⟩
    · rintro ⟨after, isOf, -, unread⟩
      exact ⟨isOf, after, unread⟩
  rw [narrowed, eq_comm, List.length_filter_eq_length_iff]
  simp only [unreadAfter, List.mem_filter, decide_eq_true_eq]
  constructor
  · intro all notification member isOf unread after
    exact all notification ⟨member, isOf, after, unread⟩
  · rintro all notification ⟨member, isOf, after, unread⟩
    exact all notification member isOf unread after

/-- Two edges have equally many unread notifications exactly if none lies between them. -/
theorem length_unreadAfter_eq_iff :
    (unreadAfter store userId first).length = (unreadAfter store userId second).length ↔
      ∀ notification ∈ store.notifications.rows, notification.userId = userId →
        notification.isRead = false → ¬IsBetweenEdges first second notification.createdOn := by
  rcases le_total first second with ordered | ordered
  · rw [length_unreadAfter_eq_iff_of_le ordered]
    refine forall₄_congr fun notification _ _ _ => ?_
    rw [not_isBetweenEdges]
    exact ⟨fun after => ⟨after, lt_of_le_of_lt ordered⟩, Iff.mp⟩
  · rw [eq_comm, length_unreadAfter_eq_iff_of_le ordered]
    refine forall₄_congr fun notification _ _ _ => ?_
    rw [not_isBetweenEdges]
    exact ⟨fun after => ⟨lt_of_le_of_lt ordered, after⟩, Iff.mpr⟩

end Edges

/-! ### Runs of calls -/

section Calls

variable {minusMonths : Long → Int → Long} {service next : NotificationService}

theorem queriedNotifications_ok {currentUserId : Long} {rows : List Notification} :
    service.queriedNotifications minusMonths currentUserId = .ok rows ↔
      (service.store.users.find currentUserId).isSome ∧
        rows = getNotifications currentUserId (service.oneMonthAgo minusMonths) service.store := by
  rw [NotificationService.queriedNotifications, bind_eq_ok, Option.isSome_iff_exists]
  constructor
  · rintro ⟨user, loaded, returned⟩
    rw [id_of_loadCurrentUser loaded] at returned
    exact ⟨⟨user, loadCurrentUser_ok.mp loaded⟩, (Except.ok.inj returned).symm⟩
  · rintro ⟨⟨user, known⟩, rfl⟩
    obtain rfl : user.id = currentUserId := Table.id_of_find known
    exact ⟨user, loadCurrentUser_ok.mpr known, rfl⟩

theorem findNotificationsForCurrentUser_ok {currentUserId : Long} {offset limit : Option Int}
    {page : PagedList Notification} :
    service.findNotificationsForCurrentUser minusMonths currentUserId offset limit = .ok page ↔
      ∃ rows, service.queriedNotifications minusMonths currentUserId = .ok rows ∧
        page = getItems rows offset limit := by
  unfold NotificationService.findNotificationsForCurrentUser
  cases queried : service.queriedNotifications minusMonths currentUserId with
  | error thrown => exact iff_of_false nofun (by simp)
  | ok rows =>
      simp only [Except.ok.injEq, exists_eq_left']
      exact eq_comm

theorem unreadNotificationsCount_ok {currentUserId : Long} {count : Nat} :
    service.unreadNotificationsCount minusMonths currentUserId = .ok count ↔
      (service.store.users.find currentUserId).isSome ∧
        count = (unreadAfter service.store currentUserId
          (service.oneMonthAgo minusMonths)).length := by
  have selected : (service.store.notifications.select fun notification =>
      notification.isInWindow currentUserId (service.oneMonthAgo minusMonths) &&
        !notification.isRead) =
      unreadAfter service.store currentUserId (service.oneMonthAgo minusMonths) := by
    refine List.filter_congr fun notification _ => ?_
    simp only [Notification.isInWindow, Bool.decide_and, Bool.and_assoc, Bool.decide_eq_false]
  rw [NotificationService.unreadNotificationsCount, getUnreadNotificationsCount, bind_eq_ok,
    Option.isSome_iff_exists]
  constructor
  · rintro ⟨user, loaded, returned⟩
    rw [id_of_loadCurrentUser loaded, selected] at returned
    exact ⟨⟨user, loadCurrentUser_ok.mp loaded⟩, (Except.ok.inj returned).symm⟩
  · rintro ⟨⟨user, known⟩, rfl⟩
    obtain rfl : user.id = currentUserId := Table.id_of_find known
    rw [← selected]
    exact ⟨user, loadCurrentUser_ok.mpr known, rfl⟩

/-- The constant is that of the start as long as the server runs. -/
theorem classLoadedOn_of_step {timed : TimedCall}
    (taken : notificationStep service timed = some next) :
    next.classLoadedOn = service.classLoadedOn := by
  obtain ⟨time, call⟩ := timed
  cases call <;> obtain rfl := Option.some.inj taken <;> rfl

/-- A call is answered over the month before it exactly if nothing lies between the two edges. -/
theorem answersOverPastMonth_iff_of_call (timed : TimedCall) :
    AnswersOverPastMonth minusMonths service timed ↔
      NothingBetweenEdges minusMonths service.classLoadedOn service timed := by
  obtain ⟨time, call⟩ := timed
  cases call with
  | addNotification receiverId content => exact Iff.rfl
  | getNotificationsResult currentUserId offset limit =>
      show (∀ page, service.findNotificationsForCurrentUser minusMonths currentUserId offset limit =
        .ok page → _) ↔ (_ → _)
      rw [← listsAfter_iff]
      constructor
      · intro answers known
        have queried : service.queriedNotifications minusMonths currentUserId =
            .ok (getNotifications currentUserId (service.oneMonthAgo minusMonths) service.store) :=
          queriedNotifications_ok.mpr ⟨known, rfl⟩
        obtain ⟨rows, sameRows, -, lists⟩ :=
          answers _ (findNotificationsForCurrentUser_ok.mpr ⟨_, queried, rfl⟩)
        obtain rfl := Except.ok.inj (queried.symm.trans sameRows)
        exact lists
      · intro lists page answered
        obtain ⟨rows, queried, paged⟩ := findNotificationsForCurrentUser_ok.mp answered
        obtain ⟨known, rfl⟩ := queriedNotifications_ok.mp queried
        exact ⟨_, queried, paged, lists known⟩
  | getUnreadNotificationsCount currentUserId =>
      show (∀ count, service.unreadNotificationsCount minusMonths currentUserId = .ok count →
        count = _) ↔ _
      simp only [unreadNotificationsCount_ok, and_imp]
      rw [forall_comm]
      refine forall_congr' fun known => ?_
      rw [forall_eq]
      exact length_unreadAfter_eq_iff

/-- In every run each call is answered over the month before it exactly if each call comes when no
notification that it is about lies between the edge of the start and its own. -/
theorem answersOverPastMonth_iff (minusMonths : Long → Int → Long) (start : NotificationService)
    (calls : List TimedCall) :
    Throughout notificationStep (AnswersOverPastMonth minusMonths) start calls ↔
      Throughout notificationStep (NothingBetweenEdges minusMonths start.classLoadedOn) start
        calls := by
  refine throughout_congr (fun service => service.classLoadedOn = start.classLoadedOn) ?_ ?_
    calls rfl
  · intro service timed next same taken
    exact (classLoadedOn_of_step taken).trans same
  · intro service timed same
    rw [← same]
    exact answersOverPastMonth_iff_of_call timed

end Calls

/-! ### A server that runs for three months -/

/-- `DateTime.minusMonths` where the time zone is UTC. -/
def minusMonthsInUtc (time : Long) (months : Int) : Long :=
  ((Calendar.Date.ofDayNumber (time / 86400000)).minusMonths months).dayNumber * 86400000 +
    time % 86400000

/-- Started on the first of March 2017, with one user. -/
def startedInMarch : NotificationService where
  classLoadedOn := 1488326400000
  store := { Store.empty with users := Table.empty.insert (plainUser 0 "alice") }

/-- A notification of the second of March, and the count on the first of June. -/
def callsUntilJune : List TimedCall :=
  [⟨1488412800000, .addNotification 1 .welcome⟩,
    ⟨1496275200000, .getUnreadNotificationsCount 1⟩]

/-- In June the notification of March still counts as one of the past month. -/
theorem not_answersOverPastMonth :
    ¬ ∀ start calls,
      Throughout notificationStep (AnswersOverPastMonth minusMonthsInUtc) start calls := by
  intro always
  have answered := ((always startedInMarch callsUntilJune).2 _ rfl).1 1 (by decide)
  exact absurd answered (by decide)

end GraffiTab
