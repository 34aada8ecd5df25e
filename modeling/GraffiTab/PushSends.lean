/-
This file follows the sending of push notifications while users register and unregister devices.

A job stores a notification and then, outside any transaction, reads the devices of the receiver
and pushes to one after the other; a device whose push is refused is removed in a transaction of its
own. Between any two of these steps other jobs and the requests of users go on. The journal says
what has happened: which devices were registered, which lists were read, which pushes were made.
-/

import GraffiTab.Library.Journals
import GraffiTab.PushDevices
import GraffiTab.PushMessages
import GraffiTab.UserFeed

namespace GraffiTab

open Tables Runs Journals

/-! ### Jobs and their steps -/

/-- What a job is to send. -/
structure PushRequest where
  receiver : Long
  notification : LoadedNotification
  deriving DecidableEq

/-- How far a job has come. -/
inductive PushPhase where
  | queued
  | stored
  /-- These devices are still to be pushed to. -/
  | sending (devices : List Device)
  /-- The push to the device was refused, and it is still to be removed. -/
  | refusing (device : Device) (devices : List Device)
  | finished
  deriving DecidableEq

inductive PushEvent where
  | registered (device : Device)
  | unregistered (userId : Long) (token : String) (osType : OSType)
  | listed (job : Nat) (receiver : Long) (devices : List Device)
  | pushed (job : Nat) (device : Device) (message : PushMessage) (outcome : PushOutcome)
  deriving DecidableEq

/-- The database, the jobs in the order in which they were queued, and what has happened. -/
structure PushWorld where
  store : Store
  requests : List PushRequest
  phase : Nat → PushPhase
  journal : List PushEvent

/-- What can happen: a call of a user, a new job, or the next step of a job, with the answer of the
push service where the step is a push. -/
inductive PushAction where
  | call (call : DeviceCall)
  | queue (request : PushRequest)
  | work (job : Nat) (now : Long) (outcome : PushOutcome)

/-- What the journal says of a call that led from one store to the next. -/
def DeviceCall.events (store next : Store) : DeviceCall → List PushEvent
  | .registerDevice .. =>
      (next.devices.rows.filter fun device => device ∉ store.devices.rows).map .registered
  | .unregisterDevice currentUserId token osType => [.unregistered currentUserId token osType]

/-- What a step of a job leaves: the database, how far the job is, and what has happened. An
exception of the first transaction ends the job, and `sendNotification` catches all others. -/
def PushPhase.work (request : PushRequest) (job : Nat) (now : Long) (outcome : PushOutcome)
    (store : Store) : PushPhase → Store × PushPhase × List PushEvent
  | .queued =>
      match transaction (addNotificationToUser
        ⟨0, request.receiver, false, now, request.notification.content⟩) store with
      | (next, .ok ()) => (next, .stored, [])
      | (next, .error _) => (next, .finished, [])
  | .stored =>
      match findUserById request.receiver store with
      | none => (store, .finished, [])
      | some innerUser =>
          let devices := devicesOf innerUser.id store
          (store, .sending devices, [.listed job request.receiver devices])
  | .sending [] => (store, .finished, [])
  | .sending (device :: rest) =>
      let pushed := PushEvent.pushed job device request.notification.message outcome
      match outcome with
      | .delivered => (store, .sending rest, [pushed])
      | .refused => (store, .refusing device rest, [pushed])
      | .thrown => (store, .finished, [pushed])
  | .refusing device rest =>
      match transaction (removeDevice request.receiver device) store with
      | (next, .ok ()) => (next, .sending rest, [])
      | (next, .error _) => (next, .finished, [])
  | .finished => (store, .finished, [])

/-- The world after a step of a job. -/
def PushWorld.proceed (world : PushWorld) (job : Nat)
    (result : Store × PushPhase × List PushEvent) : PushWorld :=
  { world with
    store := result.1
    phase := Function.update world.phase job result.2.1
    journal := world.journal ++ result.2.2 }

def pushStep (platform : Platform) (world : PushWorld) : PushAction → Option PushWorld
  | .call call =>
      let next := call.perform platform world.store
      some { world with store := next, journal := world.journal ++ call.events world.store next }
  | .queue request => some { world with requests := world.requests ++ [request] }
  | .work job now outcome =>
      match world.requests[job]? with
      | none => none
      | some request =>
          some (world.proceed job ((world.phase job).work request job now outcome world.store))

/-- A database whose devices are registered, without jobs. -/
def PushWorld.initial (store : Store) : PushWorld where
  store := store
  requests := []
  phase _ := .queued
  journal := store.devices.rows.map .registered

/-! ### What may be expected -/

/-- The events that end the registration of a device: its user unregisters it, or a push to this
very registration is refused. -/
def PushEvent.Ends (platform : Platform) (device : Device) : PushEvent → Prop
  | .unregistered userId token osType =>
      device.userId = userId ∧ SameText platform device.token token ∧ device.osType = osType
  | .pushed _ refused _ outcome => refused = device ∧ outcome = .refused
  | _ => False

/-- The devices that a job has pushed to, in order. -/
def pushedBy (job : Nat) (journal : List PushEvent) : List Device :=
  journal.filterMap fun
    | .pushed other device _ _ => if other = job then some device else none
    | _ => none

/-- The push service threw at a push of the job. -/
def ThrewAt (job : Nat) (journal : List PushEvent) : Prop :=
  ∃ device message, PushEvent.pushed job device message .thrown ∈ journal

structure PushesSafe (platform : Platform) (world : PushWorld) : Prop where
  /-- A push says what its job is to send, goes to a phone that the receiver has registered, and is
  about a notification that the receiver can read. -/
  own : ∀ job device message outcome, .pushed job device message outcome ∈ world.journal →
    ∃ request, world.requests[job]? = some request ∧ device.userId = request.receiver ∧
      .registered device ∈ world.journal ∧ message = request.notification.message ∧
      ∃ row ∈ world.store.notifications.rows, row.userId = request.receiver ∧
        row.content = request.notification.content
  /-- A job pushes to what it has read, in order and to each device once; it leaves none out unless
  the push service throws. -/
  inOrder : ∀ job receiver devices, .listed job receiver devices ∈ world.journal →
    devices.Nodup ∧ pushedBy job world.journal <+: devices ∧
      (world.phase job = .finished →
        pushedBy job world.journal = devices ∨ ThrewAt job world.journal)
  /-- What a job reads are all devices whose registration has not ended. -/
  listsAll : ∀ device, SinceEach world.journal (.registered device) fun since =>
    ∀ job devices, BeforeEach since (.listed job device.userId devices) fun between =>
      device ∈ devices ∨ ∃ event ∈ between, event.Ends platform device
  /-- A device stays registered until something ends its registration. -/
  stays : ∀ device, SinceEach world.journal (.registered device) fun since =>
    device ∈ world.store.devices.rows ∨ ∃ event ∈ since, event.Ends platform device

/-! ### Devices and the journal -/

/-- What the journal says of the table of devices. -/
structure DeviceJournal (platform : Platform) (devices : Table Device)
    (journal : List PushEvent) : Prop where
  registered : ∀ device ∈ devices.rows, .registered device ∈ journal
  issued : ∀ device, .registered device ∈ journal → device.id ≤ devices.lastId
  listsAll : ∀ device, SinceEach journal (.registered device) fun since =>
    ∀ job list, BeforeEach since (.listed job device.userId list) fun between =>
      device ∈ list ∨ ∃ event ∈ between, event.Ends platform device
  stays : ∀ device, SinceEach journal (.registered device) fun since =>
    device ∈ devices.rows ∨ ∃ event ∈ since, event.Ends platform device

section Devices

variable {platform : Platform} {devices : Table Device} {journal : List PushEvent}
  {device : Device} {event : PushEvent}

theorem exists_append {Happened : PushEvent → Prop} {since : List PushEvent}
    (happened : ∃ event ∈ since, Happened event) (new : PushEvent) :
    ∃ event ∈ since ++ [new], Happened event := by
  obtain ⟨event, member, holds⟩ := happened
  exact ⟨event, List.mem_append_left _ member, holds⟩

/-- A device that is not there yet is registered. -/
theorem DeviceJournal.register (kept : DeviceJournal platform devices journal) (new : Device) :
    DeviceJournal platform (devices.insert new)
      (journal ++ [.registered { new with id := devices.nextId }]) where
  registered device member := by
    rcases Table.mem_insert.mp member with old | rfl
    · exact List.mem_append_left _ (kept.registered device old)
    · exact List.mem_append_right _ (List.mem_singleton_self _)
  issued device member := by
    change device.id ≤ devices.lastId + 1
    rcases List.mem_append.mp member with old | isNew
    · exact (kept.issued device old).trans (by omega)
    · obtain rfl := PushEvent.registered.inj (List.mem_singleton.mp isNew)
      exact le_rfl
  listsAll device := by
    refine (kept.listsAll device).append (fun since holds job list => ?_) fun _ job list => ?_
    · exact (holds job list).append nofun
    · exact .of_notMem List.not_mem_nil
  stays device := by
    refine (kept.stays device).append (fun since holds => ?_) fun isNew => ?_
    · exact holds.imp (fun member => Table.mem_insert.mpr (.inl member))
        fun ended => exists_append ended _
    · rw [PushEvent.registered.inj isNew]
      exact .inl (Table.mem_insert.mpr (.inr rfl))

/-- Something happens that registers nothing and lists nothing; what goes from the table has ended
before, or by this. -/
theorem DeviceJournal.shrink (kept : DeviceJournal platform devices journal) {left : Table Device}
    (sameId : left.lastId = devices.lastId) (subset : ∀ row ∈ left.rows, row ∈ devices.rows)
    (notRegistered : ∀ device, PushEvent.registered device ≠ event)
    (notListed : ∀ job receiver list, PushEvent.listed job receiver list ≠ event)
    (gone : ∀ row ∈ devices.rows, row ∉ left.rows → event.Ends platform row) :
    DeviceJournal platform left (journal ++ [event]) where
  registered device member := List.mem_append_left _ (kept.registered device (subset _ member))
  issued device member := by
    rw [sameId]
    rcases List.mem_append.mp member with old | isNew
    · exact kept.issued device old
    · exact absurd (List.mem_singleton.mp isNew) (notRegistered device)
  listsAll device := by
    refine (kept.listsAll device).append (fun since holds job list => ?_) fun isNew => ?_
    · exact (holds job list).append fun isNew => absurd isNew (notListed _ _ _)
    · exact absurd isNew (notRegistered device)
  stays device := by
    refine (kept.stays device).append (fun since holds => ?_) fun isNew => ?_
    · rcases holds with there | ended
      · by_cases stays : device ∈ left.rows
        · exact .inl stays
        · exact .inr ⟨event, List.mem_append_right _ (List.mem_singleton_self _),
            gone device there stays⟩
      · exact .inr (exists_append ended _)
    · exact absurd isNew (notRegistered device)

/-- A job reads the devices of a user. -/
theorem DeviceJournal.list (kept : DeviceJournal platform devices journal) (job : Nat)
    (receiver : Long) :
    DeviceJournal platform devices (journal ++
      [.listed job receiver (devices.select fun device => device.userId = receiver)]) where
  registered device member := List.mem_append_left _ (kept.registered device member)
  issued device member := by
    rcases List.mem_append.mp member with old | isNew
    · exact kept.issued device old
    · exact absurd (List.mem_singleton.mp isNew) nofun
  listsAll device := by
    -- The time since the registration is needed with both conditions that hold of it.
    intro before since same
    rcases append_singleton_eq_split same with ⟨rest, rfl, older⟩ | ⟨rfl, isNew, -⟩
    · intro other list
      refine (kept.listsAll device before rest older other list).append fun isNew => ?_
      obtain ⟨rfl, isReceiver, rfl⟩ := PushEvent.listed.inj isNew
      refine (kept.stays device before rest older).imp_left fun there => ?_
      exact Table.mem_select.mpr ⟨there, decide_eq_true isReceiver⟩
    · cases isNew
  stays device := by
    refine (kept.stays device).append (fun since holds => ?_) nofun
    exact holds.imp_right fun ended => exists_append ended _

/-- A device goes whose registration has ended. -/
theorem DeviceJournal.remove (kept : DeviceJournal platform devices journal)
    {condition : Device → Bool}
    (only : ∀ row, condition row = true → row = device)
    (ended : SinceEach journal (.registered device) fun since =>
      ∃ event ∈ since, event.Ends platform device) :
    DeviceJournal platform (devices.remove condition) journal where
  registered row member := kept.registered row (Table.mem_remove.mp member).1
  issued := kept.issued
  listsAll := kept.listsAll
  stays row before since same := by
    by_cases removed : condition row = true
    · obtain rfl := only row removed
      exact .inr (ended before since same)
    · refine (kept.stays row before since same).imp_left fun there => ?_
      exact Table.mem_remove.mpr ⟨there, Bool.eq_false_iff.mpr removed⟩

theorem deviceJournal_initial (devices : Table Device) :
    DeviceJournal platform devices (devices.rows.map .registered) where
  registered device member := List.mem_map_of_mem member
  issued device member := by
    obtain ⟨row, stored, same⟩ := List.mem_map.mp member
    rw [← PushEvent.registered.inj same]
    exact devices.issued row stored
  listsAll device before since same job list between after isListed := by
    have member : PushEvent.listed job device.userId list ∈ devices.rows.map .registered := by
      rw [same, isListed]
      simp
    obtain ⟨row, -, absurdity⟩ := List.mem_map.mp member
    cases absurdity
  stays device before since same := by
    have member : PushEvent.registered device ∈ devices.rows.map .registered := by
      rw [same]
      exact List.mem_append_right _ List.mem_cons_self
    obtain ⟨row, stored, isDevice⟩ := List.mem_map.mp member
    exact .inl (PushEvent.registered.inj isDevice ▸ stored)

end Devices

/-! ### Jobs and the journal -/

/-- The receiver has the notification. -/
def PushRequest.Stored (request : PushRequest) (store : Store) : Prop :=
  (∃ user, store.users.find request.receiver = some user) ∧
    ∃ row ∈ store.notifications.rows, row.userId = request.receiver ∧
      row.content = request.notification.content

/-- The job has neither read nor pushed. -/
def Unread (job : Nat) (journal : List PushEvent) : Prop :=
  pushedBy job journal = [] ∧ ∀ receiver devices, .listed job receiver devices ∉ journal

/-- The job has read these devices, once. -/
structure HasRead (world : PushWorld) (job : Nat) (devices : List Device) : Prop where
  listed : ∀ receiver list, .listed job receiver list ∈ world.journal → list = devices
  distinct : devices.Nodup
  request : ∃ request, world.requests[job]? = some request ∧ request.Stored world.store ∧
    ∀ device ∈ devices, device.userId = request.receiver ∧ .registered device ∈ world.journal

/-- What a job has done, by how far it has come. -/
def PushPhase.Kept (platform : Platform) (world : PushWorld) (job : Nat) : PushPhase → Prop
  | .queued => Unread job world.journal
  | .stored => Unread job world.journal ∧
      ∃ request, world.requests[job]? = some request ∧ request.Stored world.store
  | .sending rest => HasRead world job (pushedBy job world.journal ++ rest)
  | .refusing device rest => HasRead world job (pushedBy job world.journal ++ rest) ∧
      device ∈ pushedBy job world.journal ∧
      SinceEach world.journal (.registered device) fun since =>
        ∃ event ∈ since, event.Ends platform device
  | .finished => Unread job world.journal ∨
      ∃ devices, HasRead world job devices ∧ pushedBy job world.journal <+: devices ∧
        (pushedBy job world.journal = devices ∨ ThrewAt job world.journal)

/-- What a job relies on stays. -/
structure PushGrowth (job : Nat) (world next : PushWorld) : Prop where
  requests : ∀ request, world.requests[job]? = some request → next.requests[job]? = some request
  users : next.store.users = world.store.users
  notifications : ∀ row ∈ world.store.notifications.rows, row ∈ next.store.notifications.rows
  journal : ∀ event ∈ world.journal, event ∈ next.journal
  listed : ∀ receiver devices, .listed job receiver devices ∈ next.journal →
    .listed job receiver devices ∈ world.journal

/-- What the steps of others leave of a job. -/
structure PushFrame (platform : Platform) (job : Nat) (world next : PushWorld) : Prop extends
    PushGrowth job world next where
  pushed : pushedBy job next.journal = pushedBy job world.journal
  ends : ∀ device, .registered device ∈ world.journal →
    (SinceEach world.journal (.registered device) fun since =>
      ∃ event ∈ since, event.Ends platform device) →
    SinceEach next.journal (.registered device) fun since =>
      ∃ event ∈ since, event.Ends platform device

section Jobs

variable {platform : Platform} {world next : PushWorld} {job : Nat}

theorem PushRequest.Stored.grow {request : PushRequest} (stored : request.Stored world.store)
    (growth : PushGrowth job world next) : request.Stored next.store := by
  obtain ⟨known, row, member, isReceiver, isContent⟩ := stored
  exact ⟨growth.users ▸ known, row, growth.notifications row member, isReceiver, isContent⟩

theorem Unread.of_frame (unread : Unread job world.journal)
    (frame : PushFrame platform job world next) :
    Unread job next.journal :=
  ⟨frame.pushed.trans unread.1, fun receiver devices member =>
    unread.2 receiver devices (frame.listed receiver devices member)⟩

theorem HasRead.grow {devices : List Device} (read : HasRead world job devices)
    (growth : PushGrowth job world next) : HasRead next job devices where
  listed receiver list member := read.listed receiver list (growth.listed receiver list member)
  distinct := read.distinct
  request := by
    obtain ⟨request, queued, stored, own⟩ := read.request
    refine ⟨request, growth.requests request queued, stored.grow growth, fun device member => ?_⟩
    exact ⟨(own device member).1, growth.journal _ (own device member).2⟩

theorem PushPhase.Kept.of_frame {phase : PushPhase} (kept : phase.Kept platform world job)
    (frame : PushFrame platform job world next) : phase.Kept platform next job := by
  cases phase with
  | queued => exact Unread.of_frame kept frame
  | stored =>
      obtain ⟨unread, request, queued, stored⟩ := kept
      exact ⟨unread.of_frame frame, request, frame.requests request queued,
        stored.grow frame.toPushGrowth⟩
  | sending rest =>
      rw [PushPhase.Kept, frame.pushed]
      exact HasRead.grow kept frame.toPushGrowth
  | refusing device rest =>
      rw [PushPhase.Kept, frame.pushed]
      obtain ⟨read, pushed, ended⟩ := kept
      obtain ⟨request, -, -, own⟩ := read.request
      have registered := (own device (List.mem_append_left _ pushed)).2
      exact ⟨read.grow frame.toPushGrowth, pushed, frame.ends device registered ended⟩
  | finished =>
      rw [PushPhase.Kept, frame.pushed]
      rcases kept with unread | ⟨devices, read, isPrefix, complete⟩
      · exact .inl (unread.of_frame frame)
      · refine .inr ⟨devices, read.grow frame.toPushGrowth, isPrefix, complete.imp_right ?_⟩
        rintro ⟨device, message, threw⟩
        exact ⟨device, message, frame.journal _ threw⟩

/-- The job to which an event belongs. -/
def PushEvent.ofJob (job : Nat) : PushEvent → Bool
  | .listed other .. => other = job
  | .pushed other .. => other = job
  | _ => false

theorem pushedBy_append (first second : List PushEvent) :
    pushedBy job (first ++ second) = pushedBy job first ++ pushedBy job second :=
  List.filterMap_append

theorem pushedBy_singleton_of_other {event : PushEvent} (other : event.ofJob job = false) :
    pushedBy job [event] = [] := by
  cases event with
  | pushed owner device message outcome =>
      rw [pushedBy, List.filterMap_cons_none]
      · rfl
      · exact if_neg (of_decide_eq_false other)
  | _ => rfl

/-- A step that adds an event of another kind, or of another job. -/
theorem PushGrowth.of_journal {events : List PushEvent}
    (requests : ∀ request, world.requests[job]? = some request →
      next.requests[job]? = some request)
    (users : next.store.users = world.store.users)
    (notifications : ∀ row ∈ world.store.notifications.rows, row ∈ next.store.notifications.rows)
    (journal : next.journal = world.journal ++ events)
    (unlisted : ∀ receiver devices, .listed job receiver devices ∉ events) :
    PushGrowth job world next where
  requests := requests
  users := users
  notifications := notifications
  journal event member := journal ▸ List.mem_append_left _ member
  listed receiver devices member := by
    rw [journal] at member
    exact (List.mem_append.mp member).resolve_right (unlisted receiver devices)

/-- An event that belongs to another job, or to none, leaves the job as it is. -/
theorem PushGrowth.frame_event {event : PushEvent} (growth : PushGrowth job world next)
    (journal : next.journal = world.journal ++ [event]) (other : event.ofJob job = false)
    (fresh : ∀ device, .registered device = event → .registered device ∉ world.journal) :
    PushFrame platform job world next where
  toPushGrowth := growth
  pushed := by
    rw [journal, pushedBy_append, pushedBy_singleton_of_other other, List.append_nil]
  ends device registered ended := by
    rw [journal]
    refine ended.append (fun since happened => exists_append happened _) fun isNew => ?_
    exact absurd registered (fresh device isNew)

theorem PushGrowth.frame_silence (growth : PushGrowth job world next)
    (journal : next.journal = world.journal) : PushFrame platform job world next where
  toPushGrowth := growth
  pushed := congrArg (pushedBy job) journal
  ends _ _ ended := journal ▸ ended

theorem not_listed_of_other {event : PushEvent} (other : event.ofJob job = false)
    (receiver : Long) (devices : List Device) : .listed job receiver devices ∉ [event] := by
  intro member
  rw [← List.mem_singleton.mp member] at other
  exact absurd rfl (of_decide_eq_false other)

end Jobs

/-! ### What the transactions do -/

section Transactions

variable {platform : Platform}

/-- A registration adds a device, or it changes nothing. -/
theorem perform_register_cases (currentUserId : Long) (token : String) (osType : OSType)
    (store : Store) :
    (DeviceCall.registerDevice currentUserId token osType).perform platform store = store ∨
      ∃ new, (DeviceCall.registerDevice currentUserId token osType).perform platform store =
        { store with devices := store.devices.insert new } := by
  refine transaction_keeps (fun next => next = store ∨
    ∃ new, next = { store with devices := store.devices.insert new }) (.inl rfl)
    fun _ next returned => ?_
  obtain ⟨device, -, afterwards⟩ := bind_eq_ok.mp returned
  obtain ⟨currentUser, -, rest⟩ := bind_eq_ok.mp afterwards
  cases device with
  | none =>
      obtain ⟨-, rfl⟩ := Prod.mk.inj (Except.ok.inj rest)
      exact .inr ⟨_, rfl⟩
  | some device =>
      obtain ⟨-, rfl⟩ := Prod.mk.inj (Except.ok.inj rest)
      exact .inl rfl

/-- A call of `unregisterDevice` removes at most the named device, from the list of the user. -/
theorem perform_unregister_cases (currentUserId : Long) (token : String) (osType : OSType)
    (store : Store) :
    ∃ left : Table Device,
      (DeviceCall.unregisterDevice currentUserId token osType).perform platform store =
        { store with devices := left } ∧
      left.lastId = store.devices.lastId ∧ (∀ row ∈ left.rows, row ∈ store.devices.rows) ∧
      ∀ row ∈ store.devices.rows, row ∉ left.rows →
        row.userId = currentUserId ∧ SameText platform row.token token ∧ row.osType = osType := by
  refine transaction_keeps
    (fun next => ∃ left : Table Device, next = { store with devices := left } ∧
      left.lastId = store.devices.lastId ∧ (∀ row ∈ left.rows, row ∈ store.devices.rows) ∧
      ∀ row ∈ store.devices.rows, row ∉ left.rows →
        row.userId = currentUserId ∧ SameText platform row.token token ∧ row.osType = osType)
    ⟨store.devices, rfl, rfl, fun _ member => member, fun _ member gone => absurd member gone⟩
    fun _ next returned => ?_
  obtain ⟨device, found, afterwards⟩ := bind_eq_ok.mp returned
  obtain ⟨currentUser, loaded, rest⟩ := bind_eq_ok.mp afterwards
  have isCurrent := id_of_loadCurrentUser loaded
  cases device with
  | none =>
      obtain ⟨-, rfl⟩ := Prod.mk.inj (Except.ok.inj rest)
      exact ⟨store.devices, rfl, rfl, fun _ member => member,
        fun _ member gone => absurd member gone⟩
  | some device =>
      obtain ⟨-, rfl⟩ := Prod.mk.inj (Except.ok.inj rest)
      obtain ⟨stored, named⟩ := Table.mem_select.mp (uniqueResult_eq_some.mp found).1
      rw [Bool.and_eq_true, decide_eq_true_eq, decide_eq_true_eq] at named
      refine ⟨_, rfl, rfl, fun _ member => (Table.mem_remove.mp member).1,
        fun row member gone => ?_⟩
      have removed : (row.userId = currentUser.id && row.id = device.id) = true := by
        by_contra kept
        exact gone (Table.mem_remove.mpr ⟨member, Bool.eq_false_iff.mpr kept⟩)
      rw [Bool.and_eq_true, decide_eq_true_eq, decide_eq_true_eq] at removed
      obtain rfl : row = device := Table.eq_of_id_eq member stored removed.2
      exact ⟨removed.1.trans isCurrent, named⟩

/-- The rows that an insertion adds. -/
theorem filter_insert {devices : Table Device} (new : Device) :
    ((devices.insert new).rows.filter fun device => device ∉ devices.rows) =
      [{ new with id := devices.nextId }] := by
  have absent : { new with id := devices.nextId } ∉ devices.rows := fun member =>
    absurd rfl (Table.ne_nextId member)
  rw [Table.insert, List.filter_append, List.filter_eq_nil_iff.mpr, List.nil_append,
    List.filter_singleton]
  · exact congrArg (fun added => bif added then _ else _) (decide_eq_true absent)
  · exact fun device member outside => of_decide_eq_true outside member

end Transactions

/-! ### What the steps keep -/

structure PushKept (platform : Platform) (world : PushWorld) : Prop where
  devices : DeviceJournal platform world.store.devices world.journal
  jobs : ∀ job, (world.phase job).Kept platform world job
  said : ∀ job device message outcome, .pushed job device message outcome ∈ world.journal →
    ∃ request, world.requests[job]? = some request ∧ message = request.notification.message

section Steps

variable {platform : Platform} {world : PushWorld} {job : Nat} {request : PushRequest}

theorem getElem?_append_of_some {requests : List PushRequest} (new : PushRequest)
    (queued : requests[job]? = some request) : (requests ++ [new])[job]? = some request := by
  obtain ⟨bound, -⟩ := List.getElem?_eq_some_iff.mp queued
  rw [List.getElem?_append_left bound]
  exact queued

/-- A call of a user. -/
theorem PushKept.call (kept : PushKept platform world) {devices : Table Device} {event : PushEvent}
    (journal : DeviceJournal platform devices (world.journal ++ [event]))
    (ofNoJob : ∀ job, event.ofJob job = false)
    (fresh : ∀ device, .registered device = event → .registered device ∉ world.journal) :
    PushKept platform { world with
      store := { world.store with devices }
      journal := world.journal ++ [event] } where
  devices := journal
  jobs job := by
    refine (kept.jobs job).of_frame (PushGrowth.frame_event ?_ rfl (ofNoJob job) fresh)
    exact .of_journal (fun _ queued => queued) rfl (fun _ member => member) rfl
      (not_listed_of_other (ofNoJob job))
  said job device message outcome member := by
    rcases List.mem_append.mp member with old | isNew
    · exact kept.said job device message outcome old
    · have other := ofNoJob job
      rw [← List.mem_singleton.mp isNew] at other
      exact absurd rfl (of_decide_eq_false other)

theorem PushKept.step_call (kept : PushKept platform world) (call : DeviceCall) :
    PushKept platform { world with
      store := call.perform platform world.store
      journal :=
          world.journal ++ call.events world.store (call.perform platform world.store) } := by
  cases call with
  | registerDevice currentUserId token osType =>
      rcases perform_register_cases currentUserId token osType world.store with same | ⟨new, same⟩
      · have nothing : (DeviceCall.registerDevice currentUserId token osType).events world.store
            world.store = [] := by
          rw [DeviceCall.events, List.map_eq_nil_iff, List.filter_eq_nil_iff]
          exact fun device member outside => of_decide_eq_true outside member
        rw [same, nothing, List.append_nil]
        exact kept
      · have one : (DeviceCall.registerDevice currentUserId token osType).events world.store
            { world.store with devices := world.store.devices.insert new } =
              [.registered { new with id := world.store.devices.nextId }] :=
          congrArg (List.map PushEvent.registered) (filter_insert new)
        rw [same, one]
        refine kept.call (kept.devices.register new) (fun _ => rfl) fun device isNew member => ?_
        rw [PushEvent.registered.inj isNew] at member
        have bound := kept.devices.issued _ member
        change world.store.devices.lastId + 1 ≤ _ at bound
        omega
  | unregisterDevice currentUserId token osType =>
      obtain ⟨left, same, sameId, subset, gone⟩ :=
        perform_unregister_cases currentUserId token osType world.store
      rw [same]
      exact kept.call (kept.devices.shrink sameId subset nofun nofun gone) (fun _ => rfl) nofun

theorem PushKept.step_queue (kept : PushKept platform world) (request : PushRequest) :
    PushKept platform { world with requests := world.requests ++ [request] } where
  devices := kept.devices
  jobs job := by
    refine (kept.jobs job).of_frame (PushGrowth.frame_silence ?_ rfl)
    exact ⟨fun _ queued => getElem?_append_of_some request queued, rfl, fun _ member => member,
      fun _ member => member, fun _ _ member => member⟩
  said job device message outcome member := by
    obtain ⟨own, queued, same⟩ := kept.said job device message outcome member
    exact ⟨own, getElem?_append_of_some request queued, same⟩

/-- A step of a job changes nothing for the other jobs. -/
theorem PushKept.proceed (kept : PushKept platform world) {next : Store} {phase : PushPhase}
    {events : List PushEvent}
    (devices : DeviceJournal platform next.devices (world.journal ++ events))
    (growth : ∀ other, other ≠ job →
      PushFrame platform other world (world.proceed job (next, phase, events)))
    (own : phase.Kept platform (world.proceed job (next, phase, events)) job)
    (said : ∀ other device message outcome, .pushed other device message outcome ∈ events →
      ∃ request, world.requests[other]? = some request ∧ message = request.notification.message) :
    PushKept platform (world.proceed job (next, phase, events)) where
  devices := devices
  jobs other := by
    by_cases same : other = job
    · subst same
      rw [show (world.proceed other (next, phase, events)).phase other = phase from
        Function.update_self ..]
      exact own
    · rw [show (world.proceed job (next, phase, events)).phase other = world.phase other from
        Function.update_of_ne same ..]
      exact (kept.jobs other).of_frame (growth other same)
  said other device message outcome member := by
    rcases List.mem_append.mp member with old | isNew
    · exact kept.said other device message outcome old
    · exact said other device message outcome isNew

/-- A step that adds nothing to the journal and changes no user. -/
theorem PushKept.proceed_silent (kept : PushKept platform world) {next : Store} {phase : PushPhase}
    (devices : DeviceJournal platform next.devices world.journal)
    (users : next.users = world.store.users)
    (notifications : ∀ row ∈ world.store.notifications.rows, row ∈ next.notifications.rows)
    (own : PushGrowth job world (world.proceed job (next, phase, [])) →
      phase.Kept platform (world.proceed job (next, phase, [])) job) :
    PushKept platform (world.proceed job (next, phase, [])) := by
  have journal : (world.proceed job (next, phase, [])).journal = world.journal :=
    List.append_nil _
  have growth (other : Nat) : PushGrowth other world (world.proceed job (next, phase, [])) :=
    .of_journal (fun _ queued => queued) users notifications rfl
      fun _ _ => List.not_mem_nil
  refine kept.proceed ?_ (fun other _ => (growth other).frame_silence journal) (own (growth job))
    fun _ _ _ _ member => absurd member List.not_mem_nil
  rw [List.append_nil]
  exact devices

/-- A step that only adds an event of the job to the journal. -/
theorem PushKept.proceed_event (kept : PushKept platform world) {phase : PushPhase}
    {event : PushEvent}
    (devices : DeviceJournal platform world.store.devices (world.journal ++ [event]))
    (ofJob : ∀ other, other ≠ job → event.ofJob other = false)
    (notRegistered : ∀ device, PushEvent.registered device ≠ event)
    (own : phase.Kept platform (world.proceed job (world.store, phase, [event])) job)
    (said : ∀ other device message outcome, .pushed other device message outcome = event →
      ∃ request, world.requests[other]? = some request ∧ message = request.notification.message) :
    PushKept platform (world.proceed job (world.store, phase, [event])) := by
  refine kept.proceed devices (fun other different => ?_) own fun other device message outcome
    member => said other device message outcome (List.mem_singleton.mp member)
  refine PushGrowth.frame_event ?_ rfl (ofJob other different) fun device isNew =>
    absurd isNew (notRegistered device)
  exact .of_journal (fun _ queued => queued) rfl (fun _ member => member) rfl
    (not_listed_of_other (ofJob other different))

/-- The notification is stored, unless the receiver is unknown. -/
theorem PushKept.work_queued (kept : PushKept platform world)
    (queued : world.requests[job]? = some request)
    (unread : Unread job world.journal) (now : Long) (outcome : PushOutcome) :
    PushKept platform
      (world.proceed job (PushPhase.queued.work request job now outcome world.store)) := by
  rw [PushPhase.work]
  rcases transaction_cases (addNotificationToUser
      ⟨0, request.receiver, false, now, request.notification.content⟩) world.store with
    ⟨⟨⟩, next, returned, same⟩ | ⟨thrown, -, same⟩
  · rw [same]
    rw [addNotificationToUser] at returned
    split at returned
    · exact absurd returned throw_ne_ok
    · rename_i inner found
      obtain ⟨-, rfl⟩ := Prod.mk.inj (Except.ok.inj returned)
      refine kept.proceed_silent kept.devices rfl
        (fun row member => Table.mem_insert.mpr (.inl member)) fun growth => ?_
      have journal : (world.journal ++ [] : List PushEvent) = world.journal := List.append_nil _
      refine ⟨?_, request, queued, ⟨inner, found⟩, _, Table.mem_insert.mpr (.inr rfl), ?_, rfl⟩
      · rw [PushWorld.proceed, journal]
        exact unread
      · exact Table.id_of_find found
  · rw [same]
    refine kept.proceed_silent kept.devices rfl (fun _ member => member) fun growth => ?_
    refine .inl ?_
    rw [PushWorld.proceed, List.append_nil]
    exact unread

/-- The devices are read. -/
theorem PushKept.work_stored (kept : PushKept platform world)
    (queued : world.requests[job]? = some request)
    (unread : Unread job world.journal) (stored : request.Stored world.store) (now : Long)
    (outcome : PushOutcome) :
    PushKept platform
      (world.proceed job (PushPhase.stored.work request job now outcome world.store)) := by
  obtain ⟨⟨user, known⟩, notified⟩ := stored
  have isReceiver : user.id = request.receiver := Table.id_of_find known
  rw [PushPhase.work, findUserById, known]
  simp only [isReceiver]
  refine kept.proceed_event (kept.devices.list job request.receiver)
    (fun other different => decide_eq_false (Ne.symm different)) (fun _ same => by cases same) ?_
    fun _ _ _ _ same => by cases same
  have pushed : pushedBy job (world.journal ++
      [.listed job request.receiver (devicesOf request.receiver world.store)]) = [] := by
    rw [pushedBy_append, unread.1]
    rfl
  rw [PushPhase.Kept, PushWorld.proceed, pushed, List.nil_append]
  constructor
  case listed =>
    intro receiver list member
    rcases List.mem_append.mp member with old | isNew
    · exact absurd old (unread.2 receiver list)
    · exact (PushEvent.listed.inj (List.mem_singleton.mp isNew)).2.2
  case distinct => exact (world.store.devices.distinct.of_map _).filter _
  case request =>
    refine ⟨request, queued, ⟨⟨user, known⟩, notified⟩, fun device member => ?_⟩
    obtain ⟨there, isUser⟩ := mem_devicesOf.mp member
    exact ⟨isUser, List.mem_append_left _ (kept.devices.registered device there)⟩

/-- A device is pushed to. -/
theorem PushKept.work_sending (kept : PushKept platform world)
    (queued : world.requests[job]? = some request)
    (rest : List Device)
    (read : HasRead world job (pushedBy job world.journal ++ rest)) (now : Long)
    (outcome : PushOutcome) :
    PushKept platform (world.proceed job ((PushPhase.sending rest).work request job now outcome
      world.store)) := by
  cases rest with
  | nil =>
      rw [PushPhase.work]
      refine kept.proceed_silent kept.devices rfl (fun _ member => member) fun growth => ?_
      rw [List.append_nil] at read
      refine .inr ⟨_, read.grow growth, ?_⟩
      rw [PushWorld.proceed, List.append_nil]
      exact ⟨List.prefix_rfl, .inl rfl⟩
  | cons device rest =>
      have event (phase : PushPhase)
          (own : phase.Kept platform (world.proceed job (world.store, phase,
            [.pushed job device request.notification.message outcome])) job) :
          PushKept platform (world.proceed job (world.store, phase,
            [.pushed job device request.notification.message outcome])) := by
        refine kept.proceed_event ?_ (fun other different => decide_eq_false (Ne.symm different))
          nofun own fun other device message outcome same => ?_
        · exact kept.devices.shrink rfl (fun _ member => member) nofun nofun
            fun _ member gone => absurd member gone
        · obtain ⟨rfl, -, rfl, -⟩ := PushEvent.pushed.inj same
          exact ⟨request, queued, rfl⟩
      have pushed : pushedBy job (world.journal ++
          [.pushed job device request.notification.message outcome]) =
            pushedBy job world.journal ++ [device] := by
        rw [pushedBy_append, show pushedBy job
          [.pushed job device request.notification.message outcome] = [device] from
            List.filterMap_cons_some (if_pos rfl)]
      have grown (phase : PushPhase) : HasRead (world.proceed job (world.store, phase,
          [.pushed job device request.notification.message outcome])) job
            (pushedBy job world.journal ++ device :: rest) :=
        read.grow (.of_journal (fun _ queued => queued) rfl (fun _ member => member) rfl
          fun _ _ member => absurd (List.mem_singleton.mp member) nofun)
      cases outcome with
      | delivered =>
          refine event (.sending rest) ?_
          rw [PushPhase.Kept, PushWorld.proceed, pushed, List.append_assoc, List.singleton_append]
          exact grown (.sending rest)
      | refused =>
          refine event (.refusing device rest) ?_
          rw [PushPhase.Kept, PushWorld.proceed, pushed, List.append_assoc, List.singleton_append]
          refine ⟨grown (.refusing device rest),
            List.mem_append_right _ (List.mem_singleton_self _), ?_⟩
          have always : SinceEach world.journal (.registered device) fun _ => True :=
            fun _ _ _ => trivial
          exact always.append (fun since _ =>
            ⟨_, List.mem_append_right _ (List.mem_singleton_self _), rfl, rfl⟩) nofun
      | thrown =>
          refine event .finished (.inr ⟨_, grown .finished, ?_,
            .inr ⟨device, request.notification.message, ?_⟩⟩)
          · rw [PushWorld.proceed, pushed]
            exact (List.prefix_append_right_inj _).mpr (List.prefix_append [device] rest)
          · exact List.mem_append_right _ (List.mem_singleton_self _)

/-- A device is removed. The receiver is known, so the transaction does not throw. -/
theorem PushKept.work_refusing (kept : PushKept platform world)
    (queued : world.requests[job]? = some request)
    (device : Device) (rest : List Device)
    (read : HasRead world job (pushedBy job world.journal ++ rest))
    (pushed : device ∈ pushedBy job world.journal)
    (ended : SinceEach world.journal (.registered device) fun since =>
      ∃ event ∈ since, event.Ends platform device) (now : Long) (outcome : PushOutcome) :
    PushKept platform (world.proceed job
      ((PushPhase.refusing device rest).work request job now outcome world.store)) := by
  obtain ⟨own, ownQueued, ⟨⟨user, known⟩, -⟩, ofReceiver⟩ := read.request
  obtain rfl : own = request := Option.some.inj (ownQueued.symm.trans queued)
  simp only [PushPhase.work, transaction, removeDevice, findUserById, known, pure, Except.pure]
  refine kept.proceed_silent (kept.devices.remove (fun row removed => ?_) ended) rfl
    (fun _ member => member) fun growth => ?_
  · simp only [Bool.and_eq_true, decide_eq_true_eq] at removed
    obtain ⟨⟨⟨isUser, sameId⟩, sameToken⟩, sameType⟩ := removed
    have isReceiver := (ofReceiver device (List.mem_append_left _ pushed)).1
    have sameUser : row.userId = device.userId :=
      (isUser.trans (Table.id_of_find known)).trans isReceiver.symm
    cases row
    cases device
    simp_all only
  · have grown := read.grow growth
    rw [PushPhase.Kept, PushWorld.proceed, List.append_nil]
    rwa [PushWorld.proceed, List.append_nil] at grown

theorem PushKept.step {next : PushWorld} {action : PushAction} (kept : PushKept platform world)
    (taken : pushStep platform world action = some next) : PushKept platform next := by
  cases action with
  | call call =>
      rw [← Option.some.inj taken]
      exact kept.step_call call
  | queue request =>
      rw [← Option.some.inj taken]
      exact kept.step_queue request
  | work job now outcome =>
      rw [pushStep] at taken
      split at taken
      · cases taken
      rename_i request queued
      obtain rfl := Option.some.inj taken
      have ofJob := kept.jobs job
      cases phase : world.phase job with
      | queued =>
          rw [phase] at ofJob
          exact kept.work_queued queued ofJob now outcome
      | stored =>
          rw [phase] at ofJob
          obtain ⟨unread, own, ownQueued, stored⟩ := ofJob
          obtain rfl : own = request := Option.some.inj (ownQueued.symm.trans queued)
          exact kept.work_stored queued unread stored now outcome
      | sending rest =>
          rw [phase] at ofJob
          exact kept.work_sending queued rest ofJob now outcome
      | refusing device rest =>
          rw [phase] at ofJob
          exact kept.work_refusing queued device rest ofJob.1 ofJob.2.1 ofJob.2.2 now outcome
      | finished =>
          rw [phase] at ofJob
          rw [PushPhase.work]
          refine kept.proceed_silent kept.devices rfl (fun _ member => member) fun growth => ?_
          exact ofJob.of_frame (growth.frame_silence (List.append_nil _))

theorem pushKept_initial (store : Store) : PushKept platform (.initial store) where
  devices := deviceJournal_initial store.devices
  jobs job := by
    constructor
    · refine List.filterMap_eq_nil_iff.mpr fun event member => ?_
      obtain ⟨device, -, rfl⟩ := List.mem_map.mp member
      rfl
    · intro receiver devices member
      obtain ⟨device, -, absurdity⟩ := List.mem_map.mp member
      cases absurdity
  said job device message outcome member := by
    obtain ⟨row, -, absurdity⟩ := List.mem_map.mp member
    cases absurdity

/-- A job has not read yet, or it has pushed to a part of what it has read. -/
theorem PushPhase.Kept.unread_or_read {phase : PushPhase} (kept : phase.Kept platform world job) :
    Unread job world.journal ∨
      ∃ devices, HasRead world job devices ∧ pushedBy job world.journal <+: devices ∧
        (phase = .finished →
          pushedBy job world.journal = devices ∨ ThrewAt job world.journal) := by
  cases phase with
  | queued => exact .inl kept
  | stored => exact .inl kept.1
  | sending rest => exact .inr ⟨_, kept, List.prefix_append _ _, nofun⟩
  | refusing device rest => exact .inr ⟨_, kept.1, List.prefix_append _ _, nofun⟩
  | finished =>
      refine kept.imp_right ?_
      rintro ⟨devices, read, isPrefix, complete⟩
      exact ⟨devices, read, isPrefix, fun _ => complete⟩

theorem mem_pushedBy {journal : List PushEvent} {device : Device} {message : PushMessage}
    {outcome : PushOutcome} (member : .pushed job device message outcome ∈ journal) :
    device ∈ pushedBy job journal :=
  List.mem_filterMap.mpr ⟨_, member, if_pos rfl⟩

theorem PushKept.safe (kept : PushKept platform world) : PushesSafe platform world where
  own job device message outcome member := by
    obtain ⟨request, queued, same⟩ := kept.said job device message outcome member
    have pushed := mem_pushedBy member
    rcases (kept.jobs job).unread_or_read with unread | ⟨devices, read, isPrefix, -⟩
    · rw [unread.1] at pushed
      exact absurd pushed List.not_mem_nil
    · obtain ⟨own, ownQueued, stored, ofReceiver⟩ := read.request
      obtain rfl : own = request := Option.some.inj (ownQueued.symm.trans queued)
      obtain ⟨isReceiver, registered⟩ := ofReceiver device (isPrefix.subset pushed)
      exact ⟨own, queued, isReceiver, registered, same, stored.2⟩
  inOrder job receiver devices member := by
    rcases (kept.jobs job).unread_or_read with unread | ⟨read, hasRead, isPrefix, complete⟩
    · exact absurd member (unread.2 receiver devices)
    · obtain rfl := hasRead.listed receiver devices member
      exact ⟨hasRead.distinct, isPrefix, complete⟩
  listsAll := kept.devices.listsAll
  stays := kept.devices.stays

end Steps

/-- Whatever users and jobs do in whatever order: pushes go to phones of the receiver only, none is
left out or pushed to twice, and a phone stays registered until its user unregisters it or a push to
this registration is refused. -/
theorem pushesSafe {platform : Platform} {store : Store} {world : PushWorld}
    (reached : Reaches (pushStep platform) unrestricted (.initial store) world) :
    PushesSafe platform world :=
  (reached.invariant (PushKept platform) (pushKept_initial store)
    fun _ _ _ kept _ taken => kept.step taken).safe

/-- Alice registers two phones, and the push to the first one is refused. -/
def untilRefused : List PushAction :=
  [.call (.registerDevice 1 "phone" .ios), .call (.registerDevice 1 "tablet" .android),
    .queue ⟨1, followOf "bob"⟩, .work 0 5 .delivered, .work 0 5 .delivered, .work 0 5 .refused]

/-- While it waits to be removed, she unregisters it and registers it again. -/
def registeredAgain : List PushAction :=
  [.call (.unregisterDevice 1 "phone" .ios), .call (.registerDevice 1 "phone" .ios),
    .work 0 6 .delivered, .work 0 6 .delivered, .work 0 6 .delivered]

def afterRefused : PushWorld :=
  (run (pushStep (asciiPlatform .entry)) (.initial noDevices) untilRefused).getD
    (.initial noDevices)

def afterRegisteredAgain : PushWorld :=
  (run (pushStep (asciiPlatform .entry)) (.initial noDevices)
    (untilRefused ++ registeredAgain)).getD (.initial noDevices)

theorem run_afterRefused :
    run (pushStep (asciiPlatform .entry)) (.initial noDevices) untilRefused =
      some afterRefused := by
  rfl

theorem run_afterRegisteredAgain :
    run (pushStep (asciiPlatform .entry)) (.initial noDevices) (untilRefused ++ registeredAgain) =
      some afterRegisteredAgain := by
  rfl

/-- The new registration of the phone stays. -/
theorem pushesSafe_registeredAgain :
    PushesSafe (asciiPlatform .entry) afterRegisteredAgain ∧
      afterRegisteredAgain.store.devices.rows =
        [⟨2, 1, "tablet", .android⟩, ⟨3, 1, "phone", .ios⟩] :=
  ⟨pushesSafe (reaches_of_run_unrestricted _ run_afterRegisteredAgain), by decide +kernel⟩

/-! ### A job that nothing interrupts -/

/-- The device that the next step pushes to. -/
def PushPhase.nextDevice : PushPhase → Option Device
  | .sending (device :: _) => some device
  | _ => none

/-- Only the job takes steps, and the push services answer as `push` says. -/
def OnlyJob (push : Device → PushOutcome) (job : Nat) (world : PushWorld) : PushAction → Prop
  | .work other _ outcome => other = job ∧
      ∀ device, (world.phase job).nextDevice = some device → outcome = push device
  | _ => False

section Uninterrupted

variable (platform : Platform) (push : Device → PushOutcome) {job : Nat} {request : PushRequest}
  {user : User}

/-- What a job does on its own, from one world to another. -/
structure Proceeds (platform : Platform) (push : Device → PushOutcome) (job : Nat)
    (world next : PushWorld) : Prop where
  reached : Reaches (pushStep platform) (OnlyJob push job) world next
  requests : next.requests = world.requests
  users : next.store.users = world.store.users

theorem proceeds_work {world : PushWorld} {phase : PushPhase} (outcome : PushOutcome)
    (queued : world.requests[job]? = some request) (isPhase : world.phase job = phase)
    (answered : ∀ device, phase.nextDevice = some device → outcome = push device)
    {result : Store × PushPhase × List PushEvent}
    (worked : phase.work request job 0 outcome world.store = result)
    (users : result.1.users = world.store.users) :
    Proceeds platform push job world (world.proceed job result) where
  reached := by
    have permitted : OnlyJob push job world (.work job 0 outcome) := ⟨rfl, isPhase ▸ answered⟩
    refine .single permitted ?_
    rw [pushStep, queued, isPhase]
    exact congrArg (fun result => some (world.proceed job result)) worked
  requests := rfl
  users := users

theorem proceeds_quiet {world : PushWorld} {phase : PushPhase}
    (queued : world.requests[job]? = some request) (isPhase : world.phase job = phase)
    (quiet : phase.nextDevice = none) {result : Store × PushPhase × List PushEvent}
    (worked : phase.work request job 0 .delivered world.store = result)
    (users : result.1.users = world.store.users) :
    Proceeds platform push job world (world.proceed job result) :=
  proceeds_work platform push .delivered queued isPhase
    (fun device same => absurd (quiet.symm.trans same) (Option.some_ne_none device).symm)
    worked users

theorem phase_proceed (world : PushWorld) (result : Store × PushPhase × List PushEvent) :
    (world.proceed job result).phase job = result.2.1 :=
  Function.update_self ..

variable {platform push} in
theorem Proceeds.trans {world middle next : PushWorld}
    (first : Proceeds platform push job world middle)
    (second : Proceeds platform push job middle next) : Proceeds platform push job world next :=
  ⟨first.reached.trans second.reached, second.requests.trans first.requests,
    second.users.trans first.users⟩

/-- The step that pushes to a device. -/
theorem proceeds_push {world : PushWorld} {device : Device} {rest : List Device} (phase : PushPhase)
    (queued : world.requests[job]? = some request)
    (sending : world.phase job = .sending (device :: rest))
    (worked : (PushPhase.sending (device :: rest)).work request job 0 (push device) world.store =
      (world.store, phase, [.pushed job device request.notification.message (push device)])) :
    ∃ next, Proceeds platform push job world next ∧ next.phase job = phase ∧
      next.store = world.store ∧
      pushedBy job next.journal = pushedBy job world.journal ++ [device] := by
  refine ⟨_, proceeds_work platform push (push device) queued sending (fun other same => ?_)
    worked rfl, phase_proceed .., rfl, ?_⟩
  · rw [Option.some.inj same]
  · rw [PushWorld.proceed, pushedBy_append]
    exact congrArg _ (List.filterMap_cons_some (if_pos rfl))

/-- The step that removes a device; for a known user it does not throw. -/
theorem proceeds_remove {world : PushWorld} {device : Device} {rest : List Device}
    (queued : world.requests[job]? = some request)
    (refusing : world.phase job = .refusing device rest)
    (known : world.store.users.find request.receiver = some user) :
    ∃ next, Proceeds platform push job world next ∧ next.phase job = .sending rest ∧
      next.store = handlePushNotificationError request.receiver device world.store ∧
      pushedBy job next.journal = pushedBy job world.journal := by
  have removed : ∃ next, transaction (removeDevice request.receiver device) world.store =
      (next, .ok ()) ∧ next.users = world.store.users := by
    simp only [transaction, removeDevice, findUserById, known, pure, Except.pure]
    exact ⟨_, rfl, rfl⟩
  obtain ⟨next, removed, users⟩ := removed
  have worked : (PushPhase.refusing device rest).work request job 0 .delivered world.store =
      (next, .sending rest, []) := by
    rw [PushPhase.work, removed]
  refine ⟨_, proceeds_quiet platform push queued refusing rfl worked users,
    phase_proceed .., ?_, ?_⟩
  · exact (congrArg Prod.fst removed).symm
  · exact congrArg (pushedBy job) (List.append_nil _)

/-- The steps of the loop over the devices. -/
theorem proceeds_pushToDevices (devices : List Device) (world : PushWorld)
    (queued : world.requests[job]? = some request) (phase : world.phase job = .sending devices)
    (known : world.store.users.find request.receiver = some user) :
    ∃ last, Proceeds platform push job world last ∧ last.phase job = .finished ∧
      last.store = (pushToDevices push request.receiver devices world.store).2 ∧
      pushedBy job last.journal = pushedBy job world.journal ++
        (pushToDevices push request.receiver devices world.store).1 := by
  induction devices generalizing world with
  | nil =>
      refine ⟨_, proceeds_quiet platform push queued phase rfl rfl rfl, phase_proceed .., rfl, ?_⟩
      rw [pushToDevices, List.append_nil]
      exact congrArg (pushedBy job) (List.append_nil _)
  | cons device rest inductionHypothesis =>
      rw [pushToDevices]
      cases answer : push device with
      | delivered =>
          obtain ⟨next, proceeds, sending, store, sent⟩ :=
            proceeds_push platform push (.sending rest) queued phase (by rw [answer]; rfl)
          obtain ⟨last, goesOn, finished, lastStore, sentRest⟩ := inductionHypothesis next
            (proceeds.requests ▸ queued) sending (proceeds.users ▸ known)
          rw [store] at lastStore sentRest
          refine ⟨last, proceeds.trans goesOn, finished, lastStore, ?_⟩
          rw [sentRest, sent, List.append_assoc]
          rfl
      | refused =>
          obtain ⟨middle, proceeds, refusing, store, sent⟩ :=
            proceeds_push platform push (.refusing device rest) queued phase (by rw [answer]; rfl)
          obtain ⟨next, removes, sending, nextStore, sentAll⟩ := proceeds_remove platform push
            (proceeds.requests ▸ queued) refusing (proceeds.users ▸ known)
          have goes := proceeds.trans removes
          obtain ⟨last, goesOn, finished, lastStore, sentRest⟩ := inductionHypothesis next
            (goes.requests ▸ queued) sending (goes.users ▸ known)
          rw [nextStore, store] at lastStore sentRest
          refine ⟨last, goes.trans goesOn, finished, lastStore, ?_⟩
          rw [sentRest, sentAll, sent, List.append_assoc]
          rfl
      | thrown =>
          obtain ⟨last, proceeds, finished, store, sent⟩ :=
            proceeds_push platform push .finished queued phase (by rw [answer]; rfl)
          exact ⟨last, proceeds, finished, store, sent⟩

/-- When nothing comes in between, a job pushes to the devices and removes those that
`sendNotification` would. -/
theorem proceeds_sendNotification {world : PushWorld}
    (queued : world.requests[job]? = some request) (phase : world.phase job = .stored)
    (known : world.store.users.find request.receiver = some user)
    (unread : pushedBy job world.journal = []) :
    ∃ last, Proceeds platform push job world last ∧ last.phase job = .finished ∧
      (pushedBy job last.journal, last.store) =
        sendNotification push request.receiver world.store := by
  have isReceiver : user.id = request.receiver := Table.id_of_find known
  have worked : PushPhase.stored.work request job 0 .delivered world.store =
      (world.store, .sending (devicesOf request.receiver world.store),
        [.listed job request.receiver (devicesOf request.receiver world.store)]) := by
    rw [PushPhase.work, findUserById, known]
    simp only [isReceiver]
  have reads := proceeds_quiet platform push queued phase rfl worked rfl
  obtain ⟨last, goesOn, finished, store, sent⟩ :=
    proceeds_pushToDevices platform push (devicesOf request.receiver world.store)
      (world.proceed job (world.store, .sending (devicesOf request.receiver world.store),
        [.listed job request.receiver (devicesOf request.receiver world.store)]))
      queued (phase_proceed ..) known
  have nothing : pushedBy job (world.journal ++
      [.listed job request.receiver (devicesOf request.receiver world.store)]) = [] := by
    rw [pushedBy_append, unread]
    rfl
  refine ⟨last, reads.trans goesOn, finished, ?_⟩
  rw [sendNotification, findUserById, known, store, sent, PushWorld.proceed, nothing,
    List.nil_append]
  simp only [isReceiver]

/-- A job whose notification is stored goes on to its end. -/
theorem finishes_stored (world : PushWorld) (queued : world.requests[job]? = some request)
    (phase : world.phase job = .stored)
    (known : ∃ user, world.store.users.find request.receiver = some user)
    (unread : pushedBy job world.journal = []) :
    ∃ last, Proceeds platform push job world last ∧ last.phase job = .finished := by
  obtain ⟨user, known⟩ := known
  obtain ⟨last, proceeds, finished, -⟩ :=
    proceeds_sendNotification platform push queued phase known unread
  exact ⟨last, proceeds, finished⟩

/-- A job that is alone goes on to its end, from wherever it is. -/
theorem PushKept.finishes {world : PushWorld} (kept : PushKept platform world)
    (queued : world.requests[job]? = some request) :
    ∃ last, Proceeds platform push job world last ∧ last.phase job = .finished := by
  have ofJob := kept.jobs job
  cases phase : world.phase job with
  | queued =>
      rw [phase] at ofJob
      rcases transaction_cases (addNotificationToUser
          ⟨0, request.receiver, false, 0, request.notification.content⟩) world.store with
        ⟨⟨⟩, next, returned, same⟩ | ⟨thrown, -, same⟩
      · have worked : PushPhase.queued.work request job 0 .delivered world.store =
            (next, .stored, []) := by
          rw [PushPhase.work, same]
        rw [addNotificationToUser] at returned
        split at returned
        · exact absurd returned throw_ne_ok
        · rename_i user known
          have users : next.users = world.store.users := by
            rw [← (Prod.mk.inj (Except.ok.inj returned)).2]
          have stores := proceeds_quiet platform push queued phase rfl worked users
          obtain ⟨last, goesOn, finished⟩ := finishes_stored platform push
            (world.proceed job (next, .stored, [])) queued (phase_proceed ..)
            ⟨user, (congrArg (fun users => users.find request.receiver) users).trans known⟩
            ((congrArg (pushedBy job) (List.append_nil _)).trans ofJob.1)
          exact ⟨last, stores.trans goesOn, finished⟩
      · have worked : PushPhase.queued.work request job 0 .delivered world.store =
            (world.store, .finished, []) := by
          rw [PushPhase.work, same]
        exact ⟨_, proceeds_quiet platform push queued phase rfl worked rfl, phase_proceed ..⟩
  | stored =>
      rw [phase] at ofJob
      obtain ⟨unread, own, ownQueued, stored⟩ := ofJob
      obtain rfl : own = request := Option.some.inj (ownQueued.symm.trans queued)
      exact finishes_stored platform push world queued phase stored.1 unread.1
  | sending rest =>
      rw [phase] at ofJob
      obtain ⟨own, ownQueued, ⟨⟨user, known⟩, -⟩, -⟩ := ofJob.request
      obtain rfl : own = request := Option.some.inj (ownQueued.symm.trans queued)
      obtain ⟨last, proceeds, finished, -⟩ :=
        proceeds_pushToDevices platform push rest world queued phase known
      exact ⟨last, proceeds, finished⟩
  | refusing device rest =>
      rw [phase] at ofJob
      obtain ⟨own, ownQueued, ⟨⟨user, known⟩, -⟩, -⟩ := ofJob.1.request
      obtain rfl : own = request := Option.some.inj (ownQueued.symm.trans queued)
      obtain ⟨next, removes, sending, -⟩ := proceeds_remove platform push queued phase known
      obtain ⟨last, goesOn, finished, -⟩ := proceeds_pushToDevices platform push rest next
        (removes.requests ▸ queued) sending (removes.users ▸ known)
      exact ⟨last, removes.trans goesOn, finished⟩
  | finished =>
      have worked : PushPhase.finished.work request job 0 .delivered world.store =
          (world.store, .finished, []) := rfl
      exact ⟨_, proceeds_quiet platform push queued phase rfl worked rfl, phase_proceed ..⟩

end Uninterrupted

/-- Wherever a job is interrupted, it can go on alone to its end, whatever the push services answer;
and unless they throw, it has then pushed to all devices that it has read. -/
theorem jobFinishes {platform : Platform} {store : Store} {world : PushWorld}
    (reached : Reaches (pushStep platform) unrestricted (.initial store) world) {job : Nat}
    {request : PushRequest} (queued : world.requests[job]? = some request)
    (push : Device → PushOutcome) :
    ∃ last, Reaches (pushStep platform) (OnlyJob push job) world last ∧ last.phase job = .finished ∧
      ∀ receiver devices, .listed job receiver devices ∈ last.journal →
        pushedBy job last.journal = devices ∨ ThrewAt job last.journal := by
  have kept : PushKept platform world := reached.invariant (PushKept platform)
    (pushKept_initial store)
    fun _ _ _ kept _ taken => kept.step taken
  obtain ⟨last, proceeds, finished⟩ := kept.finishes platform push queued
  have keptLast : PushKept platform last := proceeds.reached.invariant (PushKept platform) kept
    fun _ _ _ kept _ taken => kept.step taken
  refine ⟨last, proceeds.reached, finished, fun receiver devices listed => ?_⟩
  exact (keptLast.safe.inOrder job receiver devices listed).2.2 finished

/-- The job that was interrupted after a refused push, with a push service that refuses all. -/
theorem jobFinishes_refused :
    ∃ last, Reaches (pushStep (asciiPlatform .entry)) (OnlyJob (fun _ => .refused) 0)
        afterRefused last ∧
      last.phase 0 = .finished ∧
      ∀ receiver devices, .listed 0 receiver devices ∈ last.journal →
        pushedBy 0 last.journal = devices ∨ ThrewAt 0 last.journal :=
  jobFinishes (reaches_of_run_unrestricted _ run_afterRefused) rfl fun _ => .refused

end GraffiTab
