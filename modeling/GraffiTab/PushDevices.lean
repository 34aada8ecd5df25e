/-
This file asks on whose phone the push notifications of a user arrive.

A device is looked for among those of all users, but it is added to the list of the
current user and removed from that list only. So when a phone passes to another account
without having been unregistered, the registration of the new user finds a device and does
nothing: the new user gets no notification, and those of the old one go on arriving.

`holder` says who should have a device. The database may take the tokens of two phones for
equal, and then finds the device of the one for the other. As long as each call finds no device
but the one that it names, in the list of its user, the table of devices says the same.
-/

import GraffiTab.Library.Runs
import GraffiTab.Writes

namespace GraffiTab

open Tables Runs

/-! ### Sending -/

/-- What the push service of an operating system makes of a push: `sendPush` answers with true or
false, or it throws. -/
inductive PushOutcome where
  | delivered | refused | thrown
  deriving DecidableEq

/-- The transaction of `handlePushNotificationError`: the device is removed from the list of the
user. -/
def removeDevice (userId : Long) (device : Device) : Transaction Unit := fun store =>
  match findUserById userId store with
  | none => throw .nullPointerException
  | some innerUser =>
      return ((), { store with
        devices := store.devices.remove fun row =>
          row.userId = innerUser.id && row.id = device.id && row.token = device.token &&
            row.osType = device.osType })

/-- `PushsenderNotificationSenderService.handlePushNotificationError`. -/
def handlePushNotificationError (userId : Long) (device : Device) (store : Store) : Store :=
  (transaction (removeDevice userId device) store).1

/-- The loop over the devices, with those that were pushed to; an exception ends it. -/
def pushToDevices (push : Device → PushOutcome) (userId : Long) :
    List Device → Store → List Device × Store
  | [], store => ([], store)
  | device :: rest, store =>
      match push device with
      | .delivered =>
          let (pushed, next) := pushToDevices push userId rest store
          (device :: pushed, next)
      | .refused =>
          let (pushed, next) :=
            pushToDevices push userId rest (handlePushNotificationError userId device store)
          (device :: pushed, next)
      | .thrown => ([device], store)

/-- The list of devices of a user. -/
def devicesOf (userId : Long) (store : Store) : List Device :=
  store.devices.select fun device => device.userId = userId

/-- `PushsenderNotificationSenderService.sendNotification`, which catches every exception. -/
def sendNotification (push : Device → PushOutcome) (userId : Long) (store : Store) :
    List Device × Store :=
  match findUserById userId store with
  | none => ([], store)
  | some innerUser => pushToDevices push innerUser.id (devicesOf innerUser.id store) store

/-! ### Runs -/

inductive DeviceCall where
  | registerDevice (currentUserId : Long) (token : String) (osType : OSType)
  | unregisterDevice (currentUserId : Long) (token : String) (osType : OSType)

def DeviceCall.currentUserId : DeviceCall → Long
  | .registerDevice currentUserId _ _ => currentUserId
  | .unregisterDevice currentUserId _ _ => currentUserId

/-- What a call leaves in the database. -/
def DeviceCall.perform (platform : Platform) (store : Store) : DeviceCall → Store
  | .registerDevice currentUserId token osType =>
      (transaction (GraffiTab.registerDevice platform currentUserId token osType) store).1
  | .unregisterDevice currentUserId token osType =>
      (transaction (GraffiTab.unregisterDevice platform currentUserId token osType) store).1

/-- The database, and the calls so far. -/
structure DevicesState where
  store : Store
  calls : List DeviceCall

/-- A user makes a call. -/
def devicesStep (platform : Platform) (state : DevicesState) (call : DeviceCall) :
    Option DevicesState :=
  match findUserById call.currentUserId state.store with
  | some _ => some ⟨call.perform platform state.store, state.calls ++ [call]⟩
  | none => none

/-! ### Who should get the notifications -/

/-- A call changes who has the device. -/
def holderAfter (token : String) (osType : OSType) (holder : Option Long) :
    DeviceCall → Option Long
  | .registerDevice currentUserId registered type =>
      if registered = token ∧ type = osType then some currentUserId else holder
  | .unregisterDevice currentUserId unregistered type =>
      if unregistered = token ∧ type = osType ∧ holder = some currentUserId then none else holder

/-- The user that made the latest registration of the device, unless this user has unregistered it
since. -/
def holder (token : String) (osType : OSType) (calls : List DeviceCall) : Option Long :=
  calls.foldl (holderAfter token osType) none

/-- The notifications of a user go to the devices that the user has registered last, and to all of
them when the push services take them; and no device is stored twice. -/
structure PushesRight (state : DevicesState) : Prop where
  onlyHolder : ∀ push userId device, device ∈ (sendNotification push userId state.store).1 →
    holder device.token device.osType state.calls = some userId
  holderReceives : ∀ push, (∀ device, push device = .delivered) → ∀ token osType userId,
    holder token osType state.calls = some userId →
      ∃ device ∈ (sendNotification push userId state.store).1,
        device.token = token ∧ device.osType = osType
  once : ∀ first ∈ state.store.devices.rows, ∀ second ∈ state.store.devices.rows,
    first.token = second.token → first.osType = second.osType → first = second

/-- From a database without devices, the notifications are sent rightly in every state that the
calls lead to, when every call meets the condition. -/
def KeepsPushesRight (platform : Platform) (start : Store)
    (condition : DevicesState → DeviceCall → Prop) : Prop :=
  start.devices.rows = [] →
    ∀ state, Reaches (devicesStep platform) condition ⟨start, []⟩ state → PushesRight state

/-- The database finds no device but the one that the call names: for a registration, none of
another user or with another token; for the end of one, none with another token in the list of the
user. -/
def FindsOwnDevice (platform : Platform) (state : DevicesState) : DeviceCall → Prop
  | .registerDevice currentUserId token osType => ∀ device ∈ state.store.devices.rows,
      SameText platform device.token token → device.osType = osType →
        device.userId = currentUserId ∧ device.token = token
  | .unregisterDevice currentUserId token osType => ∀ device ∈ state.store.devices.rows,
      SameText platform device.token token → device.osType = osType →
        device.userId = currentUserId → device.token = token

/-! ### The devices that are pushed to -/

section Sending

variable {push : Device → PushOutcome} {userId : Long} {devices : List Device} {store : Store}
  {device : Device}

theorem mem_pushToDevices (member : device ∈ (pushToDevices push userId devices store).1) :
    device ∈ devices := by
  induction devices generalizing store with
  | nil => exact member
  | cons first rest inductionHypothesis =>
      rw [pushToDevices] at member
      split at member
      · rcases List.mem_cons.mp member with rfl | later
        · exact List.mem_cons_self
        · exact List.mem_cons_of_mem _ (inductionHypothesis later)
      · rcases List.mem_cons.mp member with rfl | later
        · exact List.mem_cons_self
        · exact List.mem_cons_of_mem _ (inductionHypothesis later)
      · rw [List.mem_singleton.mp member]
        exact List.mem_cons_self

/-- Where every push is taken, all devices are pushed to. -/
theorem pushToDevices_delivered (delivered : ∀ device, push device = .delivered) :
    pushToDevices push userId devices store = (devices, store) := by
  induction devices with
  | nil => rfl
  | cons first rest inductionHypothesis =>
      rw [pushToDevices, delivered first, inductionHypothesis]

theorem mem_devicesOf :
    device ∈ devicesOf userId store ↔ device ∈ store.devices.rows ∧ device.userId = userId := by
  rw [devicesOf, Table.mem_select, decide_eq_true_eq]

/-- Only devices of the user are pushed to. -/
theorem mem_sendNotification (member : device ∈ (sendNotification push userId store).1) :
    device ∈ store.devices.rows ∧ device.userId = userId := by
  rw [sendNotification] at member
  split at member
  · exact absurd member List.not_mem_nil
  · rename_i user known
    have sameUser : user.id = userId := Table.id_of_find known
    exact sameUser ▸ mem_devicesOf.mp (mem_pushToDevices member)

theorem mem_sendNotification_delivered (delivered : ∀ device, push device = .delivered)
    {user : User} (known : store.users.find userId = some user) :
    device ∈ (sendNotification push userId store).1 ↔
      device ∈ store.devices.rows ∧ device.userId = userId := by
  have sameUser : user.id = userId := Table.id_of_find known
  rw [sendNotification, findUserById, known]
  simp only [pushToDevices_delivered delivered, sameUser, mem_devicesOf]

end Sending

/-! ### What a call does -/

/-- No device is stored twice, even for the database. -/
def DevicesOnce (platform : Platform) (store : Store) : Prop :=
  ∀ first ∈ store.devices.rows, ∀ second ∈ store.devices.rows,
    SameText platform first.token second.token → first.osType = second.osType → first = second

section Calls

variable {platform : Platform} {store : Store} {currentUserId : Long} {user : User}

/-- Where no device is stored twice, the query for one answers. -/
theorem DevicesOnce.find_cases (once : DevicesOnce platform store) (token : String)
    (osType : OSType) :
    (findDevicesWithTokenAndType platform token osType store = .ok none ∧
      ∀ row ∈ store.devices.rows, SameText platform row.token token → row.osType ≠ osType) ∨
    ∃ device ∈ store.devices.rows, SameText platform device.token token ∧
      device.osType = osType ∧
      findDevicesWithTokenAndType platform token osType store = .ok (some device) := by
  have listed {row : Device} : row ∈ (store.devices.select fun device =>
      SameText platform device.token token && device.osType = osType) ↔
        row ∈ store.devices.rows ∧ SameText platform row.token token ∧ row.osType = osType := by
    rw [Table.mem_select, Bool.and_eq_true, decide_eq_true_eq, decide_eq_true_eq]
  obtain ⟨found, answer⟩ : ∃ found,
      findDevicesWithTokenAndType platform token osType store = .ok found := by
    refine uniqueResult_isOk fun first firstMember second secondMember => ?_
    obtain ⟨firstStored, firstToken, firstType⟩ := listed.mp firstMember
    obtain ⟨secondStored, secondToken, secondType⟩ := listed.mp secondMember
    exact once first firstStored second secondStored (firstToken.trans secondToken.symm)
      (firstType.trans secondType.symm)
  cases found with
  | none =>
      refine .inl ⟨answer, fun row member sameToken sameType => ?_⟩
      have nothing := uniqueResult_eq_none.mp answer
      exact List.not_mem_nil (nothing ▸ listed.mpr ⟨member, sameToken, sameType⟩)
  | some device =>
      obtain ⟨stored, sameToken, sameType⟩ := listed.mp (uniqueResult_eq_some.mp answer).1
      exact .inr ⟨device, stored, sameToken, sameType, answer⟩

/-- A registration finds no device and adds one, or finds a device and changes nothing. -/
theorem DevicesOnce.perform_register (once : DevicesOnce platform store) (token : String)
    (osType : OSType) (known : store.users.find currentUserId = some user) :
    ((∀ row ∈ store.devices.rows, SameText platform row.token token → row.osType ≠ osType) ∧
      (DeviceCall.registerDevice currentUserId token osType).perform platform store =
        { store with
          devices := store.devices.insert { id := 0, userId := currentUserId, token, osType } }) ∨
    (∃ device ∈ store.devices.rows,
        SameText platform device.token token ∧ device.osType = osType) ∧
      (DeviceCall.registerDevice currentUserId token osType).perform platform store = store := by
  have sameUser : user.id = currentUserId := Table.id_of_find known
  rcases once.find_cases token osType with ⟨answer, absent⟩ | ⟨device, stored, sameToken, sameType,
    answer⟩
  · refine .inl ⟨absent, ?_⟩
    simp only [DeviceCall.perform, transaction, registerDevice, answer,
      loadCurrentUser_ok.mpr known, bind, Except.bind, pure, Except.pure, sameUser]
  · refine .inr ⟨⟨device, stored, sameToken, sameType⟩, ?_⟩
    simp only [DeviceCall.perform, transaction, registerDevice, answer,
      loadCurrentUser_ok.mpr known, bind, Except.bind, pure, Except.pure]

/-- A call of `unregisterDevice` removes the device from the list of the user, where it may not
be. -/
theorem DevicesOnce.perform_unregister (once : DevicesOnce platform store) (token : String)
    (osType : OSType) (known : store.users.find currentUserId = some user) :
    ∃ devices, (DeviceCall.unregisterDevice currentUserId token osType).perform platform store =
        { store with devices } ∧
      ∀ row, row ∈ devices.rows ↔ row ∈ store.devices.rows ∧
        ¬ (row.userId = currentUserId ∧ SameText platform row.token token ∧
          row.osType = osType) := by
  have sameUser : user.id = currentUserId := Table.id_of_find known
  rcases once.find_cases token osType with ⟨answer, absent⟩ | ⟨device, stored, sameToken, sameType,
    answer⟩
  · refine ⟨store.devices, ?_, fun row => ?_⟩
    · simp only [DeviceCall.perform, transaction, unregisterDevice, answer,
        loadCurrentUser_ok.mpr known, bind, Except.bind, pure, Except.pure]
    · exact ⟨fun member => ⟨member, fun same => absent row member same.2.1 same.2.2⟩, And.left⟩
  · refine ⟨store.devices.remove fun row => row.userId = currentUserId && row.id = device.id, ?_,
      fun row => ?_⟩
    · simp only [DeviceCall.perform, transaction, unregisterDevice, answer,
        loadCurrentUser_ok.mpr known, bind, Except.bind, pure, Except.pure, sameUser]
    · rw [Table.mem_remove, Bool.and_eq_false_iff, decide_eq_false_iff_not,
        decide_eq_false_iff_not, ← not_and_or]
      refine and_congr_right fun member => not_congr (and_congr_right fun _ => ?_)
      constructor
      · intro sameId
        obtain rfl : row = device := Table.eq_of_id_eq member stored sameId
        exact ⟨sameToken, sameType⟩
      · rintro ⟨rowToken, rowType⟩
        rw [once row member device stored (rowToken.trans sameToken.symm)
          (rowType.trans sameType.symm)]

end Calls

/-! ### What the calls keep -/

/-- No device is stored twice, the users of the devices are known, and the table says who has a
device. -/
structure DevicesKept (platform : Platform) (state : DevicesState) : Prop where
  once : DevicesOnce platform state.store
  known : ∀ token osType userId, holder token osType state.calls = some userId →
    ∃ user, state.store.users.find userId = some user
  holds : ∀ token osType userId, holder token osType state.calls = some userId ↔
    ∃ device ∈ state.store.devices.rows, device.userId = userId ∧ device.token = token ∧
      device.osType = osType

section Runs

variable {platform : Platform} {state next : DevicesState} {call : DeviceCall}

theorem holder_append (token : String) (osType : OSType) (calls : List DeviceCall)
    (call : DeviceCall) :
    holder token osType (calls ++ [call]) =
      holderAfter token osType (holder token osType calls) call := by
  rw [holder, List.foldl_append, List.foldl_cons, List.foldl_nil]
  rfl

/-- A device that is not there yet can be added. -/
theorem DevicesOnce.insert {store : Store} (once : DevicesOnce platform store) {new : Device}
    (absent : ∀ row ∈ store.devices.rows,
      SameText platform row.token new.token → row.osType ≠ new.osType) :
    DevicesOnce platform { store with devices := store.devices.insert new } := by
  intro first firstMember second secondMember tokens types
  rcases Table.mem_insert.mp firstMember with firstOld | rfl
  · rcases Table.mem_insert.mp secondMember with secondOld | rfl
    · exact once first firstOld second secondOld tokens types
    · exact absurd types (absent first firstOld tokens)
  · rcases Table.mem_insert.mp secondMember with secondOld | rfl
    · exact absurd types.symm (absent second secondOld tokens.symm)
    · rfl

section Registrations

variable {currentUserId : Long} {token : String} {osType : OSType} {user : User}

theorem DevicesKept.known_register (kept : DevicesKept platform state)
    (known : state.store.users.find currentUserId = some user) (other : String) (type : OSType)
    (userId : Long) (holds : holder other type
      (state.calls ++ [.registerDevice currentUserId token osType]) = some userId) :
    ∃ user, state.store.users.find userId = some user := by
  rw [holder_append, holderAfter] at holds
  split at holds
  · rw [← Option.some.inj holds]
    exact ⟨user, known⟩
  · exact kept.known other type userId holds

/-- A device that nobody had is registered. -/
theorem devicesKept_registerNew (kept : DevicesKept platform state)
    (known : state.store.users.find currentUserId = some user)
    (absent : ∀ row ∈ state.store.devices.rows,
      SameText platform row.token token → row.osType ≠ osType) :
    DevicesKept platform
      ⟨{ state.store with devices :=
          state.store.devices.insert { id := 0, userId := currentUserId, token, osType } },
        state.calls ++ [.registerDevice currentUserId token osType]⟩ where
  once := kept.once.insert absent
  known := kept.known_register known
  holds other type userId := by
    rw [holder_append, holderAfter]
    by_cases registered : token = other ∧ osType = type
    · obtain ⟨rfl, rfl⟩ := registered
      rw [if_pos ⟨rfl, rfl⟩, Option.some.injEq]
      constructor
      · rintro rfl
        exact ⟨_, Table.mem_insert.mpr (.inr rfl), rfl, rfl, rfl⟩
      · rintro ⟨device, member, rfl, sameToken, sameType⟩
        rcases Table.mem_insert.mp member with old | rfl
        · exact absurd sameType (absent device old (congrArg platform.collate sameToken))
        · rfl
    · rw [if_neg registered, kept.holds]
      refine exists_congr fun device => ?_
      rw [Table.mem_insert, or_and_right, or_iff_left]
      rintro ⟨rfl, -, sameToken, sameType⟩
      exact registered ⟨sameToken, sameType⟩

/-- An own device is registered again. -/
theorem devicesKept_registerAgain (kept : DevicesKept platform state)
    (known : state.store.users.find currentUserId = some user)
    {device : Device} (stored : device ∈ state.store.devices.rows)
    (isOwn : device.userId = currentUserId) (sameToken : device.token = token)
    (sameType : device.osType = osType) :
    DevicesKept platform
      ⟨state.store, state.calls ++ [.registerDevice currentUserId token osType]⟩ where
  once := kept.once
  known := kept.known_register known
  holds other type userId := by
    rw [holder_append, holderAfter]
    by_cases registered : token = other ∧ osType = type
    · obtain ⟨rfl, rfl⟩ := registered
      rw [if_pos ⟨rfl, rfl⟩, Option.some.injEq]
      constructor
      · rintro rfl
        exact ⟨device, stored, isOwn, sameToken, sameType⟩
      · rintro ⟨found, member, rfl, foundToken, foundType⟩
        rw [kept.once found member device stored
          (congrArg platform.collate (foundToken.trans sameToken.symm))
          (foundType.trans sameType.symm), isOwn]
    · rw [if_neg registered]
      exact kept.holds other type userId

theorem devicesKept_register (kept : DevicesKept platform state)
    (known : state.store.users.find currentUserId = some user)
    (own : FindsOwnDevice platform state (.registerDevice currentUserId token osType)) :
    DevicesKept platform
      ⟨(DeviceCall.registerDevice currentUserId token osType).perform platform state.store,
        state.calls ++ [.registerDevice currentUserId token osType]⟩ := by
  rcases kept.once.perform_register token osType known with
    ⟨absent, same⟩ | ⟨⟨device, stored, sameToken, sameType⟩, same⟩
  · rw [same]
    exact devicesKept_registerNew kept known absent
  · rw [same]
    obtain ⟨isOwn, isToken⟩ := own device stored sameToken sameType
    exact devicesKept_registerAgain kept known stored isOwn isToken sameType

end Registrations

theorem devicesKept_unregister {currentUserId : Long} {token : String} {osType : OSType}
    {user : User} (kept : DevicesKept platform state)
    (known : state.store.users.find currentUserId = some user)
    (own : FindsOwnDevice platform state (.unregisterDevice currentUserId token osType)) :
    DevicesKept platform
      ⟨(DeviceCall.unregisterDevice currentUserId token osType).perform platform state.store,
        state.calls ++ [.unregisterDevice currentUserId token osType]⟩ := by
  obtain ⟨devices, same, left⟩ := kept.once.perform_unregister token osType known
  rw [same]
  constructor
  case once =>
    intro first firstMember second secondMember
    exact kept.once first ((left first).mp firstMember).1 second ((left second).mp secondMember).1
  case known =>
    intro other type userId holds
    rw [holder_append, holderAfter] at holds
    split at holds
    · cases holds
    · exact kept.known other type userId holds
  case holds =>
    intro other type userId
    rw [holder_append, holderAfter]
    by_cases unregistered : token = other ∧ osType = type ∧
        holder other type state.calls = some currentUserId
    · obtain ⟨rfl, rfl, held⟩ := unregistered
      rw [if_pos ⟨rfl, rfl, held⟩]
      refine iff_of_false nofun ?_
      rintro ⟨device, member, isUser, sameToken, sameType⟩
      obtain ⟨old, stays⟩ := (left device).mp member
      have holds := (kept.holds token osType device.userId).mpr
        ⟨device, old, rfl, sameToken, sameType⟩
      rw [held] at holds
      exact stays ⟨(Option.some.inj holds).symm, congrArg platform.collate sameToken, sameType⟩
    · rw [if_neg unregistered, kept.holds]
      refine exists_congr fun device => ?_
      rw [left, and_assoc]
      refine and_congr_right fun member => (and_iff_right_of_imp ?_).symm
      rintro ⟨isUser, sameToken, sameType⟩ ⟨isCurrent, isText, isType⟩
      obtain rfl : device.token = token := own device member isText isType isCurrent
      subst isType
      refine unregistered ⟨sameToken, sameType, ?_⟩
      exact (kept.holds other type currentUserId).mpr
        ⟨device, member, isCurrent, sameToken, sameType⟩

theorem devicesKept_step (kept : DevicesKept platform state)
    (own : FindsOwnDevice platform state call)
    (taken : devicesStep platform state call = some next) : DevicesKept platform next := by
  rw [devicesStep] at taken
  split at taken
  · rename_i user known
    obtain rfl := Option.some.inj taken
    cases call with
    | registerDevice currentUserId token osType => exact devicesKept_register kept known own
    | unregisterDevice currentUserId token osType => exact devicesKept_unregister kept known own
  · cases taken

/-- Where the table says who has a device, the notifications are sent rightly. -/
theorem DevicesKept.pushesRight (kept : DevicesKept platform state) : PushesRight state where
  onlyHolder push userId device member := by
    obtain ⟨stored, isUser⟩ := mem_sendNotification member
    exact (kept.holds _ _ _).mpr ⟨device, stored, isUser, rfl, rfl⟩
  holderReceives push delivered token osType userId holds := by
    obtain ⟨user, known⟩ := kept.known token osType userId holds
    obtain ⟨device, stored, isUser, sameToken, sameType⟩ := (kept.holds _ _ _).mp holds
    exact ⟨device, (mem_sendNotification_delivered delivered known).mpr ⟨stored, isUser⟩,
      sameToken, sameType⟩
  once first firstMember second secondMember sameToken sameType :=
    kept.once first firstMember second secondMember (congrArg platform.collate sameToken) sameType

end Runs

/-- As long as each call finds no device but the one that it names, the notifications are sent
rightly. -/
theorem keepsPushesRight_of_findsOwnDevice (platform : Platform) (start : Store) :
    KeepsPushesRight platform start (FindsOwnDevice platform) := by
  intro empty state reached
  refine DevicesKept.pushesRight (reached.invariant (DevicesKept platform) ?_
    fun _ _ _ kept own taken => devicesKept_step kept own taken)
  constructor
  case once =>
    intro first member
    rw [empty] at member
    exact absurd member List.not_mem_nil
  case known => exact fun _ _ _ holds => absurd holds nofun
  case holds =>
    refine fun token osType userId => iff_of_false nofun ?_
    rintro ⟨device, member, -⟩
    rw [empty] at member
    exact absurd member List.not_mem_nil

/-! ### A phone with two accounts -/

/-- Alice and bob, without devices. -/
def noDevices : Store :=
  { Store.empty with
    users := (Table.empty.insert (plainUser 0 "alice")).insert (plainUser 0 "bob") }

/-- Alice registers a phone, and then bob does. -/
def phonePassedOn : List DeviceCall :=
  [.registerDevice 1 "phone" .ios, .registerDevice 2 "phone" .ios]

def afterPhonePassedOn : DevicesState :=
  (run (devicesStep (asciiPlatform .entry)) ⟨noDevices, []⟩ phonePassedOn).getD ⟨noDevices, []⟩

/-- The notifications of alice go to the phone that bob has registered. -/
theorem not_keepsPushesRight :
    ¬ KeepsPushesRight (asciiPlatform .entry) noDevices unrestricted := by
  intro always
  have executed : run (devicesStep (asciiPlatform .entry)) ⟨noDevices, []⟩ phonePassedOn =
      some afterPhonePassedOn := by
    rfl
  have right := always rfl afterPhonePassedOn
    (reaches_of_run_unrestricted phonePassedOn executed)
  have sent : ⟨1, 1, "phone", .ios⟩ ∈
      (sendNotification (fun _ => .delivered) 1 afterPhonePassedOn.store).1 := by
    decide +kernel
  have holds := right.onlyHolder _ 1 _ sent
  exact absurd holds (by decide +kernel)

end GraffiTab
