/-
This file asks as whom a request with a session passes the filter.

The context of a live session is that of the last login on it. A session that is gone may still
have its row; a request with it then opens a new session for the user of the row. The journal says
who logged in on which session and which session was restored from which. A request passes only as
a user who logged in on its session, or on one from which its session was restored, over one
restoration or several. This holds as long as the save of a login is queued for its own user, and
not for one whom the thread has kept from an earlier login.
-/

import GraffiTab.Library.Journals
import GraffiTab.SavedSessions

namespace GraffiTab

open Tables Runs Journals

/-! ### The journal -/

/-- What gives a session to a user. -/
inductive SessionEvent where
  | loggedIn (sessionId : String) (user : Long)
  | restored (requestedSessionId created : String) (user : Long)
  deriving DecidableEq

/-- The session that is given. -/
def SessionEvent.sessionId : SessionEvent → String
  | .loggedIn sessionId _ => sessionId
  | .restored _ created _ => created

def SessionEvent.user : SessionEvent → Long
  | .loggedIn _ user => user
  | .restored _ _ user => user

/-- The sessions, and what has given them to users. -/
structure JournaledSessions where
  state : SessionsState
  journal : List SessionEvent

/-- What is entered at a step: the login, or the restoration from the database. -/
def sessionEvents (environment : Environment) (state : SessionsState) :
    SessionAction → List SessionEvent
  | .login user sessionId _ => [.loggedIn sessionId user]
  | .request sessionId created now =>
      match state.getSession sessionId with
      | some _ => []
      | none =>
          match (loadSessionContext environment sessionId created now state).2 with
          | some (current, user) => [.restored sessionId current user]
          | none => []
  | _ => []

def journaledStep (environment : Environment) (world : JournaledSessions)
    (action : SessionAction) : Option JournaledSessions :=
  (sessionsStep environment world.state action).map fun next =>
    ⟨next, world.journal ++ sessionEvents environment world.state action⟩

/-- No login finds another user in the cache of its thread. -/
def CachesNoOther (_ : JournaledSessions) : SessionAction → Prop
  | .login user _ cached => ∀ earlier ∈ cached, earlier.id = user
  | _ => True

/-- The user logged in on the session, or on one that the session goes back to: each session was
restored after the one before it was given to the user. -/
inductive OpenTo (platform : Platform) : List SessionEvent → String → Long → Prop
  | loggedIn (journal : List SessionEvent) (sessionId : String) (user : Long) :
      OpenTo platform (journal ++ [.loggedIn sessionId user]) sessionId user
  | restored {journal : List SessionEvent} {stored requestedSessionId : String} {user : Long}
      (created : String) (before : OpenTo platform journal stored user)
      (same : SameText platform stored requestedSessionId) :
      OpenTo platform (journal ++ [.restored requestedSessionId created user]) created user
  | later {journal : List SessionEvent} {sessionId : String} {user : Long} (event : SessionEvent)
      (before : OpenTo platform journal sessionId user) :
      OpenTo platform (journal ++ [event]) sessionId user

/-- At the beginning of every chain of restorations there is a login. -/
theorem OpenTo.exists_login {platform : Platform} {journal : List SessionEvent}
    {sessionId : String} {user : Long} (isOpen : OpenTo platform journal sessionId user) :
    ∃ origin, SessionEvent.loggedIn origin user ∈ journal := by
  induction isOpen with
  | loggedIn journal sessionId user =>
      exact ⟨sessionId, List.mem_append_right _ List.mem_cons_self⟩
  | restored created before same inductionHypothesis =>
      obtain ⟨origin, member⟩ := inductionHypothesis
      exact ⟨origin, List.mem_append_left _ member⟩
  | later event before inductionHypothesis =>
      obtain ⟨origin, member⟩ := inductionHypothesis
      exact ⟨origin, List.mem_append_left _ member⟩

/-- The session was last given to the user. -/
def LastGivenTo (journal : List SessionEvent) (sessionId : String) (user : Long) : Prop :=
  ∃ event, Latest (fun other => other.sessionId = sessionId) journal event ∧ event.user = user

theorem LastGivenTo.append {journal : List SessionEvent} {sessionId : String} {user : Long}
    (given : LastGivenTo journal sessionId user) {event : SessionEvent}
    (other : event.sessionId ≠ sessionId) : LastGivenTo (journal ++ [event]) sessionId user := by
  obtain ⟨last, latest, same⟩ := given
  exact ⟨last, latest.append other, same⟩

theorem lastGivenTo_append (journal : List SessionEvent) (event : SessionEvent) :
    LastGivenTo (journal ++ [event]) event.sessionId event.user :=
  ⟨event, latest_append journal rfl, rfl⟩

/-! ### The users that rows name -/

section Rows

variable {platform : Platform} {store saved : Store} {sessionId created : String} {now : Long}

/-- Every row after an operation names the user that a row of its session named before, or one to
whom its session may be given. -/
def RowsName (allowed : String → Long → Prop) (store next : Store) : Prop :=
  ∀ row ∈ next.sessions.rows,
    (∃ old ∈ store.sessions.rows, old.sessionId = row.sessionId ∧ old.userId = row.userId) ∨
      allowed row.sessionId row.userId

theorem RowsName.of_subset {allowed : String → Long → Prop}
    (subset : ∀ row ∈ saved.sessions.rows, row ∈ store.sessions.rows) :
    RowsName allowed store saved :=
  fun row member => .inl ⟨row, subset row member, rfl, rfl⟩

theorem RowsName.transaction {allowed : String → Long → Prop} {Value : Type}
    {body : Transaction Value}
    (rows : ∀ value saved, body store = .ok (value, saved) → RowsName allowed store saved) :
    RowsName allowed store (transaction body store).1 :=
  transaction_keeps (RowsName allowed store) (.of_subset fun _ => id) rows

theorem rowsName_saveOrUpdateSessionData {currentUser : User} {value : Unit}
    (returned : saveOrUpdateSessionData platform sessionId currentUser now store =
      .ok (value, saved)) :
    RowsName (fun inserted user => inserted = sessionId ∧ user = currentUser.id) store saved := by
  obtain ⟨found, -, rest⟩ := bind_eq_ok.mp returned
  cases found with
  | some row =>
      obtain ⟨-, rfl⟩ := Prod.mk.inj (Except.ok.inj rest)
      exact .of_subset fun _ => id
  | none =>
      obtain ⟨-, rfl⟩ := Prod.mk.inj (Except.ok.inj rest)
      intro row member
      rcases Table.mem_insert.mp member with old | rfl
      · exact .inl ⟨row, old, rfl, rfl⟩
      · exact .inr ⟨rfl, rfl⟩

theorem rowsName_touchSession (allowed : String → Long → Prop) {value : Unit}
    (returned : touchSession platform sessionId now store = .ok (value, saved)) :
    RowsName allowed store saved := by
  obtain ⟨found, answer, rest⟩ := bind_eq_ok.mp returned
  cases found with
  | none =>
      obtain ⟨-, rfl⟩ := Prod.mk.inj (Except.ok.inj rest)
      exact .of_subset fun _ => id
  | some touched =>
      obtain ⟨-, rfl⟩ := Prod.mk.inj (Except.ok.inj rest)
      intro row member
      rcases Table.mem_set.mp member with ⟨rfl, -⟩ | ⟨old, -⟩
      · exact .inl ⟨touched, (mem_of_findBySessionId answer).1, rfl, rfl⟩
      · exact .inl ⟨row, old, rfl, rfl⟩

/-- A restoration is for the user of a row of the requested session, to whom it gives the new
session alone. -/
theorem restoreFromDb_ok {user : Option Long}
    (returned : restoreFromDb platform sessionId created now store = .ok (user, saved)) :
    (∀ found, user = some found →
        ∃ row ∈ store.sessions.rows,
          SameText platform row.sessionId sessionId ∧ row.userId = found) ∧
      RowsName (fun inserted other => inserted = created ∧ user = some other) store saved := by
  obtain ⟨found, answer, rest⟩ := bind_eq_ok.mp returned
  cases found with
  | none =>
      obtain ⟨rfl, rfl⟩ := Prod.mk.inj (Except.ok.inj rest)
      exact ⟨(fun _ absurdity => by cases absurdity), .of_subset fun _ => id⟩
  | some persisted =>
      simp only at rest
      split at rest
      · exact absurd rest throw_ne_ok
      rename_i owner ownerFound
      obtain ⟨⟨⟨⟩, next⟩, save, rest⟩ := bind_eq_ok.mp rest
      obtain ⟨rfl, rfl⟩ := Prod.mk.inj (Except.ok.inj rest)
      obtain ⟨member, same⟩ := mem_of_findBySessionId answer
      refine ⟨?_, fun row rowMember => ?_⟩
      · rintro found ⟨⟩
        exact ⟨persisted, member, same, (Table.id_of_find ownerFound).symm⟩
      · refine (rowsName_saveOrUpdateSessionData save row rowMember).imp_right ?_
        rintro ⟨sameSession, sameUser⟩
        exact ⟨sameSession, congrArg some sameUser.symm⟩

end Rows

/-! ### Sessions that speak for their users -/

/-- Live sessions, rows and queued saves each name a user to whom their session is open, and the
live sessions the one to whom they were given last. -/
structure SpeaksForUsers (platform : Platform) (world : JournaledSessions) : Prop where
  events : ∀ event ∈ world.journal,
    OpenTo platform world.journal event.sessionId event.user
  live : ∀ session ∈ world.state.httpSessions, session.alive = true →
    LastGivenTo world.journal session.sessionId session.user
  rows : ∀ row ∈ world.state.store.sessions.rows,
    OpenTo platform world.journal row.sessionId row.userId
  saves : ∀ sessionId currentUser, .saveSessionData sessionId currentUser ∈ world.state.tasks →
    OpenTo platform world.journal sessionId currentUser.id

section Steps

variable {environment : Environment} {platform : Platform} {state next : SessionsState}
  {journal : List SessionEvent} {sessionId created : String} {now : Long}

theorem SpeaksForUsers.openTo (speaks : SpeaksForUsers platform ⟨state, journal⟩) {user : Long}
    (given : LastGivenTo journal sessionId user) : OpenTo platform journal sessionId user := by
  obtain ⟨event, latest, rfl⟩ := given
  have isOpen := speaks.events event latest.mem
  rwa [latest.1] at isOpen

theorem speaksForUsers_start {start : Store} (noRows : start.sessions.rows = []) :
    SpeaksForUsers platform ⟨⟨start, [], []⟩, []⟩ := by
  refine ⟨fun _ member => absurd member List.not_mem_nil,
    fun _ member => absurd member List.not_mem_nil, fun row member => ?_,
    fun _ _ member => absurd member List.not_mem_nil⟩
  rw [noRows] at member
  exact absurd member List.not_mem_nil

/-- What an operation may do that gives no session to anybody. -/
theorem SpeaksForUsers.kept (speaks : SpeaksForUsers platform ⟨state, journal⟩)
    (live : ∀ session ∈ next.httpSessions, session.alive = true → session ∈ state.httpSessions)
    (rows : RowsName (OpenTo platform journal) state.store next.store)
    (saves : ∀ sessionId currentUser, .saveSessionData sessionId currentUser ∈ next.tasks →
      .saveSessionData sessionId currentUser ∈ state.tasks) :
    SpeaksForUsers platform ⟨next, journal⟩ := by
  refine ⟨speaks.events, fun session member alive =>
    speaks.live session (live session member alive) alive, fun row member => ?_,
    fun sessionId currentUser queued =>
      speaks.saves sessionId currentUser (saves sessionId currentUser queued)⟩
  rcases rows row member with ⟨old, oldMember, sameSession, sameUser⟩ | isOpen
  · exact sameSession ▸ sameUser ▸ speaks.rows old oldMember
  · exact isOpen

theorem SpeaksForUsers.setStore (speaks : SpeaksForUsers platform ⟨state, journal⟩) {store : Store}
    (rows : RowsName (OpenTo platform journal) state.store store) :
    SpeaksForUsers platform ⟨{ state with store }, journal⟩ :=
  speaks.kept (fun _ member _ => member) rows fun _ _ => id

theorem SpeaksForUsers.invalidate {config : Config}
    (speaks : SpeaksForUsers platform ⟨state, journal⟩) :
    SpeaksForUsers platform ⟨state.invalidate config sessionId, journal⟩ := by
  refine speaks.kept (fun session member alive => ?_) (.of_subset fun _ => id)
    fun other currentUser queued => ?_
  · obtain ⟨old, oldMember, rfl⟩ := List.mem_map.mp member
    split at alive
    · cases alive
    · rename_i different
      rwa [if_neg different]
  · exact (mem_invalidate queued).resolve_right fun absurdity => by cases absurdity

theorem SpeaksForUsers.sessionInvalidationFilter (speaks : SpeaksForUsers platform ⟨state, journal⟩)
    (context : LoadedContext) :
    SpeaksForUsers platform ⟨(sessionInvalidationFilter environment context state).1, journal⟩ := by
  rcases sessionInvalidationFilter_cases environment context state with
    ⟨current, user, tasks, -, touches, same⟩ | ⟨current, user, -, same⟩ | same <;> rw [same]
  · refine speaks.kept (fun _ member _ => member) (.of_subset fun _ => id)
      fun other currentUser queued => ?_
    exact (List.mem_append.mp queued).resolve_right fun new => absurd (touches _ new) nofun
  · exact speaks.invalidate
  · exact speaks

/-- A session is given to a user, in a journal that has the entry of it. -/
theorem SpeaksForUsers.events_append (speaks : SpeaksForUsers platform ⟨state, journal⟩)
    {event : SessionEvent}
    (isOpen : OpenTo platform (journal ++ [event]) event.sessionId event.user) :
    ∀ other ∈ journal ++ [event],
      OpenTo platform (journal ++ [event]) other.sessionId other.user := by
  intro other member
  rcases List.mem_append.mp member with old | new
  · exact (speaks.events other old).later event
  · rwa [List.mem_singleton.mp new]

/-- Other sessions than the one that is given keep their last user. -/
theorem SpeaksForUsers.live_append (speaks : SpeaksForUsers platform ⟨state, journal⟩)
    {session : HttpSession} (member : session ∈ state.httpSessions) (alive : session.alive = true)
    {event : SessionEvent} (other : event.sessionId ≠ session.sessionId) :
    LastGivenTo (journal ++ [event]) session.sessionId session.user :=
  (speaks.live session member alive).append other

/-- A login gives the session to its user, and queues a save of it for this user. -/
theorem SpeaksForUsers.logIn (speaks : SpeaksForUsers platform ⟨state, journal⟩) {user : Long}
    (granted : (state.getSession sessionId).isSome ∨ state.Fresh platform sessionId)
    {tasks : List SessionTask}
    (queued : ∀ task ∈ tasks, ∃ currentUser : User,
      task = .saveSessionData sessionId currentUser ∧ currentUser.id = user) :
    SpeaksForUsers platform ⟨{ state with
        httpSessions := state.logIn user sessionId
        tasks := state.tasks ++ tasks },
      journal ++ [.loggedIn sessionId user]⟩ := by
  have isOpen : OpenTo platform (journal ++ [.loggedIn sessionId user]) sessionId user :=
    .loggedIn journal sessionId user
  have given := lastGivenTo_append journal (.loggedIn sessionId user)
  refine ⟨speaks.events_append isOpen, fun session member alive => ?_,
    fun row member => (speaks.rows row member).later _, fun other currentUser member => ?_⟩
  · simp only [SessionsState.logIn] at member
    split at member
    · obtain ⟨old, oldMember, rfl⟩ := List.mem_map.mp member
      split at alive
      · rename_i same
        rw [if_pos same, same]
        exact given
      · rename_i different
        rw [if_neg different]
        exact speaks.live_append oldMember alive (Ne.symm different)
    · rename_i absent
      rw [absent] at granted
      have fresh := (granted.resolve_left Bool.false_ne_true).not_known
      rcases List.mem_append.mp member with old | new
      · refine speaks.live_append old alive fun same => fresh ⟨session, old, same.symm⟩
      · rw [List.mem_singleton.mp new]
        exact given
  · rcases List.mem_append.mp member with old | new
    · exact (speaks.saves other currentUser old).later _
    · obtain ⟨savedUser, isSave, sameUser⟩ := queued _ new
      obtain ⟨rfl, rfl⟩ := SessionTask.saveSessionData.inj isSave
      exact sameUser ▸ isOpen

/-- The transaction of a restoration, in which a new row is the one of the created session. -/
theorem SpeaksForUsers.restoreFromDb (speaks : SpeaksForUsers platform ⟨state, journal⟩)
    (sessionId created : String) (now : Long) :
    let result := transaction (restoreFromDb platform sessionId created now) state.store
    (∀ user, result.2 = .ok (some user) →
        ∃ stored, SameText platform stored sessionId ∧ OpenTo platform journal stored user) ∧
      RowsName (fun inserted user => inserted = created ∧ result.2 = .ok (some user))
        state.store result.1 := by
  refine ⟨fun user restored => ?_, RowsName.transaction fun user saved returned => ?_⟩
  · obtain ⟨saved, returned⟩ := transaction_isOk.mp restored
    obtain ⟨row, member, same, rfl⟩ := (restoreFromDb_ok returned).1 user rfl
    exact ⟨row.sessionId, same, speaks.rows row member⟩
  · intro row member
    refine ((restoreFromDb_ok returned).2 row member).imp_right ?_
    rintro ⟨same, rfl⟩
    exact ⟨same, transaction_isOk.mpr ⟨saved, returned⟩⟩

/-- The user of a context has its session: a live one was given to this user last. -/
theorem SpeaksForUsers.context (speaks : SpeaksForUsers environment.platform ⟨state, journal⟩)
    {current : String} {user : Long}
    (loaded : (GraffiTab.loadSessionContext environment sessionId created now state).2 =
      some (current, user)) :
    (∃ stored, SameText environment.platform stored sessionId ∧
        OpenTo environment.platform journal stored user) ∧
      ((state.getSession sessionId).isSome → LastGivenTo journal sessionId user) := by
  rcases loadSessionContext_cases environment sessionId created now state with
    ⟨session, live, same⟩ | ⟨dead, -, restoredUser, answer, same⟩ | ⟨-, store, same, -⟩ <;>
    rw [same] at loaded
  · obtain ⟨-, rfl⟩ := Prod.mk.inj (Option.some.inj loaded)
    have found := List.find?_some live
    rw [Bool.and_eq_true] at found
    have given := speaks.live session (List.mem_of_find?_eq_some live) found.2
    rw [sessionId_of_getSession live] at given
    exact ⟨⟨sessionId, rfl, speaks.openTo given⟩, fun _ => given⟩
  · obtain ⟨-, rfl⟩ := Prod.mk.inj (Option.some.inj loaded)
    refine ⟨(speaks.restoreFromDb sessionId created now).1 restoredUser answer, fun live => ?_⟩
    rw [dead] at live
    cases live
  · cases loaded

/-- Loading a context gives a session only to the user for whom it is restored. -/
theorem SpeaksForUsers.loadSessionContext
    (speaks : SpeaksForUsers environment.platform ⟨state, journal⟩)
    (fresh : state.Fresh environment.platform created) :
    SpeaksForUsers environment.platform
      ⟨(GraffiTab.loadSessionContext environment sessionId created now state).1,
        journal ++ sessionEvents environment state (.request sessionId created now)⟩ := by
  obtain ⟨isOwner, rows⟩ := speaks.restoreFromDb sessionId created now
  rcases loadSessionContext_cases environment sessionId created now state with
    ⟨session, live, same⟩ | ⟨dead, -, user, answer, same⟩ | ⟨dead, store, same, unrestored⟩
  · simp only [sessionEvents, live, same, List.append_nil]
    exact speaks
  · simp only [sessionEvents, dead, same]
    obtain ⟨stored, isStored, isOpenTo⟩ := isOwner user answer
    have isOpen := OpenTo.restored created isOpenTo isStored
    have given := lastGivenTo_append journal (.restored sessionId created user)
    refine ⟨speaks.events_append isOpen, fun session member alive => ?_, fun row member => ?_,
      fun other currentUser queued => (speaks.saves other currentUser queued).later _⟩
    · rcases List.mem_append.mp member with old | new
      · exact speaks.live_append old alive fun isCreated =>
          fresh.not_known ⟨session, old, isCreated.symm⟩
      · rw [List.mem_singleton.mp new]
        exact given
    · rcases rows row member with ⟨old, oldMember, sameSession, sameUser⟩ | ⟨isCreated, isUser⟩
      · exact sameSession ▸ sameUser ▸ (speaks.rows old oldMember).later _
      · have sameUser := Option.some.inj (Except.ok.inj (answer.symm.trans isUser))
        rw [isCreated, ← sameUser]
        exact isOpen
  · simp only [sessionEvents, dead, same, List.append_nil]
    refine speaks.setStore ?_
    rcases unrestored with rfl | ⟨rfl, notRestored⟩
    · exact .of_subset fun _ => id
    · exact fun row member => (rows row member).imp_right fun isUser =>
        absurd isUser.2 (notRestored _)

/-- A task gives rows only to the user for whom it saves. -/
theorem SpeaksForUsers.runSessionTask
    (speaks : SpeaksForUsers environment.platform ⟨state, journal⟩) {task : SessionTask}
    (queued : task ∈ state.tasks) (now : Long) :
    RowsName (OpenTo environment.platform journal) state.store
      (runSessionTask environment task now state) := by
  cases task with
  | saveSessionData other currentUser =>
      simp only [GraffiTab.runSessionTask]
      split
      · refine RowsName.transaction fun value saved returned row member => ?_
        refine (rowsName_saveOrUpdateSessionData returned row member).imp_right ?_
        rintro ⟨sameSession, sameUser⟩
        rw [sameSession, sameUser]
        exact speaks.saves other currentUser queued
      · exact .of_subset fun _ => id
  | touchSession other =>
      exact RowsName.transaction fun value saved returned => rowsName_touchSession _ returned
  | deleteSession other =>
      refine RowsName.transaction fun value saved returned => ?_
      obtain ⟨-, rfl⟩ := Prod.mk.inj (Except.ok.inj returned)
      exact .of_subset fun row member => (Table.mem_remove.mp member).1

/-- Every step gives sessions to nobody but those whom the journal names. -/
theorem speaksForUsers_step {world after : JournaledSessions} {action : SessionAction}
    (speaks : SpeaksForUsers environment.platform world) (uncached : CachesNoOther world action)
    (taken : journaledStep environment world action = some after) :
    SpeaksForUsers environment.platform after := by
  obtain ⟨state, journal⟩ := world
  obtain ⟨next, step, rfl⟩ := Option.map_eq_some_iff.mp taken
  -- no other action than a login or a request is entered in the journal
  have unentered (speaksNext : SpeaksForUsers environment.platform ⟨next, journal⟩)
      (nothing : sessionEvents environment state action = []) :
      SpeaksForUsers environment.platform
        ⟨next, journal ++ sessionEvents environment state action⟩ := by
    rwa [nothing, List.append_nil]
  cases action with
  | login user other cached =>
      obtain ⟨storedUser, found, granted, -, rfl⟩ := sessionsStep_login step
      refine speaks.logIn granted fun task queued => ?_
      split at queued
      · refine ⟨_, List.mem_singleton.mp queued, ?_⟩
        cases cached with
        | none => exact Table.id_of_find found
        | some earlier => exact uncached earlier rfl
      · exact absurd queued List.not_mem_nil
  | request other created now =>
      obtain ⟨fresh, rfl⟩ := sessionsStep_request step
      exact (speaks.loadSessionContext fresh).sessionInvalidationFilter _
  | runTask index now =>
      refine unentered ?_ rfl
      obtain ⟨task, chosen, rfl⟩ := sessionsStep_runTask step
      have rows := speaks.runSessionTask (List.mem_of_getElem? chosen) now
      exact speaks.kept (fun _ member _ => member) rows fun _ _ remains =>
        (List.eraseIdx_sublist _ _).subset remains
  | destroySession other =>
      exact unentered (Option.some.inj step ▸ speaks.invalidate) rfl
  | resetPassword email token now =>
      refine unentered
        (Option.some.inj step ▸ speaks.setStore (.of_subset fun row member => ?_)) rfl
      rwa [sessions_resetPassword] at member
  | completePasswordReset token salt newPassword now =>
      exact unentered (Option.some.inj step ▸
        speaks.setStore (.of_subset rows_completePasswordReset)) rfl
  | changePassword currentUserId current currentPassword salt newPassword now =>
      exact unentered (Option.some.inj step ▸ speaks.setStore (.of_subset rows_changePassword)) rfl

end Steps

/-! ### As whom requests pass -/

/-- Whoever a request with the session passes as has the session, in the end from a login, and is
the one to whom it was given last when it is live. -/
def PassesAsOwner (environment : Environment) (world : JournaledSessions) : Prop :=
  ∀ sessionId created now user,
    (serveRequest environment sessionId created now world.state).2 = some user →
      (∃ stored, SameText environment.platform stored sessionId ∧
        OpenTo environment.platform world.journal stored user) ∧
      (∃ origin, .loggedIn origin user ∈ world.journal) ∧
      ((world.state.getSession sessionId).isSome → LastGivenTo world.journal sessionId user)

/-- The filter passes a request on as the user of its context, or not at all. -/
theorem sessionInvalidationFilter_passes {environment : Environment} {context : LoadedContext}
    {state : SessionsState} {user : Long}
    (passes : (sessionInvalidationFilter environment context state).2 = some user) :
    ∃ current, context = some (current, user) := by
  rcases sessionInvalidationFilter_cases environment context state with
    ⟨current, owner, tasks, isContext, -, same⟩ | ⟨current, owner, -, same⟩ | same <;>
    rw [same] at passes
  · exact ⟨current, by rw [isContext, Option.some.inj passes]⟩
  · cases passes
  · cases passes

theorem SpeaksForUsers.passesAsOwner {environment : Environment} {world : JournaledSessions}
    (speaks : SpeaksForUsers environment.platform world) : PassesAsOwner environment world := by
  intro sessionId created now user passes
  obtain ⟨current, loaded⟩ := sessionInvalidationFilter_passes passes
  obtain ⟨isOpen, given⟩ := speaks.context loaded
  obtain ⟨stored, same, isOpenTo⟩ := isOpen
  exact ⟨⟨stored, same, isOpenTo⟩, isOpenTo.exists_login, given⟩

/-- In every state that a server without sessions can reach by logins with no other user in the
cache, every row of the table of sessions names a user to whom its session is open, and every
request passes as an owner of its session. -/
theorem passesAsOwner_of_reaches (environment : Environment) {start : Store}
    (noRows : start.sessions.rows = []) {world : JournaledSessions}
    (reached : Reaches (journaledStep environment) CachesNoOther ⟨⟨start, [], []⟩, []⟩ world) :
    (∀ row ∈ world.state.store.sessions.rows,
        OpenTo environment.platform world.journal row.sessionId row.userId) ∧
      PassesAsOwner environment world := by
  have speaks : SpeaksForUsers environment.platform world :=
    reached.invariant (SpeaksForUsers environment.platform) (speaksForUsers_start noRows)
      fun _ _ _ speaks uncached taken => speaksForUsers_step speaks uncached taken
  exact ⟨speaks.rows, speaks.passesAsOwner⟩

/-! ### A session that is restored -/

/-- A server with session backups whose log is at the debug level. -/
def restoringServer : Environment :=
  { serverOf true with config := { sessionBackupsEnabled := true, debugEnabled := true } }

/-- A login whose row is saved; the session is gone before a request with it comes in, which has a
new one opened. -/
def restoreActions : List SessionAction :=
  [.login 1 "S" none, .runTask 0 0, .destroySession "S", .request "S" "S2" 1]

def restoredWorld : JournaledSessions where
  state := {
    store := { storeOfAlice with
      sessions := (Table.empty.insert
        { id := 0, sessionId := "S", createdOn := 0, userId := 1 }).insert
          { id := 0, sessionId := "S2", createdOn := 1, userId := 1 } }
    httpSessions := [⟨"S", 1, false⟩, ⟨"S2", 1, true⟩]
    tasks := [.deleteSession "S", .touchSession "S2"] }
  journal := [.loggedIn "S" 1, .restored "S" "S2" 1]

theorem run_restoredWorld :
    run (journaledStep restoringServer) ⟨⟨storeOfAlice, [], []⟩, []⟩ restoreActions =
      some restoredWorld := rfl

theorem passesAsOwner_restored :
    (serveRequest restoringServer "S2" "S3" 2 restoredWorld.state).2 = some 1 ∧
      OpenTo restoringServer.platform restoredWorld.journal "S2" 1 := by
  have passes : (serveRequest restoringServer "S2" "S3" 2 restoredWorld.state).2 =
      some 1 := by decide
  have uncached (world : JournaledSessions) (action : SessionAction)
      (member : action ∈ restoreActions) : CachesNoOther world action := by
    simp only [restoreActions, List.mem_cons, List.not_mem_nil, or_false] at member
    rcases member with rfl | rfl | rfl | rfl
    · intro earlier isCached
      cases isCached
    · trivial
    · trivial
    · trivial
  obtain ⟨-, owner⟩ := passesAsOwner_of_reaches restoringServer rfl
    (reaches_of_run _ uncached run_restoredWorld)
  obtain ⟨⟨stored, same, isOpen⟩, -⟩ := owner "S2" "S3" 2 1 passes
  obtain rfl : stored = "S2" := same
  exact ⟨passes, isOpen⟩

end GraffiTab
