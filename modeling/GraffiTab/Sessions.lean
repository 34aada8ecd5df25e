/-
This file asks whether a new password ends the sessions that were opened before it.

`logoutEverywhere` deletes rows of the table of sessions. A login queues the row of its
session for another thread, so the row can be inserted after the delete; and the filter
that looks for the row does so only with session backups enabled, while without them no
row exists and nothing ends the HTTP sessions. The second implementation of
`logoutEverywhere`, for Redis, is never called.

A session that is barred has no row and none to come, or is dead, and no step but a new
login changes that. The change of a password bars all the sessions it must end when no
row of theirs is still queued and every row of theirs names their user.
-/

import GraffiTab.Accounts

namespace GraffiTab

open Tables Runs

/-! ### Sessions and their rows -/

/-- A session of the container, with the user whose login it holds. -/
structure HttpSession where
  sessionId : String
  user : Long
  alive : Bool
  deriving DecidableEq

/-- What is queued for the threads that write the table of sessions; a save comes with the user as
it was read at the login. -/
inductive SessionTask where
  | saveSessionData (sessionId : String) (currentUser : User)
  | touchSession (sessionId : String)
  | deleteSession (sessionId : String)

structure SessionsState where
  store : Store
  httpSessions : List HttpSession
  tasks : List SessionTask

section Queries

variable (platform : Platform)

/-- `UserSessionService.findBySessionId`. -/
def findBySessionId (sessionId : String) (store : Store) : Except Throwable (Option UserSession) :=
  uniqueResult (store.sessions.select fun row => SameText platform row.sessionId sessionId)

/-- `UserSessionService.saveOrUpdateSessionData`: the row keeps its user when it exists. The merge
of the current user writes its columns back. -/
def saveOrUpdateSessionData (sessionId : String) (currentUser : User) (now : Long) :
    Transaction Unit := fun store => do
  match ← findBySessionId platform sessionId store with
  | none =>
      return ((), { store.mergeUser currentUser with
        sessions := store.sessions.insert
          { id := 0, sessionId, createdOn := now, userId := currentUser.id } })
  | some _ => return ((), store)

/-- The transaction of `UserSessionService.touchSession`. -/
def touchSession (sessionId : String) (now : Long) : Transaction Unit := fun store => do
  match ← findBySessionId platform sessionId store with
  | none => return ((), store)
  | some row =>
      return ((), { store with sessions := store.sessions.set { row with createdOn := now } })

/-- The transaction of `UserSessionService.deleteSession`. -/
def deleteSession (sessionId : String) : Transaction Unit := fun store =>
  return ((), { store with
    sessions := store.sessions.remove fun row => SameText platform row.sessionId sessionId })

/-- `UserSessionService.restoreSecurityContextAndHttpSessionFromDb`: the user of the row, and a row
for the session that is created in the place of the requested one. -/
def restoreFromDb (requestedSessionId created : String) (now : Long) :
    Transaction (Option Long) := fun store => do
  match ← findBySessionId platform requestedSessionId store with
  | none => return (none, store)
  | some persisted =>
      match findUserById persisted.userId store with
      | none => throw .nullPointerException
      | some user =>
          let ((), next) ← saveOrUpdateSessionData platform created user now store
          return (some user.id, next)

end Queries

/-! ### Requests -/

/-- The live session that a cookie names. -/
def SessionsState.getSession (state : SessionsState) (sessionId : String) : Option HttpSession :=
  state.httpSessions.find? fun session => session.sessionId = sessionId && session.alive

/-- The container gave the identifier to a session. -/
def SessionsState.Known (state : SessionsState) (sessionId : String) : Prop :=
  ∃ session ∈ state.httpSessions, session.sessionId = sessionId

/-- The database would not take the identifier for one that the container gave to a session. -/
def SessionsState.Fresh (platform : Platform) (state : SessionsState) (sessionId : String) : Prop :=
  ∀ session ∈ state.httpSessions, ¬ SameText platform session.sessionId sessionId

instance (platform : Platform) (state : SessionsState) (sessionId : String) :
    Decidable (state.Fresh platform sessionId) :=
  List.decidableBAll _ _

/-- `HttpServletRequest.getSession` of a request with the cookie, where none is created: the
identifier of the live session. -/
def SessionsState.requestSession (state : SessionsState) (sessionId : String) : Option String :=
  (state.getSession sessionId).map HttpSession.sessionId

section Filters

variable (environment : Environment)

/-- The session ends, and the listener queues the delete of its row. -/
def SessionsState.invalidate (config : Config) (state : SessionsState) (sessionId : String) :
    SessionsState :=
  { state with
    httpSessions := state.httpSessions.map fun session =>
      if session.sessionId = sessionId then { session with alive := false } else session
    tasks := state.tasks ++
      if config.sessionBackupsEnabled then [.deleteSession sessionId] else [] }

/-- Without a live session the context of a request comes from the database, at the debug level of
the log. -/
def Config.restoresSessions (config : Config) : Bool :=
  config.debugEnabled && config.sessionBackupsEnabled

/-- A security context of a request, with the session that the request then has. -/
abbrev LoadedContext := Option (String × Long)

/-- `PersistedSessionSecurityContext.loadContext`, for a request with the given session cookie. -/
def loadSessionContext (sessionId created : String) (now : Long) (state : SessionsState) :
    SessionsState × LoadedContext :=
  match state.getSession sessionId with
  | some session => (state, some (session.sessionId, session.user))
  | none =>
      if environment.config.restoresSessions then
        match transaction (restoreFromDb environment.platform sessionId created now)
          state.store with
        | (store, .ok (some user)) =>
            ({ state with
              store := store
              httpSessions := state.httpSessions ++ [⟨created, user, true⟩] },
              some (created, user))
        | (store, _) => ({ state with store }, none)
      else (state, none)

/-- `SessionInvalidationFilter.doFilterInternal`: the user as whom the request passes on. -/
def sessionInvalidationFilter (context : LoadedContext) (state : SessionsState) :
    SessionsState × Option Long :=
  match context with
  | none => (state, none)
  | some (currentSessionId, user) =>
      if environment.config.sessionBackupsEnabled then
        match findBySessionId environment.platform currentSessionId state.store with
        | .ok (some _) =>
            ({ state with tasks := state.tasks ++ [.touchSession currentSessionId] }, some user)
        | .ok none => (state.invalidate environment.config currentSessionId, none)
        | .error _ => (state, none)
      else (state, some user)

/-- A request with a session cookie, up to the filter. -/
def serveRequest (sessionId created : String) (now : Long) (state : SessionsState) :
    SessionsState × Option Long :=
  let (loaded, context) := loadSessionContext environment sessionId created now state
  sessionInvalidationFilter environment context loaded

end Filters

/-! ### Runs -/

/-- What can happen. A login comes with the user that its thread still has from an earlier one, if
any, in the cache of `getCurrentUser`. -/
inductive SessionAction where
  | login (user : Long) (sessionId : String) (cached : Option User)
  | runTask (index : Nat) (now : Long)
  | request (sessionId created : String) (now : Long)
  | destroySession (sessionId : String)
  | resetPassword (email token : String) (now : Long)
  | completePasswordReset (token salt newPassword : String) (now : Long)
  | changePassword (currentUserId : Long) (sessionId currentPassword salt newPassword : String)
      (now : Long)

section Steps

variable (environment : Environment)

/-- The HTTP sessions after a login: it takes over the session of the request, or gets a new one. -/
def SessionsState.logIn (state : SessionsState) (user : Long) (sessionId : String) :
    List HttpSession :=
  match state.getSession sessionId with
  | some _ => state.httpSessions.map fun session =>
      if session.sessionId = sessionId then { session with user } else session
  | none => state.httpSessions ++ [⟨sessionId, user, true⟩]

/-- A queued task runs. The save of a session that ended throws before it looks at the table. -/
def runSessionTask (task : SessionTask) (now : Long) (state : SessionsState) : Store :=
  match task with
  | .saveSessionData sessionId currentUser =>
      if (state.getSession sessionId).isSome then
        (transaction (saveOrUpdateSessionData environment.platform sessionId currentUser now)
          state.store).1
      else state.store
  | .touchSession sessionId => 
      (transaction (touchSession environment.platform sessionId now) state.store).1
  | .deleteSession sessionId => 
      (transaction (deleteSession environment.platform sessionId) state.store).1

def sessionsStep (state : SessionsState) : SessionAction → Option SessionsState
  | .login user sessionId cached =>
      match findUserById user state.store with
      | none => none
      | some storedUser =>
          let currentUser := cached.getD storedUser
          if ((state.getSession sessionId).isSome ∨ state.Fresh environment.platform sessionId) ∧
              (findUserById currentUser.id state.store).isSome then
            some { state with
              httpSessions := state.logIn user sessionId
              tasks := state.tasks ++
                if environment.config.sessionBackupsEnabled then
                  [.saveSessionData sessionId currentUser]
                else [] }
          else none
  | .runTask index now =>
      match state.tasks[index]? with
      | some task =>
          some { state with
            store := runSessionTask environment task now state
            tasks := state.tasks.eraseIdx index }
      | none => none
  | .request sessionId created now =>
      if state.Fresh environment.platform created then
        some (serveRequest environment sessionId created now state).1
      else none
  | .destroySession sessionId => some (state.invalidate environment.config sessionId)
  | .resetPassword email token now =>
      some { state with store := (resetPassword environment email token now state.store).1 }
  | .completePasswordReset token salt newPassword now =>
      some { state with
        store := (completePasswordReset environment token salt newPassword now state.store).1 }
  | .changePassword currentUserId sessionId currentPassword salt newPassword now =>
      some { state with
        store := (changePassword environment currentUserId currentPassword salt newPassword
          (state.requestSession sessionId) now state.store).1 }

/-- The action is a login on the session. -/
def LogsInOn (sessionId : String) (action : SessionAction) : Prop :=
  ∃ user cached, action = .login user sessionId cached

/-- As long as nobody logs in on the session again, no request with it passes the filter as an
authenticated one. -/
def StaysLoggedOut (condition : SessionsState → SessionAction → Prop) (state : SessionsState)
    (sessionId : String) : Prop :=
  ∀ later, Reaches (sessionsStep environment)
      (fun current action => condition current action ∧ ¬ LogsInOn sessionId action) state later →
    ∀ created now, later.Fresh environment.platform created →
      (serveRequest environment sessionId created now later).2 = none

/-- Once a password was reset, the sessions on which its user logged in before are logged out;
once it was changed, those other than the session that changed it. -/
def LogsOutEverywhere (condition : SessionsState → SessionAction → Prop) : Prop :=
  ∀ start before, start.sessions.rows = [] →
    Reaches (sessionsStep environment) condition ⟨start, [], []⟩ before →
    (∀ token salt newPassword now user after,
      condition before (.completePasswordReset token salt newPassword now) →
      (completePasswordReset environment token salt newPassword now before.store).2 = .ok user →
      sessionsStep environment before (.completePasswordReset token salt newPassword now) =
        some after →
      ∀ session ∈ before.httpSessions, session.user = user.id →
        StaysLoggedOut environment condition after session.sessionId) ∧
    ∀ currentUserId current currentPassword salt newPassword now user after,
      condition before
        (.changePassword currentUserId current currentPassword salt newPassword now) →
      (changePassword environment currentUserId currentPassword salt newPassword
        (before.requestSession current) now before.store).2 = .ok user →
      sessionsStep environment before
        (.changePassword currentUserId current currentPassword salt newPassword now) =
          some after →
      ∀ session ∈ before.httpSessions, session.user = currentUserId →
        session.sessionId ≠ current →
          StaysLoggedOut environment condition after session.sessionId

end Steps

section Condition

variable (environment : Environment)

/-- Rows of the session name no other user. -/
def RowsNameUser (sessionId : String) (user : Long) (store : Store) : Prop :=
  ∀ row ∈ store.sessions.rows, SameText environment.platform row.sessionId sessionId →
    row.userId = user

/-- When the password of the user changes, each of its sessions but the kept one can still be
ended. It is dead, and no other user can have it restored from a row; or the filter looks for a row
of it, no row names another user, and no save of it is queued. -/
def SessionsCanEnd (state : SessionsState) (user : Long) (kept : Option String) : Prop :=
  ∀ session ∈ state.httpSessions, session.user = user → some session.sessionId ≠ kept →
    (state.getSession session.sessionId = none ∧
      (environment.config.restoresSessions = true →
        RowsNameUser environment session.sessionId user state.store)) ∨
    (environment.config.sessionBackupsEnabled = true ∧
      RowsNameUser environment session.sessionId user state.store ∧
      ∀ currentUser, .saveSessionData session.sessionId currentUser ∉ state.tasks)

/-- The condition on the two operations that log a user out: a reset with the token of a user who
waits for it in time, and a change by a user who knows the old password. -/
def LogsOutStored (state : SessionsState) : SessionAction → Prop
  | .completePasswordReset token _ _ now => ∀ user,
      findUsersWithMetadataValues environment.platform resetPasswordActivationToken token
        state.store = .ok (some user) →
      StoredWithin resetPasswordTokenExpirationMs resetPasswordActivationTokenDate now user →
      user.accountStatus = .resetPassword →
      SessionsCanEnd environment state user.id none
  | .changePassword currentUserId sessionId currentPassword _ _ _ => ∀ user,
      findUserById currentUserId state.store = some user →
      environment.encoder.encodedMatches currentPassword user.password = true →
      (state.getSession sessionId).isSome →
      SessionsCanEnd environment state currentUserId (some sessionId)
  | _ => True

end Condition

/-! ### Sessions of the container -/

section Container

variable {platform : Platform} {config : Config} {state next : SessionsState}
  {sessionId other : String}

theorem getSession_eq_none : state.getSession sessionId = none ↔
    ∀ session ∈ state.httpSessions, session.sessionId = sessionId → session.alive = false := by
  simp [SessionsState.getSession]

theorem getSession_isSome : (state.getSession sessionId).isSome ↔
    ∃ session ∈ state.httpSessions, session.sessionId = sessionId ∧ session.alive = true := by
  simp [SessionsState.getSession, List.find?_isSome]

theorem known_of_getSession (live : (state.getSession sessionId).isSome) :
    state.Known sessionId := by
  obtain ⟨session, member, same, -⟩ := getSession_isSome.mp live
  exact ⟨session, member, same⟩

theorem sessionId_of_getSession {session : HttpSession}
    (live : state.getSession sessionId = some session) : session.sessionId = sessionId := by
  have found := List.find?_some live
  simp only [Bool.and_eq_true, decide_eq_true_eq] at found
  exact found.1

theorem SessionsState.Fresh.not_known (fresh : state.Fresh platform sessionId) :
    ¬ state.Known sessionId :=
  fun ⟨session, member, same⟩ => fresh session member (congrArg platform.collate same)

/-- The database takes no two sessions of the container for the same one. -/
def SessionsState.IdsApart (platform : Platform) (state : SessionsState) : Prop :=
  ∀ first ∈ state.httpSessions, ∀ second ∈ state.httpSessions,
    SameText platform first.sessionId second.sessionId → first.sessionId = second.sessionId

theorem SessionsState.IdsApart.eq (apart : state.IdsApart platform) {first second : String}
    (firstKnown : state.Known first) (secondKnown : state.Known second)
    (same : SameText platform first second) : first = second := by
  obtain ⟨session, member, rfl⟩ := firstKnown
  obtain ⟨otherSession, otherMember, rfl⟩ := secondKnown
  exact apart session member otherSession otherMember same

theorem idsApart_start (store : Store) :
    SessionsState.IdsApart platform ⟨store, [], []⟩ :=
  fun _ member => absurd member List.not_mem_nil

/-- What happens to sessions when none of them is forgotten or comes back to life, and new ones
get fresh identifiers. -/
structure SessionsKept (platform : Platform) (state next : SessionsState) : Prop where
  known : ∀ sessionId, state.Known sessionId → next.Known sessionId
  dead : ∀ sessionId, state.Known sessionId → state.getSession sessionId = none →
    next.getSession sessionId = none
  apart : state.IdsApart platform → next.IdsApart platform

theorem SessionsKept.refl (state : SessionsState) (store : Store) (tasks : List SessionTask) :
    SessionsKept platform state { state with store, tasks } :=
  ⟨fun _ => id, fun _ _ => id, id⟩

theorem SessionsKept.trans {last : SessionsState} (first : SessionsKept platform state next)
    (second : SessionsKept platform next last) : SessionsKept platform state last :=
  ⟨fun sessionId known => second.known sessionId (first.known sessionId known),
    fun sessionId known dead => second.dead sessionId (first.known sessionId known)
      (first.dead sessionId known dead),
    fun apart => second.apart (first.apart apart)⟩

theorem sessionsKept_append {new : HttpSession} (fresh : state.Fresh platform new.sessionId)
    (store : Store) (tasks : List SessionTask) :
    SessionsKept platform state
      { state with store, tasks, httpSessions := state.httpSessions ++ [new] } := by
  refine ⟨fun sessionId ⟨session, member, same⟩ =>
    ⟨session, List.mem_append_left _ member, same⟩, fun sessionId known dead => ?_,
    fun apart first firstMember second secondMember same => ?_⟩
  · rw [getSession_eq_none] at dead ⊢
    intro session member same
    rcases List.mem_append.mp member with old | isNew
    · exact dead session old same
    · obtain rfl := List.mem_singleton.mp isNew
      subst same
      exact absurd known fresh.not_known
  · rcases List.mem_append.mp firstMember with firstOld | firstNew <;>
      rcases List.mem_append.mp secondMember with secondOld | secondNew
    · exact apart first firstOld second secondOld same
    · obtain rfl := List.mem_singleton.mp secondNew
      exact absurd same (fresh first firstOld)
    · obtain rfl := List.mem_singleton.mp firstNew
      exact absurd same.symm (fresh second secondOld)
    · rw [List.mem_singleton.mp firstNew, List.mem_singleton.mp secondNew]

theorem sessionsKept_map {change : HttpSession → HttpSession}
    (sameId : ∀ session, (change session).sessionId = session.sessionId)
    (staysDead : ∀ session, session.alive = false → (change session).alive = false)
    (tasks : List SessionTask) :
    SessionsKept platform state
      { state with httpSessions := state.httpSessions.map change, tasks } := by
  refine ⟨fun sessionId ⟨session, member, same⟩ => ⟨change session,
    List.mem_map_of_mem member, (sameId session).trans same⟩, fun sessionId known dead => ?_,
    fun apart first firstMember second secondMember same => ?_⟩
  · rw [getSession_eq_none] at dead ⊢
    intro session member same
    obtain ⟨old, oldMember, rfl⟩ := List.mem_map.mp member
    exact staysDead old (dead old oldMember ((sameId old).symm.trans same))
  · obtain ⟨old, oldMember, rfl⟩ := List.mem_map.mp firstMember
    obtain ⟨otherOld, otherMember, rfl⟩ := List.mem_map.mp secondMember
    rw [sameId, sameId] at same ⊢
    exact apart old oldMember otherOld otherMember same

theorem sessionsKept_logIn (user : Long)
    (granted : (state.getSession sessionId).isSome ∨ state.Fresh platform sessionId)
    (tasks : List SessionTask) :
    SessionsKept platform state
      { state with httpSessions := state.logIn user sessionId, tasks } := by
  unfold SessionsState.logIn
  cases live : state.getSession sessionId with
  | some session =>
      refine sessionsKept_map (fun session => ?_) (fun session dead => ?_) tasks
      · split <;> rfl
      · split <;> exact dead
  | none =>
      rw [live] at granted
      exact sessionsKept_append (granted.resolve_left Bool.false_ne_true) state.store tasks

theorem sessionsKept_invalidate :
    SessionsKept platform state (state.invalidate config sessionId) := by
  refine sessionsKept_map (fun session => ?_) (fun session dead => ?_) _
  · split <;> rfl
  · split
    · rfl
    · exact dead

theorem mem_invalidate {task : SessionTask}
    (queued : task ∈ (state.invalidate config sessionId).tasks) :
    task ∈ state.tasks ∨ task = .deleteSession sessionId := by
  rcases List.mem_append.mp queued with old | new
  · exact .inl old
  · split at new
    · exact .inr (List.mem_singleton.mp new)
    · exact absurd new List.not_mem_nil

end Container

/-! ### What the parts of a request do -/

section Requests

variable {environment : Environment} {state : SessionsState} {sessionId created : String}
  {now : Long}

/-- What loading a context does: it finds the live session, restores one from the database, or
leaves the request without a context. -/
theorem loadSessionContext_cases (environment : Environment) (sessionId created : String)
    (now : Long) (state : SessionsState) :
    let restored := transaction (restoreFromDb environment.platform sessionId created now)
      state.store
    let loaded := loadSessionContext environment sessionId created now state
    (∃ session, state.getSession sessionId = some session ∧
        loaded = (state, some (session.sessionId, session.user))) ∨
      (state.getSession sessionId = none ∧ environment.config.restoresSessions = true ∧
        ∃ user, restored.2 = .ok (some user) ∧
          loaded = ({ state with
              store := restored.1
              httpSessions := state.httpSessions ++ [⟨created, user, true⟩] },
            some (created, user))) ∨
      (state.getSession sessionId = none ∧ ∃ store, loaded = ({ state with store }, none) ∧
        (store = state.store ∨
          store = restored.1 ∧ ∀ user, restored.2 ≠ .ok (some user))) := by
  intro restored loaded
  simp only [loaded, loadSessionContext]
  cases live : state.getSession sessionId with
  | some session => exact .inl ⟨session, rfl, rfl⟩
  | none =>
      refine .inr ?_
      dsimp only
      split
      · rename_i restores
        split
        · rename_i store user answer
          exact .inl ⟨rfl, restores, user, congrArg Prod.snd answer,
            by rw [congrArg Prod.fst answer]⟩
        · rename_i store answer notRestored same
          have sameStore : store = restored.1 := (congrArg Prod.fst same).symm
          refine .inr ⟨rfl, store, rfl, .inr ⟨sameStore, fun user isUser => ?_⟩⟩
          exact notRestored user ((congrArg Prod.snd same).symm.trans isUser)
      · exact .inr ⟨rfl, state.store, rfl, .inl rfl⟩

theorem sessionsKept_loadSessionContext (fresh : state.Fresh environment.platform created) :
    SessionsKept environment.platform state
      (loadSessionContext environment sessionId created now state).1 := by
  rcases loadSessionContext_cases environment sessionId created now state with
    ⟨session, -, same⟩ | ⟨-, -, user, -, same⟩ | ⟨-, store, same, -⟩ <;> rw [same]
  · exact .refl state state.store state.tasks
  · exact sessionsKept_append fresh _ _
  · exact .refl state store state.tasks

/-- What the filter does: it lets the request pass and may queue a touch, it ends the session of a
context without a row, or it does nothing. -/
theorem sessionInvalidationFilter_cases (environment : Environment) (context : LoadedContext)
    (state : SessionsState) :
    (∃ current user tasks, context = some (current, user) ∧
        (∀ task ∈ tasks, task = .touchSession current) ∧
        sessionInvalidationFilter environment context state =
          ({ state with tasks := state.tasks ++ tasks }, some user)) ∨
      (∃ current user, context = some (current, user) ∧
        sessionInvalidationFilter environment context state =
          (state.invalidate environment.config current, none)) ∨
      sessionInvalidationFilter environment context state = (state, none) := by
  unfold sessionInvalidationFilter
  split
  · exact .inr (.inr rfl)
  rename_i current user
  split
  · split
    · exact .inl ⟨current, user, [.touchSession current], rfl,
        fun task member => List.mem_singleton.mp member, rfl⟩
    · exact .inr (.inl ⟨current, user, rfl, rfl⟩)
    · exact .inr (.inr rfl)
  · refine .inl ⟨current, user, [], rfl, fun task member => absurd member List.not_mem_nil, ?_⟩
    rw [List.append_nil]

theorem sessionsKept_sessionInvalidationFilter (context : LoadedContext) :
    SessionsKept environment.platform state
      (sessionInvalidationFilter environment context state).1 := by
  rcases sessionInvalidationFilter_cases environment context state with
    ⟨current, user, tasks, -, -, same⟩ | ⟨current, user, -, same⟩ | same <;> rw [same]
  · exact .refl state state.store _
  · exact sessionsKept_invalidate
  · exact .refl state state.store state.tasks

/-- The filter queues no save. -/
theorem save_sessionInvalidationFilter {context : LoadedContext} {currentUser : User}
    (queued : .saveSessionData sessionId currentUser ∈
      (sessionInvalidationFilter environment context state).1.tasks) :
    .saveSessionData sessionId currentUser ∈ state.tasks := by
  rcases sessionInvalidationFilter_cases environment context state with
    ⟨current, user, tasks, -, touches, same⟩ | ⟨current, user, -, same⟩ | same <;>
    rw [same] at queued
  · exact (List.mem_append.mp queued).resolve_right fun new => absurd (touches _ new) nofun
  · exact (mem_invalidate queued).resolve_right nofun
  · exact queued

theorem store_sessionInvalidationFilter (context : LoadedContext) :
    (sessionInvalidationFilter environment context state).1.store = state.store := by
  rcases sessionInvalidationFilter_cases environment context state with
    ⟨current, user, tasks, -, -, same⟩ | ⟨current, user, -, same⟩ | same <;> rw [same]
  rfl

end Requests

/-! ### Steps -/

section Steps

variable {environment : Environment} {state next : SessionsState} {sessionId : String}

/-- What a login does: its user exists, and its session is live or new. -/
theorem sessionsStep_login {user : Long} {cached : Option User}
    (taken : sessionsStep environment state (.login user sessionId cached) = some next) :
    ∃ storedUser, findUserById user state.store = some storedUser ∧
      ((state.getSession sessionId).isSome ∨ state.Fresh environment.platform sessionId) ∧
      (findUserById (cached.getD storedUser).id state.store).isSome ∧
      next = { state with
        httpSessions := state.logIn user sessionId
        tasks := state.tasks ++
          if environment.config.sessionBackupsEnabled then
            [.saveSessionData sessionId (cached.getD storedUser)]
          else [] } := by
  rw [sessionsStep] at taken
  split at taken
  · cases taken
  · rename_i storedUser found
    obtain ⟨⟨granted, exists_⟩, same⟩ := Option.ite_none_right_eq_some.mp taken
    exact ⟨storedUser, found, granted, exists_, (Option.some.inj same).symm⟩

/-- What a task does: it is a queued one. -/
theorem sessionsStep_runTask {index : Nat} {now : Long}
    (taken : sessionsStep environment state (.runTask index now) = some next) :
    ∃ task, state.tasks[index]? = some task ∧
      next = { state with
        store := runSessionTask environment task now state
        tasks := state.tasks.eraseIdx index } := by
  rw [sessionsStep] at taken
  split at taken
  · rename_i task chosen
    exact ⟨task, chosen, (Option.some.inj taken).symm⟩
  · cases taken

/-- What a request does: a session that it opens is new. -/
theorem sessionsStep_request {created : String} {now : Long}
    (taken : sessionsStep environment state (.request sessionId created now) = some next) :
    state.Fresh environment.platform created ∧
      next = (serveRequest environment sessionId created now state).1 := by
  rw [sessionsStep] at taken
  obtain ⟨fresh, same⟩ := Option.ite_none_right_eq_some.mp taken
  exact ⟨fresh, (Option.some.inj same).symm⟩

/-- No step forgets a session or brings a dead one back, and new ones get fresh identifiers. -/
theorem sessionsKept_step {action : SessionAction}
    (taken : sessionsStep environment state action = some next) :
    SessionsKept environment.platform state next := by
  cases action with
  | login user other cached =>
      obtain ⟨storedUser, -, granted, -, rfl⟩ := sessionsStep_login taken
      exact sessionsKept_logIn user granted _
  | runTask index now =>
      obtain ⟨task, -, rfl⟩ := sessionsStep_runTask taken
      exact .refl state _ _
  | request other created now =>
      obtain ⟨fresh, rfl⟩ := sessionsStep_request taken
      exact (sessionsKept_loadSessionContext fresh).trans
        (sessionsKept_sessionInvalidationFilter _)
  | destroySession other => exact Option.some.inj taken ▸ sessionsKept_invalidate
  | resetPassword email token now => exact Option.some.inj taken ▸ .refl state _ state.tasks
  | completePasswordReset token salt newPassword now =>
      exact Option.some.inj taken ▸ .refl state _ state.tasks
  | changePassword currentUserId current currentPassword salt newPassword now =>
      exact Option.some.inj taken ▸ .refl state _ state.tasks

theorem idsApart_of_reaches {condition : SessionsState → SessionAction → Prop} {start : Store}
    (reached : Reaches (sessionsStep environment) condition ⟨start, [], []⟩ state) :
    state.IdsApart environment.platform :=
  reached.invariant (SessionsState.IdsApart environment.platform) (idsApart_start start)
    fun _ _ _ apart _ taken => (sessionsKept_step taken).apart apart

end Steps

/-! ### Rows of sessions -/

section Rows

variable {platform : Platform} {store saved : Store} {sessionId : String}

/-- No row of the table of sessions has the identifier. -/
def NoRow (platform : Platform) (sessionId : String) (store : Store) : Prop :=
  ∀ row ∈ store.sessions.rows, ¬ SameText platform row.sessionId sessionId

theorem NoRow.findBySessionId (absent : NoRow platform sessionId store) :
    findBySessionId platform sessionId store = .ok none := by
  refine uniqueResult_eq_none.mpr (List.filter_eq_nil_iff.mpr fun row member => ?_)
  rw [decide_eq_true_eq]
  exact absent row member

/-- Where the rows after an operation come from: each was there before, touched or not, or it is
the new row of a session that is allowed to get one and had none. -/
def RowsFrom (platform : Platform) (allowed : String → Prop) (store next : Store) : Prop :=
  ∀ row ∈ next.sessions.rows,
    (∃ old ∈ store.sessions.rows, old.id = row.id ∧ old.sessionId = row.sessionId) ∨
      (allowed row.sessionId ∧ NoRow platform row.sessionId store ∧
        row.id = store.sessions.nextId)

theorem RowsFrom.of_subset {allowed : String → Prop}
    (subset : ∀ row ∈ saved.sessions.rows, row ∈ store.sessions.rows) :
    RowsFrom platform allowed store saved :=
  fun row member => .inl ⟨row, subset row member, rfl, rfl⟩

theorem RowsFrom.mono {allowed more : String → Prop} (rows : RowsFrom platform allowed store saved)
    (weaken : ∀ sessionId, allowed sessionId → more sessionId) :
    RowsFrom platform more store saved :=
  fun row member => (rows row member).imp_right fun ⟨permitted, rest⟩ =>
    ⟨weaken row.sessionId permitted, rest⟩

/-- No session gets a row that is not allowed to. -/
theorem RowsFrom.noRow {allowed : String → Prop} (rows : RowsFrom platform allowed store saved)
    (absent : NoRow platform sessionId store)
    (refused : ∀ inserted, allowed inserted → ¬ SameText platform inserted sessionId) :
    NoRow platform sessionId saved := by
  intro row member same
  rcases rows row member with ⟨old, oldMember, -, oldSame⟩ | ⟨permitted, -⟩
  · exact absent old oldMember (oldSame ▸ same)
  · exact refused row.sessionId permitted same

theorem noRow_of_findBySessionId (answer : findBySessionId platform sessionId store = .ok none) :
    NoRow platform sessionId store := by
  intro row member same
  have listed := List.filter_eq_nil_iff.mp (uniqueResult_eq_none.mp answer) row member
  exact listed (decide_eq_true same)

theorem mem_of_findBySessionId {row : UserSession}
    (answer : findBySessionId platform sessionId store = .ok (some row)) :
    row ∈ store.sessions.rows ∧ SameText platform row.sessionId sessionId := by
  obtain ⟨member, same⟩ := Table.mem_select.mp (uniqueResult_eq_some.mp answer).1
  exact ⟨member, of_decide_eq_true same⟩

theorem rowsFrom_saveOrUpdateSessionData {currentUser : User} {now : Long} {value : Unit}
    (returned : saveOrUpdateSessionData platform sessionId currentUser now store =
      .ok (value, saved)) :
    RowsFrom platform (· = sessionId) store saved := by
  obtain ⟨found, answer, rest⟩ := bind_eq_ok.mp returned
  cases found with
  | some row =>
      obtain ⟨-, rfl⟩ := Prod.mk.inj (Except.ok.inj rest)
      exact .of_subset fun _ => id
  | none =>
      obtain ⟨-, rfl⟩ := Prod.mk.inj (Except.ok.inj rest)
      intro row member
      rcases Table.mem_insert.mp member with old | rfl
      · exact .inl ⟨row, old, rfl, rfl⟩
      · exact .inr ⟨rfl, noRow_of_findBySessionId answer, rfl⟩

theorem rowsFrom_touchSession (allowed : String → Prop) {now : Long} {value : Unit}
    (returned : touchSession platform sessionId now store = .ok (value, saved)) :
    RowsFrom platform allowed store saved := by
  obtain ⟨found, answer, rest⟩ := bind_eq_ok.mp returned
  cases found with
  | none =>
      obtain ⟨-, rfl⟩ := Prod.mk.inj (Except.ok.inj rest)
      exact .of_subset fun _ => id
  | some touched =>
      obtain ⟨-, rfl⟩ := Prod.mk.inj (Except.ok.inj rest)
      intro row member
      rcases Table.mem_set.mp member with ⟨rfl, -⟩ | ⟨old, -⟩
      · exact .inl ⟨touched, (mem_of_findBySessionId answer).1, rfl, rfl⟩
      · exact .inl ⟨row, old, rfl, rfl⟩

theorem rowsFrom_deleteSession (allowed : String → Prop) {value : Unit}
    (returned : deleteSession platform sessionId store = .ok (value, saved)) :
    RowsFrom platform allowed store saved := by
  obtain ⟨-, rfl⟩ := Prod.mk.inj (Except.ok.inj returned)
  exact .of_subset fun row member => (Table.mem_remove.mp member).1

theorem rowsFrom_restoreFromDb {created : String} {now : Long} {user : Option Long}
    (returned : restoreFromDb platform sessionId created now store = .ok (user, saved)) :
    RowsFrom platform (fun inserted => inserted = created ∧ user.isSome) store saved := by
  obtain ⟨found, -, rest⟩ := bind_eq_ok.mp returned
  cases found with
  | none =>
      obtain ⟨-, rfl⟩ := Prod.mk.inj (Except.ok.inj rest)
      exact .of_subset fun _ => id
  | some persisted =>
      simp only at rest
      split at rest
      · exact absurd rest throw_ne_ok
      obtain ⟨⟨⟨⟩, next⟩, save, rest⟩ := bind_eq_ok.mp rest
      obtain ⟨rfl, rfl⟩ := Prod.mk.inj (Except.ok.inj rest)
      exact (rowsFrom_saveOrUpdateSessionData save).mono fun _ same => ⟨same, rfl⟩

/-- A transaction leaves rows as its body does. -/
theorem RowsFrom.transaction {allowed : String → Prop} {Value : Type} {body : Transaction Value}
    (rows : ∀ value saved, body store = .ok (value, saved) →
      RowsFrom platform allowed store saved) :
    RowsFrom platform allowed store (transaction body store).1 :=
  transaction_keeps (RowsFrom platform allowed store) (.of_subset fun _ => id) rows

/-- A new password only deletes rows. -/
theorem rows_completePasswordReset {environment : Environment} {token salt newPassword : String}
    {now : Long} :
    ∀ row ∈ (completePasswordReset environment token salt newPassword now store).1.sessions.rows,
      row ∈ store.sessions.rows := by
  refine transaction_keeps (fun next => ∀ row ∈ next.sessions.rows, row ∈ store.sessions.rows)
    (fun _ => id) fun user saved returned => ?_
  obtain ⟨-, -, -, -, -, rfl⟩ := completePasswordResetBody_ok returned
  exact fun row member => (Table.mem_remove.mp member).1

theorem rows_changePassword {environment : Environment} {currentUserId : Long}
    {currentPassword salt newPassword : String} {session : Option String} {now : Long} :
    ∀ row ∈ (changePassword environment currentUserId currentPassword salt newPassword session
      now store).1.sessions.rows, row ∈ store.sessions.rows := by
  refine transaction_keeps (fun next => ∀ row ∈ next.sessions.rows, row ∈ store.sessions.rows)
    (fun _ => id) fun user saved returned => ?_
  obtain ⟨-, -, -, -, -, rfl⟩ := changePasswordBody_ok returned
  exact fun row member => (Table.mem_remove.mp member).1

theorem sessions_resetPassword {environment : Environment} (email token : String) (now : Long) :
    (resetPassword environment email token now store).1.sessions = store.sessions := by
  refine executeInTransactionWithResult_keeps (fun next => next.sessions = store.sessions) rfl
    fun user saved returned => ?_
  obtain ⟨-, -, -, rfl⟩ := resetPasswordBody_ok returned
  rfl

/-- A request inserts at most the row of the session that is opened for it. -/
theorem rowsFrom_loadSessionContext (environment : Environment) (sessionId created : String)
    (now : Long) (state : SessionsState) :
    RowsFrom environment.platform
      (fun inserted => inserted = created ∧ state.getSession sessionId = none ∧
        ∃ user, (loadSessionContext environment sessionId created now state).2 =
          some (created, user))
      state.store (loadSessionContext environment sessionId created now state).1.store := by
  have rows : RowsFrom environment.platform (fun inserted => inserted = created ∧ ∃ user,
      (transaction (restoreFromDb environment.platform sessionId created now) state.store).2 =
        .ok (some user)) state.store
        (transaction (restoreFromDb environment.platform sessionId created now)
          state.store).1 := by
    refine RowsFrom.transaction fun user saved returned => ?_
    refine (rowsFrom_restoreFromDb returned).mono fun inserted ⟨same, isUser⟩ => ⟨same, ?_⟩
    obtain ⟨value, rfl⟩ := Option.isSome_iff_exists.mp isUser
    exact ⟨value, transaction_isOk.mpr ⟨saved, returned⟩⟩
  rcases loadSessionContext_cases environment sessionId created now state with
    ⟨session, -, same⟩ | ⟨dead, -, user, -, same⟩ | ⟨-, store, same, unrestored⟩ <;> rw [same]
  · exact .of_subset fun _ => id
  · exact rows.mono fun inserted ⟨isCreated, _⟩ => ⟨isCreated, dead, user, rfl⟩
  · rcases unrestored with rfl | ⟨rfl, notRestored⟩
    · exact .of_subset fun _ => id
    · exact rows.mono fun inserted ⟨_, user, isUser⟩ => absurd isUser (notRestored user)

end Rows

/-! ### Barred sessions -/

section Barred

variable {environment : Environment} {state next : SessionsState} {sessionId : String}

/-- A session that was given out and that no request can use any more: it is dead, and has no row
where it could be restored from one; or the filter looks for a row of it, and it has none and no
save of it is queued. -/
structure Barred (environment : Environment) (sessionId : String) (state : SessionsState) :
    Prop where
  known : state.Known sessionId
  apart : state.IdsApart environment.platform
  ended :
    (state.getSession sessionId = none ∧
      (environment.config.restoresSessions = true →
        NoRow environment.platform sessionId state.store)) ∨
    (environment.config.sessionBackupsEnabled = true ∧
      NoRow environment.platform sessionId state.store ∧
      ∀ currentUser, .saveSessionData sessionId currentUser ∉ state.tasks)

/-- No request with a barred session passes the filter as an authenticated one. -/
theorem Barred.serveRequest (barred : Barred environment sessionId state) (created : String)
    (now : Long) : (serveRequest environment sessionId created now state).2 = none := by
  have noRow (restores : environment.config.restoresSessions = true) :
      NoRow environment.platform sessionId state.store :=
    barred.ended.elim (fun dead => dead.2 restores) fun saved => saved.2.1
  unfold GraffiTab.serveRequest loadSessionContext
  cases live : state.getSession sessionId with
  | none =>
      by_cases restores : environment.config.restoresSessions = true
      · have nothing : transaction (restoreFromDb environment.platform sessionId created now)
            state.store = (state.store, .ok none) := by
          have answer := (noRow restores).findBySessionId
          rw [transaction, restoreFromDb, answer]
          rfl
        rw [if_pos restores, nothing]
        rfl
      · rw [if_neg restores]
        rfl
  | some session =>
      obtain ⟨backups, absent, -⟩ := barred.ended.resolve_left fun dead => by
        rw [live] at dead
        cases dead.1
      simp only [sessionInvalidationFilter, backups, if_true, sessionId_of_getSession live,
        absent.findBySessionId]

/-- What keeps a session barred: no row of it appears, and no save of it is queued. -/
theorem Barred.kept (barred : Barred environment sessionId state)
    (sessions : SessionsKept environment.platform state next)
    (noRow : NoRow environment.platform sessionId state.store →
      NoRow environment.platform sessionId next.store)
    (noSave : ∀ currentUser, .saveSessionData sessionId currentUser ∈ next.tasks →
      .saveSessionData sessionId currentUser ∈ state.tasks) :
    Barred environment sessionId next := by
  refine ⟨sessions.known sessionId barred.known, sessions.apart barred.apart, ?_⟩
  rcases barred.ended with ⟨dead, unrestored⟩ | ⟨backups, absent, unqueued⟩
  · exact .inl ⟨sessions.dead sessionId barred.known dead,
      fun restores => noRow (unrestored restores)⟩
  · exact .inr ⟨backups, noRow absent, fun currentUser queued =>
      unqueued currentUser (noSave currentUser queued)⟩

theorem Barred.setStore (barred : Barred environment sessionId state) {store : Store}
    (rows : ∀ row ∈ store.sessions.rows, row ∈ state.store.sessions.rows) :
    Barred environment sessionId { state with store } :=
  barred.kept (.refl state store state.tasks)
    (fun absent row member => absent row (rows row member)) fun _ => id

theorem Barred.loadSessionContext (barred : Barred environment sessionId state) (other : String)
    {created : String} (now : Long) (fresh : state.Fresh environment.platform created) :
    Barred environment sessionId (loadSessionContext environment other created now state).1 := by
  refine barred.kept (sessionsKept_loadSessionContext fresh) (fun absent => ?_)
    fun currentUser queued => ?_
  · refine (rowsFrom_loadSessionContext environment other created now state).noRow absent ?_
    rintro inserted ⟨rfl, -⟩ same
    obtain ⟨session, member, isSession⟩ := barred.known
    exact fresh session member (isSession ▸ same.symm)
  · rcases loadSessionContext_cases environment other created now state with
      ⟨session, -, same⟩ | ⟨-, -, user, -, same⟩ | ⟨-, store, same, -⟩ <;> rwa [same] at queued

theorem Barred.sessionInvalidationFilter (barred : Barred environment sessionId state)
    (context : LoadedContext) :
    Barred environment sessionId (sessionInvalidationFilter environment context state).1 := by
  refine barred.kept (sessionsKept_sessionInvalidationFilter context) (fun absent => ?_)
    fun currentUser queued => save_sessionInvalidationFilter queued
  rwa [store_sessionInvalidationFilter]

/-- The save of a barred session does not run: another one that is live is another one for the
database too. -/
theorem Barred.runSessionTask (barred : Barred environment sessionId state)
    {task : SessionTask} (queued : task ∈ state.tasks) (now : Long)
    (absent : NoRow environment.platform sessionId state.store) :
    NoRow environment.platform sessionId (runSessionTask environment task now state) := by
  cases task with
  | saveSessionData other currentUser =>
      unfold GraffiTab.runSessionTask
      simp only
      split
      · rename_i live
        refine RowsFrom.noRow (RowsFrom.transaction fun value saved returned =>
          rowsFrom_saveOrUpdateSessionData returned) absent ?_
        rintro inserted rfl same
        obtain rfl := barred.apart.eq (known_of_getSession live) barred.known same
        rcases barred.ended with ⟨dead, -⟩ | ⟨-, -, unqueued⟩
        · rw [dead] at live
          exact Bool.false_ne_true live
        · exact unqueued currentUser queued
      · exact absent
  | touchSession other =>
      exact RowsFrom.noRow (RowsFrom.transaction fun value saved returned =>
        rowsFrom_touchSession (fun _ => False) returned) absent nofun
  | deleteSession other =>
      exact RowsFrom.noRow (RowsFrom.transaction fun value saved returned =>
        rowsFrom_deleteSession (fun _ => False) returned) absent nofun

/-- Barred sessions stay barred in every step but a new login on them. -/
theorem barred_step {action : SessionAction} (barred : Barred environment sessionId state)
    (noLogin : ¬ LogsInOn sessionId action)
    (taken : sessionsStep environment state action = some next) :
    Barred environment sessionId next := by
  have sessions := sessionsKept_step taken
  cases action with
  | login user other cached =>
      obtain ⟨storedUser, -, -, -, rfl⟩ := sessionsStep_login taken
      refine barred.kept sessions id fun currentUser queued => ?_
      refine (List.mem_append.mp queued).resolve_right fun new => noLogin ?_
      split at new
      · obtain ⟨rfl, -⟩ := SessionTask.saveSessionData.inj (List.mem_singleton.mp new)
        exact ⟨user, cached, rfl⟩
      · exact absurd new List.not_mem_nil
  | runTask index now =>
      obtain ⟨task, chosen, rfl⟩ := sessionsStep_runTask taken
      exact barred.kept sessions (barred.runSessionTask (List.mem_of_getElem? chosen) now)
        fun currentUser remains => (List.eraseIdx_sublist _ _).subset remains
  | request other created now =>
      obtain ⟨fresh, rfl⟩ := sessionsStep_request taken
      exact (barred.loadSessionContext other now fresh).sessionInvalidationFilter _
  | destroySession other =>
      obtain rfl := Option.some.inj taken
      exact barred.kept sessions id fun currentUser queued =>
        (mem_invalidate queued).resolve_right nofun
  | resetPassword email token now =>
      obtain rfl := Option.some.inj taken
      refine barred.setStore fun row member => ?_
      rwa [sessions_resetPassword] at member
  | completePasswordReset token salt newPassword now =>
      exact Option.some.inj taken ▸ barred.setStore rows_completePasswordReset
  | changePassword currentUserId current currentPassword salt newPassword now =>
      exact Option.some.inj taken ▸ barred.setStore rows_changePassword

/-- A session that can be ended is barred by the delete of the rows of its user. -/
theorem SessionsCanEnd.barred {user : Long} {kept : Option String}
    (canEnd : SessionsCanEnd environment state user kept)
    (apart : state.IdsApart environment.platform) {session : HttpSession}
    (member : session ∈ state.httpSessions) (isUser : session.user = user)
    (notKept : some session.sessionId ≠ kept) {store : Store}
    (deleted : ∀ row ∈ store.sessions.rows,
      SameText environment.platform row.sessionId session.sessionId →
        row ∈ state.store.sessions.rows ∧ row.userId ≠ user) :
    Barred environment session.sessionId { state with store } := by
  have noRow (rows : RowsNameUser environment session.sessionId user state.store) :
      NoRow environment.platform session.sessionId store := by
    intro row rowMember same
    obtain ⟨old, notDeleted⟩ := deleted row rowMember same
    exact notDeleted (rows row old same)
  refine ⟨⟨session, member, rfl⟩, apart, ?_⟩
  rcases canEnd session member isUser notKept with ⟨dead, rows⟩ | ⟨backups, rows, unqueued⟩
  · exact .inl ⟨dead, fun restores => noRow (rows restores)⟩
  · exact .inr ⟨backups, noRow rows, unqueued⟩

theorem Barred.staysLoggedOut {condition : SessionsState → SessionAction → Prop}
    (barred : Barred environment sessionId state) :
    StaysLoggedOut environment condition state sessionId := by
  intro later reached created now _
  have stillBarred : Barred environment sessionId later :=
    reached.invariant (Barred environment sessionId) barred
      fun _ _ _ holds permitted taken => barred_step holds permitted.2 taken
  exact stillBarred.serveRequest created now

/-- In every run in which a user is logged out only when all its sessions can be ended, a new
password ends them for good. -/
theorem logsOutEverywhere_of_logsOutStored (environment : Environment) :
    LogsOutEverywhere environment (LogsOutStored environment) := by
  intro start before _ reached
  have apart := idsApart_of_reaches reached
  refine ⟨?_, ?_⟩
  · intro token salt newPassword now user after canEnd accepted taken session member isUser
    obtain rfl := Option.some.inj taken
    obtain ⟨saved, returned⟩ := transaction_isOk.mp accepted
    obtain ⟨found, answer, recent, locked, isChanged, isSaved⟩ :=
      completePasswordResetBody_ok returned
    have sameId : found.id = user.id := by rw [isChanged]; rfl
    have ends := canEnd found answer recent locked
    rw [sameId] at ends
    refine (ends.barred apart member isUser (Option.some_ne_none _) ?_).staysLoggedOut
    intro row rowMember _
    rw [completePasswordReset, transaction, returned] at rowMember
    simp only [isSaved, Table.mem_remove, decide_eq_false_iff_not] at rowMember
    exact rowMember
  · intro currentUserId current currentPassword salt newPassword now user after canEnd accepted
      taken session member isUser different
    obtain rfl := Option.some.inj taken
    obtain ⟨saved, returned⟩ := transaction_isOk.mp accepted
    obtain ⟨found, known, matching, hasSession, isChanged, isSaved⟩ :=
      changePasswordBody_ok returned
    rw [SessionsState.requestSession, Option.isSome_map] at hasSession
    have ends := canEnd found known matching hasSession
    have userId : user.id = currentUserId := by
      rw [isChanged, ← Table.id_of_find known]
      rfl
    have kept : before.requestSession current = some current := by
      obtain ⟨live, isLive⟩ := Option.isSome_iff_exists.mp hasSession
      rw [SessionsState.requestSession, isLive]
      exact congrArg some (sessionId_of_getSession isLive)
    refine (ends.barred apart member isUser (fun same => different (Option.some.inj same))
      ?_).staysLoggedOut
    intro row rowMember sameSession
    rw [changePassword, transaction, returned] at rowMember
    simp only [isSaved, kept, Table.mem_remove, Bool.and_eq_false_iff, decide_eq_false_iff_not,
      Bool.not_eq_false', Option.any_some, decide_eq_true_eq, userId] at rowMember
    refine ⟨rowMember.1, rowMember.2.resolve_right fun isKept => different ?_⟩
    exact apart.eq ⟨session, member, rfl⟩ (known_of_getSession hasSession)
      (sameSession.symm.trans isKept)

end Barred

/-! ### A session that outlives the reset -/

/-- One active account, on a server with the given setting for session backups. -/
def serverOf (sessionBackupsEnabled : Bool) : Environment :=
  { plainEnvironment .entry with config := { sessionBackupsEnabled } }

def storeOfAlice : Store := { Store.empty with users := Table.empty.insert (plainUser 0 "alice") }

/-- The state after the user logged in, asked for a reset and completed it, and after all that was
queued has run. -/
def sessionsAfter (sessionBackupsEnabled : Bool) (actions : List SessionAction) : SessionsState :=
  (run (sessionsStep (serverOf sessionBackupsEnabled)) ⟨storeOfAlice, [], []⟩ actions).getD
    ⟨storeOfAlice, [], []⟩

def loginAndRequestReset : List SessionAction :=
  [.login 1 "S" none, .resetPassword "alice@graffitab.com" "T" 0]

def completeTheReset : SessionAction := .completePasswordReset "T" "" "second" 1

/-- With backups the save of the session is still queued at the reset. -/
def queuedSave (sessionBackupsEnabled : Bool) : List SessionAction :=
  if sessionBackupsEnabled then [.runTask 0 2] else []

theorem outlives_reset (sessionBackupsEnabled : Bool) :
    ¬ LogsOutEverywhere (serverOf sessionBackupsEnabled) unrestricted := by
  intro logsOut
  have before : run (sessionsStep (serverOf sessionBackupsEnabled)) ⟨storeOfAlice, [], []⟩
      loginAndRequestReset = some (sessionsAfter sessionBackupsEnabled loginAndRequestReset) := by
    cases sessionBackupsEnabled <;> rfl
  have completed : sessionsStep (serverOf sessionBackupsEnabled)
      (sessionsAfter sessionBackupsEnabled loginAndRequestReset) completeTheReset =
        some (sessionsAfter sessionBackupsEnabled
          (loginAndRequestReset ++ [completeTheReset])) := by
    cases sessionBackupsEnabled <;> rfl
  have accepted : ((completePasswordReset (serverOf sessionBackupsEnabled) "T" "" "second" 1
      (sessionsAfter sessionBackupsEnabled loginAndRequestReset).store).2.map User.id).toOption =
        some 1 := by
    cases sessionBackupsEnabled <;> decide
  have loggedIn : ⟨"S", 1, true⟩ ∈
      (sessionsAfter sessionBackupsEnabled loginAndRequestReset).httpSessions := by
    cases sessionBackupsEnabled <;> decide
  have later : run (sessionsStep (serverOf sessionBackupsEnabled))
      (sessionsAfter sessionBackupsEnabled (loginAndRequestReset ++ [completeTheReset]))
      (queuedSave sessionBackupsEnabled) = some (sessionsAfter sessionBackupsEnabled
        (loginAndRequestReset ++ completeTheReset :: queuedSave sessionBackupsEnabled)) := by
    cases sessionBackupsEnabled <;> rfl
  have notLogin : ∀ action ∈ queuedSave sessionBackupsEnabled, ¬ LogsInOn "S" action := by
    rintro action member ⟨user, cached, rfl⟩
    cases sessionBackupsEnabled <;> simp [queuedSave] at member
  have passes : (serveRequest (serverOf sessionBackupsEnabled) "S" "fresh" 3
      (sessionsAfter sessionBackupsEnabled
        (loginAndRequestReset ++ completeTheReset :: queuedSave sessionBackupsEnabled))).2 =
          some 1 := by
    cases sessionBackupsEnabled <;> decide
  have fresh : (sessionsAfter sessionBackupsEnabled
      (loginAndRequestReset ++ completeTheReset :: queuedSave sessionBackupsEnabled)).Fresh
        (serverOf sessionBackupsEnabled).platform "fresh" := by
    cases sessionBackupsEnabled <;> decide
  obtain ⟨reset, -⟩ := logsOut storeOfAlice _ rfl (reaches_of_run_unrestricted _ before)
  cases answer : (completePasswordReset (serverOf sessionBackupsEnabled) "T" "" "second" 1
      (sessionsAfter sessionBackupsEnabled loginAndRequestReset).store).2 with
  | error thrown =>
      rw [answer] at accepted
      exact absurd accepted nofun
  | ok user =>
      rw [answer] at accepted
      have stays := reset "T" "" "second" 1 user _ trivial answer completed ⟨"S", 1, true⟩ loggedIn
        (Option.some.inj accepted).symm
      have refused := stays _
        (reaches_of_run _ (fun _ action member => ⟨trivial, notLogin action member⟩) later)
        "fresh" 3 fresh
      rw [passes] at refused
      exact absurd refused (Option.some_ne_none _)

/-- With and without session backups, a session on which the user logged in before the reset passes
the filter after it. -/
theorem not_logsOutEverywhere :
    ¬ LogsOutEverywhere (serverOf true) unrestricted ∧
      ¬ LogsOutEverywhere (serverOf false) unrestricted :=
  ⟨outlives_reset true, outlives_reset false⟩

end GraffiTab
