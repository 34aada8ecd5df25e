/-
This file asks whether the security context of a request depends on the log level.

When the HTTP session has no context, it should be restored from the row of the requested session.
The call that does so stands inside the condition for the debug messages, so it is made at the
debug level only; at any other level the request goes on with an empty context.
-/

import Mathlib.Logic.Function.Basic
import GraffiTab.Sessions

namespace GraffiTab

open Tables

/-! ### Sessions of the container -/

/-- A security context, with the user of its authentication. -/
structure SecurityContext where
  authentication : Option Long
  deriving DecidableEq

/-- An object that is stored as an attribute of a session. -/
inductive SessionAttribute where
  | securityContext (context : SecurityContext)
  | other (object : String)
  deriving DecidableEq

/-- An HTTP session with its attributes. -/
structure ServletSession where
  sessionId : String
  attributes : String → Option SessionAttribute
  maxInactiveInterval : Int

def ServletSession.setAttribute (session : ServletSession)
    (entry : String × SessionAttribute) : ServletSession :=
  { session with attributes := Function.update session.attributes entry.1 (some entry.2) }

/-- The Java serialization of attributes, for the contents of rows. -/
structure SerializationUtils where
  serialize : (String → Option SessionAttribute) → Except Throwable (List UInt8)
  deserialize : List UInt8 → Except Throwable (List (String × SessionAttribute))

/-- A request: the session identifier that it names, and what it gets from outside, the session that
the container would create and the clock. -/
structure ContextRequest where
  requestedSessionId : Option String
  created : ServletSession
  now : Long

/-- What the loading of a context reads and writes: the database with the contents of the persisted
sessions, the HTTP session of the request, and the user as whom its thread runs. -/
structure ContextState where
  store : Store
  contents : Long → Option (List UInt8)
  httpSession : Option ServletSession
  runAsUser : Option User

def springSecurityContextKey : String := "SPRING_SECURITY_CONTEXT"

/-- `PersistedSessionSecurityContext.readSecurityContextFromSession`. -/
def readSecurityContextFromSession (httpSession : Option ServletSession) :
    Option SecurityContext :=
  match httpSession with
  | none => none
  | some session =>
      match session.attributes springSecurityContextKey with
      | none => none
      | some (.other _) => none
      | some (.securityContext context) => some context

/-! ### The restored session -/

section Loading

variable (platform : Platform) (serialization : SerializationUtils) (config : Config)
  (request : ContextRequest)

/-- `UserSessionService.getSessionAttributeMap`. -/
def getSessionAttributeMap (session : ServletSession) : String → Option SessionAttribute :=
  Function.update session.attributes springSecurityContextKey none

/-- `saveOrUpdateSessionData` for a session without a row. -/
def persistServletSession (session : ServletSession) (currentUser : User)
    (state : ContextState) : ContextState × Except Throwable Unit :=
  match serialization.serialize (getSessionAttributeMap session) with
  | .error thrown => (state, .error thrown)
  | .ok sessionData =>
      match transaction
        (saveOrUpdateSessionData platform session.sessionId currentUser request.now)
        state.store with
      | (_, .error thrown) => (state, .error thrown)
      | (store, .ok ()) =>
          ({ state with
            store := store
            contents := Function.update state.contents state.store.sessions.nextId
              (some sessionData) }, .ok ())

/-- The attributes of a persisted session; without content there are none. -/
def deserializedContent (content : Option (List UInt8)) :
    Except Throwable (List (String × SessionAttribute)) :=
  match content with
  | none => .ok []
  | some sessionAttributeData => serialization.deserialize sessionAttributeData

/-- `UserSessionService.restoreHttpSession`. -/
def restoreHttpSession (currentUser : User) (persistedUserSession : UserSession)
    (state : ContextState) : ContextState × Except Throwable Unit :=
  let httpSession := state.httpSession.getD request.created
  let opened := { state with httpSession := some httpSession }
  match deserializedContent serialization (state.contents persistedUserSession.id) with
  | .error thrown => (opened, .error thrown)
  | .ok sessionAttributeMap =>
      let httpSession := sessionAttributeMap.foldl ServletSession.setAttribute httpSession
      let filled := { state with httpSession := some httpSession }
      let persisted : ContextState × Except Throwable Unit :=
        match findBySessionId platform httpSession.sessionId state.store with
        | .error thrown => (filled, .error thrown)
        | .ok none =>
            persistServletSession platform serialization request httpSession currentUser filled
        | .ok (some _) => (filled, .ok ())
      match persisted with
      | (next, .error thrown) => (next, .error thrown)
      | (next, .ok ()) =>
          ({ next with httpSession := some { httpSession with maxInactiveInterval := 604800 } },
            .ok ())

/-- `UserSessionService.restoreSecurityContextAndHttpSessionFromDb`. -/
def restoreSecurityContextAndHttpSessionFromDb (requestedSessionId : String)
    (state : ContextState) : ContextState × Except Throwable (Option SecurityContext) :=
  match findBySessionId platform requestedSessionId state.store with
  | .error thrown => (state, .error thrown)
  | .ok none => (state, .ok none)
  | .ok (some persistedUserSession) =>
      match findUserById persistedUserSession.userId state.store with
      | none => (state, .error .nullPointerException)
      | some user =>
          match restoreHttpSession platform serialization request user persistedUserSession
            { state with runAsUser := some user } with
          | (next, .error thrown) => (next, .error thrown)
          | (next, .ok ()) => (next, .ok (some ⟨some user.id⟩))

/-! ### The context of a request -/

/-- `SecurityContextHolder.createEmptyContext`. -/
def generateNewContext : SecurityContext := ⟨none⟩

/-- What the code of the first condition on the context returns. -/
def contextFromDatabase (state : ContextState) :
    ContextState × Except Throwable (Option SecurityContext) :=
  if config.debugEnabled then
    match request.requestedSessionId with
    | none => (state, .ok none)
    | some requestedSessionId =>
        if config.sessionBackupsEnabled then
          restoreSecurityContextAndHttpSessionFromDb platform serialization request
            requestedSessionId state
        else (state, .ok none)
  else (state, .ok none)

/-- `PersistedSessionSecurityContext.loadContext`. -/
def ContextState.loadContext (state : ContextState) :
    ContextState × Except Throwable SecurityContext :=
  match readSecurityContextFromSession state.httpSession with
  | some context => (state, .ok context)
  | none =>
      match contextFromDatabase platform serialization config request state with
      | (next, .error thrown) => (next, .error thrown)
      | (next, .ok context) => (next, .ok (context.getD generateNewContext))

/-! ### Two runs -/

/-- The configuration at a log level. -/
def Config.atLevel (config : Config) (debugEnabled : Bool) : Config :=
  { config with debugEnabled }

/-- The log level does not matter, and at each level a persisted session is restored as its
user. -/
structure LoadsAtEveryLevel (state : ContextState) : Prop where
  same : ∀ first second,
    state.loadContext platform serialization (config.atLevel first) request =
      state.loadContext platform serialization (config.atLevel second) request
  restored : config.sessionBackupsEnabled = true →
    readSecurityContextFromSession state.httpSession = none →
    ∀ row ∈ state.store.sessions.rows, ∀ requested, request.requestedSessionId = some requested →
      SameText platform row.sessionId requested →
      ∀ debugEnabled,
        (state.loadContext platform serialization (config.atLevel debugEnabled) request).2 =
          .ok ⟨some row.userId⟩

/-- No row is persisted that the database takes for one of the requested session. -/
def NotPersisted (state : ContextState) : Prop :=
  ∀ requested, request.requestedSessionId = some requested → NoRow platform requested state.store

/-- There is nothing to restore: the session has a context, or the backups are disabled, or the
requested session is not persisted. -/
def NothingToRestore (state : ContextState) : Prop :=
  (readSecurityContextFromSession state.httpSession).isSome ∨
    config.sessionBackupsEnabled = false ∨ NotPersisted platform request state

end Loading

/-! ### The two levels -/

section Levels

variable {platform : Platform} {serialization : SerializationUtils} {config : Config}
  {request : ContextRequest} {state : ContextState}

/-- A context of the session is returned at every level. -/
theorem loadContext_of_context {context : SecurityContext}
    (read : readSecurityContextFromSession state.httpSession = some context) :
    state.loadContext platform serialization config request = (state, .ok context) := by
  rw [ContextState.loadContext, read]

/-- When the database answers with nothing, the context is a new one. -/
theorem loadContext_of_nothing
    (missing : readSecurityContextFromSession state.httpSession = none)
    (nothing : contextFromDatabase platform serialization config request state =
      (state, .ok none)) :
    state.loadContext platform serialization config request = (state, .ok generateNewContext) := by
  rw [ContextState.loadContext, missing, nothing]
  rfl

/-- Without the debug level the database is not asked. -/
theorem contextFromDatabase_of_not_debug (quiet : config.debugEnabled = false) :
    contextFromDatabase platform serialization config request state = (state, .ok none) := by
  rw [contextFromDatabase, quiet]
  rfl

/-- Where there is nothing to restore, the database answers with nothing. -/
theorem contextFromDatabase_of_nothing
    (nothing : config.sessionBackupsEnabled = false ∨ NotPersisted platform request state) :
    contextFromDatabase platform serialization config request state = (state, .ok none) := by
  rw [contextFromDatabase]
  split
  · cases requested : request.requestedSessionId with
    | none => rfl
    | some requestedSessionId =>
        rcases nothing with disabled | absent
        · simp only [disabled]
          rfl
        · have noRow : NoRow platform requestedSessionId state.store :=
            absent requestedSessionId requested
          simp only [restoreSecurityContextAndHttpSessionFromDb, noRow.findBySessionId]
          split <;> rfl
  · rfl

/-- Restoring a persisted session ends with an exception or with a user. -/
theorem restoreSecurityContext_of_row (serialization : SerializationUtils)
    (request : ContextRequest) {requested : String}
    (persisted : ¬ NoRow platform requested state.store) :
    (∃ next thrown, restoreSecurityContextAndHttpSessionFromDb platform serialization request
      requested state = (next, .error thrown)) ∨
    ∃ next user, restoreSecurityContextAndHttpSessionFromDb platform serialization request
      requested state = (next, .ok (some ⟨some user⟩)) := by
  rw [restoreSecurityContextAndHttpSessionFromDb]
  cases answer : findBySessionId platform requested state.store with
  | error thrown => exact .inl ⟨_, _, rfl⟩
  | ok found =>
      cases found with
      | none => exact absurd (noRow_of_findBySessionId answer) persisted
      | some persisted =>
          simp only
          cases findUserById persisted.userId state.store with
          | none => exact .inl ⟨_, _, rfl⟩
          | some user =>
              simp only
              rcases restoreHttpSession platform serialization request user persisted
                { state with runAsUser := some user } with ⟨next, thrown | done⟩
              · exact .inl ⟨_, _, rfl⟩
              · exact .inr ⟨_, _, rfl⟩

/-- At the debug level, a session to restore does not end with an empty context. -/
theorem loadContext_of_row {requested : String} (debug : config.debugEnabled = true)
    (enabled : config.sessionBackupsEnabled = true)
    (missing : readSecurityContextFromSession state.httpSession = none)
    (isRequested : request.requestedSessionId = some requested)
    (persisted : ¬ NoRow platform requested state.store) :
    (state.loadContext platform serialization config request).2 ≠ .ok generateNewContext := by
  have asked : contextFromDatabase platform serialization config request state =
      restoreSecurityContextAndHttpSessionFromDb platform serialization request requested
        state := by
    rw [contextFromDatabase, debug, isRequested, enabled]
    rfl
  rw [ContextState.loadContext, missing, asked]
  rcases restoreSecurityContext_of_row serialization request persisted with
    ⟨next, thrown, failed⟩ | ⟨next, user, restored⟩
  · rw [failed]
    nofun
  · rw [restored]
    nofun

/-- The log level does not matter exactly if there is nothing to restore. -/
theorem loadsAtEveryLevel_iff (platform : Platform) (serialization : SerializationUtils)
    (config : Config) (request : ContextRequest) (state : ContextState) :
    LoadsAtEveryLevel platform serialization config request state ↔
      NothingToRestore platform config request state := by
  cases read : readSecurityContextFromSession state.httpSession with
  | some context =>
      have loaded (debugEnabled : Bool) :
          state.loadContext platform serialization (config.atLevel debugEnabled) request =
            (state, .ok context) := loadContext_of_context read
      refine iff_of_true ⟨fun first second => ?_, fun _ missing => ?_⟩ (.inl (read ▸ rfl))
      · rw [loaded, loaded]
      · rw [read] at missing
        cases missing
  | none =>
      simp only [NothingToRestore, read, Option.isSome_none, Bool.false_eq_true, false_or]
      by_cases nothing : config.sessionBackupsEnabled = false ∨ NotPersisted platform request state
      · have loaded (debugEnabled : Bool) :
            state.loadContext platform serialization (config.atLevel debugEnabled) request =
              (state, .ok generateNewContext) :=
          loadContext_of_nothing read (contextFromDatabase_of_nothing nothing)
        refine iff_of_true ⟨fun first second => ?_,
          fun enabled _ row member requested isRequested same => ?_⟩ nothing
        · rw [loaded, loaded]
        · rcases nothing with disabled | absent
          · rw [disabled] at enabled
            cases enabled
          · exact absurd same (absent requested isRequested row member)
      · refine iff_of_false (fun loads => ?_) nothing
        simp only [NotPersisted, not_or, Bool.not_eq_false, Classical.not_forall, exists_prop]
          at nothing
        obtain ⟨enabled, requested, isRequested, persisted⟩ := nothing
        have quiet : state.loadContext platform serialization (config.atLevel false) request =
            (state, .ok generateNewContext) :=
          loadContext_of_nothing read (contextFromDatabase_of_not_debug rfl)
        have debug :
            (state.loadContext platform serialization (config.atLevel true) request).2 ≠ _ :=
          loadContext_of_row rfl enabled read isRequested persisted
        rw [loads.same true false, quiet] at debug
        exact debug rfl

end Levels

/-! ### The database of a restored session -/

section Restored

variable {platform : Platform} {serialization : SerializationUtils} {request : ContextRequest}
  {state : ContextState}

theorem sessionId_foldl_setAttribute (entries : List (String × SessionAttribute))
    (session : ServletSession) :
    (entries.foldl ServletSession.setAttribute session).sessionId = session.sessionId := by
  induction entries generalizing session with
  | nil => rfl
  | cons entry rest inductionHypothesis =>
      rw [List.foldl_cons, inductionHypothesis]
      rfl

/-- The row of the restored session, with a content that can be read and attributes that can be
written. -/
theorem restoreHttpSession_eq (platform : Platform) (request : ContextRequest) (user : User)
    (persistedUserSession : UserSession) (opened : state.httpSession = none)
    (readable : ∀ content, ∃ entries, serialization.deserialize content = .ok entries)
    (writable : ∀ attributes, ∃ content, serialization.serialize attributes = .ok content) :
    transaction (saveOrUpdateSessionData platform request.created.sessionId user request.now)
      state.store =
      match restoreHttpSession platform serialization request user persistedUserSession state with
      | (next, .ok ()) => (next.store, .ok ())
      | (_, .error thrown) => (state.store, .error thrown) := by
  obtain ⟨entries, read⟩ : ∃ entries, deserializedContent serialization
      (state.contents persistedUserSession.id) = .ok entries := by
    cases state.contents persistedUserSession.id with
    | none => exact ⟨[], rfl⟩
    | some content => exact readable content
  simp only [restoreHttpSession, read, opened, Option.getD_none, sessionId_foldl_setAttribute]
  cases own : findBySessionId platform request.created.sessionId state.store with
  | error thrown =>
      rw [transaction, saveOrUpdateSessionData, own]
      rfl
  | ok found =>
      cases found with
      | none =>
          simp only [persistServletSession]
          obtain ⟨content, written⟩ := writable (getSessionAttributeMap
            (entries.foldl ServletSession.setAttribute request.created))
          rw [written, sessionId_foldl_setAttribute]
          rcases transaction_cases (saveOrUpdateSessionData platform request.created.sessionId user
            request.now) state.store with ⟨done, next, -, saved⟩ | ⟨thrown, -, saved⟩
          · rw [saved]
          · rw [saved]
      | some row =>
          rw [transaction, saveOrUpdateSessionData, own]
          rfl

/-- Restoring the session of a request without one is the transaction on the rows of sessions. -/
theorem restoreFromDb_eq (opened : state.httpSession = none) {requestedSessionId : String}
    (readable : ∀ content, ∃ entries, serialization.deserialize content = .ok entries)
    (writable : ∀ attributes, ∃ content, serialization.serialize attributes = .ok content) :
    transaction (restoreFromDb platform requestedSessionId request.created.sessionId request.now)
        state.store =
      match restoreSecurityContextAndHttpSessionFromDb platform serialization request
        requestedSessionId state with
      | (next, .ok context) => (next.store, .ok (context.bind SecurityContext.authentication))
      | (_, .error thrown) => (state.store, .error thrown) := by
  rw [transaction, restoreFromDb, restoreSecurityContextAndHttpSessionFromDb]
  cases answer : findBySessionId platform requestedSessionId state.store with
  | error thrown => rfl
  | ok found =>
      cases found with
      | none => rfl
      | some persisted =>
          cases known : findUserById persisted.userId state.store with
          | none => simp only [bind, Except.bind, known]; rfl
          | some user =>
              have row := restoreHttpSession_eq platform request user persisted
                (show ({ state with runAsUser := some user } : ContextState).httpSession = none
                  from opened) readable writable
              simp only [bind, Except.bind, known]
              rcases transaction_cases (saveOrUpdateSessionData platform request.created.sessionId
                user request.now) state.store with ⟨done, next, saved, same⟩ | ⟨thrown, saved, same⟩
              · rw [same] at row
                rw [saved]
                rcases restored : restoreHttpSession platform serialization request user persisted
                  { state with runAsUser := some user } with ⟨after, thrown | done⟩
                · rw [restored] at row
                  cases congrArg Prod.snd row
                · rw [restored] at row
                  exact congrArg (fun store => (store, Except.ok (some user.id)))
                    (congrArg Prod.fst row)
              · rw [same] at row
                rw [saved]
                rcases restored : restoreHttpSession platform serialization request user persisted
                  { state with runAsUser := some user } with ⟨after, other | done⟩
                · rw [restored] at row
                  exact congrArg (Prod.mk state.store)
                    (congrArg Except.error (Except.error.inj (congrArg Prod.snd row)))
                · rw [restored] at row
                  cases congrArg Prod.snd row

end Restored

/-! ### A persisted session at the default level -/

/-- The database with the session of alice. -/
def persistedSession : Store :=
  { storeOfAlice with
    sessions := Table.empty.insert { id := 0, sessionId := "S", createdOn := 0, userId := 1 } }

/-- A request that names it, after the container has lost it. -/
def requestAfterRestart : ContextRequest where
  requestedSessionId := some "S"
  created := { sessionId := "T", attributes := fun _ => none, maxInactiveInterval := 1800 }
  now := 1

def stateAfterRestart : ContextState where
  store := persistedSession
  contents := fun _ => some []
  httpSession := none
  runAsUser := none

/-- A serialization of no attributes at all. -/
def emptySerialization : SerializationUtils where
  serialize _ := .ok []
  deserialize _ := .ok []

/-- Without the debug level the request is not restored as alice. -/
theorem not_loadsAtEveryLevel :
    ¬ LoadsAtEveryLevel (asciiPlatform .entry) emptySerialization {} requestAfterRestart
      stateAfterRestart := by
  intro loads
  have restored := loads.restored rfl rfl _ List.mem_cons_self "S" rfl rfl false
  have empty : (stateAfterRestart.loadContext (asciiPlatform .entry) emptySerialization
      (Config.atLevel {} false) requestAfterRestart).2 = .ok ⟨none⟩ := by decide
  rw [empty] at restored
  cases restored

end GraffiTab
