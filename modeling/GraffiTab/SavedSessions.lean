/-
This file asks whether the session of a successful login stays usable until it is ended.

With session backups enabled, the filter takes a session without a row for an invalid one and
ends it. The row of a login is written by another thread, after the login has been answered:
a request that comes in between loses its session.

A session that the container has given out has at most one row, and a delete of its row is
queued only after its end. So a login keeps its session when every request with a session
whose save is queued finds a row of it.
-/

import GraffiTab.Sessions

namespace GraffiTab

open Tables Runs

/-! ### The property -/

/-- The container destroys only sessions that it has given out. -/
def DestroysKnown (state : SessionsState) : SessionAction → Prop
  | .destroySession sessionId => state.Known sessionId
  | _ => True

/-- The step ends the session: it is destroyed, or `logoutEverywhere` deletes its row. -/
def Ends (environment : Environment) (sessionId : String) (state : SessionsState)
    (action : SessionAction) : Prop :=
  match action with
  | .destroySession destroyed => destroyed = sessionId
  | .completePasswordReset .. | .changePassword .. =>
      ¬ NoRow environment.platform sessionId state.store ∧
        ∃ next, sessionsStep environment state action = some next ∧
          NoRow environment.platform sessionId next.store
  | _ => False

section Property

variable (environment : Environment)

/-- A request with the session passes the filter as an authenticated one, and does not end it. -/
def AnswersRequests (condition : SessionsState → SessionAction → Prop) (sessionId : String)
    (state : SessionsState) : Prop :=
  ∀ created now, state.Fresh environment.platform created →
    condition state (.request sessionId created now) →
    (serveRequest environment sessionId created now state).2.isSome ∧
    ((serveRequest environment sessionId created now state).1.getSession sessionId).isSome

/-- With session backups the session of a login is there and answers requests until it is ended. -/
def KeepsLogins (condition : SessionsState → SessionAction → Prop) : Prop :=
  environment.config.sessionBackupsEnabled = true →
  ∀ start before, start.sessions.rows = [] →
    Reaches (sessionsStep environment)
      (fun state action => condition state action ∧ DestroysKnown state action)
      ⟨start, [], []⟩ before →
    ∀ user sessionId cached after,
      sessionsStep environment before (.login user sessionId cached) = some after →
      ∀ later, Reaches (sessionsStep environment)
          (fun state action => (condition state action ∧ DestroysKnown state action) ∧
            ¬ Ends environment sessionId state action) after later →
        (later.getSession sessionId).isSome ∧
        AnswersRequests environment condition sessionId later

end Property

/-- A live session whose save is queued makes no request before it has a row. -/
def RequestsSaved (platform : Platform) (state : SessionsState) : SessionAction → Prop
  | .request sessionId _ _ =>
      ∀ currentUser, (state.getSession sessionId).isSome →
        .saveSessionData sessionId currentUser ∈ state.tasks →
          ¬ NoRow platform sessionId state.store
  | _ => True

/-! ### Live sessions -/

section Live

variable {config : Config} {state : SessionsState} {sessionId other : String}

theorem live_logIn (user : Long) (tasks : List SessionTask) :
    (({ state with httpSessions := state.logIn user sessionId, tasks } :
      SessionsState).getSession sessionId).isSome := by
  rw [getSession_isSome]
  unfold SessionsState.logIn
  cases live : state.getSession sessionId with
  | some session =>
      obtain ⟨old, member, same, alive⟩ :=
        getSession_isSome.mp (by rw [live]; rfl : (state.getSession sessionId).isSome)
      exact ⟨{ old with user }, List.mem_map.mpr ⟨old, member, if_pos same⟩, same, alive⟩
  | none => exact ⟨_, List.mem_append_right _ List.mem_cons_self, rfl, rfl⟩

/-- A login ends no session. -/
theorem live_logIn_other (live : (state.getSession sessionId).isSome) (user : Long)
    (other : String) (tasks : List SessionTask) :
    (({ state with httpSessions := state.logIn user other, tasks } :
      SessionsState).getSession sessionId).isSome := by
  rw [getSession_isSome] at live ⊢
  obtain ⟨session, member, same, alive⟩ := live
  unfold SessionsState.logIn
  split
  · refine ⟨_, List.mem_map_of_mem member, ?_⟩
    split <;> exact ⟨same, alive⟩
  · exact ⟨session, List.mem_append_left _ member, same, alive⟩

theorem live_invalidate (live : (state.getSession sessionId).isSome)
    (different : other ≠ sessionId) :
    ((state.invalidate config other).getSession sessionId).isSome := by
  rw [getSession_isSome] at live ⊢
  obtain ⟨session, member, same, alive⟩ := live
  refine ⟨session, List.mem_map.mpr ⟨session, member, if_neg ?_⟩, same, alive⟩
  rw [same]
  exact different.symm

theorem dead_invalidate : (state.invalidate config sessionId).getSession sessionId = none := by
  rw [getSession_eq_none]
  intro session member same
  obtain ⟨old, -, rfl⟩ := List.mem_map.mp member
  split
  · rfl
  · rename_i different
    rw [if_neg different] at same
    exact absurd same different

end Live

/-! ### One row for each session -/

section Rows

variable {environment : Environment} {platform : Platform} {config : Config}
  {state next : SessionsState} {store saved : Store} {sessionId other : String}

/-- Every row belongs to a session that the container has given out, and no two to the same one;
saves are queued for such sessions only, and deletes only for those that have ended. -/
structure OneRowEach (platform : Platform) (state : SessionsState) : Prop where
  apart : state.IdsApart platform
  unique : ∀ first ∈ state.store.sessions.rows, ∀ second ∈ state.store.sessions.rows,
    SameText platform first.sessionId second.sessionId → first.id = second.id
  rowKnown : ∀ row ∈ state.store.sessions.rows, state.Known row.sessionId
  saveKnown : ∀ sessionId currentUser, .saveSessionData sessionId currentUser ∈ state.tasks →
    state.Known sessionId
  deleteDead : ∀ sessionId, .deleteSession sessionId ∈ state.tasks →
    state.Known sessionId ∧ state.getSession sessionId = none

theorem OneRowEach.findBySessionId_isOk (one : OneRowEach platform state) (sessionId : String) :
    ∃ found, findBySessionId platform sessionId state.store = .ok found := by
  refine uniqueResult_isOk fun first firstMember second secondMember => ?_
  obtain ⟨firstRow, firstSame⟩ := Table.mem_select.mp firstMember
  obtain ⟨secondRow, secondSame⟩ := Table.mem_select.mp secondMember
  refine Table.eq_of_id_eq firstRow secondRow (one.unique first firstRow second secondRow ?_)
  exact (of_decide_eq_true firstSame).trans (of_decide_eq_true secondSame).symm

theorem OneRowEach.findBySessionId (one : OneRowEach platform state)
    (hasRow : ¬ NoRow platform sessionId state.store) :
    ∃ row, findBySessionId platform sessionId state.store = .ok (some row) := by
  obtain ⟨found, answer⟩ := one.findBySessionId_isOk sessionId
  cases found with
  | some row => exact ⟨row, answer⟩
  | none => exact absurd (noRow_of_findBySessionId answer) hasRow

/-- What an operation may do to sessions, rows and tasks for each session to keep its one row. -/
theorem OneRowEach.kept (one : OneRowEach platform state)
    (sessions : SessionsKept platform state next)
    (rows : RowsFrom platform next.Known state.store next.store)
    (saves : ∀ sessionId currentUser, .saveSessionData sessionId currentUser ∈ next.tasks →
      .saveSessionData sessionId currentUser ∈ state.tasks ∨ next.Known sessionId)
    (deletes : ∀ sessionId, .deleteSession sessionId ∈ next.tasks →
      .deleteSession sessionId ∈ state.tasks ∨
        (next.Known sessionId ∧ next.getSession sessionId = none)) : OneRowEach platform next := by
  refine ⟨sessions.apart one.apart, ?_, ?_, ?_, ?_⟩
  · intro first firstMember second secondMember same
    rcases rows first firstMember with ⟨old, oldMember, oldId, oldSame⟩ | ⟨-, absent, isNew⟩ <;>
      rcases rows second secondMember with
        ⟨other, otherMember, otherId, otherSame⟩ | ⟨-, otherAbsent, otherNew⟩
    · rw [← oldId, ← otherId]
      rw [← oldSame, ← otherSame] at same
      exact one.unique old oldMember other otherMember same
    · exact absurd (oldSame ▸ same) (otherAbsent old oldMember)
    · exact absurd (otherSame ▸ same.symm) (absent other otherMember)
    · exact isNew.trans otherNew.symm
  · intro row member
    rcases rows row member with ⟨old, oldMember, -, same⟩ | ⟨known, -⟩
    · exact same ▸ sessions.known old.sessionId (one.rowKnown old oldMember)
    · exact known
  · intro sessionId currentUser queued
    exact (saves sessionId currentUser queued).elim
      (fun old => sessions.known sessionId (one.saveKnown sessionId currentUser old)) id
  · intro sessionId queued
    refine (deletes sessionId queued).elim (fun old => ?_) id
    obtain ⟨known, dead⟩ := one.deleteDead sessionId old
    exact ⟨sessions.known sessionId known, sessions.dead sessionId known dead⟩

theorem oneRowEach_start (noRows : store.sessions.rows = []) :
    OneRowEach platform ⟨store, [], []⟩ := by
  have notStored (row : UserSession) : row ∉ store.sessions.rows := by
    rw [noRows]
    exact List.not_mem_nil
  exact ⟨idsApart_start store, fun first member => absurd member (notStored first),
    fun row member => absurd member (notStored row),
    fun _ _ queued => absurd queued List.not_mem_nil,
    fun _ queued => absurd queued List.not_mem_nil⟩

/-- Operations on the store alone. -/
theorem OneRowEach.setStore (one : OneRowEach platform state)
    (rows : RowsFrom platform state.Known state.store store) :
    OneRowEach platform { state with store } :=
  one.kept (.refl state store state.tasks) rows (fun _ _ => .inl) fun _ => .inl

theorem OneRowEach.invalidate (one : OneRowEach platform state) (known : state.Known other) :
    OneRowEach platform (state.invalidate config other) := by
  have sessions : SessionsKept platform state (state.invalidate config other) :=
    sessionsKept_invalidate
  refine one.kept sessions (.of_subset fun _ => id) (fun _ _ queued => ?_) fun _ queued => ?_
  · exact .inl ((mem_invalidate queued).resolve_right nofun)
  · refine (mem_invalidate queued).imp_right fun isNew => ?_
    obtain rfl := SessionTask.deleteSession.inj isNew
    exact ⟨sessions.known _ known, dead_invalidate⟩

/-- The context of a request names a session that the container has given out. -/
theorem OneRowEach.loadSessionContext (one : OneRowEach environment.platform state)
    {created : String} (now : Long) (fresh : state.Fresh environment.platform created)
    {context : LoadedContext}
    (loaded : loadSessionContext environment sessionId created now state = (next, context)) :
    OneRowEach environment.platform next ∧
      ∀ current user, context = some (current, user) → next.Known current := by
  have sessions : SessionsKept environment.platform state
      (GraffiTab.loadSessionContext environment sessionId created now state).1 :=
    sessionsKept_loadSessionContext fresh
  have rows := rowsFrom_loadSessionContext environment sessionId created now state
  rcases loadSessionContext_cases environment sessionId created now state with
    ⟨session, live, same⟩ | ⟨-, -, user, -, same⟩ | ⟨-, store, same, -⟩ <;>
    rw [loaded] at same sessions rows <;> obtain ⟨rfl, rfl⟩ := Prod.mk.inj same
  · refine ⟨one, fun current user isContext => ?_⟩
    obtain ⟨rfl, -⟩ := Prod.mk.inj (Option.some.inj isContext)
    rw [sessionId_of_getSession live]
    exact known_of_getSession (by rw [live]; rfl)
  · have given : SessionsState.Known { state with
        store := (transaction (restoreFromDb environment.platform sessionId created now)
          state.store).1
        httpSessions := state.httpSessions ++ [⟨created, user, true⟩] } created :=
      ⟨_, List.mem_append_right _ List.mem_cons_self, rfl⟩
    refine ⟨one.kept sessions (rows.mono fun inserted ⟨isCreated, _⟩ => isCreated ▸ given)
      (fun _ _ => .inl) fun _ => .inl, fun current other isContext => ?_⟩
    obtain ⟨rfl, -⟩ := Prod.mk.inj (Option.some.inj isContext)
    exact given
  · refine ⟨one.kept sessions (rows.mono fun inserted ⟨_, _, user, isContext⟩ => ?_)
      (fun _ _ => .inl) fun _ => .inl, nofun⟩
    cases isContext

/-- The filter ends no session that the container has not given out. -/
theorem OneRowEach.sessionInvalidationFilter (one : OneRowEach environment.platform state)
    {context : LoadedContext}
    (known : ∀ current user, context = some (current, user) → state.Known current) :
    OneRowEach environment.platform
      (sessionInvalidationFilter environment context state).1 := by
  rcases sessionInvalidationFilter_cases environment context state with
    ⟨current, user, tasks, -, touches, same⟩ | ⟨current, user, isContext, same⟩ | same <;>
    rw [same]
  · refine one.kept (.refl state state.store _) (.of_subset fun _ => id) (fun _ _ queued => ?_)
      fun _ queued => ?_
    · exact .inl ((List.mem_append.mp queued).resolve_right fun new =>
        absurd (touches _ new) nofun)
    · exact .inl ((List.mem_append.mp queued).resolve_right fun new =>
        absurd (touches _ new) nofun)
  · exact one.invalidate (known current user isContext)
  · exact one

theorem rowsFrom_runSessionTask (task : SessionTask) (now : Long) :
    RowsFrom environment.platform state.Known state.store
      (runSessionTask environment task now state) := by
  cases task with
  | saveSessionData other currentUser =>
      simp only [GraffiTab.runSessionTask]
      split
      · rename_i live
        refine RowsFrom.transaction fun value saved returned => ?_
        refine (rowsFrom_saveOrUpdateSessionData returned).mono fun inserted same => ?_
        exact same ▸ known_of_getSession live
      · exact .of_subset fun _ => id
  | touchSession other =>
      exact RowsFrom.transaction fun value saved returned => rowsFrom_touchSession _ returned
  | deleteSession other =>
      exact RowsFrom.transaction fun value saved returned => rowsFrom_deleteSession _ returned

/-- Every step keeps the one row of each session. -/
theorem oneRowEach_step {action : SessionAction} (one : OneRowEach environment.platform state)
    (destroys : DestroysKnown state action)
    (taken : sessionsStep environment state action = some next) :
    OneRowEach environment.platform next := by
  cases action with
  | login user other cached =>
      obtain ⟨storedUser, -, granted, -, rfl⟩ := sessionsStep_login taken
      have loggedIn (tasks : List SessionTask) : SessionsState.Known
          { state with httpSessions := state.logIn user other, tasks } other :=
        known_of_getSession (live_logIn user tasks)
      refine one.kept (sessionsKept_logIn user granted _) (.of_subset fun _ => id)
        (fun sessionId currentUser queued => ?_) fun sessionId queued => ?_
      · refine (List.mem_append.mp queued).imp_right fun new => ?_
        split at new
        · obtain ⟨rfl, -⟩ := SessionTask.saveSessionData.inj (List.mem_singleton.mp new)
          exact loggedIn _
        · exact absurd new List.not_mem_nil
      · refine .inl ((List.mem_append.mp queued).resolve_right fun new => ?_)
        split at new
        · cases List.mem_singleton.mp new
        · exact absurd new List.not_mem_nil
  | runTask index now =>
      obtain ⟨task, chosen, rfl⟩ := sessionsStep_runTask taken
      have remains : ∀ other ∈ state.tasks.eraseIdx index, other ∈ state.tasks :=
        fun other member => (List.eraseIdx_sublist _ _).subset member
      exact one.kept (.refl state _ _) (rowsFrom_runSessionTask task now)
        (fun _ _ queued => .inl (remains _ queued)) fun _ queued => .inl (remains _ queued)
  | request other created now =>
      obtain ⟨fresh, rfl⟩ := sessionsStep_request taken
      obtain ⟨loaded, known⟩ := one.loadSessionContext now fresh rfl
      exact loaded.sessionInvalidationFilter known
  | destroySession other => exact Option.some.inj taken ▸ one.invalidate destroys
  | resetPassword email token now =>
      obtain rfl := Option.some.inj taken
      refine one.setStore (.of_subset fun row member => ?_)
      rw [sessions_resetPassword] at member
      exact member
  | completePasswordReset token salt newPassword now =>
      exact Option.some.inj taken ▸ one.setStore (.of_subset rows_completePasswordReset)
  | changePassword currentUserId current currentPassword salt newPassword now =>
      exact Option.some.inj taken ▸ one.setStore (.of_subset rows_changePassword)

end Rows

/-! ### The session of a login -/

section Served

variable {environment : Environment} {platform : Platform} {state next : SessionsState}
  {store saved : Store} {sessionId other : String}

theorem not_noRow_saveOrUpdateSessionData {currentUser : User} {now : Long} {value : Unit}
    (returned : saveOrUpdateSessionData platform sessionId currentUser now store =
      .ok (value, saved)) :
    ¬ NoRow platform sessionId saved := by
  intro absent
  obtain ⟨found, answer, rest⟩ := bind_eq_ok.mp returned
  cases found with
  | some row =>
      obtain ⟨-, rfl⟩ := Prod.mk.inj (Except.ok.inj rest)
      exact absent row (mem_of_findBySessionId answer).1 (mem_of_findBySessionId answer).2
  | none =>
      obtain ⟨-, rfl⟩ := Prod.mk.inj (Except.ok.inj rest)
      exact absent _ (Table.mem_insert.mpr (.inr rfl)) rfl

theorem noRow_before_saveOrUpdateSessionData {currentUser : User} {now : Long} {value : Unit}
    (returned : saveOrUpdateSessionData platform other currentUser now store = .ok (value, saved))
    (absent : NoRow platform sessionId saved) : NoRow platform sessionId store := by
  obtain ⟨found, -, rest⟩ := bind_eq_ok.mp returned
  cases found with
  | some row =>
      obtain ⟨-, rfl⟩ := Prod.mk.inj (Except.ok.inj rest)
      exact absent
  | none =>
      obtain ⟨-, rfl⟩ := Prod.mk.inj (Except.ok.inj rest)
      exact fun row member => absent row (Table.mem_insert.mpr (.inl member))

theorem noRow_before_touchSession {now : Long} {value : Unit}
    (returned : touchSession platform other now store = .ok (value, saved))
    (absent : NoRow platform sessionId saved) : NoRow platform sessionId store := by
  obtain ⟨found, answer, rest⟩ := bind_eq_ok.mp returned
  cases found with
  | none =>
      obtain ⟨-, rfl⟩ := Prod.mk.inj (Except.ok.inj rest)
      exact absent
  | some touched =>
      obtain ⟨-, rfl⟩ := Prod.mk.inj (Except.ok.inj rest)
      intro row member
      have touchedMember := (mem_of_findBySessionId answer).1
      by_cases isTouched : row.id = touched.id
      · obtain rfl := Table.eq_of_id_eq member touchedMember isTouched
        exact absent { row with createdOn := now }
          (Table.mem_set.mpr (.inl ⟨rfl, row, member, rfl⟩))
      · exact absent row (Table.mem_set.mpr (.inr ⟨member, isTouched⟩))

theorem noRow_before_deleteSession (different : ¬ SameText platform other sessionId) {value : Unit}
    (returned : deleteSession platform other store = .ok (value, saved))
    (absent : NoRow platform sessionId saved) : NoRow platform sessionId store := by
  obtain ⟨-, rfl⟩ := Prod.mk.inj (Except.ok.inj returned)
  intro row member same
  refine absent row (Table.mem_remove.mpr ⟨member, decide_eq_false fun isOther => ?_⟩) same
  exact different (isOther.symm.trans same)

theorem noRow_before_restoreFromDb {created : String} {now : Long} {user : Option Long}
    (returned : restoreFromDb platform other created now store = .ok (user, saved))
    (absent : NoRow platform sessionId saved) : NoRow platform sessionId store := by
  obtain ⟨found, -, rest⟩ := bind_eq_ok.mp returned
  cases found with
  | none =>
      obtain ⟨-, rfl⟩ := Prod.mk.inj (Except.ok.inj rest)
      exact absent
  | some persisted =>
      simp only at rest
      split at rest
      · exact absurd rest throw_ne_ok
      obtain ⟨⟨⟨⟩, next⟩, save, rest⟩ := bind_eq_ok.mp rest
      obtain ⟨-, rfl⟩ := Prod.mk.inj (Except.ok.inj rest)
      exact noRow_before_saveOrUpdateSessionData save absent

theorem noRow_before_transaction {Value : Type} {body : Transaction Value}
    (before : ∀ value saved, body store = .ok (value, saved) →
      NoRow platform sessionId saved → NoRow platform sessionId store)
    (absent : NoRow platform sessionId (transaction body store).1) :
    NoRow platform sessionId store :=
  transaction_keeps (fun next => NoRow platform sessionId next → NoRow platform sessionId store)
    id before absent

/-- A session that a login can still rely on: it is live, and has a row or is going to get one. -/
structure Served (platform : Platform) (sessionId : String) (state : SessionsState) : Prop where
  live : (state.getSession sessionId).isSome
  saved : NoRow platform sessionId state.store →
    ∃ currentUser, .saveSessionData sessionId currentUser ∈ state.tasks

/-- A request with the session, when it is not made between its login and its row, passes the
filter and only queues a touch of the row. -/
theorem Served.serveRequest (served : Served environment.platform sessionId state)
    (one : OneRowEach environment.platform state)
    (backups : environment.config.sessionBackupsEnabled = true) (created : String) (now : Long)
    (isSaved : RequestsSaved environment.platform state (.request sessionId created now)) :
    ∃ user, serveRequest environment sessionId created now state =
      ({ state with tasks := state.tasks ++ [.touchSession sessionId] }, some user) := by
  have hasRow : ¬ NoRow environment.platform sessionId state.store := by
    intro absent
    obtain ⟨currentUser, queued⟩ := served.saved absent
    exact isSaved currentUser served.live queued absent
  obtain ⟨row, answer⟩ := one.findBySessionId hasRow
  obtain ⟨session, live⟩ := Option.isSome_iff_exists.mp served.live
  refine ⟨session.user, ?_⟩
  simp only [GraffiTab.serveRequest, loadSessionContext, live, sessionId_of_getSession live,
    sessionInvalidationFilter, backups, if_true, answer]

theorem Served.loadSessionContext (served : Served environment.platform sessionId state)
    (different : other ≠ sessionId) {created : String} (now : Long)
    (fresh : state.Fresh environment.platform created) {context : LoadedContext}
    (loaded : loadSessionContext environment other created now state = (next, context)) :
    Served environment.platform sessionId next ∧
      ∀ current user, context = some (current, user) → current ≠ sessionId := by
  have before : NoRow environment.platform sessionId
      (transaction (restoreFromDb environment.platform other created now) state.store).1 →
        NoRow environment.platform sessionId state.store :=
    noRow_before_transaction fun user saved returned => noRow_before_restoreFromDb returned
  rcases loadSessionContext_cases environment other created now state with
    ⟨session, live, same⟩ | ⟨-, -, user, -, same⟩ | ⟨-, store, same, unrestored⟩ <;>
    rw [loaded] at same <;> obtain ⟨rfl, rfl⟩ := Prod.mk.inj same
  · refine ⟨served, fun current user isContext => ?_⟩
    obtain ⟨rfl, -⟩ := Prod.mk.inj (Option.some.inj isContext)
    rw [sessionId_of_getSession live]
    exact different
  · refine ⟨⟨?_, fun absent => served.saved (before absent)⟩, fun current other isContext => ?_⟩
    · obtain ⟨session, member, same, alive⟩ := getSession_isSome.mp served.live
      exact getSession_isSome.mpr ⟨session, List.mem_append_left _ member, same, alive⟩
    · obtain ⟨rfl, -⟩ := Prod.mk.inj (Option.some.inj isContext)
      exact fun isSession => fresh.not_known (isSession ▸ known_of_getSession served.live)
  · refine ⟨⟨served.live, fun absent => served.saved ?_⟩, nofun⟩
    rcases unrestored with rfl | ⟨rfl, -⟩
    · exact absent
    · exact before absent

/-- The end of another session leaves the session as it is. -/
theorem Served.invalidate {config : Config} (served : Served platform sessionId state)
    (different : other ≠ sessionId) :
    Served platform sessionId (state.invalidate config other) :=
  ⟨live_invalidate served.live different, fun absent =>
    (served.saved absent).imp fun _ queued => List.mem_append_left _ queued⟩

theorem Served.sessionInvalidationFilter (served : Served environment.platform sessionId state)
    {context : LoadedContext}
    (different : ∀ current user, context = some (current, user) → current ≠ sessionId) :
    Served environment.platform sessionId
      (sessionInvalidationFilter environment context state).1 := by
  rcases sessionInvalidationFilter_cases environment context state with
    ⟨current, user, tasks, -, -, same⟩ | ⟨current, user, isContext, same⟩ | same <;> rw [same]
  · exact ⟨served.live, fun absent =>
      (served.saved absent).imp fun _ queued => List.mem_append_left _ queued⟩
  · exact served.invalidate (different current user isContext)
  · exact served

/-- The save of a live session leaves a row of it. -/
theorem OneRowEach.not_noRow_save (one : OneRowEach environment.platform state)
    (live : (state.getSession sessionId).isSome) (currentUser : User) (now : Long) :
    ¬ NoRow environment.platform sessionId
      (runSessionTask environment (.saveSessionData sessionId currentUser) now state) := by
  obtain ⟨found, answer⟩ := one.findBySessionId_isOk sessionId
  have returns : ∃ value saved,
      saveOrUpdateSessionData environment.platform sessionId currentUser now state.store =
        .ok (value, saved) := by
    cases found <;> exact ⟨_, _, bind_eq_ok.mpr ⟨_, answer, rfl⟩⟩
  obtain ⟨value, saved, returned⟩ := returns
  simp only [GraffiTab.runSessionTask, live, if_true, transaction, returned]
  exact not_noRow_saveOrUpdateSessionData returned

/-- A task deletes no row of a live session. -/
theorem OneRowEach.noRow_before_task (one : OneRowEach environment.platform state)
    (live : (state.getSession sessionId).isSome) {task : SessionTask} (queued : task ∈ state.tasks)
    {now : Long}
    (absent : NoRow environment.platform sessionId (runSessionTask environment task now state)) :
    NoRow environment.platform sessionId state.store := by
  cases task with
  | saveSessionData other currentUser =>
      simp only [GraffiTab.runSessionTask] at absent
      split at absent
      · exact noRow_before_transaction
          (fun value saved returned => noRow_before_saveOrUpdateSessionData returned) absent
      · exact absent
  | touchSession other =>
      exact noRow_before_transaction
        (fun value saved returned => noRow_before_touchSession returned) absent
  | deleteSession other =>
      have different : ¬ SameText environment.platform other sessionId := by
        intro same
        obtain ⟨known, dead⟩ := one.deleteDead other queued
        rw [← one.apart.eq known (known_of_getSession live) same, dead] at live
        exact Bool.false_ne_true live
      exact noRow_before_transaction
        (fun value saved returned => noRow_before_deleteSession different returned) absent

theorem Served.runTask (served : Served environment.platform sessionId state)
    (one : OneRowEach environment.platform state) {index : Nat} {task : SessionTask}
    (chosen : state.tasks[index]? = some task) (now : Long) :
    Served environment.platform sessionId { state with
      store := runSessionTask environment task now state
      tasks := state.tasks.eraseIdx index } := by
  refine ⟨served.live, fun absent => ?_⟩
  have queued : task ∈ state.tasks := List.mem_of_getElem? chosen
  obtain ⟨currentUser, saveQueued⟩ :=
    served.saved (one.noRow_before_task served.live queued absent)
  refine ⟨currentUser, List.mem_eraseIdx_iff_getElem?.mpr ?_⟩
  obtain ⟨position, isSave⟩ := List.mem_iff_getElem?.mp saveQueued
  refine ⟨position, ?_, isSave⟩
  rintro rfl
  obtain rfl := Option.some.inj (isSave.symm.trans chosen)
  exact one.not_noRow_save served.live currentUser now absent

/-- As long as nobody ends it, a served session stays served. -/
theorem served_step {action : SessionAction}
    (backups : environment.config.sessionBackupsEnabled = true)
    (served : Served environment.platform sessionId state)
    (one : OneRowEach environment.platform state)
    (isSaved : RequestsSaved environment.platform state action)
    (notEnded : ¬ Ends environment sessionId state action)
    (taken : sessionsStep environment state action = some next) :
    Served environment.platform sessionId next := by
  -- a new password that deletes the last row of the session ends it
  have whenDeleted (deletes : Ends environment sessionId state action ↔
      ¬ NoRow environment.platform sessionId state.store ∧
        ∃ next, sessionsStep environment state action = some next ∧
          NoRow environment.platform sessionId next.store)
      (absent : NoRow environment.platform sessionId next.store) :
      NoRow environment.platform sessionId state.store := by
    by_contra hadRow
    exact notEnded (deletes.mpr ⟨hadRow, next, taken, absent⟩)
  cases action with
  | login user other cached =>
      obtain ⟨storedUser, -, -, -, rfl⟩ := sessionsStep_login taken
      exact ⟨live_logIn_other served.live user other _, fun absent =>
        (served.saved absent).imp fun _ queued => List.mem_append_left _ queued⟩
  | runTask index now =>
      obtain ⟨task, chosen, rfl⟩ := sessionsStep_runTask taken
      exact served.runTask one chosen now
  | request other created now =>
      obtain ⟨fresh, rfl⟩ := sessionsStep_request taken
      by_cases isSession : other = sessionId
      · subst isSession
        obtain ⟨user, same⟩ := served.serveRequest one backups created now isSaved
        rw [same]
        exact ⟨served.live, fun absent =>
          (served.saved absent).imp fun _ queued => List.mem_append_left _ queued⟩
      · obtain ⟨loaded, different⟩ := served.loadSessionContext isSession now fresh rfl
        exact loaded.sessionInvalidationFilter different
  | destroySession other =>
      exact Option.some.inj taken ▸ served.invalidate notEnded
  | resetPassword email token now =>
      obtain rfl := Option.some.inj taken
      refine ⟨served.live, fun absent => served.saved fun row member => absent row ?_⟩
      rw [sessions_resetPassword]
      exact member
  | completePasswordReset token salt newPassword now =>
      have before := whenDeleted Iff.rfl
      obtain rfl := Option.some.inj taken
      exact ⟨served.live, fun absent => served.saved (before absent)⟩
  | changePassword currentUserId current currentPassword salt newPassword now =>
      have before := whenDeleted Iff.rfl
      obtain rfl := Option.some.inj taken
      exact ⟨served.live, fun absent => served.saved (before absent)⟩

theorem served_login {user : Long} {cached : Option User}
    (backups : environment.config.sessionBackupsEnabled = true)
    (taken : sessionsStep environment state (.login user sessionId cached) = some next) :
    Served environment.platform sessionId next := by
  obtain ⟨storedUser, -, -, -, rfl⟩ := sessionsStep_login taken
  rw [if_pos backups]
  exact ⟨live_logIn user _, fun _ => ⟨_, List.mem_append_right _ List.mem_cons_self⟩⟩

/-- In every run in which no session makes a request between its login and its row, the session of
a login answers its requests until it is ended. -/
theorem keepsLogins_of_requestsSaved (environment : Environment) :
    KeepsLogins environment (RequestsSaved environment.platform) := by
  intro backups start before noRows reached user sessionId cached after loggedIn later laterReached
  have oneBefore : OneRowEach environment.platform before :=
    reached.invariant (OneRowEach environment.platform) (oneRowEach_start noRows)
      fun state action next one permitted taken => oneRowEach_step one permitted.2 taken
  have holds : OneRowEach environment.platform later ∧
      Served environment.platform sessionId later := by
    refine laterReached.invariant (fun state => OneRowEach environment.platform state ∧
        Served environment.platform sessionId state)
      ⟨oneRowEach_step oneBefore (by trivial) loggedIn, served_login backups loggedIn⟩ ?_
    intro state action next ⟨one, served⟩ ⟨⟨isSaved, destroys⟩, notEnded⟩ taken
    exact ⟨oneRowEach_step one destroys taken,
      served_step backups served one isSaved notEnded taken⟩
  obtain ⟨one, served⟩ := holds
  refine ⟨served.live, fun created now _ isSaved => ?_⟩
  obtain ⟨answered, same⟩ := served.serveRequest one backups created now isSaved
  rw [same]
  exact ⟨rfl, served.live⟩

end Served

/-! ### A request before the row -/

/-- The state after the user logged in. -/
def loggedInAlice : SessionsState :=
  { store := storeOfAlice, httpSessions := [⟨"S", 1, true⟩]
    tasks := [.saveSessionData "S" { plainUser 0 "alice" with id := 1 }] }

/-- The first request after the login finds no row, since the save is still queued, and loses the
session. -/
theorem not_keepsLogins : ¬ KeepsLogins (serverOf true) unrestricted := by
  intro keeps
  have loggedIn : sessionsStep (serverOf true) ⟨storeOfAlice, [], []⟩ (.login 1 "S" none) =
      some loggedInAlice := rfl
  obtain ⟨-, answers⟩ := keeps rfl storeOfAlice _ rfl .refl 1 "S" none loggedInAlice
    loggedIn _ .refl
  have answered := (answers "fresh" 0 (by decide) trivial).1
  revert answered
  decide

end GraffiTab
