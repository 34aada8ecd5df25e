/-
This file follows the two thread locals from which the services learn who is calling.

`UserService.getCurrentUser` answers from `RunAsUser`, then from a cache of the thread,
and only then from the security context of the request, and it fills the cache. A
worker thread serves one request after another, so the answer is the request's own
user only when both thread locals are empty at its start. They are emptied by
`ClearThreadLocalsFilter`, which stands behind the security chain: a request that the
chain answers itself never reaches it.

A request is given by what authenticates it and by how it ends. What the handler of
a request does is left open except for its calls that touch the thread locals, so the
results hold for every controller, also for one that throws at any point.
-/

import GraffiTab.Library.Runs
import GraffiTab.Lookups

namespace GraffiTab

/-! ### The thread locals -/

structure ThreadLocals where
  threadLocalUserCache : Option User
  runAsUser : Option User
  deriving DecidableEq

/-- The thread locals of a thread that has not served a request. -/
def ThreadLocals.empty : ThreadLocals := ⟨none, none⟩

/-- The principal of the security context: there may be no authentication, or the anonymous one
of the public endpoints, whose principal is not a `User`. -/
inductive Principal where
  | absent
  | anonymous
  | user (user : User)
  deriving DecidableEq

/-- `UserService.getCurrentUser`; the found user can be null when its row is gone. -/
def getCurrentUser (principal : Principal) (store : Store) (locals : ThreadLocals) :
    Except Throwable (Option User) × ThreadLocals :=
  match locals.runAsUser, locals.threadLocalUserCache with
  | some user, _ => (.ok (some user), locals)
  | none, some user => (.ok (some user), locals)
  | none, none =>
      match principal with
      | .user currentUser =>
          let storedUser := findUserById currentUser.id store
          (.ok storedUser, { locals with threadLocalUserCache := storedUser })
      | .anonymous => (.error .classCastException, locals)
      | .absent => (.error (userNotLoggedInException "Cannot get logged in user"), locals)

/-- `UserService.invalidateUserCache`, and what `ClearThreadLocalsFilter` does in the end. -/
def invalidateUserCache (_locals : ThreadLocals) : ThreadLocals := .empty

/-! ### Requests -/

/-- What a request carries to authenticate itself: nothing, a session whose security context is
alive, the identifier of a session of which only the stored row is left, or accepted
credentials in a header. -/
inductive Credentials where
  | absent
  | anonymous
  | liveSession (user : User)
  | storedSession (user : User)
  | basic (user : User)
  deriving DecidableEq

/-- The user whom the request's own session or credentials authenticate. -/
def Credentials.ownUser : Credentials → Option User
  | .absent | .anonymous => none
  | .liveSession user | .storedSession user | .basic user => some user

/-- The calls of a handler that touch the thread locals. -/
inductive HandlerCall where
  | getCurrentUser
  | invalidateUserCache
  /-- `RunAsUser.set(getCurrentUser())`. -/
  | runAsCurrentUser
  /-- `RunAsUser.clear()`. -/
  | clearRunAsUser
  deriving DecidableEq

/-- A request, by the way it leaves the security chain. -/
inductive Request where
  /-- A login that is accepted; the handler of the endpoint either stores the session or not. -/
  | loginAccepted (user : User) (storeSession : Bool) (store : Store)
  | loginRefused
  /-- Answered inside the chain: no valid session, a logout, a missing role. -/
  | answeredInChain (credentials : Credentials) (store : Store)
  /-- Passed on to the controllers: the calls come with the store they see. -/
  | handled (credentials : Credentials) (store : Store) (calls : List (Store × HandlerCall))

/-- One answer of `getCurrentUser`, with the user that the request authenticates. -/
structure Observation where
  ownUser : Option User
  answer : Except Throwable (Option User)

/-- The answer is the request's own user, if it is a user at all. -/
def Observation.Own (observation : Observation) : Prop :=
  ∀ user, observation.answer = .ok (some user) →
    ∃ own, observation.ownUser = some own ∧ user.id = own.id

section Serving

variable (config : Config)

/-- `PersistedSessionSecurityContext.loadContext`: the context of a live session is used; a stored
one is only looked up at the debug level, and its user is then set as `RunAsUser`. -/
def loadContext (credentials : Credentials) (store : Store) (locals : ThreadLocals) :
    Principal × ThreadLocals :=
  match credentials with
  | .absent => (.absent, locals)
  | .anonymous => (.anonymous, locals)
  | .liveSession user | .basic user => (.user user, locals)
  | .storedSession user =>
      if config.debugEnabled && config.sessionBackupsEnabled then
        (.user user, { locals with runAsUser := findUserById user.id store })
      else (.absent, locals)

/-- One call of a handler: what is observed, and the thread locals after it. -/
def runCall (principal : Principal) (locals : ThreadLocals) (call : Store × HandlerCall) :
    List (Except Throwable (Option User)) × ThreadLocals :=
  match call.2 with
  | .getCurrentUser =>
      let (answer, next) := getCurrentUser principal call.1 locals
      ([answer], next)
  | .invalidateUserCache => ([], invalidateUserCache locals)
  | .runAsCurrentUser =>
      match getCurrentUser principal call.1 locals with
      | (.ok user, next) => ([.ok user], { next with runAsUser := user })
      | (.error thrown, next) => ([.error thrown], next)
  | .clearRunAsUser => ([], { locals with runAsUser := none })

def runCalls (principal : Principal) (locals : ThreadLocals) :
    List (Store × HandlerCall) → List (Except Throwable (Option User)) × ThreadLocals
  | [] => ([], locals)
  | call :: rest =>
      let (answers, next) := runCall principal locals call
      let (later, final) := runCalls principal next rest
      (answers ++ later, final)

/-- What `JsonResponseLoginSuccessHandler` calls: the mapper of the answered user asks for the
current user, and so does the storing of the session in the background. -/
def loginCalls (storeSession : Bool) (store : Store) : List (Store × HandlerCall) :=
  if storeSession && config.sessionBackupsEnabled then
    [(store, .getCurrentUser), (store, .getCurrentUser)]
  else [(store, .getCurrentUser)]

/-- The answers given to a request by `getCurrentUser`, and the thread locals that it leaves. -/
def serve (locals : ThreadLocals) :
    Request → List Observation × ThreadLocals
  | .loginAccepted user storeSession store =>
      let (answers, next) :=
        runCalls (.user user) locals (loginCalls config storeSession store)
      (answers.map (Observation.mk (some user)), next)
  | .loginRefused => ([], locals)
  | .answeredInChain credentials store => ([], (loadContext config credentials store locals).2)
  | .handled credentials store calls =>
      let (principal, loaded) := loadContext config credentials store locals
      let (answers, next) := runCalls principal loaded calls
      (answers.map (Observation.mk credentials.ownUser), invalidateUserCache next)

/-- The worker thread as a program whose steps are requests. -/
def serveStep (locals : ThreadLocals) (request : Request) : Option ThreadLocals :=
  some (serve config locals request).2

/-- Every answer of `getCurrentUser`, in any request after any requests that meet the condition,
is the request's own user. -/
def AnswersOwnUser (condition : ThreadLocals → Request → Prop) : Prop :=
  ∀ locals request, Runs.Reaches (serveStep config) condition .empty locals →
    ∀ observation ∈ (serve config locals request).1, observation.Own

end Serving

/-! ### Inside a request -/

section Request

variable {config : Config}

/-- The user, if there is one, is the given one. -/
def IsOwn (own found : Option User) : Prop :=
  ∀ user ∈ found, ∃ current, own = some current ∧ user.id = current.id

theorem isOwn_none (own : Option User) : IsOwn own none := by
  intro user member
  exact absurd member (Option.not_mem_none user)

theorem isOwn_findUserById (current : User) (store : Store) :
    IsOwn (some current) (findUserById current.id store) :=
  fun _ found => ⟨current, rfl, Tables.Table.id_of_find found⟩

/-- Both thread locals, where they are set, hold the given user. -/
structure Holds (own : Option User) (locals : ThreadLocals) : Prop where
  cached : IsOwn own locals.threadLocalUserCache
  runAs : IsOwn own locals.runAsUser

theorem holds_empty (own : Option User) : Holds own .empty := ⟨isOwn_none own, isOwn_none own⟩

/-- The principal of a request, where it is a user, is the given one. -/
def Identifies (own : Option User) (principal : Principal) : Prop :=
  ∀ user, principal = .user user → own = some user

theorem own_ok {own found : Option User} (isOwn : IsOwn own found) :
    Observation.Own ⟨own, .ok found⟩ :=
  fun user answered => isOwn user (Except.ok.inj answered)

theorem own_error (own : Option User) (thrown : Throwable) :
    Observation.Own ⟨own, .error thrown⟩ := by
  intro user answered
  cases answered

/-- One call keeps the thread locals on the request's own user and answers with it. -/
theorem getCurrentUser_holds {own : Option User} {principal : Principal} (store : Store)
    {locals : ThreadLocals} (identified : Identifies own principal) (holds : Holds own locals) :
    Holds own (getCurrentUser principal store locals).2 ∧
      Observation.Own ⟨own, (getCurrentUser principal store locals).1⟩ := by
  obtain ⟨cache, runAs⟩ := locals
  cases runAs with
  | some current => exact ⟨holds, own_ok holds.runAs⟩
  | none =>
      cases cache with
      | some current => exact ⟨holds, own_ok holds.cached⟩
      | none =>
          cases principal with
          | absent => exact ⟨holds, own_error own _⟩
          | anonymous => exact ⟨holds, own_error own _⟩
          | user current =>
              have own_eq : own = some current := identified current rfl
              have stored := isOwn_findUserById current store
              rw [← own_eq] at stored
              exact ⟨⟨stored, holds.runAs⟩, own_ok stored⟩

theorem runCall_holds {own : Option User} {principal : Principal} {locals : ThreadLocals}
    (call : Store × HandlerCall) (identified : Identifies own principal)
    (holds : Holds own locals) :
    Holds own (runCall principal locals call).2 ∧
      ∀ answer ∈ (runCall principal locals call).1, Observation.Own ⟨own, answer⟩ := by
  obtain ⟨store, kind⟩ := call
  have current := getCurrentUser_holds store identified holds
  cases kind with
  | getCurrentUser => exact ⟨current.1, List.forall_mem_singleton.mpr current.2⟩
  | invalidateUserCache => exact ⟨holds_empty own, List.forall_mem_nil _⟩
  | clearRunAsUser => exact ⟨⟨holds.cached, isOwn_none own⟩, List.forall_mem_nil _⟩
  | runAsCurrentUser =>
      simp only [runCall]
      rcases answered : getCurrentUser principal store locals with ⟨thrown | user, next⟩
      · rw [answered] at current
        exact ⟨current.1, List.forall_mem_singleton.mpr current.2⟩
      · rw [answered] at current
        refine ⟨⟨current.1.cached, fun set isSet => ?_⟩, List.forall_mem_singleton.mpr current.2⟩
        exact current.2 set (congrArg Except.ok isSet)

/-- All the calls of a handler are answered with the request's own user. -/
theorem runCalls_holds {own : Option User} {principal : Principal}
    (identified : Identifies own principal) (calls : List (Store × HandlerCall))
    {locals : ThreadLocals} (holds : Holds own locals) :
    ∀ answer ∈ (runCalls principal locals calls).1, Observation.Own ⟨own, answer⟩ := by
  induction calls generalizing locals with
  | nil => exact List.forall_mem_nil _
  | cons call rest inductionHypothesis =>
      intro answer member
      have first := runCall_holds call identified holds
      rcases List.mem_append.mp member with now | later
      · exact first.2 answer now
      · exact inductionHypothesis first.1 answer later

/-- What the chain loads for a request is the request's own user. -/
theorem loadContext_holds (config : Config) (credentials : Credentials) (store : Store) :
    Identifies credentials.ownUser (loadContext config credentials store .empty).1 ∧
      Holds credentials.ownUser (loadContext config credentials store .empty).2 := by
  have notUser {own : Option User} {principal : Principal}
      (other : ∀ user, principal ≠ .user user) : Identifies own principal :=
    fun user same => absurd same (other user)
  have isUser (user : User) : Identifies (some user) (.user user) :=
    fun _ same => congrArg some (Principal.user.inj same)
  cases credentials with
  | absent => exact ⟨notUser fun _ => Principal.noConfusion, holds_empty _⟩
  | anonymous => exact ⟨notUser fun _ => Principal.noConfusion, holds_empty _⟩
  | liveSession user => exact ⟨isUser user, holds_empty _⟩
  | basic user => exact ⟨isUser user, holds_empty _⟩
  | storedSession user =>
      rw [loadContext]
      split
      · exact ⟨isUser user, ⟨isOwn_none _, isOwn_findUserById user store⟩⟩
      · exact ⟨notUser fun _ => Principal.noConfusion, holds_empty _⟩

/-- A request that finds the thread locals empty is served as its own user. -/
theorem serve_empty_own (request : Request) :
    ∀ observation ∈ (serve config .empty request).1, observation.Own := by
  cases request with
  | loginRefused => exact List.forall_mem_nil _
  | answeredInChain credentials store => exact List.forall_mem_nil _
  | loginAccepted user storeSession store =>
      intro observation member
      obtain ⟨answer, answered, rfl⟩ := List.mem_map.mp member
      refine runCalls_holds ?_ _ (holds_empty _) answer answered
      exact fun current same => congrArg some (Principal.user.inj same)
  | handled credentials store calls =>
      intro observation member
      obtain ⟨answer, answered, rfl⟩ := List.mem_map.mp member
      obtain ⟨identified, holds⟩ := loadContext_holds config credentials store
      exact runCalls_holds identified calls holds answer answered

end Request

/-! ### Between requests -/

/-- The request does not end inside the security chain with a thread local set: it is no accepted
login, and it is not answered in the chain after its session was restored from its row. -/
def LeavesThreadLocalsEmpty (config : Config) : Request → Prop
  | .loginAccepted _ _ _ => False
  | .loginRefused => True
  | .answeredInChain (.storedSession _) _ =>
      ¬ (config.debugEnabled = true ∧ config.sessionBackupsEnabled = true)
  | .answeredInChain _ _ => True
  | .handled _ _ _ => True

theorem serve_leaves_empty {config : Config} {request : Request}
    (clean : LeavesThreadLocalsEmpty config request) :
    (serve config .empty request).2 = .empty := by
  cases request with
  | loginAccepted user storeSession store => exact clean.elim
  | loginRefused => rfl
  | handled credentials store calls => rfl
  | answeredInChain credentials store =>
      cases credentials with
      | storedSession user =>
          have notRestored : (config.debugEnabled && config.sessionBackupsEnabled) = false := by
            simpa [LeavesThreadLocalsEmpty] using clean
          show (loadContext config (.storedSession user) store .empty).2 = .empty
          rw [loadContext, notRestored]
          rfl
      | _ => rfl

/-- As long as no request ends inside the chain with a thread local set, every call of
`getCurrentUser` in every request is answered with the request's own user. -/
theorem answersOwnUser_of_leavesThreadLocalsEmpty (config : Config) :
    AnswersOwnUser config fun _ request => LeavesThreadLocalsEmpty config request := by
  intro locals request reached
  have emptyLocals : locals = .empty := by
    refine reached.invariant (fun state => state = .empty) rfl ?_
    rintro state action next rfl clean taken
    rw [serveStep, Option.some.injEq] at taken
    exact taken ▸ serve_leaves_empty clean
  subst emptyLocals
  exact serve_empty_own request

/-! ### A login stays on the thread -/

/-- A store with two users. -/
def storeOfTwo : Store :=
  { Store.empty with
    users := (Tables.Table.empty.insert (plainUser 0 "alice")).insert (plainUser 0 "bob") }

/-- After the login of the first user, a request with a session of the second one is answered with
the first one. -/
theorem not_answersOwnUser : ¬ AnswersOwnUser {} Runs.unrestricted := by
  intro always
  have reached : Runs.Reaches (serveStep {}) Runs.unrestricted .empty
      ⟨some (plainUser 1 "alice"), none⟩ :=
    Runs.reaches_of_run_unrestricted [.loginAccepted (plainUser 1 "alice") true storeOfTwo]
      (by decide)
  have observed := always _
    (.handled (.liveSession (plainUser 2 "bob")) storeOfTwo [(storeOfTwo, .getCurrentUser)])
    reached ⟨some (plainUser 2 "bob"), .ok (some (plainUser 1 "alice"))⟩ (.head _)
  obtain ⟨own, isOwn, same⟩ := observed _ rfl
  rw [← Option.some.inj isOwn] at same
  exact absurd same (by decide)

end GraffiTab
