/-
This file shows that nobody is welcomed twice.

An account that begins as active, and one that is activated, queues a notification that welcomes its
user, which a worker of the pool stores later. Only a pending account can be activated, and no
operation makes an account pending again, where the operations follow one another and no stale copy
of a user is merged. So the stored welcomes of a user and those that are queued are together at most
one, and none as long as the account is pending.
-/

import GraffiTab.AccountLifecycle
import GraffiTab.JobExecution

namespace GraffiTab

open Tables Runs Simulations

/-! ### The server of the accounts -/

/-- `addWelcomeNotification`. -/
def addWelcomeNotification (user : User) (now : Long) : Job :=
  .addNotification
    { id := 0, userId := user.id, isRead := false, createdOn := now, content := .welcome }

/-- The job that an operation queues when it has returned with a user. -/
def welcomesReturned (now : Long) : Except Throwable User → List Job
  | .ok user => [addWelcomeNotification user now]
  | .error _ => []

/-- The jobs of an operation on accounts, which reads the clock for the notification. -/
def AccountAction.welcomes (environment : Environment) (notified : Long) (store : Store) :
    AccountAction → List Job
  | .createUser user guid userToken salt now =>
      if environment.config.immediateUserActivation then
        welcomesReturned notified
          (GraffiTab.createUser environment user guid userToken salt now store).2
      else []
  | .createExternalUser user account guid salt generated now =>
      welcomesReturned notified
        (GraffiTab.createExternalUser environment user account guid salt generated now store).2
  | .activateUser token now =>
      welcomesReturned notified (GraffiTab.activateUser environment token now store).2
  | _ => []

/-- The accounts after an operation, and the jobs that it queues. What an operation checks, what it
commits and what it queues is one step; two activations that overlap could otherwise both find the
account pending. -/
def AccountAction.serve (environment : Environment) (notified : Long) (state : AccountState)
    (action : AccountAction) : AccountState × List Job :=
  match accountStep environment state action with
  | some next => (next, action.welcomes environment notified state.store)
  | none => (state, [])

/-- The requests on accounts, each with the reading of the clock for its notification. -/
def accountServer (environment : Environment) :
    JobServer AccountState (AccountAction × Long) Job where
  serve request state := request.1.serve environment request.2 state
  run job state := { state with store := job.run false state.store }

/-- The welcomes of a user that are stored or that a job is to store. -/
def PoolState.welcomes (state : PoolState AccountState Job) (userId : Long) : Nat :=
  state.world.store.countNotifications userId .welcome +
    state.remainingJobs.countP (Job.notifies userId .welcome)

/-! ### What a request does -/

/-- The row is absent, or its account is pending. -/
def NotYetActive (store : Store) (userId : Long) : Prop :=
  ∀ user, store.users.find userId = some user → user.accountStatus = .pendingActivation

/-- An operation on accounts welcomes a user whose account it makes active, and makes no account
pending but new ones. -/
structure WelcomeEffect (store next : Store) (jobs : List Job) : Prop where
  notifications : next.notifications = store.notifications
  stays : ∀ userId, next.users.find userId = none → store.users.find userId = none
  notYetActive : ∀ userId, NotYetActive next userId → NotYetActive store userId
  jobs : jobs = [] ∨ ∃ user now, jobs = [addWelcomeNotification user now] ∧
    NotYetActive store user.id ∧ ¬ NotYetActive next user.id

section Effects

variable {environment : Environment} {store : Store} {state next : AccountState}

theorem notYetActive_nextId (store : Store) : NotYetActive store store.users.nextId := by
  intro user found
  rw [Table.find_nextId] at found
  cases found

theorem not_notYetActive {user : User} (found : store.users.find user.id = some user)
    (active : user.accountStatus = .active) : ¬ NotYetActive store user.id := by
  intro pending
  have isPending := pending user found
  rw [active] at isPending
  cases isPending

/-- What the step of an operation does to the accounts that are pending. -/
theorem accountStep_pending {action : AccountAction}
    (taken : accountStep environment state action = some next) :
    next.store.notifications = state.store.notifications ∧
      (∀ userId, next.store.users.find userId = none → state.store.users.find userId = none) ∧
      ∀ userId, NotYetActive next.store userId → NotYetActive state.store userId := by
  obtain ⟨users, externalProviders, sessions, lastAssetId, same, steps⟩ := accountStep_store taken
  rw [same]
  refine ⟨rfl, ?_⟩
  rcases steps with rfl | ⟨row, -, rfl⟩ | ⟨found, member, changed, changes, rfl⟩
  · exact ⟨fun _ absent => absent, fun _ pending => pending⟩
  · refine ⟨fun userId absent => (find_eq_none_of_insert absent).1, fun userId pending => ?_⟩
    exact fun user known => pending user (Table.find_insert_of_find known row)
  · obtain ⟨sameId, wasPending⟩ := ChangesUser.id_eq changes
    refine ⟨fun userId absent => find_eq_none_of_set member sameId absent,
      fun userId pending user known => ?_⟩
    by_cases isChanged : userId = changed.id
    · have isFound : user = found := Table.eq_of_id_eq (Table.mem_of_find known) member
        ((Table.id_of_find known).trans (isChanged.trans sameId))
      rw [isFound]
      refine wasPending (pending changed ?_)
      rw [isChanged]
      exact Table.find_set_self (isChanged ▸ known)
    · exact pending user ((Table.find_set_other _ isChanged).trans known)

/-- An external account that is created is the new row, and active. -/
theorem createExternalUser_active {user : UserInput} {account : ExternalAccount}
    {guid salt generated : String} {now : Long} {created : User}
    (returned : (createExternalUser environment user account guid salt generated now store).2 =
      .ok created) :
    created.id = store.users.nextId ∧ created.accountStatus = .active ∧
      (createExternalUser environment user account guid salt generated now store).1.users.find
        created.id = some created := by
  unfold createExternalUser at returned ⊢
  split at returned
  · rcases executeInTransactionWithResult_cases
      (insertExternalUser environment user account guid salt generated now) store with
      ⟨value, next, committed, same⟩ | ⟨thrown, -, same⟩
    · rw [same] at returned ⊢
      obtain rfl := Except.ok.inj returned
      obtain ⟨⟨persisted, inserted⟩, persist, rest⟩ := bind_eq_ok.mp committed
      obtain ⟨avatarAsset, coverAsset, lastAssetId, rfl, rfl⟩ := persistUser_ok persist
      obtain ⟨rfl, rfl⟩ := Prod.mk.inj (Except.ok.inj rest)
      exact ⟨rfl, rfl, Table.find_insert_new _ _⟩
    · rw [same] at returned
      cases returned
  · cases returned

/-- A user that is activated was pending, and is active in the store that is committed. -/
theorem activateUser_active {token : String} {now : Long} {activated : User}
    (returned : (activateUser environment token now store).2 = .ok activated) :
    NotYetActive store activated.id ∧ activated.accountStatus = .active ∧
      (activateUser environment token now store).1.users.find activated.id = some activated := by
  unfold activateUser at returned ⊢
  rcases executeInTransactionWithResult_cases (activateUserBody environment token now) store with
    ⟨value, next, committed, same⟩ | ⟨thrown, -, same⟩
  · rw [same] at returned ⊢
    obtain rfl := Except.ok.inj returned
    obtain ⟨found, answer, -, pending, rfl, rfl⟩ := activateUserBody_ok committed
    have known := Table.find_of_mem (findUsersWithMetadataValues_eq_some.mp answer).1.1
    refine ⟨fun user other => ?_, rfl, Table.find_set_self known⟩
    rw [Option.some.inj (other.symm.trans known)]
    exact pending
  · rw [same] at returned
    cases returned

/-- An operation that welcomes a user has made the account of that user active. -/
theorem welcomes_cases {action : AccountAction} (notified : Long)
    (taken : accountStep environment state action = some next) :
    action.welcomes environment notified state.store = [] ∨ ∃ user now,
      action.welcomes environment notified state.store = [addWelcomeNotification user now] ∧
        NotYetActive state.store user.id ∧ ¬ NotYetActive next.store user.id := by
  cases action with
  | createUser user guid userToken salt now =>
      simp only [accountStep, Option.ite_none_right_eq_some, Option.some.injEq] at taken
      obtain ⟨-, rfl⟩ := taken
      rw [AccountAction.welcomes]
      by_cases immediate : environment.config.immediateUserActivation = true
      · rw [if_pos immediate]
        rcases createUser_cases environment user guid userToken salt now state.store with
          ⟨thrown, same⟩ | ⟨row, lastAssetId, ⟨avatarAsset, coverAsset, isRow⟩, -, same⟩
        · rw [same]
          exact .inl rfl
        · rw [same]
          refine .inr ⟨{ row with id := state.store.users.nextId }, notified, rfl,
            notYetActive_nextId _, ?_⟩
          have active : row.accountStatus = .active := by
            rw [isRow]
            exact if_pos immediate
          exact not_notYetActive (Table.find_insert_new _ _) active
      · rw [if_neg immediate]
        exact .inl rfl
  | createExternalUser user account guid salt generated now =>
      obtain rfl := Option.some.inj taken
      rw [AccountAction.welcomes]
      cases returned : (createExternalUser environment user account guid salt generated now
        state.store).2 with
      | error thrown => exact .inl rfl
      | ok created =>
          obtain ⟨isNew, active, found⟩ := createExternalUser_active returned
          refine .inr ⟨created, notified, rfl, isNew ▸ notYetActive_nextId _, ?_⟩
          exact not_notYetActive found active
  | activateUser token now =>
      obtain rfl := Option.some.inj taken
      rw [AccountAction.welcomes]
      cases returned : (activateUser environment token now state.store).2 with
      | error thrown => exact .inl rfl
      | ok activated =>
          obtain ⟨pending, active, found⟩ := activateUser_active returned
          exact .inr ⟨activated, notified, rfl, pending, not_notYetActive found active⟩
  | _ => exact .inl rfl

theorem serve_welcomeEffect (environment : Environment) (notified : Long) (state : AccountState)
    (action : AccountAction) :
    WelcomeEffect state.store (action.serve environment notified state).1.store
      (action.serve environment notified state).2 := by
  rw [AccountAction.serve]
  cases taken : accountStep environment state action with
  | none => exact ⟨rfl, fun _ absent => absent, fun _ pending => pending, .inl rfl⟩
  | some next =>
      obtain ⟨notifications, stays, notYetActive⟩ := accountStep_pending taken
      exact ⟨notifications, stays, notYetActive, welcomes_cases notified taken⟩

end Effects

/-! ### At most one welcome -/

/-- The welcomes of a user that are stored, or that one of the jobs is to store. -/
def Store.welcomes (store : Store) (jobs : List Job) (userId : Long) : Nat :=
  store.countNotifications userId .welcome + jobs.countP (Job.notifies userId .welcome)

/-- Every job has its user; a user that is not yet active has no welcome, and none has two. -/
structure WelcomedOnce (store : Store) (jobs : List Job) : Prop where
  addressed : ∀ job ∈ jobs, job.Addressed store
  notYetActive : ∀ userId, NotYetActive store userId → store.welcomes jobs userId = 0
  once : ∀ userId, store.welcomes jobs userId ≤ 1

section Once

variable {store next : Store} {jobs queued : List Job}

theorem countP_addWelcomeNotification (user : User) (now userId : Long) :
    [addWelcomeNotification user now].countP (Job.notifies userId .welcome) =
      if user.id = userId then 1 else 0 := by
  rw [List.countP_singleton, addWelcomeNotification, Job.notifies]
  by_cases same : user.id = userId <;> simp [same]

theorem Job.Addressed.of_stays {job : Job} (addressed : job.Addressed store)
    (stays : ∀ userId, next.users.find userId = none → store.users.find userId = none) :
    job.Addressed next := by
  have known {userId : Long} (found : ∃ user, store.users.find userId = some user) :
      ∃ user, next.users.find userId = some user := by
    rw [← Option.ne_none_iff_exists'] at found ⊢
    exact fun absent => found (stays userId absent)
  cases job with
  | addActivity activity => exact known addressed
  | addNotification notification => exact known addressed
  | processAsset guid => exact addressed.elim

theorem WelcomeEffect.welcomes (effect : WelcomeEffect store next queued) (jobs : List Job)
    (userId : Long) :
    next.welcomes (jobs ++ queued) userId =
      store.welcomes jobs userId + queued.countP (Job.notifies userId .welcome) := by
  rw [Store.welcomes, Store.welcomes, List.countP_append, Store.countNotifications,
    effect.notifications, Nat.add_assoc]
  rfl

/-- The users that a request welcomes had no welcome before. -/
theorem WelcomedOnce.serve (welcomed : WelcomedOnce store jobs)
    (effect : WelcomeEffect store next queued) : WelcomedOnce next (jobs ++ queued) := by
  constructor
  case addressed =>
    intro job member
    rcases List.mem_append.mp member with old | new
    · exact (welcomed.addressed job old).of_stays effect.stays
    · rcases effect.jobs with rfl | ⟨user, now, rfl, -, active⟩
      · exact absurd new List.not_mem_nil
      · rw [List.mem_singleton.mp new]
        refine Option.ne_none_iff_exists'.mp fun absent => active fun other found => ?_
        exact absurd (absent.symm.trans found) nofun
  case notYetActive =>
    intro userId pending
    have before := welcomed.notYetActive userId (effect.notYetActive userId pending)
    rw [effect.welcomes, before, Nat.zero_add]
    rcases effect.jobs with rfl | ⟨user, now, rfl, -, active⟩
    · rfl
    · have other : user.id ≠ userId := fun same => active (same ▸ pending)
      rw [countP_addWelcomeNotification, if_neg other]
  case once =>
    intro userId
    rw [effect.welcomes]
    rcases effect.jobs with rfl | ⟨user, now, rfl, notYetActive, -⟩
    · exact welcomed.once userId
    · rw [countP_addWelcomeNotification]
      by_cases same : user.id = userId
      · rw [if_pos same, welcomed.notYetActive userId (same ▸ notYetActive)]
      · rw [if_neg same]
        exact welcomed.once userId

/-- A job that runs moves its welcome from the bag into the list. -/
theorem welcomes_run {position : Nat} {job : Job} (found : jobs[position]? = some job)
    (addressed : job.Addressed store) (userId : Long) :
    (job.run false store).welcomes (jobs.eraseIdx position) userId =
      store.welcomes jobs userId := by
  obtain ⟨inside, isJob⟩ := List.getElem?_eq_some_iff.mp found
  have counted := (List.getElem_cons_eraseIdx_perm inside).countP_eq
    (Job.notifies userId .welcome)
  rw [isJob, List.countP_cons] at counted
  rw [Store.welcomes, Store.welcomes, addressed.countNotifications_run, ← counted]
  omega

theorem WelcomedOnce.runJob (welcomed : WelcomedOnce store jobs) {position : Nat} {job : Job}
    (found : jobs[position]? = some job) :
    WelcomedOnce (job.run false store) (jobs.eraseIdx position) := by
  have addressed := welcomed.addressed job (List.mem_of_getElem? found)
  have users := addressed.run.1
  constructor
  case addressed =>
    refine fun other member => (welcomed.addressed other (List.mem_of_mem_eraseIdx member)).of_stays
      fun userId absent => ?_
    rw [← users]
    exact absent
  case notYetActive =>
    intro userId pending
    rw [welcomes_run found addressed]
    refine welcomed.notYetActive userId fun user known => pending user ?_
    rw [users]
    exact known
  case once =>
    intro userId
    rw [welcomes_run found addressed]
    exact welcomed.once userId

end Once

/-! ### Runs -/

section Runs

variable {environment : Environment} {bag after : BagState AccountState Job}

/-- No step takes a welcome away. -/
theorem welcomedOnce_step (welcomed : WelcomedOnce bag.world.store bag.jobs)
    {action : BagAction (AccountAction × Long)}
    (taken : bagStep (accountServer environment) bag action = some after) :
    WelcomedOnce after.world.store after.jobs ∧
      ∀ userId, bag.world.store.welcomes bag.jobs userId ≤
        after.world.store.welcomes after.jobs userId := by
  cases action with
  | serve request =>
      obtain rfl := Option.some.inj taken
      have effect := serve_welcomeEffect environment request.2 bag.world request.1
      refine ⟨welcomed.serve effect, fun userId => ?_⟩
      exact (Nat.le_add_right _ _).trans_eq (effect.welcomes bag.jobs userId).symm
  | runJob position =>
      rw [bagStep] at taken
      split at taken
      · rename_i job found
        obtain rfl := Option.some.inj taken
        refine ⟨welcomed.runJob found, fun userId => ?_⟩
        exact (welcomes_run found (welcomed.addressed job (List.mem_of_getElem? found)) userId).ge
      · cases taken

/-- What the jobs of a state count, those of its bag count. -/
theorem PoolState.IsIn.welcomes {state : PoolState AccountState Job}
    {bag : BagState AccountState Job} (isIn : state.IsIn bag) (userId : Long) :
    state.world.store.welcomes state.remainingJobs userId =
      bag.world.store.welcomes bag.jobs userId := by
  rw [Store.welcomes, Store.welcomes, isIn.world, isIn.jobs.countP_eq]

theorem WelcomedOnce.of_isIn {state : PoolState AccountState Job}
    {bag : BagState AccountState Job} (isIn : state.IsIn bag)
    (welcomed : WelcomedOnce bag.world.store bag.jobs) :
    WelcomedOnce state.world.store state.remainingJobs where
  addressed job member :=
    isIn.world ▸ welcomed.addressed job (isIn.jobs.mem_iff.mpr member)
  notYetActive userId pending := by
    rw [isIn.welcomes]
    exact welcomed.notYetActive userId (isIn.world ▸ pending)
  once userId := by
    rw [isIn.welcomes]
    exact welcomed.once userId

end Runs

/-- Whatever the interleaving of the requests with the pool, a user that is not yet active has no
welcome, stored or queued, and nobody has two; a user that a request welcomes has one from then
on. -/
theorem welcomedOnce (environment : Environment) (nThreads : Nat) (start : AccountState)
    (welcomed : WelcomedOnce start.store []) (state : PoolState AccountState Job)
    (reached : Reaches (poolStep (accountServer environment)) unrestricted
      (.initial nThreads start) state) :
    WelcomedOnce state.world.store state.remainingJobs ∧
      ∀ request next later userId,
        poolStep (accountServer environment) state (.serve request) = some next →
        ((accountServer environment).serve request state.world).2.any
          (Job.notifies userId .welcome) = true →
        Reaches (poolStep (accountServer environment)) unrestricted next later →
          later.world.store.welcomes later.remainingJobs userId = 1 := by
  obtain ⟨bag, isIn, held⟩ := (initial_isIn nThreads start).invariant
    (fun bag => WelcomedOnce bag.world.store bag.jobs) welcomed
    (fun _ _ _ held taken => (welcomedOnce_step held taken).1) reached
  refine ⟨held.of_isIn isIn, fun request next later userId served welcomes afterwards => ?_⟩
  have effect := serve_welcomeEffect environment request.2 bag.world request.1
  have nextIsIn := isIn.serve served
  have queued : 0 < ((accountServer environment).serve request bag.world).2.countP
      (Job.notifies userId .welcome) := by
    rw [isIn.world]
    obtain ⟨job, member, notifies⟩ := List.any_eq_true.mp welcomes
    exact List.countP_pos_iff.mpr ⟨job, member, notifies⟩
  obtain ⟨last, lastIsIn, lastHeld, kept⟩ := nextIsIn.invariant
    (fun bag => WelcomedOnce bag.world.store bag.jobs ∧
      1 ≤ bag.world.store.welcomes bag.jobs userId)
    ⟨held.serve effect,
      (le_add_of_le_right queued).trans_eq (effect.welcomes bag.jobs userId).symm⟩
    (fun _ _ _ held taken =>
      ⟨(welcomedOnce_step held.1 taken).1, held.2.trans ((welcomedOnce_step held.1 taken).2 _)⟩)
    afterwards
  rw [lastIsIn.welcomes]
  exact le_antisymm (lastHeld.once userId) kept

def emptyPool : PoolState AccountState Job := .initial 1 ⟨Store.empty, []⟩

/-- What the actions lead to on the server of a new installation. -/
def poolAfter (actions : List (PoolAction (AccountAction × Long) Job)) :
    PoolState AccountState Job :=
  (run (poolStep (accountServer (plainEnvironment .entry))) emptyPool actions).getD emptyPool

def signUpAlice : PoolAction (AccountAction × Long) Job :=
  .serve (.createUser (plainInput "alice") "A" "T" "" 0, 1)

def activateAlice : AccountAction × Long := (.activateUser "T" 2, 3)

/-- A worker stores the welcome that the activation has queued. -/
def storeWelcome : List (PoolAction (AccountAction × Long) Job) :=
  [.execute 1 0, .work (.enterSynchronized 0), .commit 0]

theorem run_poolAfter {actions : List (PoolAction (AccountAction × Long) Job)}
    (ran : (run (poolStep (accountServer (plainEnvironment .entry))) emptyPool actions).isSome =
      true) :
    run (poolStep (accountServer (plainEnvironment .entry))) emptyPool actions =
      some (poolAfter actions) := by
  obtain ⟨state, same⟩ := Option.isSome_iff_exists.mp ran
  rw [poolAfter, same]
  rfl

theorem welcomedOnce_activateAlice :
    (poolAfter (signUpAlice :: .serve activateAlice :: storeWelcome)).world.store.welcomes
      (poolAfter (signUpAlice :: .serve activateAlice :: storeWelcome)).remainingJobs 1 = 1 := by
  have welcomed : WelcomedOnce Store.empty [] := ⟨nofun, fun _ _ => rfl, fun _ => Nat.zero_le 1⟩
  refine (welcomedOnce (plainEnvironment .entry) 1 ⟨Store.empty, []⟩ welcomed
    (poolAfter [signUpAlice]) (reaches_of_run_unrestricted [signUpAlice] ?_)).2 activateAlice
    (poolAfter [signUpAlice, .serve activateAlice]) _ 1 ?_ ?_
    (reaches_of_run_unrestricted storeWelcome ?_)
  · exact run_poolAfter (by decide +kernel)
  · rfl
  · decide +kernel
  · rfl

end GraffiTab
