/-
This file asks whether a suspended account can be brought back without a login.

The operations that accept a token look at the status of the account before they change
it. The request for a password reset and the lock after failed logins do not: they put any
account into `RESET_PASSWORD`, and from there a token makes it active. So a suspension
lasts in every run in which neither of the two meets a suspended account. The logins by
JSON and by request parameters refuse such an account before they count anything; HTTP
Basic and the logins with an external account count.
-/

import GraffiTab.ActiveAccounts

namespace GraffiTab

open Tables Runs

/-! ### Suspended accounts -/

/-- The operations that are open to everybody. -/
def SiteAction.isPublic : SiteAction → Prop
  | .account (.activateUser _ _) => True
  | .account (.resetPassword _ _ _) => True
  | .account (.completePasswordReset _ _ _ _) => True
  | .login _ => True
  | _ => False

/-- Every suspended account is still there and suspended. -/
def SuspensionsKept (store next : Store) : Prop :=
  ∀ user, store.users.find user.id = some user → user.accountStatus = .suspended →
    ∃ after, next.users.find user.id = some after ∧ after.accountStatus = .suspended

/-- Every run of public operations whose steps meet the condition keeps the suspensions, from any
state. -/
def SuspensionsHold (environment : Environment)
    (condition : AccountState → SiteAction → Prop) : Prop :=
  ∀ start final, Reaches (siteStep environment)
    (fun state action => action.isPublic ∧ condition state action) start final →
      SuspensionsKept start.store final.store

section Spares

variable (environment : Environment)

/-- No reset is requested for a suspended account, and no failed login is counted for one that has
five of them already. -/
def SparesSuspended (state : AccountState) : SiteAction → Prop
  | .account (.resetPassword email _ _) => ∀ user,
      findByEmail environment.platform email state.store = .ok (some user) →
        user.accountStatus ≠ .suspended
  | .login request => ∀ user, failedLoginTarget environment state.store request = some user →
      user.accountStatus = .suspended → user.failedLoginAttempts < 5
  | _ => True

end Spares

/-! ### What keeps suspensions -/

section Kept

variable {environment : Environment} {store next final : Store}

theorem SuspensionsKept.of_users_eq (same : next.users = store.users) :
    SuspensionsKept store next :=
  fun user found suspended => ⟨user, same ▸ found, suspended⟩

theorem SuspensionsKept.trans (first : SuspensionsKept store next)
    (second : SuspensionsKept next final) : SuspensionsKept store final := by
  intro user found suspended
  obtain ⟨middle, middleFound, middleSuspended⟩ := first user found suspended
  have sameId : middle.id = user.id := Table.id_of_find middleFound
  rw [← sameId] at middleFound ⊢
  exact second middle middleFound middleSuspended

/-- Writing back a row keeps the suspensions when the row keeps its own. -/
theorem suspensionsKept_saveUser {found changed : User} (member : found ∈ store.users.rows)
    (id : changed.id = found.id)
    (status : found.accountStatus = .suspended → changed.accountStatus = .suspended) :
    SuspensionsKept store (store.saveUser changed) := by
  intro user known suspended
  by_cases written : user.id = changed.id
  · have isFound : user = found :=
      Table.eq_of_id_eq (Table.mem_of_find known) member (written.trans id)
    refine ⟨changed, ?_, status (isFound ▸ suspended)⟩
    rw [written] at known ⊢
    exact Table.find_set_self known
  · exact ⟨user, (Table.find_set_other store.users written).trans known, suspended⟩

theorem updateLoginAttempts_suspensionsKept {usernameOrEmail : String}
    (spares : ∀ user,
      findByUsernameOrEmail environment.platform usernameOrEmail store = .ok (some user) →
        user.accountStatus = .suspended → user.failedLoginAttempts < 5) :
    SuspensionsKept store (updateLoginAttempts environment usernameOrEmail store).1 := by
  by_cases named : ∃ user,
      findByUsernameOrEmail environment.platform usernameOrEmail store = .ok (some user)
  · obtain ⟨user, answer⟩ := named
    have member := mem_of_findByUsernameOrEmail answer
    rw [updateLoginAttempts_found answer]
    by_cases many : user.failedLoginAttempts ≥ 5
    · rw [if_pos many]
      refine suspensionsKept_saveUser member rfl fun suspended => ?_
      exact absurd (spares user answer suspended) (Int.not_lt.mpr many)
    · rw [if_neg many]
      exact suspensionsKept_saveUser member rfl id
  · obtain ⟨thrown, same⟩ := updateLoginAttempts_unfound fun user answer => named ⟨user, answer⟩
    rw [same]
    exact .of_users_eq rfl

theorem resetLoginAttempts_suspensionsKept (environment : Environment) (store : Store)
    (usernameOrEmail : String) :
    SuspensionsKept store (resetLoginAttempts environment usernameOrEmail store).1 := by
  rcases resetLoginAttempts_cases environment store usernameOrEmail with
    same | ⟨found, member, same⟩
  · rw [same]
    exact .of_users_eq rfl
  · rw [same]
    exact suspensionsKept_saveUser member rfl id

theorem login_suspensionsKept {request : LoginRequest}
    (spares : ∀ user, failedLoginTarget environment store request = some user →
      user.accountStatus = .suspended → user.failedLoginAttempts < 5) :
    SuspensionsKept store (login environment request store) := by
  generalize result : login environment request store = next
  cases result ▸ login_effect request with
  | unchanged users => exact .of_users_eq users
  | counted username user isTarget answer =>
      refine updateLoginAttempts_suspensionsKept fun other otherAnswer => ?_
      rw [← Option.some.inj (Except.ok.inj (answer.symm.trans otherAnswer))]
      exact spares user isTarget
  | countedTwice username user counted answer active member =>
      have first : SuspensionsKept store (store.saveUser counted.withFailedLogin) :=
        suspensionsKept_saveUser member rfl id
      refine first.trans (updateLoginAttempts_suspensionsKept fun other otherAnswer suspended => ?_)
      -- the second count meets the account that was active when the attempt began
      have named : findByUsernameOrEmail environment.platform username
          (store.saveUser counted.withFailedLogin) =
            .ok (some (if user = counted then counted.withFailedLogin else user)) :=
        findByUsernameOrEmail_saveUser member rfl rfl rfl answer
      have isOther := Option.some.inj (Except.ok.inj (named.symm.trans otherAnswer))
      rw [← isOther] at suspended
      split at suspended
      · rename_i same
        rw [same] at active
        exact absurd (active.symm.trans suspended) (by decide)
      · exact absurd (active.symm.trans suspended) (by decide)
  | reset username users =>
      exact (SuspensionsKept.of_users_eq users).trans
        (resetLoginAttempts_suspensionsKept environment _ username)

end Kept

/-! ### Runs of public operations -/

theorem activateUser_suspensionsKept (environment : Environment) (store : Store) (token : String)
    (now : Long) : SuspensionsKept store (activateUser environment token now store).1 := by
  unfold activateUser
  refine executeInTransactionWithResult_keeps (SuspensionsKept store) (.of_users_eq rfl)
    fun changed next returned => ?_
  obtain ⟨found, answer, -, pending, rfl, rfl⟩ := activateUserBody_ok returned
  have member := (findUsersWithMetadataValues_eq_some.mp answer).1.1
  refine suspensionsKept_saveUser member rfl fun suspended => ?_
  exact absurd (pending.symm.trans suspended) (by decide)

theorem resetPassword_suspensionsKept {environment : Environment} {store : Store}
    {email : String}
    (spares : ∀ user, findByEmail environment.platform email store = .ok (some user) →
      user.accountStatus ≠ .suspended) (token : String) (now : Long) :
    SuspensionsKept store (resetPassword environment email token now store).1 := by
  unfold resetPassword
  refine executeInTransactionWithResult_keeps (SuspensionsKept store) (.of_users_eq rfl)
    fun changed next returned => ?_
  obtain ⟨found, answer, rfl, rfl⟩ := resetPasswordBody_ok returned
  refine suspensionsKept_saveUser (findByEmail_eq_some answer).1 rfl fun suspended => ?_
  exact absurd suspended (spares found answer)

theorem completePasswordReset_suspensionsKept (environment : Environment) (store : Store)
    (token salt newPassword : String) (now : Long) :
    SuspensionsKept store
      (completePasswordReset environment token salt newPassword now store).1 := by
  unfold completePasswordReset
  refine transaction_keeps (SuspensionsKept store) (.of_users_eq rfl)
    fun changed next returned => ?_
  obtain ⟨found, answer, -, locked, rfl, rfl⟩ := completePasswordResetBody_ok returned
  have member := (findUsersWithMetadataValues_eq_some.mp answer).1.1
  have saved : SuspensionsKept store
      (store.saveUser (withResetPassword environment found salt newPassword)) :=
    suspensionsKept_saveUser member rfl fun suspended =>
      absurd (locked.symm.trans suspended) (by decide)
  exact saved.trans (.of_users_eq rfl)

theorem publicStep_suspensionsKept {environment : Environment} {state next : AccountState}
    {action : SiteAction} (isPublic : action.isPublic)
    (spares : SparesSuspended environment state action)
    (taken : siteStep environment state action = some next) :
    SuspensionsKept state.store next.store := by
  cases action with
  | login request =>
      obtain rfl := Option.some.inj taken
      exact login_suspensionsKept spares
  | linkExternalProvider | unlinkExternalProvider => exact isPublic.elim
  | account action =>
      cases action with
      | activateUser token now =>
          obtain rfl := Option.some.inj taken
          exact activateUser_suspensionsKept environment state.store token now
      | resetPassword email token now =>
          simp only [siteStep, accountStep, Option.ite_none_right_eq_some,
            Option.some.injEq] at taken
          obtain ⟨-, rfl⟩ := taken
          exact resetPassword_suspensionsKept spares token now
      | completePasswordReset token salt newPassword now =>
          obtain rfl := Option.some.inj taken
          exact completePasswordReset_suspensionsKept environment state.store token salt
            newPassword now
      | _ => exact isPublic.elim

/-- In every run of public operations that spare the suspended accounts, these stay suspended. -/
theorem suspensionsHold_of_sparesSuspended (environment : Environment) :
    SuspensionsHold environment (SparesSuspended environment) := by
  intro start final reached
  induction reached with
  | refl => exact .of_users_eq rfl
  | tail _ permitted taken inductionHypothesis =>
      exact inductionHypothesis.trans
        (publicStep_suspensionsKept permitted.1 permitted.2 taken)

/-! ### A suspension that is lifted -/

/-- One suspended account. -/
def suspendedAccount : AccountState where
  store :=
    { Store.empty with
      users := Table.empty.insert { plainUser 0 "alice" with accountStatus := .suspended } }
  issued := []

/-- A request for a reset, and its completion. -/
def liftSuspension : List SiteAction :=
  [.account (.resetPassword "alice@graffitab.com" "T" 0),
    .account (.completePasswordReset "T" "" "new" 1)]

/-- The state after it. -/
def liftedAccount : AccountState :=
  (run (siteStep (plainEnvironment .entry)) suspendedAccount liftSuspension).getD suspendedAccount

/-- Whoever reads the mail of the account lifts its suspension. -/
theorem not_suspensionsHold :
    ¬ SuspensionsHold (plainEnvironment .entry) (fun _ _ => True) := by
  intro hold
  have executed : run (siteStep (plainEnvironment .entry)) suspendedAccount liftSuspension =
      some liftedAccount := by
    decide
  have allPublic : ∀ action ∈ liftSuspension, action.isPublic :=
    List.forall_mem_cons.mpr
      ⟨trivial, List.forall_mem_cons.mpr ⟨trivial, List.forall_mem_nil SiteAction.isPublic⟩⟩
  have kept := hold suspendedAccount liftedAccount
    (reaches_of_run liftSuspension (fun _ action member => ⟨allPublic action member, trivial⟩)
      executed)
  obtain ⟨after, found, suspended⟩ :=
    kept { plainUser 1 "alice" with accountStatus := .suspended } (by decide) rfl
  have lifted : ∀ user ∈ liftedAccount.store.users.rows, user.accountStatus = .active := by decide
  exact absurd ((lifted after (Table.mem_of_find found)).symm.trans suspended) (by decide)

end GraffiTab
