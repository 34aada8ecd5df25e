/-
This file asks whether failed logins are counted when they happen at the same time.

The transaction that counts a failed login reads the row of the account, and at its commit
the mapper writes all columns of the row as they were read, with the counter increased or
the account locked. The row has no version and is not locked by the read, so what another
transaction has committed since is overwritten: failed logins are lost, and even the lock
of an account is. When the transactions keep apart, the account is the instance of a
shared value that every transaction changes (`ReadThenWrite`).
-/

import GraffiTab.Accounts
import GraffiTab.Library.ReadThenWrite

namespace GraffiTab

open Tables Runs

/-! ### Transactions that count a failed login -/

/-- The row that the transaction of `updateLoginAttempts` writes for the row that it has read. -/
def User.afterFailedLogin (user : User) : User :=
  if user.failedLoginAttempts ≥ 5 then user.locked else user.withFailedLogin

/-- The database, the rows as the open transactions have read them, and how many transactions have
committed. -/
structure AttemptsState where
  store : Store
  reads : List User
  committed : Nat

/-- A transaction of `updateLoginAttempts` reads, or the one at the position commits. -/
inductive AttemptsAction where
  | read (usernameOrEmail : String)
  | commit (position : Nat)

section Steps

variable (environment : Environment)

/-- A transaction that finds no single account throws and is over. -/
def attemptsStep (state : AttemptsState) : AttemptsAction → Option AttemptsState
  | .read usernameOrEmail =>
      match findByUsernameOrEmail environment.platform usernameOrEmail state.store with
      | .ok (some user) => some { state with reads := state.reads ++ [user] }
      | _ => some state
  | .commit position =>
      match state.reads[position]? with
      | some user =>
          some
            { store := state.store.saveUser user.afterFailedLogin
              reads := state.reads.eraseIdx position
              committed := state.committed + 1 }
      | none => none

/-- The failed login is one of the account. -/
def IsOfAccount (accountId : Long) (state : AttemptsState) : AttemptsAction → Prop
  | .read usernameOrEmail => ∃ user,
      findByUsernameOrEmail environment.platform usernameOrEmail state.store = .ok (some user) ∧
        user.id = accountId
  | .commit _ => True

/-- From an account without failed logins, the counter is the number of the failed logins when they
are at most five and all have committed, and with more of them the account is locked; in every
run whose steps meet the condition. -/
def CountsAttempts (condition : AttemptsState → AttemptsAction → Prop) : Prop :=
  ∀ start account, start.users.find account.id = some account → account.failedLoginAttempts = 0 →
    ∀ state, Reaches (attemptsStep environment)
        (fun current action => condition current action ∧
          IsOfAccount environment account.id current action) ⟨start, [], 0⟩ state →
      state.reads = [] →
        ∃ after, state.store.users.find account.id = some after ∧
          (state.committed ≤ 5 → after.failedLoginAttempts = state.committed) ∧
          (5 < state.committed → after.accountStatus = .resetPassword)

end Steps

/-- No failed login is read while the transaction of another one is open. -/
def AttemptsApart (state : AttemptsState) : AttemptsAction → Prop
  | .read _ => state.reads = []
  | .commit _ => True

/-! ### One transaction -/

section Transactions

variable {environment : Environment} {store : Store} {user : User}

@[simp] theorem afterFailedLogin_id (user : User) : user.afterFailedLogin.id = user.id := by
  unfold User.afterFailedLogin
  split <;> rfl

/-- A transaction that is not interrupted does what `updateLoginAttempts` does. -/
theorem updateLoginAttempts_eq_readCommit (usernameOrEmail : String) :
    ∃ actions after, run (attemptsStep environment) ⟨store, [], 0⟩ actions = some after ∧
      after.reads = [] ∧
        after.store = (updateLoginAttempts environment usernameOrEmail store).1 := by
  by_cases found : ∃ user,
      findByUsernameOrEmail environment.platform usernameOrEmail store = .ok (some user)
  · obtain ⟨user, answer⟩ := found
    refine ⟨[.read usernameOrEmail, .commit 0], ⟨store.saveUser user.afterFailedLogin, [], 1⟩,
      ?_, rfl, ?_⟩
    · simp only [run, attemptsStep, answer, List.nil_append]
      rfl
    · rw [updateLoginAttempts_found answer, User.afterFailedLogin]
      split <;> rfl
  · simp only [not_exists] at found
    obtain ⟨thrown, same⟩ := updateLoginAttempts_unfound found
    exact ⟨[], ⟨store, [], 0⟩, rfl, rfl, by rw [same]⟩

/-- Failed logins are counted up to five. -/
theorem failedLoginAttempts_iterate (none : user.failedLoginAttempts = 0) (count : Nat) :
    (User.afterFailedLogin^[count] user).failedLoginAttempts = min count 5 := by
  induction count with
  | zero => exact none
  | succ count inductionHypothesis =>
      rw [Function.iterate_succ_apply', User.afterFailedLogin]
      generalize User.afterFailedLogin^[count] user = before at inductionHypothesis ⊢
      split
      · change before.failedLoginAttempts = _
        omega
      · change before.failedLoginAttempts + 1 = _
        omega

/-- After more than five failed logins the account is locked. -/
theorem accountStatus_iterate (none : user.failedLoginAttempts = 0) {count : Nat}
    (many : 5 < count) :
    (User.afterFailedLogin^[count] user).accountStatus = .resetPassword := by
  obtain ⟨before, rfl⟩ : ∃ before, count = before + 1 := ⟨count - 1, by omega⟩
  have counted := failedLoginAttempts_iterate none before
  rw [Function.iterate_succ_apply', User.afterFailedLogin, if_pos (by omega)]
  rfl

end Transactions

/-! ### Runs -/

/-- The row of the account, the rows that were read of it and the number of commits form a shared
value. -/
structure Represents (accountId : Long) (state : AttemptsState)
    (shared : ReadThenWrite.Shared User) : Prop where
  value : state.store.users.find accountId = some shared.value
  reads : state.reads = shared.reads
  ofAccount : ∀ user ∈ state.reads, user.id = accountId
  committed : state.committed = shared.committed

section Runs

variable {environment : Environment} {accountId : Long} {state next : AttemptsState}
  {shared : ReadThenWrite.Shared User} {action : AttemptsAction}

/-- A step on the account is a step on the shared value. -/
theorem Represents.step (represents : Represents accountId state shared)
    (apart : AttemptsApart state action)
    (ofAccount : IsOfAccount environment accountId state action)
    (taken : attemptsStep environment state action = some next) :
    ∃ sharedAction sharedNext, ReadThenWrite.Apart shared sharedAction ∧
      ReadThenWrite.step User.afterFailedLogin shared sharedAction = some sharedNext ∧
        Represents accountId next sharedNext := by
  cases action with
  | read usernameOrEmail =>
      obtain ⟨user, answer, isAccount⟩ := ofAccount
      rw [attemptsStep, answer] at taken
      obtain rfl := Option.some.inj taken
      have isValue : user = shared.value := by
        have known := Table.find_of_mem (mem_of_findByUsernameOrEmail answer)
        rw [show Identified.id user = accountId from isAccount, represents.value] at known
        exact (Option.some.inj known).symm
      refine ⟨.read, _, represents.reads.symm.trans apart, rfl, represents.value, ?_, ?_,
        represents.committed⟩
      · rw [represents.reads, isValue]
      · intro other member
        rcases List.mem_append.mp member with old | new
        · exact represents.ofAccount other old
        · rw [List.mem_singleton.mp new, isAccount]
  | commit position =>
      rw [attemptsStep] at taken
      split at taken
      · rename_i user chosen
        obtain rfl := Option.some.inj taken
        have isAccount := represents.ofAccount user (List.mem_of_getElem? chosen)
        have sharedChosen : shared.reads[position]? = some user := represents.reads ▸ chosen
        refine ⟨.commit position,
          ⟨user.afterFailedLogin, shared.reads.eraseIdx position, shared.committed + 1⟩, trivial,
          by rw [ReadThenWrite.step, sharedChosen], ?_⟩
        have sameId : Identified.id user.afterFailedLogin = accountId :=
          (afterFailedLogin_id user).trans isAccount
        constructor
        case value =>
          have known := represents.value
          rw [← sameId] at known ⊢
          exact Table.find_set_self known
        case reads => simp only [represents.reads]
        case ofAccount =>
          exact fun other member => represents.ofAccount other (List.mem_of_mem_eraseIdx member)
        case committed => simp only [represents.committed]
      · cases taken

end Runs

/-- Failed logins whose transactions keep apart are counted rightly. -/
theorem countsAttempts_of_attemptsApart (environment : Environment) :
    CountsAttempts environment AttemptsApart := by
  intro start account known none state reached idle
  obtain ⟨shared, represents, sharedReached⟩ := reached.invariant
    (fun state => ∃ shared, Represents account.id state shared ∧
      Reaches (ReadThenWrite.step User.afterFailedLogin) ReadThenWrite.Apart ⟨account, [], 0⟩
        shared)
    ⟨⟨account, [], 0⟩, ⟨known, rfl, fun _ member => absurd member List.not_mem_nil, rfl⟩, .refl⟩
    (by
      rintro state action next ⟨shared, represents, sharedReached⟩ ⟨apart, ofAccount⟩ taken
      obtain ⟨sharedAction, sharedNext, sharedApart, sharedTaken, nextRepresents⟩ :=
        represents.step apart ofAccount taken
      exact ⟨sharedNext, nextRepresents, sharedReached.tail sharedApart sharedTaken⟩)
  have value := ReadThenWrite.value_of_apart sharedReached
  rw [← represents.committed] at value
  refine ⟨shared.value, represents.value, fun few => ?_, fun many => ?_⟩
  · rw [value, failedLoginAttempts_iterate none]
    omega
  · rw [value]
    exact accountStatus_iterate none many

/-! ### Two failed logins at the same time -/

def aloneAlice : Store :=
  { Store.empty with users := Table.empty.insert (plainUser 0 "alice") }

/-- The state after two failed logins of alice that were both read before one of them committed. -/
def afterOverlappingAttempts : AttemptsState where
  store := aloneAlice.saveUser (plainUser 1 "alice").withFailedLogin
  reads := []
  committed := 2

/-- Of the two failed logins one is counted. -/
theorem not_countsAttempts : ¬ CountsAttempts (plainEnvironment .entry) unrestricted := by
  intro always
  let allowed : AttemptsState → AttemptsAction → Prop := fun state action =>
    unrestricted state action ∧ IsOfAccount (plainEnvironment .entry) 1 state action
  have ofAlice (reads : List User) : allowed ⟨aloneAlice, reads, 0⟩ (.read "alice") :=
    ⟨trivial, plainUser 1 "alice", rfl, rfl⟩
  have commit (state : AttemptsState) : allowed state (.commit 0) := ⟨trivial, trivial⟩
  have bothRead : Reaches (attemptsStep (plainEnvironment .entry)) allowed ⟨aloneAlice, [], 0⟩
      ⟨aloneAlice, [plainUser 1 "alice", plainUser 1 "alice"], 0⟩ :=
    .tail (.tail .refl (ofAlice []) rfl) (ofAlice [plainUser 1 "alice"]) rfl
  have reached : Reaches (attemptsStep (plainEnvironment .entry)) allowed ⟨aloneAlice, [], 0⟩
      afterOverlappingAttempts :=
    .tail (.tail bothRead (commit _) rfl) (commit _) rfl
  obtain ⟨after, stored, few, -⟩ :=
    always aloneAlice (plainUser 1 "alice") rfl rfl afterOverlappingAttempts reached rfl
  obtain rfl : (plainUser 1 "alice").withFailedLogin = after := Option.some.inj stored
  exact absurd (few (by decide)) (by decide)

end GraffiTab
