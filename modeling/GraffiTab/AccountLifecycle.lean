/-
This file follows the status of an account over whole histories.

An account becomes active by the activation token that it was created with, or by the
reset token that was issued last for it. To say which token that is, a history keeps beside
the accounts a ledger of the tokens issued, with the clock reading at their issue; the
accounts store exactly what the ledger says. A call that is refused leaves the accounts as
they were, except for the failed login that locks an account: it is refused because of the
lock that it has just committed.
-/

import Mathlib.Logic.Function.Basic
import GraffiTab.Authentication
import GraffiTab.ResetTokens

namespace GraffiTab

open Tables Runs

/-! ### The ledger of the tokens -/

/-- A token with the clock reading at its issue. -/
structure IssuedToken where
  token : String
  issuedOn : Long
  deriving DecidableEq

/-- The accounts, and for each of them the activation token it was created with and the reset
token that was issued last. -/
structure AccountLedger where
  accounts : AccountState
  activation : Long → Option IssuedToken
  reset : Long → Option IssuedToken

/-- The store of the accounts. -/
abbrev AccountLedger.store (ledger : AccountLedger) : Store := ledger.accounts.store

/-- The history of a new installation. -/
def AccountLedger.empty : AccountLedger := ⟨newInstallation, fun _ => none, fun _ => none⟩

/-- What is entered for a call: the activation token of an account that is created, and the reset
token of an account for which one is requested. -/
def AccountLedger.enter (environment : Environment) (ledger : AccountLedger)
    (accounts : AccountState) : AccountAction → AccountLedger
  | .createUser user guid userToken salt now =>
      match (createUser environment user guid userToken salt now ledger.store).2 with
      | .ok created =>
          { ledger with
            accounts
            activation := Function.update ledger.activation created.id (some ⟨userToken, now⟩) }
      | .error _ => { ledger with accounts }
  | .resetPassword email token now =>
      match (resetPassword environment email token now ledger.store).2 with
      | .ok locked =>
          { ledger with
            accounts
            reset := Function.update ledger.reset locked.id (some ⟨token, now⟩) }
      | .error _ => { ledger with accounts }
  | _ => { ledger with accounts }

/-- One call, with what is entered for it. -/
def ledgerStep (environment : Environment) (ledger : AccountLedger) (action : AccountAction) :
    Option AccountLedger :=
  (accountStep environment ledger.accounts action).map fun accounts =>
    ledger.enter environment accounts action

/-- The histories that a new installation can have. -/
abbrev AccountHistory (environment : Environment) (ledger : AccountLedger) : Prop :=
  Reaches (ledgerStep environment) unrestricted .empty ledger

/-- Whether a call is refused. -/
def accountRefusal (environment : Environment) (store : Store) :
    AccountAction → Except Throwable Unit
  | .createUser user guid userToken salt now =>
      (createUser environment user guid userToken salt now store).2.map fun _ => ()
  | .createExternalUser user account guid salt generated now =>
      (createExternalUser environment user account guid salt generated now store).2.map fun _ => ()
  | .editUser currentUserId toEdit now =>
      (transaction (editUser environment currentUserId toEdit now) store).2.map fun _ => ()
  | .activateUser token now => (activateUser environment token now store).2.map fun _ => ()
  | .resetPassword email token now =>
      (resetPassword environment email token now store).2.map fun _ => ()
  | .completePasswordReset token salt newPassword now =>
      (completePasswordReset environment token salt newPassword now store).2.map fun _ => ()
  | .changePassword currentUserId currentPassword salt newPassword session now =>
      (changePassword environment currentUserId currentPassword salt newPassword session now
        store).2.map fun _ => ()
  | .updateLoginAttempts usernameOrEmail =>
      (updateLoginAttempts environment usernameOrEmail store).2
  | .resetLoginAttempts usernameOrEmail => (resetLoginAttempts environment usernameOrEmail store).2

/-! ### The laws -/

section Laws

variable (environment : Environment)

/-- What a call has to present of an account for the token that was issued for it: a text that the
database takes for the token, or for any value that the account stores, where the query for tokens
looks at all of them. -/
def Presents (user : User) (issued : IssuedToken) (token : String) : Prop :=
  match environment.platform.elementsScope with
  | .entry => SameToken environment.platform issued.token token
  | .collection => ∃ key, user.Holds environment.platform key token

/-- Where the query for tokens looks at all the metadata, no clock reading is written like the
token. -/
def NotWrittenAsClock (token : String) (now : Long) : Prop :=
  environment.platform.elementsScope = .collection →
    ¬ SameToken environment.platform (toString now) token

/-- No account is created at a time that is written like the token. -/
def CreatesUnlike (token : String) (_ledger : AccountLedger) : AccountAction → Prop
  | .createUser _ _ _ _ now => NotWrittenAsClock environment token now
  | _ => True

/-- The account is activated: it waits for that, and the call presents the activation token of the
account within 24 hours. -/
def ActivatesAccount (ledger : AccountLedger) (action : AccountAction) (user : User) : Prop :=
  user.accountStatus = .pendingActivation ∧
    ∃ token now issued, action = .activateUser token now ∧
      ledger.activation user.id = some issued ∧
      now - issued.issuedOn ≤ activationTokenExpirationMs ∧
      Presents environment user issued token

/-- The password of the account is reset: it waits for that, and the call presents the reset token
that was issued last for the account within 30 minutes. -/
def ResetsAccount (ledger : AccountLedger) (action : AccountAction) (user : User) : Prop :=
  user.accountStatus = .resetPassword ∧
    ∃ token salt newPassword now issued,
      action = .completePasswordReset token salt newPassword now ∧
      ledger.reset user.id = some issued ∧
      now - issued.issuedOn ≤ resetPasswordTokenExpirationMs ∧
      Presents environment user issued token

/-- The account stores the tokens of the ledger with their dates. -/
structure StoresIssued (ledger : AccountLedger) (user : User) : Prop where
  activationToken : user.metadata activationTokenMetadataKey =
    (ledger.activation user.id).map IssuedToken.token
  activationDate : user.metadata activationTokenDateMetadataKey =
    (ledger.activation user.id).map fun issued => toString issued.issuedOn
  resetToken : user.metadata resetPasswordActivationToken =
    (ledger.reset user.id).map IssuedToken.token
  resetDate : user.metadata resetPasswordActivationTokenDate =
    (ledger.reset user.id).map fun issued => toString issued.issuedOn

/-- The laws of the life of an account, where `refusal` says what a refused call may do. -/
structure AccountsFollowLifecycle (refusal : Store → AccountAction → Store → Prop) : Prop where
  /-- An account stores its activation token and the reset token that was issued last. -/
  stored : ∀ ledger, AccountHistory environment ledger →
    ∀ user ∈ ledger.store.users.rows, StoresIssued ledger user
  /-- There are two ways to become active. -/
  becomesActive : ∀ ledger action next, AccountHistory environment ledger →
    ledgerStep environment ledger action = some next →
    ∀ before after, ledger.store.users.find before.id = some before →
      next.store.users.find before.id = some after → before.accountStatus ≠ .active →
      after.accountStatus = .active →
      ActivatesAccount environment ledger action before ∨
        ResetsAccount environment ledger action before
  /-- No account waits for its activation again. -/
  staysOutOfPending : ∀ ledger action next, AccountHistory environment ledger →
    ledgerStep environment ledger action = some next →
    ∀ before after, ledger.store.users.find before.id = some before →
      next.store.users.find before.id = some after →
      after.accountStatus = .pendingActivation → before.accountStatus = .pendingActivation
  /-- No activation token is accepted twice. -/
  activatesOnce : ∀ ledger id issued token now user next later,
    AccountHistory environment ledger → ledger.activation id = some issued →
    SameToken environment.platform issued.token token →
    (activateUser environment token now ledger.store).2 = .ok user →
    ledgerStep environment ledger (.activateUser token now) = some next →
    Reaches (ledgerStep environment) (CreatesUnlike environment token) next later →
    ∀ again laterNow laterUser, SameToken environment.platform issued.token again →
      (activateUser environment again laterNow later.store).2 ≠ .ok laterUser
  /-- What a refused call leaves. -/
  refused : ∀ ledger action next thrown, AccountHistory environment ledger →
    ledgerStep environment ledger action = some next →
    accountRefusal environment ledger.store action = .error thrown →
    refusal ledger.store action next.store

/-- A refused call changes nothing. -/
def LeavesUnchanged (before : Store) (_action : AccountAction) (after : Store) : Prop :=
  after = before

/-- A refused call changes nothing, except for a failed login that locks an account after five
others. -/
def LeavesUnchangedOrLocks (before : Store) (action : AccountAction) (after : Store) : Prop :=
  after = before ∨ ∃ usernameOrEmail user, action = .updateLoginAttempts usernameOrEmail ∧
    findByUsernameOrEmail environment.platform usernameOrEmail before = .ok (some user) ∧
    user.failedLoginAttempts ≥ 5 ∧
    after = before.saveUser user.locked

end Laws

/-! ### Refused calls -/

section Refusals

variable {environment : Environment} {store : Store} {state next : AccountState}
  {thrown : Throwable}

theorem map_eq_error {Value Result : Type} {result : Except Throwable Value}
    {change : Value → Result} : result.map change = .error thrown ↔ result = .error thrown := by
  cases result with
  | error other => exact ⟨fun same => congrArg _ (Except.error.inj same), congrArg _⟩
  | ok value => exact iff_of_false nofun nofun

theorem createUser_error {user : UserInput} {guid userToken salt : String} {now : Long}
    (failed : (createUser environment user guid userToken salt now store).2 = .error thrown) :
    (createUser environment user guid userToken salt now store).1 = store := by
  unfold createUser at failed ⊢
  split at failed
  · exact executeInTransactionWithResult_error failed
  · rfl

theorem createExternalUser_error {user : UserInput} {account : ExternalAccount}
    {guid salt generated : String} {now : Long}
    (failed : (createExternalUser environment user account guid salt generated now store).2 =
      .error thrown) :
    (createExternalUser environment user account guid salt generated now store).1 = store := by
  unfold createExternalUser at failed ⊢
  split at failed
  · exact executeInTransactionWithResult_error failed
  · rfl

/-- A failed login is refused because it has locked the account, or because it failed itself. -/
theorem updateLoginAttempts_error {usernameOrEmail : String}
    (failed : (updateLoginAttempts environment usernameOrEmail store).2 = .error thrown) :
    (updateLoginAttempts environment usernameOrEmail store).1 = store ∨
      ∃ user, findByUsernameOrEmail environment.platform usernameOrEmail store = .ok (some user) ∧
        user.failedLoginAttempts ≥ 5 ∧
        (updateLoginAttempts environment usernameOrEmail store).1 =
          store.saveUser user.locked := by
  by_cases named : ∃ user,
      findByUsernameOrEmail environment.platform usernameOrEmail store = .ok (some user)
  · obtain ⟨user, answer⟩ := named
    rw [updateLoginAttempts_found answer] at failed ⊢
    by_cases many : user.failedLoginAttempts ≥ 5
    · exact .inr ⟨user, answer, many, by rw [if_pos many]⟩
    · rw [if_neg many] at failed
      cases failed
  · obtain ⟨other, same⟩ := updateLoginAttempts_unfound fun user answer => named ⟨user, answer⟩
    exact .inl (by rw [same])

/-- A refused call changes nothing, but for the lock. -/
theorem accountStep_refused {action : AccountAction}
    (taken : accountStep environment state action = some next)
    (refused : accountRefusal environment state.store action = .error thrown) :
    LeavesUnchangedOrLocks environment state.store action next.store := by
  cases action with
  | createUser user guid userToken salt now =>
      simp only [accountStep, Option.ite_none_right_eq_some, Option.some.injEq] at taken
      obtain ⟨-, rfl⟩ := taken
      exact .inl (createUser_error (map_eq_error.mp refused))
  | createExternalUser user account guid salt generated now =>
      obtain rfl := Option.some.inj taken
      exact .inl (createExternalUser_error (map_eq_error.mp refused))
  | editUser currentUserId toEdit now =>
      obtain rfl := Option.some.inj taken
      exact .inl (transaction_error (map_eq_error.mp refused))
  | activateUser token now =>
      obtain rfl := Option.some.inj taken
      exact .inl (executeInTransactionWithResult_error (map_eq_error.mp refused))
  | resetPassword email token now =>
      simp only [accountStep, Option.ite_none_right_eq_some, Option.some.injEq] at taken
      obtain ⟨-, rfl⟩ := taken
      exact .inl (executeInTransactionWithResult_error (map_eq_error.mp refused))
  | completePasswordReset token salt newPassword now =>
      obtain rfl := Option.some.inj taken
      exact .inl (transaction_error (map_eq_error.mp refused))
  | changePassword currentUserId currentPassword salt newPassword session now =>
      obtain rfl := Option.some.inj taken
      exact .inl (transaction_error (map_eq_error.mp refused))
  | updateLoginAttempts usernameOrEmail =>
      obtain rfl := Option.some.inj taken
      rcases updateLoginAttempts_error refused with same | ⟨user, answer, many, locked⟩
      · exact .inl same
      · exact .inr ⟨usernameOrEmail, user, rfl, answer, many, locked⟩
  | resetLoginAttempts usernameOrEmail =>
      obtain rfl := Option.some.inj taken
      exact .inl (transaction_error refused)

end Refusals

/-! ### What a call does to the ledger -/

/-- What a call can do: nothing, create an account with or without an activation token, issue a
reset token, or change an account that keeps its tokens. -/
inductive LedgerEffect (environment : Environment) (ledger : AccountLedger)
    (action : AccountAction) (next : AccountLedger) : Prop where
  | unchanged (users : next.store.users = ledger.store.users)
      (activation : next.activation = ledger.activation) (reset : next.reset = ledger.reset)
  | created (row : User) (issued : IssuedToken)
      (metadata : row.metadataItems = activationMetadata issued.token issued.issuedOn)
      (called : ∃ user guid salt,
        action = .createUser user guid issued.token salt issued.issuedOn)
      (fresh : ¬ ledger.accounts.HasIssued environment.platform issued.token)
      (recorded : issued.token ∈ next.accounts.issued)
      (users : next.store.users = ledger.store.users.insert row)
      (activation : next.activation =
        Function.update ledger.activation ledger.store.users.nextId (some issued))
      (reset : next.reset = ledger.reset)
  | createdExternally (row : User) (metadata : row.metadataItems = ∅)
      (users : next.store.users = ledger.store.users.insert row)
      (activation : next.activation = ledger.activation) (reset : next.reset = ledger.reset)
  | requested (found : User) (issued : IssuedToken) (member : found ∈ ledger.store.users.rows)
      (users : next.store.users =
        ledger.store.users.set (withResetToken found issued.token issued.issuedOn))
      (activation : next.activation = ledger.activation)
      (reset : next.reset = Function.update ledger.reset found.id (some issued))
  | changed (found changed : User) (member : found ∈ ledger.store.users.rows)
      (id : changed.id = found.id) (metadata : changed.metadataItems = found.metadataItems)
      (status : changed.accountStatus = .pendingActivation →
        found.accountStatus = .pendingActivation)
      (users : next.store.users = ledger.store.users.set changed)
      (activation : next.activation = ledger.activation) (reset : next.reset = ledger.reset)

section Effects

variable {environment : Environment} {ledger next : AccountLedger} {action : AccountAction}

theorem ledgerStep_accounts (taken : ledgerStep environment ledger action = some next) :
    accountStep environment ledger.accounts action = some next.accounts := by
  obtain ⟨accounts, accountsTaken, rfl⟩ := Option.map_eq_some_iff.mp taken
  rw [accountsTaken, Option.some.injEq]
  unfold AccountLedger.enter
  split <;> try rfl
  · split <;> rfl
  · split <;> rfl

/-- A changed account keeps its identifier, and waits for its activation only if it did. -/
theorem ChangesUser.id_eq {store : Store} {found changed : User}
    (changes : ChangesUser environment store action found changed) :
    changed.id = found.id ∧ (changed.accountStatus = .pendingActivation →
      found.accountStatus = .pendingActivation) := by
  cases action with
  | createUser | createExternalUser => exact changes.elim
  | editUser =>
      obtain ⟨-, rfl⟩ := changes
      exact ⟨rfl, id⟩
  | activateUser =>
      obtain ⟨pending, rfl⟩ := changes
      exact ⟨rfl, fun _ => pending⟩
  | resetPassword =>
      obtain rfl := changes
      exact ⟨rfl, nofun⟩
  | completePasswordReset =>
      obtain ⟨-, rfl⟩ := changes
      exact ⟨rfl, nofun⟩
  | changePassword =>
      obtain rfl := changes
      exact ⟨rfl, id⟩
  | resetLoginAttempts =>
      obtain rfl := changes
      exact ⟨rfl, id⟩
  | updateLoginAttempts =>
      obtain ⟨-, ⟨-, rfl⟩ | ⟨-, rfl⟩⟩ := changes
      · exact ⟨rfl, nofun⟩
      · exact ⟨rfl, id⟩

theorem resetPassword_answer (environment : Environment) (email token : String) (now : Long)
    (store : Store) :
    (∃ thrown, resetPassword environment email token now store = (store, .error thrown)) ∨
    ∃ found ∈ store.users.rows, resetPassword environment email token now store =
      (store.saveUser (withResetToken found token now), .ok (withResetToken found token now)) := by
  rcases executeInTransactionWithResult_cases (resetPasswordBody environment email token now) store
    with ⟨locked, next, returned, same⟩ | ⟨thrown, -, same⟩
  · obtain ⟨found, answer, rfl, rfl⟩ := resetPasswordBody_ok returned
    exact .inr ⟨found, (findByEmail_eq_some answer).1, same⟩
  · exact .inl ⟨_, same⟩

/-- Every call has one of these effects. -/
theorem ledgerStep_effect (taken : ledgerStep environment ledger action = some next) :
    LedgerEffect environment ledger action next := by
  obtain ⟨accounts, accountsTaken, rfl⟩ := Option.map_eq_some_iff.mp taken
  have changes := accountStep_users accountsTaken
  -- the calls that enter nothing are those whose change is the one of a table of users
  have entersNothing (entered : ledger.enter environment accounts action = { ledger with accounts })
      (notReset : ∀ email token now, action ≠ .resetPassword email token now)
      (notCreated : ∀ user guid userToken salt now,
        action ≠ .createUser user guid userToken salt now) :
      LedgerEffect environment ledger action (ledger.enter environment accounts action) := by
    rw [entered]
    rcases changes with same | ⟨row, inserts, inserted⟩ | ⟨found, member, changed, changes, saved⟩
    · exact .unchanged same rfl rfl
    · cases action with
      | createUser user guid userToken salt now =>
          exact absurd rfl (notCreated user guid userToken salt now)
      | createExternalUser =>
          obtain ⟨-, avatarAsset, coverAsset, rfl⟩ := inserts
          exact .createdExternally _ rfl inserted rfl rfl
      | _ => exact inserts.elim
    · exact .changed found changed member changes.id_eq.1 (changes.metadataItems_eq notReset)
        changes.id_eq.2 saved rfl rfl
  cases action with
  | createUser user guid userToken salt now =>
      simp only [accountStep, Option.ite_none_right_eq_some, Option.some.injEq] at accountsTaken
      obtain ⟨fresh, rfl⟩ := accountsTaken
      rcases createUser_cases environment user guid userToken salt now ledger.store with
        ⟨thrown, answer⟩ | ⟨row, lastAssetId, ⟨avatarAsset, coverAsset, isRow⟩, -, answer⟩
      · simp only [AccountLedger.enter, answer]
        exact .unchanged rfl rfl rfl
      · have metadata : row.metadataItems = activationMetadata userToken now := by rw [isRow]; rfl
        simp only [AccountLedger.enter, answer]
        exact .created row ⟨userToken, now⟩ metadata ⟨user, guid, salt, rfl⟩ fresh.1
          List.mem_cons_self rfl rfl rfl
  | resetPassword email token now =>
      simp only [accountStep, Option.ite_none_right_eq_some, Option.some.injEq] at accountsTaken
      obtain ⟨-, rfl⟩ := accountsTaken
      rcases resetPassword_answer environment email token now ledger.store with
        ⟨thrown, answer⟩ | ⟨found, member, answer⟩
      · simp only [AccountLedger.enter, answer]
        exact .unchanged rfl rfl rfl
      · simp only [AccountLedger.enter, answer]
        exact .requested found ⟨token, now⟩ member rfl rfl rfl
  | _ =>
      refine entersNothing rfl (fun _ _ _ same => ?_) fun _ _ _ _ _ same => ?_
      · cases same
      · cases same

end Effects

/-! ### The tokens that the accounts store -/

/-- The accounts store what the ledger says, which is nothing for identifiers not given out, and its
activation tokens were issued. -/
structure LedgerKept (ledger : AccountLedger) : Prop where
  stores : ∀ user ∈ ledger.store.users.rows, StoresIssued ledger user
  unissued : ∀ id, ledger.store.users.find id = none →
    ledger.activation id = none ∧ ledger.reset id = none
  issued : ∀ id issued, ledger.activation id = some issued →
    issued.token ∈ ledger.accounts.issued

section Stored

variable {environment : Environment} {ledger next : AccountLedger} {action : AccountAction}

/-- What an account stores depends on its identifier and its metadata. -/
theorem StoresIssued.congr {user other : User} (stores : StoresIssued ledger user)
    (id : other.id = user.id) (metadata : other.metadataItems = user.metadataItems)
    (activation : next.activation user.id = ledger.activation user.id)
    (reset : next.reset user.id = ledger.reset user.id) : StoresIssued next other := by
  have same (key : String) : other.metadata key = user.metadata key :=
    congrArg (AList.lookup key) metadata
  constructor
  · rw [same, id, activation, stores.activationToken]
  · rw [same, id, activation, stores.activationDate]
  · rw [same, id, reset, stores.resetToken]
  · rw [same, id, reset, stores.resetDate]

/-- A new account stores the token it was created with. -/
theorem storesIssued_created {user : User} {issued : IssuedToken}
    (metadata : user.metadataItems = activationMetadata issued.token issued.issuedOn)
    (activation : next.activation user.id = some issued) (reset : next.reset user.id = none) :
    StoresIssued next user := by
  have lookup (key : String) := metadata_activationMetadata issued.token issued.issuedOn key
  constructor
  all_goals rw [User.metadata, metadata, lookup]
  · rw [activation, if_neg (by decide), if_pos rfl]
    rfl
  · rw [activation, if_pos rfl]
    rfl
  · rw [reset, if_neg (by decide), if_neg (by decide)]
    rfl
  · rw [reset, if_neg (by decide), if_neg (by decide)]
    rfl

/-- An account for which a reset token was issued stores this one. -/
theorem storesIssued_requested {user : User} {issued : IssuedToken}
    (stores : StoresIssued ledger user)
    (activation : next.activation user.id = ledger.activation user.id)
    (reset : next.reset user.id = some issued) :
    StoresIssued next (withResetToken user issued.token issued.issuedOn) := by
  have sameId : (withResetToken user issued.token issued.issuedOn).id = user.id := rfl
  constructor
  all_goals rw [metadata_withResetToken, sameId]
  · rw [if_neg (by decide), if_neg (by decide), activation, stores.activationToken]
  · rw [if_neg (by decide), if_neg (by decide), activation, stores.activationDate]
  · rw [if_neg (by decide), if_pos rfl, reset]
    rfl
  · rw [if_pos rfl, reset]
    rfl

/-- The identifiers that are not given out after a row is written back are those before. -/
theorem find_eq_none_of_set {Row : Type} [Identified Row] {table : Table Row} {old new : Row}
    {identifier : Int} (member : old ∈ table.rows) (sameId : Identified.id new = Identified.id old)
    (absent : (table.set new).find identifier = none) : table.find identifier = none := by
  rw [Table.find_eq_none] at absent ⊢
  intro row rowMember isRow
  by_cases written : Identified.id row = Identified.id new
  · refine absent new (Table.mem_set.mpr (.inl ⟨rfl, old, member, sameId.symm⟩)) ?_
    rw [← written, isRow]
  · exact absent row (Table.mem_set.mpr (.inr ⟨rowMember, written⟩)) isRow

theorem find_eq_none_of_insert {Row : Type} [Identified Row] {table : Table Row} {new : Row}
    {identifier : Int} (absent : (table.insert new).find identifier = none) :
    table.find identifier = none ∧ identifier ≠ table.nextId := by
  have other : identifier ≠ table.nextId := by
    rintro rfl
    rw [Table.find_insert_new] at absent
    cases absent
  exact ⟨by rw [← absent, Table.find_insert_other table new other], other⟩

/-- An account created from outside stores no token. -/
theorem storesIssued_createdExternally {user : User} (metadata : user.metadataItems = ∅)
    (activation : next.activation user.id = none) (reset : next.reset user.id = none) :
    StoresIssued next user := by
  have stored (key : String) : user.metadata key = none := by
    rw [User.metadata, metadata]
    rfl
  constructor
  · exact (stored _).trans (congrArg (Option.map _) activation).symm
  · exact (stored _).trans (congrArg (Option.map _) activation).symm
  · exact (stored _).trans (congrArg (Option.map _) reset).symm
  · exact (stored _).trans (congrArg (Option.map _) reset).symm

/-- After every effect the accounts store what the ledger says. -/
theorem storesIssued_effect (kept : LedgerKept ledger)
    (effect : LedgerEffect environment ledger action next)
    {user : User} (member : user ∈ next.store.users.rows) : StoresIssued next user := by
  have newId : ∀ old ∈ ledger.store.users.rows, old.id ≠ ledger.store.users.nextId :=
    fun old oldMember => Table.ne_nextId oldMember
  have unusedNext := kept.unissued _ (Table.find_nextId ledger.store.users)
  cases effect with
  | unchanged users activation reset =>
      rw [users] at member
      exact (kept.stores user member).congr rfl rfl (by rw [activation]) (by rw [reset])
  | created row issued metadata _ _ _ users activation reset =>
      rw [users, Table.mem_insert] at member
      rcases member with old | rfl
      · refine (kept.stores user old).congr rfl rfl ?_ (by rw [reset])
        rw [activation, Function.update_of_ne (newId user old)]
      · refine storesIssued_created metadata ?_ ?_
        · rw [activation]
          exact Function.update_self _ _ _
        · rw [reset]
          exact unusedNext.2
  | createdExternally row metadata users activation reset =>
      rw [users, Table.mem_insert] at member
      rcases member with old | rfl
      · exact (kept.stores user old).congr rfl rfl (by rw [activation]) (by rw [reset])
      · refine storesIssued_createdExternally metadata ?_ ?_
        · rw [activation]
          exact unusedNext.1
        · rw [reset]
          exact unusedNext.2
  | requested found issued foundMember users activation reset =>
      rw [users, Table.mem_set] at member
      rcases member with ⟨rfl, -⟩ | ⟨old, different⟩
      · refine storesIssued_requested (kept.stores found foundMember) (by rw [activation]) ?_
        rw [reset, Function.update_self]
      · refine (kept.stores user old).congr rfl rfl (by rw [activation]) ?_
        rw [reset]
        exact Function.update_of_ne different _ _
  | changed found changed foundMember sameId metadata _ users activation reset =>
      rw [users, Table.mem_set] at member
      rcases member with ⟨rfl, -⟩ | ⟨old, -⟩
      · exact (kept.stores found foundMember).congr sameId metadata (by rw [activation])
          (by rw [reset])
      · exact (kept.stores user old).congr rfl rfl (by rw [activation]) (by rw [reset])

/-- After every effect nothing is issued for an identifier that is not given out. -/
theorem unissued_effect (kept : LedgerKept ledger)
    (effect : LedgerEffect environment ledger action next) {id : Long}
    (absent : next.store.users.find id = none) :
    next.activation id = none ∧ next.reset id = none := by
  cases effect with
  | unchanged users activation reset =>
      rw [users] at absent
      rw [activation, reset]
      exact kept.unissued id absent
  | created row issued _ _ _ _ users activation reset =>
      rw [users] at absent
      obtain ⟨absent, other⟩ := find_eq_none_of_insert absent
      rw [activation, reset, Function.update_of_ne other]
      exact kept.unissued id absent
  | createdExternally row _ users activation reset =>
      rw [users] at absent
      rw [activation, reset]
      exact kept.unissued id (find_eq_none_of_insert absent).1
  | requested found issued foundMember users activation reset =>
      have sameId : (withResetToken found issued.token issued.issuedOn).id = found.id := rfl
      rw [users] at absent
      have stillAbsent := find_eq_none_of_set foundMember sameId absent
      have otherId : id ≠ found.id := by
        rintro rfl
        exact Table.find_eq_none.mp stillAbsent found foundMember rfl
      rw [activation, reset, Function.update_of_ne otherId]
      exact kept.unissued id stillAbsent
  | changed found changed foundMember sameId _ _ users activation reset =>
      rw [users] at absent
      rw [activation, reset]
      exact kept.unissued id (find_eq_none_of_set foundMember sameId absent)

/-- After every effect the activation token of an account was issued: now, or before. -/
theorem issued_effect (kept : LedgerKept ledger)
    (effect : LedgerEffect environment ledger action next)
    (grows : ∀ {token}, token ∈ ledger.accounts.issued → token ∈ next.accounts.issued)
    {id : Long} {issued : IssuedToken} (isIssued : next.activation id = some issued) :
    issued.token ∈ next.accounts.issued := by
  cases effect with
  | created row new _ _ _ recorded _ activation _ =>
      rw [activation] at isIssued
      by_cases isNew : id = ledger.store.users.nextId
      · rw [isNew, Function.update_self] at isIssued
        exact Option.some.inj isIssued ▸ recorded
      · rw [Function.update_of_ne isNew] at isIssued
        exact grows (kept.issued id issued isIssued)
  | unchanged _ activation _ | createdExternally _ _ _ activation _
  | requested _ _ _ _ activation _ | changed _ _ _ _ _ _ _ activation _ =>
      rw [activation] at isIssued
      exact grows (kept.issued id issued isIssued)

theorem ledgerKept_step (kept : LedgerKept ledger)
    (taken : ledgerStep environment ledger action = some next) : LedgerKept next where
  stores _ member := storesIssued_effect kept (ledgerStep_effect taken) member
  unissued _ absent := unissued_effect kept (ledgerStep_effect taken) absent
  issued _ _ isIssued := issued_effect kept (ledgerStep_effect taken)
    (fun member => issued_subset (ledgerStep_accounts taken) member) isIssued

theorem ledgerKept_of_history (history : AccountHistory environment ledger) :
    LedgerKept ledger :=
  history.invariant LedgerKept
    ⟨List.forall_mem_nil _, fun _ _ => ⟨rfl, rfl⟩, fun _ _ isIssued => by cases isIssued⟩
    fun _ _ _ kept _ taken => ledgerKept_step kept taken

end Stored

/-! ### Ways to become active -/

section Activations

variable {environment : Environment} {ledger next : AccountLedger} {action : AccountAction}
  {store : Store} {before after : User}

/-- With a token that is accepted within its time, the account presents the one that the ledger has
for it. -/
theorem issued_of_accepted {key dateKey token : String} {expirationMs now : Long}
    {entry : Option IssuedToken} {user : User}
    (tokens : user.metadata key = entry.map IssuedToken.token)
    (dates : user.metadata dateKey = entry.map fun issued => toString issued.issuedOn)
    (answers : hasMetadataValue environment.platform key token user = true)
    (recent : StoredWithin expirationMs dateKey now user) :
    ∃ issued, entry = some issued ∧ now - issued.issuedOn ≤ expirationMs ∧
      Presents environment user issued token := by
  have stored := hasMetadataValue_iff.mp answers
  cases entry with
  | none =>
      have absent : user.metadata key = none := tokens
      cases scope : environment.platform.elementsScope <;>
        simp [scope, absent, User.Holds] at stored
  | some issued =>
      obtain ⟨tokenDate, dated, bound⟩ := recent
      rw [dates] at dated
      rw [parseLong_toString dated] at bound
      refine ⟨issued, rfl, bound, ?_⟩
      unfold Presents
      cases scope : environment.platform.elementsScope with
      | entry =>
          rw [scope] at stored
          obtain ⟨value, isStored, same⟩ := stored
          exact Option.some.inj (isStored.symm.trans tokens) ▸ same
      | collection =>
          rw [scope] at stored
          exact stored.2

/-- An account that `activateUser` changes was waiting for that, and stores the token since no more
than 24 hours. -/
theorem activateUser_changes {token : String} {now : Long}
    (known : store.users.find before.id = some before)
    (found : (activateUser environment token now store).1.users.find before.id = some after)
    (different : after ≠ before) :
    before.accountStatus = .pendingActivation ∧
      hasMetadataValue environment.platform activationTokenMetadataKey token before = true ∧
      StoredWithin activationTokenExpirationMs activationTokenDateMetadataKey now before := by
  unfold activateUser at found
  rcases executeInTransactionWithResult_cases (activateUserBody environment token now) store with
    ⟨changed, next, returned, same⟩ | ⟨thrown, -, same⟩
  · obtain ⟨user, answer, recent, pending, isChanged, rfl⟩ := activateUserBody_ok returned
    obtain ⟨⟨member, answers⟩, -⟩ := findUsersWithMetadataValues_eq_some.mp answer
    have sameId : changed.id = user.id := by rw [isChanged]
    rw [same] at found
    rcases Table.find_set_cases member sameId known found with ⟨rfl, -⟩ | unchanged
    · exact ⟨pending, answers, recent⟩
    · exact absurd unchanged different
  · rw [same, known] at found
    exact absurd (Option.some.inj found).symm different

theorem completePasswordReset_changes {token salt newPassword : String} {now : Long}
    (known : store.users.find before.id = some before)
    (found : (completePasswordReset environment token salt newPassword now store).1.users.find
      before.id = some after)
    (different : after ≠ before) :
    before.accountStatus = .resetPassword ∧
      hasMetadataValue environment.platform resetPasswordActivationToken token before = true ∧
      StoredWithin resetPasswordTokenExpirationMs resetPasswordActivationTokenDate now before := by
  unfold completePasswordReset at found
  rcases transaction_cases (completePasswordResetBody environment token salt newPassword now) store
    with ⟨changed, next, returned, same⟩ | ⟨thrown, -, same⟩
  · obtain ⟨user, answer, recent, locked, isChanged, rfl⟩ := completePasswordResetBody_ok returned
    obtain ⟨⟨member, answers⟩, -⟩ := findUsersWithMetadataValues_eq_some.mp answer
    have sameId : changed.id = user.id := by
      rw [isChanged]
      rfl
    rw [same] at found
    rcases Table.find_set_cases member sameId known found with ⟨rfl, -⟩ | unchanged
    · exact ⟨locked, answers, recent⟩
    · exact absurd unchanged different
  · rw [same, known] at found
    exact absurd (Option.some.inj found).symm different

/-- The row of an account after a call is the one before it, or the one that the call has put in its
place. -/
theorem account_changes {state nextState : AccountState}
    (taken : accountStep environment state action = some nextState)
    (known : state.store.users.find before.id = some before)
    (found : nextState.store.users.find before.id = some after) :
    after = before ∨ ChangesUser environment state.store action before after := by
  rcases accountStep_users taken with same | ⟨row, -, inserted⟩ |
    ⟨user, member, changed, changes, saved⟩
  · rw [same, known] at found
    exact .inl (Option.some.inj found).symm
  · rw [inserted, Table.find_insert_of_find known] at found
    exact .inl (Option.some.inj found).symm
  · rw [saved] at found
    rcases Table.find_set_cases member changes.id_eq.1 known found with ⟨rfl, rfl⟩ | unchanged
    · exact .inr changes
    · exact .inl unchanged

theorem becomesActive_step (kept : LedgerKept ledger)
    (taken : ledgerStep environment ledger action = some next)
    (known : ledger.store.users.find before.id = some before)
    (found : next.store.users.find before.id = some after)
    (inactive : before.accountStatus ≠ .active) (active : after.accountStatus = .active) :
    ActivatesAccount environment ledger action before ∨
      ResetsAccount environment ledger action before := by
  have accountsTaken := ledgerStep_accounts taken
  have stores := kept.stores before (Table.mem_of_find known)
  have different : after ≠ before := by
    rintro rfl
    exact inactive active
  have changes := (account_changes accountsTaken known found).resolve_left different
  cases action with
  | createUser | createExternalUser => exact changes.elim
  | editUser =>
      obtain ⟨-, rfl⟩ := changes
      exact absurd active inactive
  | activateUser token now =>
      have isNext := (Option.some.inj accountsTaken).symm
      rw [AccountLedger.store, isNext] at found
      obtain ⟨pending, answers, recent⟩ := activateUser_changes known found different
      exact .inl ⟨pending, token, now, (issued_of_accepted stores.activationToken
        stores.activationDate answers recent).imp fun issued facts => ⟨rfl, facts⟩⟩
  | resetPassword =>
      obtain rfl := changes
      cases active
  | completePasswordReset token salt newPassword now =>
      have isNext := (Option.some.inj accountsTaken).symm
      rw [AccountLedger.store, isNext] at found
      obtain ⟨locked, answers, recent⟩ := completePasswordReset_changes known found different
      exact .inr ⟨locked, token, salt, newPassword, now, (issued_of_accepted stores.resetToken
        stores.resetDate answers recent).imp fun issued facts => ⟨rfl, facts⟩⟩
  | changePassword =>
      obtain rfl := changes
      exact absurd active inactive
  | updateLoginAttempts =>
      obtain ⟨-, ⟨-, rfl⟩ | ⟨-, rfl⟩⟩ := changes
      · cases active
      · exact absurd active inactive
  | resetLoginAttempts =>
      obtain rfl := changes
      exact absurd active inactive

/-! ### An activation token after its use -/

/-- The token was issued, and no account that answers to it waits for its activation. -/
structure Spent (environment : Environment) (token : String) (ledger : AccountLedger) :
    Prop where
  issued : ledger.accounts.HasIssued environment.platform token
  activated : ∀ user ∈ ledger.store.users.rows,
    hasMetadataValue environment.platform activationTokenMetadataKey token user = true →
      user.accountStatus ≠ .pendingActivation

/-- An account that is created does not answer to a token that was issued before. -/
theorem not_answers_created {token : String} {user : User} {issued : IssuedToken}
    (metadata : user.metadataItems = activationMetadata issued.token issued.issuedOn)
    (other : ¬ SameToken environment.platform issued.token token)
    (clock : NotWrittenAsClock environment token issued.issuedOn) :
    hasMetadataValue environment.platform activationTokenMetadataKey token user ≠ true := by
  intro answers
  have stored := hasMetadataValue_iff.mp answers
  have lookup (key : String) := metadata_activationMetadata issued.token issued.issuedOn key
  rw [← metadata] at lookup
  cases scope : environment.platform.elementsScope with
  | entry =>
      rw [scope] at stored
      obtain ⟨value, isStored, same⟩ := stored
      have isToken := (lookup activationTokenMetadataKey).symm.trans isStored
      rw [if_neg (by decide), if_pos rfl] at isToken
      exact other (Option.some.inj isToken ▸ same)
  | collection =>
      rw [scope] at stored
      obtain ⟨-, key, value, isStored, same⟩ := stored
      have isEntry := (lookup key).symm.trans isStored
      split at isEntry
      · exact clock scope (Option.some.inj isEntry ▸ same)
      split at isEntry
      · exact other (Option.some.inj isEntry ▸ same)
      · cases isEntry

theorem spent_step {token : String} (spent : Spent environment token ledger)
    (unlike : CreatesUnlike environment token ledger action)
    (taken : ledgerStep environment ledger action = some next) :
    Spent environment token next := by
  refine ⟨spent.issued.grow (issued_subset (ledgerStep_accounts taken)),
    fun user member answers => ?_⟩
  have old (oldMember : user ∈ ledger.store.users.rows) := spent.activated user oldMember answers
  cases ledgerStep_effect taken with
  | unchanged users => exact old (users ▸ member)
  | created row issued metadata called fresh recorded users =>
      rw [users, Table.mem_insert] at member
      rcases member with oldMember | rfl
      · exact old oldMember
      · obtain ⟨input, guid, salt, rfl⟩ := called
        have isNew : ¬ SameToken environment.platform issued.token token :=
          fun same => fresh (spent.issued.congr same)
        exact absurd answers (not_answers_created metadata isNew unlike)
  | createdExternally row metadata users =>
      rw [users, Table.mem_insert] at member
      rcases member with oldMember | rfl
      · exact old oldMember
      · have noItems : hasMetadataValue environment.platform activationTokenMetadataKey token
            { row with id := ledger.store.users.nextId } = false := by
          unfold hasMetadataValue
          rw [metadata]
          split <;> rfl
        exact absurd (noItems.symm.trans answers) Bool.false_ne_true
  | requested found issued foundMember users =>
      rw [users, Table.mem_set] at member
      rcases member with ⟨rfl, -⟩ | ⟨oldMember, -⟩
      · exact nofun
      · exact old oldMember
  | changed found changed foundMember sameId metadata status users =>
      rw [users, Table.mem_set] at member
      rcases member with ⟨rfl, -⟩ | ⟨oldMember, -⟩
      · refine fun pending => spent.activated found foundMember ?_ (status pending)
        rw [← answers, hasMetadataValue, hasMetadataValue, metadata]
      · exact old oldMember

/-- `activateUser` is accepted for the one account that answers to the token, which waits for it. -/
theorem activateUser_accepted {token : String} {now : Long} {user : User}
    (accepted : (activateUser environment token now store).2 = .ok user) :
    ∃ found ∈ store.users.rows,
      hasMetadataValue environment.platform activationTokenMetadataKey token found = true ∧
      found.accountStatus = .pendingActivation ∧
      (∀ other ∈ store.users.rows,
        hasMetadataValue environment.platform activationTokenMetadataKey token other = true →
          other = found) ∧
      (activateUser environment token now store).1 =
        store.saveUser { found with accountStatus := .active } := by
  unfold activateUser at accepted ⊢
  rcases executeInTransactionWithResult_cases (activateUserBody environment token now) store with
    ⟨changed, next, returned, same⟩ | ⟨thrown, -, same⟩
  · obtain ⟨found, answer, -, pending, rfl, rfl⟩ := activateUserBody_ok returned
    obtain ⟨⟨member, answers⟩, only⟩ := findUsersWithMetadataValues_eq_some.mp answer
    exact ⟨found, member, answers, pending, only, by rw [same]⟩
  · rw [same] at accepted
    cases accepted

theorem spent_activated {id : Long} {issued : IssuedToken} {token : String} {now : Long}
    {user : User} (kept : LedgerKept ledger) (entered : ledger.activation id = some issued)
    (isToken : SameToken environment.platform issued.token token)
    (accepted : (activateUser environment token now ledger.store).2 = .ok user)
    (taken : ledgerStep environment ledger (.activateUser token now) = some next) :
    Spent environment token next := by
  obtain ⟨found, member, answers, -, only, saved⟩ := activateUser_accepted accepted
  have isIssued : ledger.accounts.HasIssued environment.platform token :=
    ⟨issued.token, kept.issued id issued entered, isToken⟩
  refine ⟨isIssued.grow (issued_subset (ledgerStep_accounts taken)),
    fun other otherMember alsoAnswers => ?_⟩
  have isNext := (Option.some.inj (ledgerStep_accounts taken)).symm
  rw [AccountLedger.store, isNext] at otherMember
  change other ∈ (activateUser environment token now ledger.store).1.users.rows at otherMember
  rw [saved] at otherMember
  rcases Table.mem_set.mp otherMember with ⟨rfl, -⟩ | ⟨old, different⟩
  · exact nofun
  · exact absurd (congrArg User.id (only other old alsoAnswers)) different

end Activations

/-! ### The laws hold -/

/-- In every history of a new installation the accounts follow the laws, where a refused call
changes nothing unless it is the failed login that locks an account. -/
theorem accountsFollowLifecycle (environment : Environment) :
    AccountsFollowLifecycle environment (LeavesUnchangedOrLocks environment) where
  stored ledger history := (ledgerKept_of_history history).stores
  becomesActive ledger action next history taken before after known found inactive active :=
    becomesActive_step (ledgerKept_of_history history) taken known found inactive active
  staysOutOfPending ledger action next history taken before after known found pending := by
    rcases account_changes (ledgerStep_accounts taken) known found with rfl | changes
    · exact pending
    · exact changes.id_eq.2 pending
  activatesOnce ledger id issued token now user next later history entered isToken accepted taken
      run again laterNow laterUser isAgain acceptedAgain := by
    have spent : Spent environment token later :=
      run.invariant (Spent environment token)
        (spent_activated (ledgerKept_of_history history) entered isToken accepted taken)
        fun _ _ _ holds unlike laterTaken => spent_step holds unlike laterTaken
    obtain ⟨found, member, answers, pending, -⟩ := activateUser_accepted acceptedAgain
    rw [hasMetadataValue_congr (isAgain.symm.trans isToken)] at answers
    exact spent.activated found member answers pending
  refused ledger action next thrown history taken failed :=
    accountStep_refused (ledgerStep_accounts taken) failed

/-! ### A refused call that changes an account -/

/-- The history of the calls from a new installation on. -/
def ledgerAfter (actions : List AccountAction) : AccountLedger :=
  (run (ledgerStep (plainEnvironment .entry)) .empty actions).getD .empty

def createAlice : AccountAction := .createUser (plainInput "alice") "guid" "token" "" 0
def failAlice : AccountAction := .updateLoginAttempts "alice"

/-- Alice after five failed logins. -/
def fiveFailures : List AccountAction := createAlice :: List.replicate 5 failAlice

/-- Histories that exist are those that the calls lead to. -/
theorem ledgerAfter_history {actions : List AccountAction}
    (happens : (run (ledgerStep (plainEnvironment .entry)) .empty actions).isSome = true) :
    AccountHistory (plainEnvironment .entry) (ledgerAfter actions) := by
  obtain ⟨final, executed⟩ := Option.isSome_iff_exists.mp happens
  rw [ledgerAfter, executed]
  exact reaches_of_run_unrestricted actions executed

/-- The sixth failed login is refused, and has locked the account. -/
theorem not_accountsFollowLifecycle :
    ¬ AccountsFollowLifecycle (plainEnvironment .entry) LeavesUnchanged := by
  intro laws
  have history : AccountHistory (plainEnvironment .entry) (ledgerAfter fiveFailures) :=
    ledgerAfter_history (by decide)
  have taken : ledgerStep (plainEnvironment .entry) (ledgerAfter fiveFailures) failAlice =
      some (ledgerAfter (fiveFailures ++ [failAlice])) :=
    rfl
  have refused : accountRefusal (plainEnvironment .entry) (ledgerAfter fiveFailures).store
      failAlice = .error (hitMaximumLoginAttempts "alice") :=
    rfl
  have unchanged := laws.refused _ _ _ _ history taken refused
  have changed : (ledgerAfter (fiveFailures ++ [failAlice])).store ≠
      (ledgerAfter fiveFailures).store := by
    decide
  exact changed unchanged

end GraffiTab
