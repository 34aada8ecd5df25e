/-
This file models the life of an account: activation, passwords and failed logins.

The operations are those of `UserService`. They are put together in one machine whose
actions are the operations with everything that comes from outside as arguments: the
data of the caller, the clock reading, the random salt and the generated token. The
machine keeps the tokens that were generated, because a fresh token is one that was
neither generated before nor stored as a token of some user.
-/

import GraffiTab.Library.Runs
import GraffiTab.Registration

namespace GraffiTab

open Tables

/-- 24 hours in milliseconds. -/
def activationTokenExpirationMs : Long := 24 * 60 * 60 * 1000

/-- 30 minutes in milliseconds. -/
def resetPasswordTokenExpirationMs : Long := 30 * 60 * 1000

/-- Writes a changed user row back. -/
def Store.saveUser (store : Store) (user : User) : Store :=
  { store with users := store.users.set user }

/-- `UserService.merge` of a user that an earlier transaction has read: its columns are written,
while the collection of its metadata, which was never initialized, stays as it is stored. No user
is ever deleted. -/
def Store.mergeUser (store : Store) (detached : User) : Store :=
  { store with
    users :=
      match findUserById detached.id store with
      | some stored => store.users.set { detached with metadataItems := stored.metadataItems }
      | none => store.users }

/-- When a row is written back that keeps its names, a text that named one user names the same one
afterwards. -/
theorem findByUsernameOrEmail_saveUser {platform : Platform} {store : Store}
    {usernameOrEmail : String} {user found changed : User} (member : found ∈ store.users.rows)
    (id : changed.id = found.id) (username : changed.username = found.username)
    (email : changed.email = found.email)
    (answer : findByUsernameOrEmail platform usernameOrEmail store = .ok (some user)) :
    findByUsernameOrEmail platform usernameOrEmail (store.saveUser changed) =
      .ok (some (if user = found then changed else user)) := by
  obtain ⟨⟨userMember, named⟩, only⟩ := findByUsernameOrEmail_eq_some.mp answer
  have sameNames : changed.isNamed platform usernameOrEmail =
      found.isNamed platform usernameOrEmail := by
    rw [User.isNamed, User.isNamed, username, email]
  by_cases same : user = found
  · rw [if_pos same]
    rw [same] at named only
    refine findByUsernameOrEmail_eq_some.mpr ⟨⟨Table.mem_set.mpr (.inl ⟨rfl, found, member,
      id.symm⟩), sameNames.trans named⟩, fun other otherMember otherNamed => ?_⟩
    rcases Table.mem_set.mp otherMember with ⟨isChanged, -⟩ | ⟨old, different⟩
    · exact isChanged
    · exact absurd ((congrArg User.id (only other old otherNamed)).trans id.symm) different
  · rw [if_neg same]
    have otherId : user.id ≠ changed.id := fun sameId =>
      same (Table.eq_of_id_eq userMember member (sameId.trans id))
    refine findByUsernameOrEmail_eq_some.mpr ⟨⟨Table.mem_set.mpr (.inr ⟨userMember, otherId⟩),
      named⟩, fun other otherMember otherNamed => ?_⟩
    rcases Table.mem_set.mp otherMember with ⟨isChanged, -⟩ | ⟨old, -⟩
    · rw [isChanged, sameNames] at otherNamed
      exact absurd (only found member otherNamed).symm same
    · exact only other old otherNamed

/-- The value of a metadata key. -/
def User.metadata (user : User) (key : String) : Option String := user.metadataItems.lookup key

def User.putMetadata (user : User) (key value : String) : User :=
  { user with metadataItems := user.metadataItems.insert key value }

/-! ### Sessions of a user -/

/-- `UserSessionService.logoutEverywhere`: deletes the stored sessions of the user, and may keep
that of the request. -/
def logoutEverywhere (platform : Platform) (user : User) (keepCurrentSession : Bool)
    (session : Option String) : Transaction Unit := fun store =>
  if keepCurrentSession && session.isNone then
    .error (.illegalStateException
      "Current session is null -- this is not possible, investigate!")
  else
    .ok ((), { store with
      sessions := store.sessions.remove fun row =>
        row.userId = user.id &&
          !(keepCurrentSession && session.any fun kept => SameText platform row.sessionId kept) })

section Operations

variable (environment : Environment)

/-! ### Tokens -/

/-- The transaction of `activateUser`. -/
def activateUserBody (token : String) (now : Long) : Transaction User := fun store => do
  match ← findUsersWithMetadataValues environment.platform activationTokenMetadataKey token store
    with
  | none => throw (entityNotFoundException .tokenNotFound ("Could not find token " ++ token))
  | some innerUser =>
      let tokenDate ← parseLong (innerUser.metadata activationTokenDateMetadataKey)
      if now - tokenDate > activationTokenExpirationMs then
        throw (restApiException .tokenExpired "This token has expired.")
      else if innerUser.accountStatus ≠ .pendingActivation then
        throw (restApiException .userNotInExpectedState
          ("Current user is not in the expected state " ++ AccountStatus.pendingActivation.name))
      else
        let activated := { innerUser with accountStatus := .active }
        return (activated, store.saveUser activated)

/-- `UserService.activateUser`. -/
def activateUser (token : String) (now : Long) (store : Store) :
    Store × Except Throwable User :=
  executeInTransactionWithResult (activateUserBody environment token now) store

/-- The user with the reset token, locked until the password is reset. -/
def withResetToken (user : User) (resetPasswordToken : String) (now : Long) : User :=
  ({ user with accountStatus := .resetPassword }.putMetadata resetPasswordActivationToken
    resetPasswordToken).putMetadata resetPasswordActivationTokenDate (toString now)

/-- The transaction of `resetPassword`. -/
def resetPasswordBody (email resetPasswordToken : String) (now : Long) : Transaction User :=
  fun store => do
    match ← findByEmail environment.platform email store with
    | none =>
        throw (entityNotFoundException .userNotFound ("User with email: " ++ email ++ " not found"))
    | some innerUser =>
        let locked := withResetToken innerUser resetPasswordToken now
        return (locked, store.saveUser locked)

/-- `UserService.resetPassword`. -/
def resetPassword (email resetPasswordToken : String) (now : Long) (store : Store) :
    Store × Except Throwable User :=
  executeInTransactionWithResult (resetPasswordBody environment email resetPasswordToken now) store

/-- The user after its password was reset. -/
def withResetPassword (user : User) (salt newPassword : String) : User :=
  { user with
    accountStatus := .active
    password := environment.encoder.encode salt newPassword
    failedLogins := some 0 }

/-- The transaction of `completePasswordReset`. -/
def completePasswordResetBody (token salt newPassword : String) (now : Long) :
    Transaction User := fun store => do
  match ← findUsersWithMetadataValues environment.platform resetPasswordActivationToken token store
    with
  | none => throw (entityNotFoundException .tokenNotFound ("Could not find token " ++ token))
  | some user =>
      let tokenDate ← parseLong (user.metadata resetPasswordActivationTokenDate)
      if now - tokenDate > resetPasswordTokenExpirationMs then
        throw (restApiException .tokenExpired "This token has expired.")
      else if user.accountStatus ≠ .resetPassword then
        throw (restApiException .userNotInExpectedState
          ("Current user is not in the expected state " ++ AccountStatus.resetPassword.name))
      else
        let changed := withResetPassword environment user salt newPassword
        let ((), next) ← logoutEverywhere environment.platform changed false none
          (store.saveUser changed)
        return (changed, next)

/-- `UserService.completePasswordReset`. -/
def completePasswordReset (token salt newPassword : String) (now : Long) (store : Store) :
    Store × Except Throwable User :=
  transaction (completePasswordResetBody environment token salt newPassword now) store

/-! ### Passwords -/

/-- The user after its password was changed. -/
def withChangedPassword (user : User) (salt newPassword : String) (now : Long) : User :=
  { user with
    password := environment.encoder.encode salt newPassword
    updatedOn := some now
    failedLogins := some 0 }

/-- The transaction of `changePassword`; `session` is the session of the request. -/
def changePasswordBody (currentUserId : Long) (currentPassword salt newPassword : String)
    (session : Option String) (now : Long) : Transaction User := fun store =>
  match findUserById currentUserId store with
  | none => .error .nullPointerException
  | some user =>
      if !environment.encoder.encodedMatches currentPassword user.password then
        .error (restApiException .incorrectPassword "The provided password was incorrect.")
      else do
        let changed := withChangedPassword environment user salt newPassword now
        let ((), next) ← logoutEverywhere environment.platform changed true session
          (store.saveUser changed)
        return (changed, next)

/-- `UserService.changePassword`. -/
def changePassword (currentUserId : Long) (currentPassword salt newPassword : String)
    (session : Option String) (now : Long) (store : Store) : Store × Except Throwable User :=
  transaction
    (changePasswordBody environment currentUserId currentPassword salt newPassword session now)
    store

/-! ### Failed logins -/

/-- The number of failed logins, where null counts as none. -/
def User.failedLoginAttempts (user : User) : Int := user.failedLogins.getD 0

/-- The transaction of `updateLoginAttempts`; it answers whether the user was locked. -/
def updateLoginAttemptsBody (usernameOrEmail : String) : Transaction Bool := fun store => do
  match ← findByUsernameOrEmail environment.platform usernameOrEmail store with
  | none => throw .nullPointerException
  | some user =>
      if user.failedLoginAttempts ≥ 5 then
        return (true, store.saveUser { user with accountStatus := .resetPassword })
      else
        return (false, store.saveUser
          { user with failedLogins := some (user.failedLoginAttempts + 1) })

/-- `UserService.updateLoginAttempts`: the lock is committed before the exception is thrown. -/
def updateLoginAttempts (usernameOrEmail : String) (store : Store) :
    Store × Except Throwable Unit :=
  match executeInTransactionWithResult (updateLoginAttemptsBody environment usernameOrEmail) store
    with
  | (next, .ok true) =>
      (next, .error (restApiException .maximumLoginAttempts
        ("User [" ++ usernameOrEmail ++ "] hit maximum login attempts")))
  | (next, .ok false) => (next, .ok ())
  | (next, .error thrown) => (next, .error thrown)

/-- `UserService.resetLoginAttempts`. -/
def resetLoginAttempts (usernameOrEmail : String) (store : Store) :
    Store × Except Throwable Unit :=
  transaction (fun store => do
    match ← findByUsernameOrEmail environment.platform usernameOrEmail store with
    | none => throw .nullPointerException
    | some user => return ((), store.saveUser { user with failedLogins := some 0 })) store

end Operations

/-! ### What the operations do

Each operation that returns has found one user, and the store it commits is the given one with
that user changed; an operation that throws commits nothing. -/

section Specifications

variable {environment : Environment} {store next : Store} {user : User}

/-- The user stores a date under the key, and it is at most so long ago. -/
def StoredWithin (expirationMs : Long) (dateKey : String) (now : Long) (user : User) : Prop :=
  ∃ tokenDate, parseLong (user.metadata dateKey) = .ok tokenDate ∧ now - tokenDate ≤ expirationMs

theorem activateUserBody_ok {token : String} {now : Long}
    (returned : activateUserBody environment token now store = .ok (user, next)) :
    ∃ found, findUsersWithMetadataValues environment.platform activationTokenMetadataKey token
        store = .ok (some found) ∧
      StoredWithin activationTokenExpirationMs activationTokenDateMetadataKey now found ∧
      found.accountStatus = .pendingActivation ∧
      user = { found with accountStatus := .active } ∧ next = store.saveUser user := by
  obtain ⟨found, answer, rest⟩ := bind_eq_ok.mp returned
  cases found with
  | none => exact absurd rest throw_ne_ok
  | some found =>
      obtain ⟨tokenDate, dated, rest⟩ := bind_eq_ok.mp rest
      split at rest
      · exact absurd rest throw_ne_ok
      rename_i recent
      split at rest
      · exact absurd rest throw_ne_ok
      rename_i pending
      obtain ⟨rfl, rfl⟩ := Prod.mk.inj (Except.ok.inj rest)
      exact ⟨found, answer, ⟨tokenDate, dated, Int.not_lt.mp recent⟩, not_not.mp pending, rfl, rfl⟩

theorem resetPasswordBody_ok {email token : String} {now : Long}
    (returned : resetPasswordBody environment email token now store = .ok (user, next)) :
    ∃ found, findByEmail environment.platform email store = .ok (some found) ∧
      user = withResetToken found token now ∧ next = store.saveUser user := by
  obtain ⟨found, answer, rest⟩ := bind_eq_ok.mp returned
  cases found with
  | none => exact absurd rest throw_ne_ok
  | some found =>
      obtain ⟨rfl, rfl⟩ := Prod.mk.inj (Except.ok.inj rest)
      exact ⟨found, answer, rfl, rfl⟩

theorem logoutEverywhere_ok {platform : Platform} {keepCurrentSession : Bool}
    {session : Option String}
    (returned : logoutEverywhere platform user keepCurrentSession session store = .ok ((), next)) :
    (keepCurrentSession = true → session.isSome) ∧
      next = { store with
        sessions := store.sessions.remove fun row =>
          row.userId = user.id &&
            !(keepCurrentSession &&
              session.any fun kept => SameText platform row.sessionId kept) } := by
  unfold logoutEverywhere at returned
  split at returned
  · cases returned
  · rename_i hasSession
    refine ⟨fun keeps => ?_, (Prod.mk.inj (Except.ok.inj returned)).2.symm⟩
    rwa [keeps, Bool.true_and, Option.isNone_iff_eq_none, ← ne_eq, Option.ne_none_iff_isSome]
      at hasSession

/-- A reset that is accepted has found the one user with the token, locked for a reset; this user
is active again with the new password, and has no stored session. -/
theorem completePasswordResetBody_ok {token salt newPassword : String} {now : Long}
    (returned : completePasswordResetBody environment token salt newPassword now store =
      .ok (user, next)) :
    ∃ found, findUsersWithMetadataValues environment.platform resetPasswordActivationToken token
        store = .ok (some found) ∧
      StoredWithin resetPasswordTokenExpirationMs resetPasswordActivationTokenDate now found ∧
      found.accountStatus = .resetPassword ∧
      user = withResetPassword environment found salt newPassword ∧
      next = { store.saveUser user with
        sessions := store.sessions.remove fun row => row.userId = user.id } := by
  obtain ⟨found, answer, rest⟩ := bind_eq_ok.mp returned
  cases found with
  | none => exact absurd rest throw_ne_ok
  | some found =>
      obtain ⟨tokenDate, dated, rest⟩ := bind_eq_ok.mp rest
      split at rest
      · exact absurd rest throw_ne_ok
      rename_i recent
      split at rest
      · exact absurd rest throw_ne_ok
      rename_i locked
      obtain ⟨⟨⟨⟩, loggedOut⟩, logout, rest⟩ := bind_eq_ok.mp rest
      obtain ⟨rfl, rfl⟩ := Prod.mk.inj (Except.ok.inj rest)
      refine ⟨found, answer, ⟨tokenDate, dated, Int.not_lt.mp recent⟩, not_not.mp locked, rfl, ?_⟩
      rw [(logoutEverywhere_ok logout).2]
      simp only [Bool.false_and, Bool.not_false, Bool.and_true]
      rfl

/-- A new password is set for the current user, who has given the old one in a session; the other
stored sessions of this user are deleted. -/
theorem changePasswordBody_ok {currentUserId : Long} {currentPassword salt newPassword : String}
    {session : Option String} {now : Long}
    (returned : changePasswordBody environment currentUserId currentPassword salt newPassword
      session now store = .ok (user, next)) :
    ∃ found, findUserById currentUserId store = some found ∧
      environment.encoder.encodedMatches currentPassword found.password = true ∧
      session.isSome ∧
      user = withChangedPassword environment found salt newPassword now ∧
      next = { store.saveUser user with
        sessions := store.sessions.remove fun row =>
          row.userId = user.id &&
            !(session.any fun kept => SameText environment.platform row.sessionId kept) } := by
  unfold changePasswordBody at returned
  cases known : findUserById currentUserId store with
  | none =>
      rw [known] at returned
      cases returned
  | some found =>
      rw [known] at returned
      simp only at returned
      split at returned
      · cases returned
      rename_i matching
      rw [Bool.not_eq_true', Bool.not_eq_false] at matching
      obtain ⟨⟨⟨⟩, loggedOut⟩, logout, rest⟩ := bind_eq_ok.mp returned
      obtain ⟨rfl, rfl⟩ := Prod.mk.inj (Except.ok.inj rest)
      obtain ⟨hasSession, isSaved⟩ := logoutEverywhere_ok logout
      refine ⟨found, rfl, matching, hasSession rfl, rfl, ?_⟩
      rw [isSaved]
      simp only [Bool.true_and]
      rfl

/-- A failed login locks the account from the sixth one in a row on, and is counted before. -/
theorem updateLoginAttemptsBody_ok {usernameOrEmail : String} {locked : Bool}
    (returned : updateLoginAttemptsBody environment usernameOrEmail store = .ok (locked, next)) :
    ∃ found, findByUsernameOrEmail environment.platform usernameOrEmail store = .ok (some found) ∧
      ((found.failedLoginAttempts ≥ 5 ∧
          next = store.saveUser { found with accountStatus := .resetPassword }) ∨
        (found.failedLoginAttempts < 5 ∧
          next = store.saveUser
            { found with failedLogins := some (found.failedLoginAttempts + 1) })) := by
  obtain ⟨found, answer, rest⟩ := bind_eq_ok.mp returned
  cases found with
  | none => exact absurd rest throw_ne_ok
  | some found =>
      refine ⟨found, answer, ?_⟩
      simp only at rest
      split at rest
      · rename_i many
        exact .inl ⟨many, (Prod.mk.inj (Except.ok.inj rest)).2.symm⟩
      · rename_i few
        exact .inr ⟨Int.not_le.mp few, (Prod.mk.inj (Except.ok.inj rest)).2.symm⟩

/-- The exception with which a failed login that locks the account is answered. -/
def hitMaximumLoginAttempts (usernameOrEmail : String) : Throwable :=
  restApiException .maximumLoginAttempts
    ("User [" ++ usernameOrEmail ++ "] hit maximum login attempts")

/-- The user with one failed login more. -/
def User.withFailedLogin (user : User) : User :=
  { user with failedLogins := some (user.failedLoginAttempts + 1) }

/-- The user that failed logins have locked. -/
def User.locked (user : User) : User := { user with accountStatus := .resetPassword }

/-- What a failed login does to the account that it names. -/
theorem updateLoginAttempts_found {usernameOrEmail : String}
    (answer : findByUsernameOrEmail environment.platform usernameOrEmail store = .ok (some user)) :
    updateLoginAttempts environment usernameOrEmail store =
      if user.failedLoginAttempts ≥ 5 then
        (store.saveUser user.locked, .error (hitMaximumLoginAttempts usernameOrEmail))
      else (store.saveUser user.withFailedLogin, .ok ()) := by
  have body : updateLoginAttemptsBody environment usernameOrEmail store =
      if user.failedLoginAttempts ≥ 5 then .ok (true, store.saveUser user.locked)
      else .ok (false, store.saveUser user.withFailedLogin) := by
    rw [updateLoginAttemptsBody, answer]
    rfl
  rw [updateLoginAttempts, executeInTransactionWithResult, body]
  by_cases many : user.failedLoginAttempts ≥ 5
  · simp only [if_pos many]
    rfl
  · simp only [if_neg many]

/-- A failed login that names no single account changes nothing. -/
theorem updateLoginAttempts_unfound {usernameOrEmail : String}
    (unfound : ∀ user,
      findByUsernameOrEmail environment.platform usernameOrEmail store ≠ .ok (some user)) :
    ∃ thrown, updateLoginAttempts environment usernameOrEmail store = (store, .error thrown) := by
  rw [updateLoginAttempts, executeInTransactionWithResult, updateLoginAttemptsBody]
  cases answer : findByUsernameOrEmail environment.platform usernameOrEmail store with
  | error thrown => exact ⟨.runtimeException thrown, rfl⟩
  | ok found =>
      cases found with
      | none => exact ⟨.runtimeException .nullPointerException, rfl⟩
      | some user => exact absurd answer (unfound user)

/-- What `updateLoginAttempts` leaves in the store. -/
theorem updateLoginAttempts_store (usernameOrEmail : String) :
    (updateLoginAttempts environment usernameOrEmail store).1 =
      (executeInTransactionWithResult (updateLoginAttemptsBody environment usernameOrEmail)
        store).1 := by
  unfold updateLoginAttempts
  split <;> simp_all

theorem resetLoginAttempts_cases (environment : Environment) (store : Store)
    (usernameOrEmail : String) :
    (resetLoginAttempts environment usernameOrEmail store).1 = store ∨
      ∃ found ∈ store.users.rows,
        (resetLoginAttempts environment usernameOrEmail store).1 =
          store.saveUser { found with failedLogins := some 0 } := by
  rcases transaction_cases (fun store => do
    match ← findByUsernameOrEmail environment.platform usernameOrEmail store with
    | none => throw .nullPointerException
    | some user => return ((), store.saveUser { user with failedLogins := some 0 })) store with
    ⟨⟨⟩, next, returned, same⟩ | ⟨thrown, -, same⟩
  · obtain ⟨found, answer, rest⟩ := bind_eq_ok.mp returned
    cases found with
    | none => exact absurd rest throw_ne_ok
    | some found =>
        obtain ⟨-, rfl⟩ := Prod.mk.inj (Except.ok.inj rest)
        exact .inr ⟨found, mem_of_findByUsernameOrEmail answer, congrArg Prod.fst same⟩
  · exact .inl (congrArg Prod.fst same)

end Specifications

/-! ### The machine of the accounts -/

/-- The store, and the tokens generated so far. -/
structure AccountState where
  store : Store
  issued : List String
  deriving DecidableEq

/-- The operations on accounts with what they get from outside. -/
inductive AccountAction where
  | createUser (user : UserInput) (guid userToken salt : String) (now : Long)
  | createExternalUser (user : UserInput) (account : ExternalAccount)
      (guid salt generated : String) (now : Long)
  | editUser (currentUserId : Long) (toEdit : UserInput) (now : Long)
  | activateUser (token : String) (now : Long)
  | resetPassword (email token : String) (now : Long)
  | completePasswordReset (token salt newPassword : String) (now : Long)
  | changePassword (currentUserId : Long) (currentPassword salt newPassword : String)
      (session : Option String) (now : Long)
  | updateLoginAttempts (usernameOrEmail : String)
  | resetLoginAttempts (usernameOrEmail : String)

/-- The metadata keys under which clock readings are stored. -/
def clockKeys : List String :=
  [activationTokenDateMetadataKey, resetPasswordActivationTokenDate]

/-- The generator made the token before, or one that the database takes for it. -/
def AccountState.HasIssued (platform : Platform) (state : AccountState) (token : String) : Prop :=
  ∃ issued ∈ state.issued, SameToken platform issued token

/-- The generator makes only tokens that the database tells from those made before. -/
def FreshToken (platform : Platform) (token : String) (state : AccountState) : Prop :=
  ¬ state.HasIssued platform token ∧
    ∀ user ∈ state.store.users.rows, ∀ item ∈ user.metadataItems.entries,
      item.1 ∉ clockKeys → ¬ SameToken platform item.2 token

instance (platform : Platform) (state : AccountState) (token : String) :
    Decidable (state.HasIssued platform token) :=
  List.decidableBEx _ _

instance (platform : Platform) (token : String) (state : AccountState) :
    Decidable (FreshToken platform token state) :=
  inferInstanceAs (Decidable (_ ∧ _))

/-- One operation, with its answer left out; an operation that generates a token can only happen
with a fresh one. An operation is one step, and reads the row as it is stored: a copy of the row in
the cache of the thread, which `editUser` and `changePassword` merge, is taken to be no older. -/
def accountStep (environment : Environment) (state : AccountState) :
    AccountAction → Option AccountState
  | .createUser user guid userToken salt now =>
      if FreshToken environment.platform userToken state then
        some ⟨(createUser environment user guid userToken salt now state.store).1,
          userToken :: state.issued⟩
      else none
  | .createExternalUser user account guid salt generated now =>
      some { state with
        store := (createExternalUser environment user account guid salt generated now
          state.store).1 }
  | .editUser currentUserId toEdit now =>
      some { state with
        store := (transaction (editUser environment currentUserId toEdit now) state.store).1 }
  | .activateUser token now =>
      some { state with store := (activateUser environment token now state.store).1 }
  | .resetPassword email token now =>
      if FreshToken environment.platform token state then
        some ⟨(resetPassword environment email token now state.store).1, token :: state.issued⟩
      else none
  | .completePasswordReset token salt newPassword now =>
      some { state with
        store := (completePasswordReset environment token salt newPassword now state.store).1 }
  | .changePassword currentUserId currentPassword salt newPassword session now =>
      some { state with
        store := (changePassword environment currentUserId currentPassword salt newPassword session
          now state.store).1 }
  | .updateLoginAttempts usernameOrEmail =>
      some { state with store := (updateLoginAttempts environment usernameOrEmail state.store).1 }
  | .resetLoginAttempts usernameOrEmail =>
      some { state with store := (resetLoginAttempts environment usernameOrEmail state.store).1 }

/-! ### What a step does to the users -/

section Steps

variable (environment : Environment)

/-- The user row that an action inserts. -/
def InsertsUser (store : Store) : AccountAction → User → Prop
  | .createUser user guid userToken salt now, row =>
      checkCreateUser environment user store = .ok () ∧
        ∃ avatarAsset coverAsset, row = newUserRow environment.platform user guid
        (environment.encoder.encode salt (user.password.getD "")) now
        (if environment.config.immediateUserActivation then .active else .pendingActivation)
        (activationMetadata userToken now) avatarAsset coverAsset
  | .createExternalUser user account guid salt generated now, row =>
      checkCreateExternalUser environment user account salt generated store = .ok () ∧
        ∃ avatarAsset coverAsset, row = newUserRow environment.platform user guid
        (environment.encoder.encode salt generated) now .active ∅ avatarAsset coverAsset
  | _, _ => False

/-- The user row that an action finds, and the row it puts in its place. -/
def ChangesUser (store : Store) : AccountAction → User → User → Prop
  | .editUser currentUserId toEdit now, found, changed =>
      checkEditUser environment currentUserId toEdit store = .ok found ∧
        changed = editedUser environment found toEdit now
  | .activateUser _ _, found, changed =>
      found.accountStatus = .pendingActivation ∧ changed = { found with accountStatus := .active }
  | .resetPassword _ token now, found, changed => changed = withResetToken found token now
  | .completePasswordReset _ salt newPassword _, found, changed =>
      found.accountStatus = .resetPassword ∧
        changed = withResetPassword environment found salt newPassword
  | .changePassword _ _ salt newPassword _ now, found, changed =>
      changed = withChangedPassword environment found salt newPassword now
  | .updateLoginAttempts usernameOrEmail, found, changed =>
      findByUsernameOrEmail environment.platform usernameOrEmail store = .ok (some found) ∧
        ((found.failedLoginAttempts ≥ 5 ∧
            changed = { found with accountStatus := .resetPassword }) ∨
          (found.failedLoginAttempts < 5 ∧
            changed = { found with failedLogins := some (found.failedLoginAttempts + 1) }))
  | .resetLoginAttempts _, found, changed => changed = { found with failedLogins := some 0 }
  | _, _, _ => False

/-- What a step does to the table of users: it leaves it as it is, inserts a user, or changes
one. -/
def StepsUsers (store : Store) (action : AccountAction) (users : Table User) : Prop :=
  users = store.users ∨
    (∃ row, InsertsUser environment store action row ∧ users = store.users.insert row) ∨
    ∃ found ∈ store.users.rows, ∃ changed, ChangesUser environment store action found changed ∧
      users = store.users.set changed

variable {environment} {state next : AccountState}

/-- A step changes nothing but users, external accounts and sessions. -/
theorem accountStep_store {action : AccountAction}
    (taken : accountStep environment state action = some next) :
    ∃ users externalProviders sessions lastAssetId,
      next.store =
        { state.store with users, externalProviders, sessions, lastAssetId } ∧
      StepsUsers environment state.store action users := by
  have unchanged (same : next.store = state.store) : ∃ users externalProviders sessions lastAssetId,
      next.store = { state.store with users, externalProviders, sessions, lastAssetId } ∧
        StepsUsers environment state.store action users :=
    ⟨_, _, _, _, same, .inl rfl⟩
  have changes {found changed : User} (sessions : Table UserSession)
      (member : found ∈ state.store.users.rows)
      (change : ChangesUser environment state.store action found changed)
      (same : next.store = { state.store.saveUser changed with sessions }) :
      ∃ users externalProviders sessions lastAssetId,
        next.store = { state.store with users, externalProviders, sessions, lastAssetId } ∧
          StepsUsers environment state.store action users :=
    ⟨_, _, _, _, same, .inr (.inr ⟨found, member, changed, change, rfl⟩)⟩
  cases action with
  | createUser user guid userToken salt now =>
      simp only [accountStep, Option.ite_none_right_eq_some, Option.some.injEq] at taken
      obtain ⟨-, rfl⟩ := taken
      rcases createUser_cases environment user guid userToken salt now state.store with
        ⟨thrown, same⟩ | ⟨row, lastAssetId, isRow, checked, same⟩
      · exact unchanged (congrArg Prod.fst same)
      · exact ⟨_, _, _, _, congrArg Prod.fst same, .inr (.inl ⟨row, ⟨checked, isRow⟩, rfl⟩)⟩
  | createExternalUser user account guid salt generated now =>
      obtain rfl := Option.some.inj taken
      rcases createExternalUser_cases environment user account guid salt generated now state.store
        with same | ⟨row, lastAssetId, isRow, checked, same⟩
      · exact unchanged same
      · exact ⟨_, _, _, _, same, .inr (.inl ⟨row, ⟨checked, isRow⟩, rfl⟩)⟩
  | editUser currentUserId toEdit now =>
      obtain rfl := Option.some.inj taken
      rcases transaction_cases (editUser environment currentUserId toEdit now) state.store with
        ⟨edited, committed, returned, same⟩ | ⟨thrown, -, same⟩
      · obtain ⟨found, checked, isEdited, rfl⟩ := editUser_ok environment returned
        exact changes state.store.sessions (checkEditUser_ok environment checked).1 ⟨checked, rfl⟩
          (congrArg Prod.fst same)
      · exact unchanged (congrArg Prod.fst same)
  | activateUser token now =>
      obtain rfl := Option.some.inj taken
      rcases executeInTransactionWithResult_cases (activateUserBody environment token now)
        state.store with ⟨changed, committed, returned, same⟩ | ⟨thrown, -, same⟩
      · obtain ⟨found, answer, -, pending, isChanged, rfl⟩ := activateUserBody_ok returned
        exact changes state.store.sessions (findUsersWithMetadataValues_eq_some.mp answer).1.1
          ⟨pending, isChanged⟩ (congrArg Prod.fst same)
      · exact unchanged (congrArg Prod.fst same)
  | resetPassword email token now =>
      simp only [accountStep, Option.ite_none_right_eq_some, Option.some.injEq] at taken
      obtain ⟨-, rfl⟩ := taken
      rcases executeInTransactionWithResult_cases (resetPasswordBody environment email token now)
        state.store with ⟨changed, committed, returned, same⟩ | ⟨thrown, -, same⟩
      · obtain ⟨found, answer, isChanged, rfl⟩ := resetPasswordBody_ok returned
        exact changes state.store.sessions (findByEmail_eq_some answer).1 isChanged
          (congrArg Prod.fst same)
      · exact unchanged (congrArg Prod.fst same)
  | completePasswordReset token salt newPassword now =>
      obtain rfl := Option.some.inj taken
      rcases transaction_cases
        (completePasswordResetBody environment token salt newPassword now) state.store with
        ⟨changed, committed, returned, same⟩ | ⟨thrown, -, same⟩
      · obtain ⟨found, answer, -, locked, isChanged, rfl⟩ := completePasswordResetBody_ok returned
        exact changes _ (findUsersWithMetadataValues_eq_some.mp answer).1.1 ⟨locked, isChanged⟩
          (congrArg Prod.fst same)
      · exact unchanged (congrArg Prod.fst same)
  | changePassword currentUserId currentPassword salt newPassword session now =>
      obtain rfl := Option.some.inj taken
      rcases transaction_cases (changePasswordBody environment currentUserId currentPassword salt
        newPassword session now) state.store with
        ⟨changed, committed, returned, same⟩ | ⟨thrown, -, same⟩
      · obtain ⟨found, known, -, -, isChanged, rfl⟩ := changePasswordBody_ok returned
        exact changes _ (Table.mem_of_find known) isChanged (congrArg Prod.fst same)
      · exact unchanged (congrArg Prod.fst same)
  | updateLoginAttempts usernameOrEmail =>
      obtain rfl := Option.some.inj taken
      have saved : (updateLoginAttempts environment usernameOrEmail state.store).1 = _ :=
        updateLoginAttempts_store usernameOrEmail
      rcases executeInTransactionWithResult_cases
        (updateLoginAttemptsBody environment usernameOrEmail) state.store with
        ⟨locked, committed, returned, same⟩ | ⟨thrown, -, same⟩
      · obtain ⟨found, answer, outcome⟩ := updateLoginAttemptsBody_ok returned
        have member := mem_of_findByUsernameOrEmail answer
        rcases outcome with ⟨many, rfl⟩ | ⟨few, rfl⟩
        · exact changes state.store.sessions member ⟨answer, .inl ⟨many, rfl⟩⟩
            (saved.trans (congrArg Prod.fst same))
        · exact changes state.store.sessions member ⟨answer, .inr ⟨few, rfl⟩⟩
            (saved.trans (congrArg Prod.fst same))
      · exact unchanged (saved.trans (congrArg Prod.fst same))
  | resetLoginAttempts usernameOrEmail =>
      obtain rfl := Option.some.inj taken
      rcases resetLoginAttempts_cases environment state.store usernameOrEmail with
        same | ⟨found, member, same⟩
      · exact unchanged same
      · exact changes state.store.sessions member rfl same

/-- A step leaves the users as they are, inserts one, or changes one. -/
theorem accountStep_users {action : AccountAction}
    (taken : accountStep environment state action = some next) :
    StepsUsers environment state.store action next.store.users := by
  obtain ⟨users, externalProviders, sessions, lastAssetId, same, steps⟩ := accountStep_store taken
  rw [same]
  exact steps

/-- No operation on accounts changes who follows whom. -/
theorem accountStep_following {action : AccountAction}
    (taken : accountStep environment state action = some next) :
    next.store.following = state.store.following := by
  obtain ⟨users, externalProviders, sessions, lastAssetId, same, -⟩ := accountStep_store taken
  rw [same]

end Steps

end GraffiTab
