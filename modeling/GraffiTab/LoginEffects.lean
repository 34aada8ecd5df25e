/-
This file says what a login does to the users.

Whatever way the credentials come, a login leaves the users as they are, counts a failed
login of the account that it names, or resets the count of the account that it lets in.
The JSON login counts a wrong password a second time. Every invariant of the users is
derived from these cases.
-/

import GraffiTab.Authentication

namespace GraffiTab

open Tables

/-! ### The account of a failed login -/

section Targets

variable (environment : Environment)

/-- The account for which the provider is given a wrong password. -/
def wrongPasswordTarget (username password : String) (store : Store) : Option User :=
  match findByUsernameOrEmail environment.platform username store with
  | .ok (some user) =>
      if environment.encoder.encodedMatches password user.password then none else some user
  | _ => none

/-- The same for the logins that ask the status first. -/
def activeWrongPasswordTarget (usernameOrEmail : String) (password : Option String)
    (store : Store) : Option User :=
  match findByUsernameOrEmail environment.platform usernameOrEmail store, password with
  | .ok (some user), some password =>
      if user.accountStatus = .active then
        wrongPasswordTarget environment (trim usernameOrEmail) password store
      else none
  | _, _ => none

/-- The account for which a request counts a failed login. -/
def failedLoginTarget (store : Store) : LoginRequest → Option User
  | .json (some ⟨some username, password⟩) =>
      activeWrongPasswordTarget environment username password store
  | .json _ => none
  | .parameters username password session urlMatches =>
      if !session && urlMatches && hasText username && hasText password then
        activeWrongPasswordTarget environment (username.getD "") password store
      else none
  | .basic (some (username, password)) session =>
      if environment.config.basicAuthEnabled && !session then
        wrongPasswordTarget environment username password store
      else none
  | .basic none _ => none
  | .external (.account account) =>
      match findUserWithExternalProvider environment.platform account.externalProviderType
        account.externalUserId store with
      | .ok (some user) =>
          if isValidToken environment account.accessToken account.externalProviderType then none
          else
            match findByUsernameOrEmail environment.platform user.username store with
            | .ok found => found
            | .error _ => none
      | _ => none
  | .external _ => none

/-- What an attempt does to the users, when it counts a failed login of the target. -/
inductive AttemptEffect (store : Store) (target : Option User) : LoginAttempt → Prop where
  | unchanged {attempt : LoginAttempt} (users : attempt.1.users = store.users) :
      AttemptEffect store target attempt
  | counted (username : String) (user : User) (isTarget : target = some user)
      (answer : findByUsernameOrEmail environment.platform username store = .ok (some user))
      (failure : LoginFailure) :
      AttemptEffect store target
        ((updateLoginAttempts environment username store).1, .error failure)
  | countedTwice (username : String) (user counted : User)
      (answer : findByUsernameOrEmail environment.platform username store = .ok (some user))
      (active : user.accountStatus = .active) (member : counted ∈ store.users.rows)
      (failure : LoginFailure) :
      AttemptEffect store target
        ((updateLoginAttempts environment username (store.saveUser counted.withFailedLogin)).1,
          .error failure)

/-- What a login does to the users. -/
inductive LoginEffect (store : Store) (target : Option User) : Store → Prop where
  | unchanged {next : Store} (users : next.users = store.users) : LoginEffect store target next
  | counted (username : String) (user : User) (isTarget : target = some user)
      (answer : findByUsernameOrEmail environment.platform username store = .ok (some user)) :
      LoginEffect store target (updateLoginAttempts environment username store).1
  | countedTwice (username : String) (user counted : User)
      (answer : findByUsernameOrEmail environment.platform username store = .ok (some user))
      (active : user.accountStatus = .active) (member : counted ∈ store.users.rows) :
      LoginEffect store target
        (updateLoginAttempts environment username (store.saveUser counted.withFailedLogin)).1
  | reset {next : Store} (username : String) (users : next.users = store.users) :
      LoginEffect store target (resetLoginAttempts environment username next).1

end Targets

/-! ### The attempts -/

section Attempts

variable {environment : Environment} {store next : Store}

/-- A counted login fails, and leaves in the store what its count leaves. -/
theorem countFailedLogin_eq (environment : Environment) (store : Store) (username : String)
    (refusal : AuthenticationException) :
    ∃ failure, countFailedLogin environment username refusal store =
      ((updateLoginAttempts environment username store).1, .error failure) := by
  rw [countFailedLogin]
  split
  · rename_i counted
    exact ⟨.refused refusal, by rw [counted]; rfl⟩
  · rename_i cause counted
    exact ⟨_, by rw [counted]; rfl⟩
  · rename_i throwable _ counted
    exact ⟨.thrown throwable, by rw [counted]⟩

theorem countFailedLogin_ne_ok (username : String) (refusal : AuthenticationException)
    (store : Store) {answer : Option User} :
    (countFailedLogin environment username refusal store).2 ≠ .ok answer := by
  obtain ⟨failure, counted⟩ := countFailedLogin_eq environment store username refusal
  rw [counted]
  nofun

/-- So does a wrong password, whatever the listener answers. -/
theorem daoAuthenticate_wrong_eq {username password : String} {user : User}
    (answer : findByUsernameOrEmail environment.platform username store = .ok (some user))
    (wrong : environment.encoder.encodedMatches password user.password = false) :
    ∃ failure, daoAuthenticate environment username password store =
      ((updateLoginAttempts environment username store).1, .error failure) := by
  rw [daoAuthenticate_wrong answer wrong]
  rcases updateLoginAttempts environment username store with ⟨next, thrown | ⟨⟨⟩⟩⟩
  · exact ⟨.thrown thrown, rfl⟩
  · exact ⟨.refused (.badCredentialsException "Bad credentials"), rfl⟩

theorem daoAuthenticate_effect (username password : String) :
    AttemptEffect environment store (wrongPasswordTarget environment username password store)
      (daoAuthenticate environment username password store) := by
  by_cases named : ∃ user,
      findByUsernameOrEmail environment.platform username store = .ok (some user)
  · obtain ⟨user, answer⟩ := named
    cases right : environment.encoder.encodedMatches password user.password with
    | true =>
        rw [daoAuthenticate_right answer right]
        exact .unchanged rfl
    | false =>
        have isTarget : wrongPasswordTarget environment username password store = some user := by
          simp only [wrongPasswordTarget, answer, right, Bool.false_eq_true, if_false]
        obtain ⟨failure, counted⟩ := daoAuthenticate_wrong_eq answer right
        rw [counted]
        exact .counted username user isTarget answer failure
  · have unchanged : (daoAuthenticate environment username password store).1 = store :=
      daoAuthenticate_unfound fun user answer => named ⟨user, answer⟩
    exact .unchanged (congrArg Store.users unchanged)

theorem attemptAuthenticationIfActiveUser_effect (usernameOrEmail : String)
    (password : Option String) :
    AttemptEffect environment store
      (activeWrongPasswordTarget environment usernameOrEmail password store)
      (attemptAuthenticationIfActiveUser environment usernameOrEmail password store) := by
  unfold attemptAuthenticationIfActiveUser
  split
  · exact .unchanged rfl
  · exact .unchanged rfl
  rename_i user answer
  split
  · rename_i active
    cases password with
    | none => exact .unchanged rfl
    | some password =>
        simp only [activeWrongPasswordTarget, answer, active, if_true]
        exact daoAuthenticate_effect (trim usernameOrEmail) password
  · exact .unchanged rfl

/-- Only a wrong password of an active account is refused as bad credentials, and it was counted. -/
theorem attemptAuthenticationIfActiveUser_badCredentials {usernameOrEmail message : String}
    {password : Option String}
    (refused : attemptAuthenticationIfActiveUser environment usernameOrEmail password store =
      (next, .error (.refused (.badCredentialsException message)))) :
    ∃ user counted,
      findByUsernameOrEmail environment.platform usernameOrEmail store = .ok (some user) ∧
      user.accountStatus = .active ∧ counted ∈ store.users.rows ∧
      next = store.saveUser counted.withFailedLogin := by
  unfold attemptAuthenticationIfActiveUser at refused
  split at refused
  · cases refused
  · cases refused
  rename_i user answer
  split at refused
  · rename_i active
    cases password with
    | none => cases refused
    | some password =>
        refine ⟨user, ?_⟩
        simp only at refused
        by_cases named : ∃ counted,
            findByUsernameOrEmail environment.platform (trim usernameOrEmail) store =
              .ok (some counted)
        · obtain ⟨counted, counts⟩ := named
          refine ⟨counted, answer, active, mem_of_findByUsernameOrEmail counts, ?_⟩
          by_cases right : environment.encoder.encodedMatches password counted.password = true
          · rw [daoAuthenticate_right counts right] at refused
            cases refused
          rw [Bool.not_eq_true] at right
          rw [daoAuthenticate_wrong counts right, updateLoginAttempts_found counts] at refused
          by_cases many : counted.failedLoginAttempts ≥ 5
          · rw [if_pos many] at refused
            cases refused
          · rw [if_neg many] at refused
            exact (Prod.mk.inj refused).1.symm
        · -- a user that is not found is refused for another reason
          unfold daoAuthenticate at refused
          split at refused
          · cases refused
          · cases refused
          · rename_i counted counts
            exact absurd ⟨counted, counts⟩ named
  · cases refused

theorem attemptJsonLogin_effect (payload : Option JsonLogin) :
    AttemptEffect environment store (failedLoginTarget environment store (.json payload))
      (attemptJsonLogin environment payload store) := by
  unfold attemptJsonLogin
  split
  · exact .unchanged rfl
  · exact .unchanged rfl
  rename_i username password
  split
  · rename_i next message refused
    obtain ⟨user, counted, answer, active, member, rfl⟩ :=
      attemptAuthenticationIfActiveUser_badCredentials refused
    obtain ⟨failure, countedAgain⟩ := countFailedLogin_eq environment
      (store.saveUser counted.withFailedLogin) username (.badCredentialsException message)
    rw [countedAgain]
    exact .countedTwice username user counted answer active member failure
  · exact attemptAuthenticationIfActiveUser_effect username password

theorem updateToken_users (store : Store) (user : User) (type : ExternalProviderType)
    (accessToken : String) :
    (transaction (updateToken user type accessToken) store).1.users = store.users := by
  rcases transaction_cases (updateToken user type accessToken) store with
    ⟨⟨⟩, next, returned, same⟩ | ⟨thrown, -, same⟩
  · obtain ⟨found, -, rest⟩ := bind_eq_ok.mp returned
    cases found with
    | none => exact absurd rest throw_ne_ok
    | some provider =>
        obtain ⟨-, rfl⟩ := Prod.mk.inj (Except.ok.inj rest)
        rw [same]
  · rw [same]

theorem attemptExternalLogin_effect (payload : ExternalLogin) :
    AttemptEffect environment store (failedLoginTarget environment store (.external payload))
      (attemptExternalLogin environment payload store) := by
  unfold attemptExternalLogin
  split
  · exact .unchanged rfl
  · exact .unchanged rfl
  rename_i account
  split
  · exact .unchanged rfl
  · exact .unchanged rfl
  rename_i user answer
  split
  · rename_i invalid
    rw [Bool.not_eq_true'] at invalid
    obtain ⟨failure, counted⟩ := countFailedLogin_eq environment store user.username
      (.externalProviderTokenInvalidException "The provided token is not valid."
        ⟨.restApiException, .invalidToken, "The provided token is not valid."⟩)
    rw [counted]
    by_cases named : ∃ found,
        findByUsernameOrEmail environment.platform user.username store = .ok (some found)
    · obtain ⟨found, foundAnswer⟩ := named
      refine .counted user.username found ?_ foundAnswer failure
      simp only [failedLoginTarget, answer, invalid, foundAnswer, Bool.false_eq_true, if_false]
    · obtain ⟨thrown, unchanged⟩ :=
        updateLoginAttempts_unfound fun found foundAnswer => named ⟨found, foundAnswer⟩
      rw [unchanged]
      exact .unchanged rfl
  split
  · have users := updateToken_users store user account.externalProviderType account.accessToken
    split
    · rename_i updated
      rw [updated] at users
      exact .unchanged users
    · rename_i updated
      rw [updated] at users
      exact .unchanged users
  · exact .unchanged rfl

theorem attemptAuthentication_effect (request : LoginRequest) :
    AttemptEffect environment store (failedLoginTarget environment store request)
      (attemptAuthentication environment request store) := by
  cases request with
  | json payload => exact attemptJsonLogin_effect payload
  | external payload => exact attemptExternalLogin_effect payload
  | parameters username password session urlMatches =>
      simp only [attemptAuthentication, attemptParametersLogin, failedLoginTarget]
      split
      · exact attemptAuthenticationIfActiveUser_effect _ _
      · exact .unchanged rfl
  | basic header session =>
      cases header with
      | none => exact .unchanged rfl
      | some header =>
          simp only [attemptAuthentication, attemptBasicLogin, failedLoginTarget]
          split
          · exact daoAuthenticate_effect _ _
          · exact .unchanged rfl

/-- Every login has one of the effects. -/
theorem login_effect (request : LoginRequest) :
    LoginEffect environment store (failedLoginTarget environment store request)
      (login environment request store) := by
  cases attempted : attemptAuthentication environment request store with
  | mk next outcome =>
      have effect := attempted ▸ attemptAuthentication_effect request
      cases effect with
      | unchanged users =>
          rcases outcome with failure | _ | user
          · rw [login_failed attempted]
            exact .unchanged users
          · have same : login environment request store = next := by
              cases request <;> simp only [login, attempted]
            exact same ▸ .unchanged users
          · cases request with
            | basic header session =>
                simp only [login, attempted]
                exact .unchanged users
            | json | parameters | external =>
                simp only [login, attempted]
                exact .reset user.username users
      | counted username user isTarget answer failure =>
          rw [login_failed attempted]
          exact .counted username user isTarget answer
      | countedTwice username user counted answer active member failure =>
          rw [login_failed attempted]
          exact .countedTwice username user counted answer active member

end Attempts

end GraffiTab
