/-
This file models the four ways in which a request presents credentials: the JSON login,
the username and password among the request parameters, HTTP Basic, and the login with
an external account.

The provider behind the first three comes from Spring Security. It loads the user,
asks the four flags of `UserDetails`, which `User` always answers with yes, and compares
the passwords; a wrong password is published, and the listener counts it. The login
forms trim the username before they hand it to the provider.
-/

import GraffiTab.Accounts

namespace GraffiTab

open Tables

/-! ### Refused logins -/

/-- The exceptions with which Spring Security or a filter refuses a login. -/
inductive AuthenticationException where
  | badCredentialsException (message : String)
  | usernameNotFoundException (message : String)
  | internalAuthenticationServiceException (message : String)
  | accountStatusException
  | loginUserNotActiveException (message : String) (cause : RestApiException)
  | externalProviderTokenInvalidException (message : String) (cause : RestApiException)
  | maximumLoginAttemptsException (message : String) (cause : RestApiException)
  deriving DecidableEq

/-- A login is refused, or something else is thrown on the way. -/
inductive LoginFailure where
  | refused (exception : AuthenticationException)
  | thrown (throwable : Throwable)
  deriving DecidableEq

/-- The store after an attempt, and the user it authenticates; an attempt that finds nothing to
check passes the request on with no user. -/
abbrev LoginAttempt := Store × Except LoginFailure (Option User)

def refuse (store : Store) (exception : AuthenticationException) : LoginAttempt :=
  (store, .error (.refused exception))

/-! ### The flags of `UserDetails` -/

def User.isAccountNonExpired (_user : User) : Bool := true
def User.isAccountNonLocked (_user : User) : Bool := true
def User.isCredentialsNonExpired (_user : User) : Bool := true
def User.isEnabled (_user : User) : Bool := true

/-! ### The requests -/

/-- The body of a JSON login, where a field can be missing. -/
structure JsonLogin where
  username : Option String
  password : Option String
  deriving DecidableEq

/-- The body of a login with an external account. -/
inductive ExternalLogin where
  | notJson
  | malformed
  | account (account : ExternalAccount)
  deriving DecidableEq

/-- A request that presents credentials; `session` says whether it comes with a session, and
`urlMatches` whether the filter for parameters looks at its URL. -/
inductive LoginRequest where
  | json (payload : Option JsonLogin)
  | parameters (username password : Option String) (session urlMatches : Bool)
  | basic (header : Option (String × String)) (session : Bool)
  | external (payload : ExternalLogin)
  deriving DecidableEq

section Attempts

variable (environment : Environment)

/-- `DaoAuthenticationProvider` with `GraffiTabUserDetailsService`; the listener for a wrong
password can throw. -/
def daoAuthenticate (username password : String) (store : Store) : LoginAttempt :=
  match findByUsernameOrEmail environment.platform username store with
  | .error _ =>
      refuse store (.internalAuthenticationServiceException
        "query did not return a unique result")
  | .ok none =>
      refuse store (.internalAuthenticationServiceException
        "UserDetailsService returned null, which is an interface contract violation")
  | .ok (some user) =>
      if !(user.isAccountNonLocked && user.isEnabled && user.isAccountNonExpired) then
        refuse store .accountStatusException
      else if !environment.encoder.encodedMatches password user.password then
        match updateLoginAttempts environment username store with
        | (next, .ok ()) => refuse next (.badCredentialsException "Bad credentials")
        | (next, .error throwable) => (next, .error (.thrown throwable))
      else if !user.isCredentialsNonExpired then
        refuse store .accountStatusException
      else
        (store, .ok (some user))

/-- The refusal of a user that is not active. -/
def loginUserNotActive (user : User) : AuthenticationException :=
  let message := "Current user is not in the expected state [" ++ AccountStatus.active.name ++
    "], it is " ++ user.accountStatus.name
  .loginUserNotActiveException message
    ⟨.restApiException, .userNotInExpectedState, message⟩

/-- `JsonLoginAuthenticationFilter.attemptAuthenticationIfActiveUser`; without a password field the
JSON of a login throws, and a missing parameter is empty. -/
def attemptAuthenticationIfActiveUser (usernameOrEmail : String) (password : Option String)
    (store : Store) : LoginAttempt :=
  match findByUsernameOrEmail environment.platform usernameOrEmail store with
  | .error throwable => (store, .error (.thrown throwable))
  | .ok none =>
      refuse store (.usernameNotFoundException
        ("The username or email [" ++ usernameOrEmail ++ "] cannot be found"))
  | .ok (some user) =>
      if user.accountStatus = .active then
        match password with
        | none => (store, .error (.thrown .jsonException))
        | some password => daoAuthenticate environment (trim usernameOrEmail) password store
      else
        refuse store (loginUserNotActive user)

/-- Counts a failed login before the refusal; the account that is locked now is told so. -/
def countFailedLogin (username : String) (refusal : AuthenticationException) (store : Store) :
    LoginAttempt :=
  match updateLoginAttempts environment username store with
  | (next, .ok ()) => refuse next refusal
  | (next, .error (.restApi cause)) =>
      refuse next (.maximumLoginAttemptsException
        ("Maximum login attempts for user [" ++ username ++ "]") cause)
  | (next, .error throwable) => (next, .error (.thrown throwable))

/-- `JsonLoginAuthenticationFilter.attemptAuthentication`. -/
def attemptJsonLogin (payload : Option JsonLogin) (store : Store) : LoginAttempt :=
  match payload with
  | none =>
      refuse store (.badCredentialsException "Username could not be found on the request -- null")
  | some { username := none, .. } => (store, .error (.thrown .jsonException))
  | some { username := some username, password } =>
      match attemptAuthenticationIfActiveUser environment username password store with
      | (next, .error (.refused (.badCredentialsException message))) =>
          countFailedLogin environment username (.badCredentialsException message) next
      | attempt => attempt

/-- `UsernamePasswordQueryParamsAuthenticationFilter`. -/
def attemptParametersLogin (username password : Option String) (session urlMatches : Bool)
    (store : Store) : LoginAttempt :=
  if !session && urlMatches && hasText username && hasText password then
    attemptAuthenticationIfActiveUser environment (username.getD "") password store
  else (store, .ok none)

/-- `SessionPrecedenceBasicAuthFilter`: a request with a session passes. -/
def attemptBasicLogin (header : Option (String × String)) (session : Bool) (store : Store) :
    LoginAttempt :=
  match header with
  | some (username, password) =>
      if environment.config.basicAuthEnabled && !session then
        daoAuthenticate environment username password store
      else (store, .ok none)
  | none => (store, .ok none)

/-- `ExternalProviderAuthenticationFilter.attemptAuthentication`. -/
def attemptExternalLogin (payload : ExternalLogin) (store : Store) : LoginAttempt :=
  match payload with
  | .notJson =>
      refuse store (.internalAuthenticationServiceException
        "Request content type is not JSON -- this is not allowed")
  | .malformed => (store, .error (.thrown .jsonException))
  | .account account =>
      match findUserWithExternalProvider environment.platform account.externalProviderType
        account.externalUserId store with
      | .error throwable => (store, .error (.thrown throwable))
      | .ok none =>
          refuse store (.internalAuthenticationServiceException "Invalid credentials provided")
      | .ok (some user) =>
          if !isValidToken environment account.accessToken account.externalProviderType then
            countFailedLogin environment user.username
              (.externalProviderTokenInvalidException "The provided token is not valid."
                ⟨.restApiException, .invalidToken, "The provided token is not valid."⟩) store
          else if user.accountStatus = .active then
            match transaction (updateToken user account.externalProviderType account.accessToken)
                store with
            | (next, .ok ()) => (next, .ok (some user))
            | (next, .error throwable) => (next, .error (.thrown throwable))
          else
            refuse store (loginUserNotActive user)

/-- The attempt that a request makes. -/
def attemptAuthentication (request : LoginRequest) (store : Store) : LoginAttempt :=
  match request with
  | .json payload => attemptJsonLogin environment payload store
  | .parameters username password session urlMatches =>
      attemptParametersLogin environment username password session urlMatches store
  | .basic header session => attemptBasicLogin environment header session store
  | .external payload => attemptExternalLogin environment payload store

/-- The attempt with what the success handler of the logins does to the store; HTTP Basic has no
such handler. The save of the session that the handler queues where sessions are backed up is left
out: it merges the user as the login found it, and so writes the old number of failed logins
back. -/
def login (request : LoginRequest) (store : Store) : Store :=
  match request, attemptAuthentication environment request store with
  | .basic _ _, (next, _) => next
  | _, (next, .ok (some user)) => (resetLoginAttempts environment user.username next).1
  | _, (next, _) => next

end Attempts

/-! ### What the provider answers -/

section Provider

variable {environment : Environment} {store : Store} {user : User} {username password : String}

/-- The right password is accepted. -/
theorem daoAuthenticate_right
    (answer : findByUsernameOrEmail environment.platform username store = .ok (some user))
    (right : environment.encoder.encodedMatches password user.password = true) :
    daoAuthenticate environment username password store = (store, .ok (some user)) := by
  simp only [daoAuthenticate, answer, User.isAccountNonLocked, User.isEnabled,
    User.isAccountNonExpired, User.isCredentialsNonExpired, right, Bool.and_self, Bool.not_true,
    Bool.false_eq_true, if_false]

/-- A wrong password is counted by the listener, which can throw instead of the provider. -/
theorem daoAuthenticate_wrong
    (answer : findByUsernameOrEmail environment.platform username store = .ok (some user))
    (wrong : environment.encoder.encodedMatches password user.password = false) :
    daoAuthenticate environment username password store =
      match updateLoginAttempts environment username store with
      | (next, .ok ()) => refuse next (.badCredentialsException "Bad credentials")
      | (next, .error throwable) => (next, .error (.thrown throwable)) := by
  simp only [daoAuthenticate, answer, User.isAccountNonLocked, User.isEnabled,
    User.isAccountNonExpired, wrong, Bool.and_self, Bool.not_true, Bool.not_false,
    Bool.false_eq_true, if_false, if_true]

/-- Without a user there is nothing to count. -/
theorem daoAuthenticate_unfound
    (unfound : ∀ user,
      findByUsernameOrEmail environment.platform username store ≠ .ok (some user)) :
    (daoAuthenticate environment username password store).1 = store := by
  rw [daoAuthenticate]
  cases answer : findByUsernameOrEmail environment.platform username store with
  | error thrown => rfl
  | ok found =>
      cases found with
      | none => rfl
      | some user => exact absurd answer (unfound user)

/-- A login that fails leaves the store as the attempt did. -/
theorem login_failed {request : LoginRequest} {next : Store} {failure : LoginFailure}
    (attempted : attemptAuthentication environment request store = (next, .error failure)) :
    login environment request store = next := by
  cases request <;> simp only [login, attempted]

end Provider

/-! ### The site -/

/-- Everything that changes users or external accounts: the operations on accounts, the logins, and
the links to external accounts. -/
inductive SiteAction where
  | account (action : AccountAction)
  | login (request : LoginRequest)
  | linkExternalProvider (currentUserId : Long) (account : ExternalAccount)
  | unlinkExternalProvider (currentUserId : Long) (type : ExternalProviderType)

def siteStep (environment : Environment) (state : AccountState) : SiteAction → Option AccountState
  | .account action => accountStep environment state action
  | .login request => some { state with store := login environment request state.store }
  | .linkExternalProvider currentUserId account =>
      some { state with
        store := (transaction (linkExternalProvider environment currentUserId account)
          state.store).1 }
  | .unlinkExternalProvider currentUserId type =>
      some { state with
        store := (transaction (unlinkExternalProvider currentUserId type) state.store).1 }

/-- The state of a new installation. -/
def newInstallation : AccountState := ⟨.empty, []⟩

/-- The states that a new installation can get into. -/
abbrev Reachable (environment : Environment) (state : AccountState) : Prop :=
  Runs.Reaches (siteStep environment) Runs.unrestricted newInstallation state

end GraffiTab
