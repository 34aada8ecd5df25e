/-
This file asks which logins let an account in that is not active.

The JSON login, the login by parameters and the login with an external account check the
status themselves. The form logins look the user up twice, with the text as it came and
with the trimmed one; that both find the same user is where the validation of the names
matters, so the result is about reachable stores. HTTP Basic has no check of its own: it
relies on the flags of `UserDetails`, which say nothing about the status.
-/

import GraffiTab.LoginEffects

namespace GraffiTab

open Tables

/-- Whoever is authenticated by the request has a stored account, and it is active. -/
def AuthenticatesOnlyActive (environment : Environment) (store : Store) (request : LoginRequest) :
    Prop :=
  ∀ user, (attemptAuthentication environment request store).2 = .ok (some user) →
    user ∈ store.users.rows ∧ user.accountStatus = .active

/-- The request presents, by HTTP Basic and without a session, the password of an account that is
not active, where HTTP Basic is enabled. -/
def BasicForInactive (environment : Environment) (store : Store) : LoginRequest → Prop
  | .basic (some (username, password)) session =>
      environment.config.basicAuthEnabled = true ∧ session = false ∧
        ∃ user, findByUsernameOrEmail environment.platform username store = .ok (some user) ∧
          environment.encoder.encodedMatches password user.password = true ∧
            user.accountStatus ≠ .active
  | _ => False

/-! ### Names without blanks around them -/

/-- No stored name has blanks around it. -/
def NamesTrimmed (store : Store) : Prop :=
  ∀ user ∈ store.users.rows, trim user.username = user.username ∧ trim user.email = user.email

/-- Every user has the names of a user there was before. -/
def NamesKept (store next : Store) : Prop :=
  ∀ user ∈ next.users.rows, ∃ old ∈ store.users.rows,
    user.username = old.username ∧ user.email = old.email

theorem NamesKept.of_users_eq {store next : Store} (same : next.users = store.users) :
    NamesKept store next :=
  fun user member => ⟨user, same ▸ member, rfl, rfl⟩

theorem NamesKept.trans {store middle next : Store} (first : NamesKept store middle)
    (second : NamesKept middle next) : NamesKept store next := by
  intro user member
  obtain ⟨between, betweenMember, sameUsername, sameEmail⟩ := second user member
  obtain ⟨old, oldMember, username, email⟩ := first between betweenMember
  exact ⟨old, oldMember, sameUsername.trans username, sameEmail.trans email⟩

/-- The names of a user as the validation lets them through and the mapper stores them. -/
def User.NamesValid (platform : Platform) (user : User) : Prop :=
  isValidUsername user.username = true ∧ isValidEmail user.email = true ∧
    platform.toLowerCase user.email = user.email

/-- Every stored user has valid names. -/
def NamesValid (platform : Platform) (store : Store) : Prop :=
  ∀ user ∈ store.users.rows, user.NamesValid platform

theorem NamesKept.namesValid {platform : Platform} {store next : Store}
    (kept : NamesKept store next) (valid : NamesValid platform store) :
    NamesValid platform next := by
  intro user member
  obtain ⟨old, oldMember, username, email⟩ := kept user member
  rw [User.NamesValid, username, email]
  exact valid old oldMember

/-- No valid name has a blank in it. -/
theorem NamesValid.trimmed {platform : Platform} {store : Store}
    (valid : NamesValid platform store) : NamesTrimmed store := by
  intro user member
  obtain ⟨username, email, -⟩ := valid user member
  exact ⟨trim_of_isValidUsername username, trim_of_isValidEmail email⟩

/-- Saving a changed row keeps the names when the change does. -/
theorem namesKept_saveUser {store : Store} {found changed : User}
    (member : found ∈ store.users.rows) (username : changed.username = found.username)
    (email : changed.email = found.email) : NamesKept store (store.saveUser changed) := by
  intro user userMember
  rcases Table.mem_set.mp userMember with ⟨rfl, -⟩ | ⟨old, -⟩
  · exact ⟨found, member, username, email⟩
  · exact ⟨user, old, rfl, rfl⟩

section Names

variable (environment : Environment) (store : Store)

theorem updateLoginAttempts_namesKept (usernameOrEmail : String) :
    NamesKept store (updateLoginAttempts environment usernameOrEmail store).1 := by
  rw [updateLoginAttempts_store]
  refine executeInTransactionWithResult_keeps (NamesKept store) (.of_users_eq rfl)
    fun locked next returned => ?_
  obtain ⟨found, answer, outcome⟩ := updateLoginAttemptsBody_ok returned
  have member := mem_of_findByUsernameOrEmail answer
  rcases outcome with ⟨-, rfl⟩ | ⟨-, rfl⟩
  · exact namesKept_saveUser member rfl rfl
  · exact namesKept_saveUser member rfl rfl

theorem resetLoginAttempts_namesKept (usernameOrEmail : String) :
    NamesKept store (resetLoginAttempts environment usernameOrEmail store).1 := by
  rcases resetLoginAttempts_cases environment store usernameOrEmail with
    same | ⟨found, member, same⟩
  · rw [same]
    exact .of_users_eq rfl
  · rw [same]
    exact namesKept_saveUser member rfl rfl

theorem login_namesKept (request : LoginRequest) :
    NamesKept store (login environment request store) := by
  generalize result : login environment request store = next
  cases result ▸ login_effect request with
  | unchanged users => exact .of_users_eq users
  | counted username _ _ _ => exact updateLoginAttempts_namesKept environment store username
  | countedTwice username _ counted _ _ member =>
      have first : NamesKept store (store.saveUser counted.withFailedLogin) :=
        namesKept_saveUser member rfl rfl
      exact first.trans (updateLoginAttempts_namesKept environment _ username)
  | reset username users =>
      exact (NamesKept.of_users_eq users).trans
        (resetLoginAttempts_namesKept environment _ username)

end Names

/-! ### The names in a reachable store -/

section Reachability

variable {environment : Environment}

theorem linkExternalProvider_users (currentUserId : Long) (account : ExternalAccount)
    (store : Store) :
    (transaction (linkExternalProvider environment currentUserId account) store).1.users =
      store.users := by
  refine transaction_keeps (fun next => next.users = store.users) rfl
    fun user next returned => ?_
  obtain ⟨currentUser, -, rest⟩ := bind_eq_ok.mp returned
  obtain ⟨-, rfl⟩ := Prod.mk.inj (Except.ok.inj rest)
  rfl

theorem unlinkExternalProvider_users (currentUserId : Long) (type : ExternalProviderType)
    (store : Store) :
    (transaction (unlinkExternalProvider currentUserId type) store).1.users = store.users := by
  refine transaction_keeps (fun next => next.users = store.users) rfl
    fun user next returned => ?_
  unfold unlinkExternalProvider at returned
  split at returned
  · exact absurd returned throw_ne_ok
  obtain ⟨found, -, rest⟩ := bind_eq_ok.mp returned
  cases found with
  | none => exact absurd rest throw_ne_ok
  | some provider =>
      obtain ⟨-, rfl⟩ := Prod.mk.inj (Except.ok.inj rest)
      rfl

/-- The names of the request are valid once the mapper has stored them. -/
def UserInput.NamesValid (platform : Platform) (user : UserInput) : Prop :=
  isValidUsername (user.username.getD "") = true ∧
    isValidEmail (platform.toLowerCase (user.email.getD "")) = true

theorem namesValid_of_checkCreateUser {store : Store} {user : UserInput}
    (checked : checkCreateUser environment user store = .ok ()) :
    user.NamesValid environment.platform := by
  obtain ⟨valid, -⟩ := checkCreateUser_ok environment checked
  obtain ⟨⟨email, emailGiven, emailValid, -⟩, usernameOk⟩ := validateCreateUser_ok valid
  obtain ⟨username, usernameGiven, usernameValid, -⟩ := usernameOk rfl
  rw [UserInput.NamesValid, usernameGiven, emailGiven]
  exact ⟨usernameValid, emailValid⟩

theorem namesValid_newUserRow {user : UserInput} (valid : user.NamesValid environment.platform)
    (guid password : String) (now : Long) (status : AccountStatus) (metadataItems : Metadata)
    (avatarAsset coverAsset : Option Asset) :
    (newUserRow environment.platform user guid password now status metadataItems avatarAsset
      coverAsset).NamesValid environment.platform :=
  ⟨valid.1, valid.2, environment.platform.toLowerCase_toLowerCase _⟩

theorem isValidEmail_of_checkEditUser {store : Store} {currentUserId : Long} {toEdit : UserInput}
    {currentUser : User}
    (checked : checkEditUser environment currentUserId toEdit store = .ok currentUser) :
    isValidEmail (environment.platform.toLowerCase (toEdit.email.getD "")) = true := by
  obtain ⟨-, -, valid⟩ := checkEditUser_ok environment checked
  obtain ⟨⟨email, emailGiven, emailValid, -⟩, -⟩ := validateCreateUser_ok valid
  simp only at emailGiven
  rw [emailGiven]
  exact emailValid

/-- An edit keeps the username and stores an email that was validated. -/
theorem namesValid_editedUser {found : User} {toEdit : UserInput}
    (valid : found.NamesValid environment.platform)
    (emailValid : isValidEmail (environment.platform.toLowerCase (toEdit.email.getD "")) = true)
    (now : Long) : (editedUser environment found toEdit now).NamesValid environment.platform :=
  ⟨valid.1, emailValid, environment.platform.toLowerCase_toLowerCase _⟩

theorem namesValid_inserted {store : Store} {action : AccountAction} {row : User}
    (inserts : InsertsUser environment store action row) :
    row.NamesValid environment.platform := by
  cases action with
  | createUser =>
      obtain ⟨checked, avatarAsset, coverAsset, rfl⟩ := inserts
      exact namesValid_newUserRow (namesValid_of_checkCreateUser checked) _ _ _ _ _ _ _
  | createExternalUser =>
      obtain ⟨checked, avatarAsset, coverAsset, rfl⟩ := inserts
      -- the generated password changes no name of the request
      have valid := namesValid_of_checkCreateUser
        ((checkCreateExternalUser_ok environment).mp checked).1
      exact namesValid_newUserRow valid _ _ _ _ _ _ _
  | _ => exact inserts.elim

theorem namesValid_changed {store : Store} {action : AccountAction} {found changed : User}
    (changes : ChangesUser environment store action found changed)
    (valid : found.NamesValid environment.platform) :
    changed.NamesValid environment.platform := by
  cases action with
  | createUser | createExternalUser => exact changes.elim
  | activateUser => rwa [changes.2]
  | resetPassword => rwa [changes]
  | completePasswordReset => rwa [changes.2]
  | changePassword => rwa [changes]
  | resetLoginAttempts => rwa [changes]
  | updateLoginAttempts => rcases changes.2 with ⟨-, rfl⟩ | ⟨-, rfl⟩ <;> exact valid
  | editUser currentUserId toEdit now =>
      obtain ⟨checked, rfl⟩ := changes
      exact namesValid_editedUser valid (isValidEmail_of_checkEditUser checked) now

theorem NamesValid.insert {store next : Store} {row : User}
    (valid : NamesValid environment.platform store) (rowValid : row.NamesValid environment.platform)
    (inserted : next.users = store.users.insert row) : NamesValid environment.platform next := by
  intro user member
  rw [inserted, Table.mem_insert] at member
  rcases member with old | rfl
  · exact valid user old
  · exact rowValid

theorem NamesValid.set {store next : Store} {changed : User}
    (valid : NamesValid environment.platform store)
    (changedValid : changed.NamesValid environment.platform)
    (saved : next.users = store.users.set changed) : NamesValid environment.platform next := by
  intro user member
  rw [saved, Table.mem_set] at member
  rcases member with ⟨rfl, -⟩ | ⟨old, -⟩
  · exact changedValid
  · exact valid user old

theorem namesValid_accountStep {state next : AccountState} {action : AccountAction}
    (valid : NamesValid environment.platform state.store)
    (taken : accountStep environment state action = some next) :
    NamesValid environment.platform next.store := by
  rcases accountStep_users taken with same | ⟨row, inserts, inserted⟩ |
    ⟨found, foundMember, changed, changes, saved⟩
  · exact fun user member => valid user (same ▸ member)
  · exact valid.insert (namesValid_inserted inserts) inserted
  · exact valid.set (namesValid_changed changes (valid found foundMember)) saved

theorem namesValid_siteStep {state next : AccountState} {action : SiteAction}
    (valid : NamesValid environment.platform state.store)
    (taken : siteStep environment state action = some next) :
    NamesValid environment.platform next.store := by
  cases action with
  | account action => exact namesValid_accountStep valid taken
  | login request =>
      obtain rfl := Option.some.inj taken
      exact (login_namesKept environment state.store request).namesValid valid
  | linkExternalProvider currentUserId account =>
      obtain rfl := Option.some.inj taken
      exact (NamesKept.of_users_eq
        (linkExternalProvider_users currentUserId account state.store)).namesValid valid
  | unlinkExternalProvider currentUserId type =>
      obtain rfl := Option.some.inj taken
      exact (NamesKept.of_users_eq
        (unlinkExternalProvider_users currentUserId type state.store)).namesValid valid

/-- The names in every reachable store were validated, so no blanks stand around them. -/
theorem namesTrimmed_of_reachable {state : AccountState} (reachable : Reachable environment state) :
    NamesTrimmed state.store := by
  have valid : NamesValid environment.platform state.store :=
    reachable.invariant (fun state => NamesValid environment.platform state.store)
      (fun _ member => absurd member List.not_mem_nil)
      fun _ _ _ holds _ taken => namesValid_siteStep holds taken
  exact valid.trimmed

end Reachability

/-! ### The checks of the status -/

section Attempts

variable {environment : Environment} {store : Store}

/-- An accepted password belongs to the user that the provider loads. -/
theorem daoAuthenticate_ok {username password : String} {user : User} :
    (daoAuthenticate environment username password store).2 = .ok (some user) ↔
      findByUsernameOrEmail environment.platform username store = .ok (some user) ∧
        environment.encoder.encodedMatches password user.password = true := by
  unfold daoAuthenticate
  split
  · rename_i thrown answer
    exact iff_of_false (fun refused => by cases refused) fun found => by
      rw [found.1] at answer
      cases answer
  · rename_i answer
    exact iff_of_false (fun refused => by cases refused) fun found => by
      rw [found.1] at answer
      cases answer
  · rename_i loaded answer
    rw [answer]
    by_cases matching : environment.encoder.encodedMatches password loaded.password = true
    · simp only [User.isAccountNonLocked, User.isEnabled, User.isAccountNonExpired,
        User.isCredentialsNonExpired, matching, Bool.and_self, Bool.not_true, Bool.false_eq_true,
        if_false, Except.ok.injEq, Option.some.injEq]
      exact ⟨fun same => ⟨same, same ▸ matching⟩, And.left⟩
    · simp only [Bool.not_eq_true] at matching
      simp only [User.isAccountNonLocked, User.isEnabled, User.isAccountNonExpired, matching,
        Bool.and_self, Bool.not_true, Bool.not_false, Bool.false_eq_true, if_false, if_true]
      refine iff_of_false ?_ ?_
      · split <;> exact fun refused => by cases refused
      · rintro ⟨same, accepted⟩
        rw [← Option.some.inj (Except.ok.inj same), matching] at accepted
        cases accepted

/-- The trimmed text finds the user that the text itself finds. -/
theorem findByUsernameOrEmail_trim {usernameOrEmail : String} {user other : User}
    (trimmed : NamesTrimmed store)
    (found : findByUsernameOrEmail environment.platform usernameOrEmail store = .ok (some user))
    (foundAgain : findByUsernameOrEmail environment.platform (trim usernameOrEmail) store =
      .ok (some other)) : other = user := by
  have sameKind : (trim usernameOrEmail).toList.contains '@' =
      usernameOrEmail.toList.contains '@' := by
    rw [Bool.eq_iff_iff, List.contains_iff_mem, List.contains_iff_mem]
    exact mem_trim (by decide)
  unfold findByUsernameOrEmail at found foundAgain
  rw [sameKind] at foundAgain
  split at found
  · rename_i isEmail
    rw [if_pos isEmail, environment.platform.toLowerCase_trim] at foundAgain
    obtain ⟨member, same⟩ := findByEmail_eq_some found
    have also := environment.platform.collate_trim _ _ (trimmed user member).2 same
    have only := (uniqueResult_eq_some.mp foundAgain).2 user
    exact (only (Table.mem_select.mpr ⟨member, decide_eq_true also⟩)).symm
  · rename_i isUsername
    rw [if_neg isUsername] at foundAgain
    obtain ⟨member, same⟩ := findByUsername_eq_some found
    have also := environment.platform.collate_trim _ _ (trimmed user member).1 same
    have only := (uniqueResult_eq_some.mp foundAgain).2 user
    exact (only (Table.mem_select.mpr ⟨member, decide_eq_true also⟩)).symm

theorem attemptAuthenticationIfActiveUser_active {usernameOrEmail : String}
    {password : Option String} {user : User} (trimmed : NamesTrimmed store)
    (accepted : (attemptAuthenticationIfActiveUser environment usernameOrEmail password store).2 =
      .ok (some user)) : user ∈ store.users.rows ∧ user.accountStatus = .active := by
  unfold attemptAuthenticationIfActiveUser at accepted
  split at accepted
  · cases accepted
  · cases accepted
  rename_i found answer
  split at accepted
  · rename_i active
    cases password with
    | none => cases accepted
    | some password =>
        obtain ⟨foundAgain, -⟩ := daoAuthenticate_ok.mp accepted
        obtain rfl := findByUsernameOrEmail_trim trimmed answer foundAgain
        exact ⟨mem_of_findByUsernameOrEmail answer, active⟩
  · cases accepted

theorem attemptJsonLogin_active {payload : Option JsonLogin} {user : User}
    (trimmed : NamesTrimmed store)
    (accepted : (attemptJsonLogin environment payload store).2 = .ok (some user)) :
    user ∈ store.users.rows ∧ user.accountStatus = .active := by
  unfold attemptJsonLogin at accepted
  split at accepted
  · cases accepted
  · cases accepted
  split at accepted
  · exact absurd accepted (countFailedLogin_ne_ok _ _ _)
  · exact attemptAuthenticationIfActiveUser_active trimmed accepted

theorem attemptExternalLogin_active {payload : ExternalLogin} {user : User}
    (accepted : (attemptExternalLogin environment payload store).2 = .ok (some user)) :
    user ∈ store.users.rows ∧ user.accountStatus = .active := by
  unfold attemptExternalLogin at accepted
  split at accepted
  · cases accepted
  · cases accepted
  split at accepted
  · cases accepted
  · cases accepted
  rename_i found answer
  split at accepted
  · exact absurd accepted (countFailedLogin_ne_ok _ _ _)
  split at accepted
  · rename_i active
    split at accepted
    · rw [← Option.some.inj (Except.ok.inj accepted)]
      exact ⟨(findUserWithExternalProvider_eq_some answer).1, active⟩
    · cases accepted
  · cases accepted

/-- HTTP Basic authenticates only active accounts if and only if it is not asked with the password
of another one. -/
theorem basic_authenticatesOnlyActive_iff (header : Option (String × String)) (session : Bool) :
    AuthenticatesOnlyActive environment store (.basic header session) ↔
      ¬ BasicForInactive environment store (.basic header session) := by
  cases header with
  | none => exact iff_of_true (fun _ accepted => by cases accepted) id
  | some credentials =>
      obtain ⟨username, password⟩ := credentials
      simp only [AuthenticatesOnlyActive, BasicForInactive, attemptAuthentication,
        attemptBasicLogin]
      by_cases asked : environment.config.basicAuthEnabled = true ∧ session = false
      · simp only [asked, Bool.not_false, Bool.and_self, if_true, true_and]
        constructor
        · rintro active ⟨user, found, matching, inactive⟩
          exact inactive (active user (daoAuthenticate_ok.mpr ⟨found, matching⟩)).2
        · intro active user accepted
          obtain ⟨found, matching⟩ := daoAuthenticate_ok.mp accepted
          refine ⟨mem_of_findByUsernameOrEmail found, ?_⟩
          by_contra inactive
          exact active ⟨user, found, matching, inactive⟩
      · have passes : (environment.config.basicAuthEnabled && !session) = false := by
          simpa using asked
        simp only [passes, Bool.false_eq_true, if_false]
        exact iff_of_true (fun _ accepted => by cases accepted)
          fun basic => asked ⟨basic.1, basic.2.1⟩

end Attempts

/-- In every reachable store, a request authenticates only active accounts if and only if it does
not present the password of another one by HTTP Basic. -/
theorem authenticatesOnlyActive_iff (environment : Environment) (state : AccountState)
    (reachable : Reachable environment state) (request : LoginRequest) :
    AuthenticatesOnlyActive environment state.store request ↔
      ¬ BasicForInactive environment state.store request := by
  have trimmed := namesTrimmed_of_reachable reachable
  cases request with
  | basic header session => exact basic_authenticatesOnlyActive_iff header session
  | json payload =>
      exact iff_of_true (fun _ accepted => attemptJsonLogin_active trimmed accepted) id
  | external payload =>
      exact iff_of_true (fun _ accepted => attemptExternalLogin_active accepted) id
  | parameters username password session urlMatches =>
      refine iff_of_true (fun user accepted => ?_) id
      simp only [attemptAuthentication, attemptParametersLogin] at accepted
      split at accepted
      · exact attemptAuthenticationIfActiveUser_active trimmed accepted
      · cases accepted

/-! ### An account that is not activated -/

/-- An account was created and waits for its activation. -/
def pendingAccount : AccountState :=
  ((siteStep (plainEnvironment .entry) newInstallation
    (.account (.createUser (plainInput "alice") "G" "T" "" 0))).getD newInstallation)

theorem reachable_pendingAccount : Reachable (plainEnvironment .entry) pendingAccount :=
  Runs.reaches_of_run_unrestricted
    [.account (.createUser (plainInput "alice") "G" "T" "" 0)] (by decide)

/-- The JSON login of an account that waits for its activation meets the condition. -/
theorem authenticatesOnlyActive_json_pendingAccount :
    AuthenticatesOnlyActive (plainEnvironment .entry) pendingAccount.store
        (.json (some ⟨some "alice", some "secret"⟩)) ↔
      ¬ BasicForInactive (plainEnvironment .entry) pendingAccount.store
        (.json (some ⟨some "alice", some "secret"⟩)) :=
  authenticatesOnlyActive_iff (plainEnvironment .entry) pendingAccount reachable_pendingAccount
    (.json (some ⟨some "alice", some "secret"⟩))

/-- HTTP Basic lets an account in that waits for its activation. -/
theorem not_authenticatesOnlyActive :
    ¬ ∀ state, Reachable (plainEnvironment .entry) state → ∀ request,
      AuthenticatesOnlyActive (plainEnvironment .entry) state.store request := by
  intro always
  have authenticated : ∃ user ∈ pendingAccount.store.users.rows,
      user.accountStatus ≠ .active ∧
        (attemptAuthentication (plainEnvironment .entry) (.basic (some ("alice", "secret")) false)
          pendingAccount.store).2 = .ok (some user) := by
    decide
  obtain ⟨user, -, inactive, accepted⟩ := authenticated
  exact inactive (always pendingAccount reachable_pendingAccount _ user accepted).2

end GraffiTab
