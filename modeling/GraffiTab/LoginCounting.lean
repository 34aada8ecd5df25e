/-
This file asks whether JSON logins count the wrong passwords.

A wrong password is published by the provider, and a listener counts it; the same failure
reaches the filter as a refusal, and the filter counts it again. So the counter of failed
logins goes up by two, the account is locked before five wrong passwords were given, and
where the listener meets the locking attempt, its exception leaves the filter instead of a
refusal. A sequence of logins is counted as it should be exactly if no password in it is
wrong.
-/

import GraffiTab.LoginEffects

namespace GraffiTab

open Tables

/-! ### How logins should be counted -/

/-- The wrong passwords since the last successful login, and whether the account is locked. -/
structure LoginCount where
  failed : Int
  isLocked : Bool

/-- A right password begins to count anew, and a wrong one after five others locks the account. -/
def LoginCount.after (count : LoginCount) (right : Bool) : LoginCount :=
  if count.isLocked then count
  else if right then ⟨0, false⟩
  else if count.failed ≥ 5 then ⟨count.failed, true⟩
  else ⟨count.failed + 1, false⟩

/-- What the account shows is what was counted. -/
structure ShowsCount (user : User) (count : LoginCount) : Prop where
  failed : user.failedLoginAttempts = count.failed
  status : user.accountStatus = if count.isLocked then .resetPassword else .active

/-- A JSON login with a username or an email. -/
structure LoginTry where
  usernameOrEmail : String
  password : String

def LoginTry.request (attempt : LoginTry) : LoginRequest :=
  .json (some ⟨some attempt.usernameOrEmail, some attempt.password⟩)

section Counting

variable (environment : Environment)

/-- After each of the logins the account shows what was counted, and none of them ends with an
exception that is no refusal. -/
def CountsLogins (user : User) : LoginCount → List LoginTry → Store → Prop
  | _, [], _ => True
  | count, attempt :: rest, store =>
      let expected :=
        count.after (environment.encoder.encodedMatches attempt.password user.password)
      (∀ thrown, (attemptAuthentication environment attempt.request store).2 ≠
        .error (.thrown thrown)) ∧
      (∀ account, (login environment attempt.request store).users.find user.id = some account →
        ShowsCount account expected) ∧
      CountsLogins user expected rest (login environment attempt.request store)

/-- An active account with names as the validation leaves them: without blanks around them and taken
by no other account, and the username without the character that marks an email. -/
structure LoginAccount (store : Store) (user : User) : Prop where
  stored : user ∈ store.users.rows
  active : user.accountStatus = .active
  plainUsername : '@' ∉ user.username.toList
  trimmedUsername : trim user.username = user.username
  trimmedEmail : trim user.email = user.email
  onlyUsername : ∀ other ∈ store.users.rows,
    environment.platform.collate other.username = environment.platform.collate user.username →
      other = user
  onlyEmail : ∀ other ∈ store.users.rows,
    environment.platform.collate other.email = environment.platform.collate user.email →
      other = user

/-- The text is the username of the account or a case variant of its email. -/
def NamesAccount (user : User) (text : String) : Prop :=
  text = user.username ∨ '@' ∈ text.toList ∧ environment.platform.toLowerCase text = user.email

/-- Every sequence of JSON logins to an active account is counted. -/
def JsonLoginsAreCounted : Prop :=
  ∀ store user tries, LoginAccount environment store user →
    (∀ attempt ∈ tries, NamesAccount environment user attempt.usernameOrEmail) →
      CountsLogins environment user ⟨user.failedLoginAttempts, false⟩ tries store

end Counting

/-! ### The account of a login -/

section Accounts

variable {environment : Environment} {store : Store} {user : User}

theorem LoginAccount.find (account : LoginAccount environment store user) :
    store.users.find user.id = some user :=
  Table.find_of_mem account.stored

/-- Both names find the account. -/
theorem LoginAccount.named (account : LoginAccount environment store user) {text : String}
    (names : NamesAccount environment user text) :
    findByUsernameOrEmail environment.platform text store = .ok (some user) := by
  refine findByUsernameOrEmail_eq_some.mpr ⟨⟨account.stored, ?_⟩, fun other member isNamed => ?_⟩
  · rcases names with rfl | ⟨isEmail, lowered⟩
    · rw [User.isNamed, if_neg (by rw [List.contains_iff_mem]; exact account.plainUsername)]
      exact decide_eq_true rfl
    · rw [User.isNamed, if_pos (List.contains_iff_mem.mpr isEmail), lowered]
      exact decide_eq_true rfl
  · rcases names with rfl | ⟨isEmail, lowered⟩
    · rw [User.isNamed, if_neg (by rw [List.contains_iff_mem]; exact account.plainUsername)]
        at isNamed
      exact account.onlyUsername other member (of_decide_eq_true isNamed)
    · rw [User.isNamed, if_pos (List.contains_iff_mem.mpr isEmail), lowered] at isNamed
      exact account.onlyEmail other member (of_decide_eq_true isNamed)

/-- The text that the filter hands to the provider names the account, too. -/
theorem LoginAccount.trimmed (account : LoginAccount environment store user) {text : String}
    (names : NamesAccount environment user text) : NamesAccount environment user (trim text) := by
  rcases names with rfl | ⟨isEmail, lowered⟩
  · exact .inl account.trimmedUsername
  · refine .inr ⟨(mem_trim (by decide)).mpr isEmail, ?_⟩
    rw [environment.platform.toLowerCase_trim, lowered, account.trimmedEmail]

/-- A change of the account that keeps its names and its status leaves it an account for logins. -/
theorem LoginAccount.saveUser (account : LoginAccount environment store user) (changed : User)
    (id : changed.id = user.id) (username : changed.username = user.username)
    (email : changed.email = user.email) (status : changed.accountStatus = user.accountStatus) :
    LoginAccount environment (store.saveUser changed) changed where
  stored := Table.mem_set.mpr (.inl ⟨rfl, user, account.stored, id.symm⟩)
  active := status.trans account.active
  plainUsername := username ▸ account.plainUsername
  trimmedUsername := username ▸ account.trimmedUsername
  trimmedEmail := email ▸ account.trimmedEmail
  onlyUsername other member same := by
    rcases Table.mem_set.mp member with ⟨isChanged, -⟩ | ⟨old, different⟩
    · exact isChanged
    · rw [username] at same
      exact absurd ((congrArg User.id (account.onlyUsername other old same)).trans id.symm)
        different
  onlyEmail other member same := by
    rcases Table.mem_set.mp member with ⟨isChanged, -⟩ | ⟨old, different⟩
    · exact isChanged
    · rw [email] at same
      exact absurd ((congrArg User.id (account.onlyEmail other old same)).trans id.symm) different

/-- The account that is written back is found. -/
theorem find_saveUser_self (changed : User) {old : User}
    (stored : store.users.find user.id = some old) (id : changed.id = user.id) :
    (store.saveUser changed).users.find user.id = some changed := by
  rw [← id] at stored ⊢
  exact Table.find_set_self stored

/-! ### One login -/

/-- A login with the right password. -/
theorem attempt_right (account : LoginAccount environment store user) {attempt : LoginTry}
    (names : NamesAccount environment user attempt.usernameOrEmail)
    (right : environment.encoder.encodedMatches attempt.password user.password = true) :
    attemptAuthentication environment attempt.request store = (store, .ok (some user)) := by
  have provided := daoAuthenticate_right (account.named (account.trimmed names)) right
  simp only [attemptAuthentication, LoginTry.request, attemptJsonLogin,
    attemptAuthenticationIfActiveUser, account.named names, account.active, if_true, provided]

theorem login_right (account : LoginAccount environment store user) {attempt : LoginTry}
    (names : NamesAccount environment user attempt.usernameOrEmail)
    (right : environment.encoder.encodedMatches attempt.password user.password = true) :
    login environment attempt.request store =
      store.saveUser { user with failedLogins := some 0 } := by
  have attempted := attempt_right account names right
  have reset : resetLoginAttempts environment user.username store =
      (store.saveUser { user with failedLogins := some 0 }, .ok ()) := by
    simp only [resetLoginAttempts, transaction, account.named (.inl rfl)]
    rfl
  simp only [LoginTry.request] at attempted ⊢
  simp only [login, attempted, reset]

/-- A wrong password when five are counted leaves the filter as the exception of the listener. -/
theorem attempt_wrong_many (account : LoginAccount environment store user) {attempt : LoginTry}
    (names : NamesAccount environment user attempt.usernameOrEmail)
    (wrong : environment.encoder.encodedMatches attempt.password user.password = false)
    (many : user.failedLoginAttempts ≥ 5) :
    (attemptAuthentication environment attempt.request store).2 =
      .error (.thrown (hitMaximumLoginAttempts (trim attempt.usernameOrEmail))) := by
  have answer := account.named (account.trimmed names)
  have provided := daoAuthenticate_wrong answer wrong
  rw [updateLoginAttempts_found answer, if_pos many] at provided
  simp only [attemptAuthentication, LoginTry.request, attemptJsonLogin,
    attemptAuthenticationIfActiveUser, account.named names, account.active, if_true, provided]

/-- A wrong password before is counted by the listener and by the filter. -/
theorem login_wrong_few (account : LoginAccount environment store user) {attempt : LoginTry}
    (names : NamesAccount environment user attempt.usernameOrEmail)
    (wrong : environment.encoder.encodedMatches attempt.password user.password = false)
    (few : user.failedLoginAttempts < 5) :
    login environment attempt.request store =
      (updateLoginAttempts environment attempt.usernameOrEmail
        (store.saveUser user.withFailedLogin)).1 := by
  have answer := account.named (account.trimmed names)
  have provided := daoAuthenticate_wrong answer wrong
  rw [updateLoginAttempts_found answer, if_neg (Int.not_le.mpr few)] at provided
  have attempted : attemptAuthentication environment attempt.request store =
      countFailedLogin environment attempt.usernameOrEmail
        (.badCredentialsException "Bad credentials") (store.saveUser user.withFailedLogin) := by
    simp only [attemptAuthentication, LoginTry.request, attemptJsonLogin,
      attemptAuthenticationIfActiveUser, account.named names, account.active, if_true, provided,
      refuse]
  obtain ⟨failure, counted⟩ := countFailedLogin_eq environment
    (store.saveUser user.withFailedLogin) attempt.usernameOrEmail
    (.badCredentialsException "Bad credentials")
  exact login_failed (attempted.trans counted)

/-- What the two counts leave of the account. -/
theorem find_login_wrong (account : LoginAccount environment store user) {attempt : LoginTry}
    (names : NamesAccount environment user attempt.usernameOrEmail)
    (wrong : environment.encoder.encodedMatches attempt.password user.password = false)
    (few : user.failedLoginAttempts < 5) :
    (login environment attempt.request store).users.find user.id =
      some (if user.withFailedLogin.failedLoginAttempts ≥ 5 then user.withFailedLogin.locked
        else user.withFailedLogin.withFailedLogin) := by
  have counted : findByUsernameOrEmail environment.platform attempt.usernameOrEmail
      (store.saveUser user.withFailedLogin) =
        .ok (some (if user = user then user.withFailedLogin else user)) :=
    findByUsernameOrEmail_saveUser account.stored rfl rfl rfl (account.named names)
  rw [if_pos rfl] at counted
  have first : (store.saveUser user.withFailedLogin).users.find user.id =
      some user.withFailedLogin :=
    find_saveUser_self user.withFailedLogin account.find rfl
  rw [login_wrong_few account names wrong few, updateLoginAttempts_found counted]
  by_cases many : user.withFailedLogin.failedLoginAttempts ≥ 5
  · rw [if_pos many, if_pos many]
    exact find_saveUser_self user.withFailedLogin.locked first rfl
  · rw [if_neg many, if_neg many]
    exact find_saveUser_self user.withFailedLogin.withFailedLogin first rfl

/-- A login is counted exactly if its password is right. -/
theorem counts_iff (account : LoginAccount environment store user) {attempt : LoginTry}
    (names : NamesAccount environment user attempt.usernameOrEmail) :
    ((∀ thrown, (attemptAuthentication environment attempt.request store).2 ≠
        .error (.thrown thrown)) ∧
      ∀ found, (login environment attempt.request store).users.find user.id = some found →
        ShowsCount found (LoginCount.after ⟨user.failedLoginAttempts, false⟩
          (environment.encoder.encodedMatches attempt.password user.password))) ↔
      environment.encoder.encodedMatches attempt.password user.password = true := by
  cases right : environment.encoder.encodedMatches attempt.password user.password with
  | true =>
      refine iff_of_true ⟨fun thrown => ?_, fun found answer => ?_⟩ rfl
      · rw [attempt_right account names right]
        nofun
      · rw [login_right account names right] at answer
        rw [find_saveUser_self { user with failedLogins := some 0 } account.find rfl] at answer
        rw [← Option.some.inj answer]
        exact ⟨rfl, account.active⟩
  | false =>
      refine iff_of_false (fun counted => ?_) Bool.false_ne_true
      obtain ⟨refused, shows⟩ := counted
      by_cases many : user.failedLoginAttempts ≥ 5
      · exact refused _ (attempt_wrong_many account names right many)
      have shown := shows _ (find_login_wrong account names right (Int.not_le.mp many))
      have expected : LoginCount.after ⟨user.failedLoginAttempts, false⟩ false =
          ⟨user.failedLoginAttempts + 1, false⟩ := by
        simp only [LoginCount.after, Bool.false_eq_true, if_false, if_neg many]
      rw [expected] at shown
      split at shown
      -- the second count locks the account
      · have status : AccountStatus.resetPassword = .active := shown.status
        exact absurd status (by decide)
      -- the second count is one too many
      · have failed : user.failedLoginAttempts + 1 + 1 = user.failedLoginAttempts + 1 :=
          shown.failed
        omega

end Accounts

/-! ### Sequences of logins -/

section Sequences

variable (environment : Environment)

/-- The logins are counted from the state on in which the account is as it stands now. -/
theorem countsLogins_iff_from (user : User) (tries : List LoginTry) :
    ∀ (store : Store) (current : User), LoginAccount environment store current →
      current.id = user.id → current.password = user.password →
      (∀ attempt ∈ tries, NamesAccount environment current attempt.usernameOrEmail) →
      (CountsLogins environment user ⟨current.failedLoginAttempts, false⟩ tries store ↔
        ∀ attempt ∈ tries,
          environment.encoder.encodedMatches attempt.password user.password = true) := by
  induction tries with
  | nil =>
      intro store current _ _ _ _
      exact iff_of_true trivial (List.forall_mem_nil _)
  | cons attempt rest step =>
      intro store current account sameId samePassword named
      have names := named attempt List.mem_cons_self
      have counted := counts_iff account names
      rw [sameId, samePassword] at counted
      rw [CountsLogins, List.forall_mem_cons, ← and_assoc, counted]
      refine and_congr_right fun right => ?_
      -- the right password starts the count anew
      have reset : LoginCount.after ⟨current.failedLoginAttempts, false⟩ true = ⟨0, false⟩ := rfl
      rw [right, reset, login_right account names (samePassword ▸ right)]
      exact step _ _ (account.saveUser { current with failedLogins := some 0 } rfl rfl rfl rfl)
        sameId samePassword fun other member => named other (List.mem_cons_of_mem _ member)

/-- Logins are counted as they should be exactly if no password is wrong. -/
theorem countsLogins_iff (store : Store) (user : User)
    (account : LoginAccount environment store user) (tries : List LoginTry)
    (named : ∀ attempt ∈ tries, NamesAccount environment user attempt.usernameOrEmail) :
    CountsLogins environment user ⟨user.failedLoginAttempts, false⟩ tries store ↔
      ∀ attempt ∈ tries,
        environment.encoder.encodedMatches attempt.password user.password = true :=
  countsLogins_iff_from environment user tries store user account rfl rfl named

end Sequences

/-- An active account without failed logins. -/
def loginUser : User := { plainUser 1 "alice" with password := "secret" }

def loginStore : Store := { Store.empty with users := Table.empty.insert loginUser }

theorem loginAccount_loginUser : LoginAccount (plainEnvironment .entry) loginStore loginUser where
  stored := by decide
  active := by decide
  plainUsername := by decide
  trimmedUsername := by decide
  trimmedEmail := by decide
  onlyUsername := by decide
  onlyEmail := by decide

def wrongTry : LoginTry := ⟨"alice", "wrong"⟩
def rightTry : LoginTry := ⟨"Alice@GraffiTab.com", "secret"⟩

theorem namesAccount_tries : ∀ attempt ∈ [wrongTry, rightTry],
    NamesAccount (plainEnvironment .entry) loginUser attempt.usernameOrEmail := by
  simp only [List.forall_mem_cons]
  exact ⟨.inl (by decide), .inr ⟨by decide, by decide⟩, List.forall_mem_nil _⟩

/-- A wrong and a right password meet the conditions. -/
theorem countsLogins_iff_wrongThenRight :
    CountsLogins (plainEnvironment .entry) loginUser ⟨loginUser.failedLoginAttempts, false⟩
        [wrongTry, rightTry] loginStore ↔
      ∀ attempt ∈ [wrongTry, rightTry],
        (plainEnvironment .entry).encoder.encodedMatches attempt.password loginUser.password =
          true :=
  countsLogins_iff (plainEnvironment .entry) loginStore loginUser loginAccount_loginUser
    [wrongTry, rightTry] namesAccount_tries

/-- The first wrong password counts twice. -/
theorem not_jsonLoginsAreCounted : ¬ JsonLoginsAreCounted (plainEnvironment .entry) := by
  intro counted
  have counts := counted loginStore loginUser [wrongTry] loginAccount_loginUser
    fun attempt member => namesAccount_tries attempt (List.mem_cons.mpr
      (.inl (List.mem_singleton.mp member)))
  have twice : (login (plainEnvironment .entry) wrongTry.request loginStore).users.find
      loginUser.id = some { loginUser with failedLogins := some 2 } := by
    decide
  have shown := (counts.2.1 _ twice).failed
  exact absurd shown (by decide)

end GraffiTab
