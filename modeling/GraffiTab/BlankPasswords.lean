/-
This file asks whether an account can get a blank password.

Five entry points set a password. The page for a forgotten password asks for a password that
has text; a new account only for one that is not empty; the REST endpoint that completes a
reset and the change of a password ask for nothing. So blank passwords are stored, except by
way of the page, and the stored passwords stay real as long as no call that gets as far as the
encoder brings one.

The encoder does not read the whole of a long password: to BCrypt a password that begins with 72
blanks is a blank one. What it reads is therefore a parameter, of which three things are known.
-/

import GraffiTab.Accounts
import GraffiTab.Library.Runs

namespace GraffiTab

open Tables Runs

/-! ### The encoder -/

/-- A result of `PasswordGenerator.generatePassword`: eight digits and letters. -/
def isGenerated (password : String) : Bool :=
  password.length = 8 && password.toList.all Char.isAlphanum

/-- What the encoder reads of a password, as BCrypt its first 72 bytes: passwords of which different
parts are read have different encodings, no text is read of a blank password, and a short password
of digits and letters is read as a whole. -/
structure PasswordEncoder.Reads (encoder : PasswordEncoder) (read : String → String) : Prop where
  alike : ∀ salt password otherSalt other,
    encoder.encode salt password = encoder.encode otherSalt other → read password = read other
  blank : ∀ password, hasText (some password) = false → hasText (some (read password)) = false
  whole : ∀ password, password.length ≤ 72 → password.toList.all Char.isAlphanum = true →
    read password = password

/-! ### The page for a forgotten password -/

structure ResetPasswordForm where
  newPassword : Option String
  repeatedPassword : Option String
  token : String

/-- The page that answers the form; the form itself comes back with an error code. -/
inductive ResetPasswordPage where
  | resetPassword (errorCode : String)
  | resetPasswordError
  | resetPasswordSuccess
  deriving DecidableEq

def passwordsAreProvided (form : ResetPasswordForm) : Bool :=
  hasText form.newPassword && hasText form.repeatedPassword

def validatePasswordsMatch (form : ResetPasswordForm) : Bool :=
  form.newPassword = form.repeatedPassword

section Steps

variable (environment : Environment)

/-- `PagesController.postCompleteResetPassword`. -/
def postCompleteResetPassword (form : ResetPasswordForm) (salt : String) (now : Long)
    (store : Store) : Store × ResetPasswordPage :=
  if !passwordsAreProvided form then (store, .resetPassword "password.blank")
  else if validatePasswordsMatch form then
    match completePasswordReset environment form.token salt (form.newPassword.getD "") now store
      with
    | (next, .ok _) => (next, .resetPasswordSuccess)
    | (next, .error _) => (next, .resetPasswordError)
  else (store, .resetPassword "password.dontMatch")

/-! ### Runs -/

/-- A call of a service by a REST endpoint, or a form that is sent. -/
inductive PasswordAction where
  | account (action : AccountAction)
  | postCompleteResetPassword (form : ResetPasswordForm) (salt : String) (now : Long)

/-- The password of an external account is generated. -/
def AccountAction.generatesPassword : AccountAction → Bool
  | .createExternalUser _ _ _ _ generated _ => isGenerated generated
  | _ => true

def passwordStep (state : AccountState) : PasswordAction → Option AccountState
  | .account action =>
      if action.generatesPassword then accountStep environment state action else none
  | .postCompleteResetPassword form salt now =>
      some { state with
        store := (GraffiTab.postCompleteResetPassword environment form salt now state.store).1 }

/-- The action asks for a password that is empty, all blank or missing. -/
def PasswordAction.SetsBlank : PasswordAction → Prop
  | .account (.createUser user _ _ _ _) => hasText user.password = false
  | .account (.createExternalUser _ _ _ _ generated _) => hasText (some generated) = false
  | .account (.completePasswordReset _ _ newPassword _) => hasText (some newPassword) = false
  | .account (.changePassword _ _ _ newPassword _ _) => hasText (some newPassword) = false
  | .postCompleteResetPassword form _ _ => hasText form.newPassword = false
  | _ => False

/-- The action that sets a password is answered with a success. -/
def PasswordAction.isAccepted (store : Store) : PasswordAction → Bool
  | .account (.createUser user guid userToken salt now) =>
      (createUser environment user guid userToken salt now store).2.isOk
  | .account (.createExternalUser user external guid salt generated now) =>
      (createExternalUser environment user external guid salt generated now store).2.isOk
  | .account (.completePasswordReset token salt newPassword now) =>
      (completePasswordReset environment token salt newPassword now store).2.isOk
  | .account (.changePassword currentUserId currentPassword salt newPassword session now) =>
      (changePassword environment currentUserId currentPassword salt newPassword session now
        store).2.isOk
  | .postCompleteResetPassword form salt now =>
      (GraffiTab.postCompleteResetPassword environment form salt now store).2 =
        .resetPasswordSuccess
  | _ => true

/-- The stored password is the encoding of a blank one. -/
def EncodesBlank (stored : String) : Prop :=
  ∃ salt blank, hasText (some blank) = false ∧ stored = environment.encoder.encode salt blank

def PasswordsReal (store : Store) : Prop :=
  ∀ user ∈ store.users.rows, ¬ EncodesBlank environment user.password

/-- No account gets a blank password, and whoever asks for one is refused and changes nothing; in
every run whose steps meet the condition. -/
def KeepsPasswordsReal (condition : AccountState → PasswordAction → Prop) : Prop :=
  ∀ start, PasswordsReal environment start.store → ∀ state,
    Reaches (passwordStep environment) condition start state →
      PasswordsReal environment state.store ∧
      ∀ action next, condition state action → action.SetsBlank →
        passwordStep environment state action = some next →
          next.store = state.store ∧ action.isAccepted environment state.store = false

/-- The token is that of a user who waits for a reset, in time. -/
def WaitsForReset (token : String) (now : Long) (store : Store) (user : User) : Prop :=
  findUsersWithMetadataValues environment.platform resetPasswordActivationToken token store =
      .ok (some user) ∧
    StoredWithin resetPasswordTokenExpirationMs resetPasswordActivationTokenDate now user ∧
    user.accountStatus = .resetPassword

/-- The action brings a new password and passes all that is checked before it is encoded. -/
def PasswordAction.Encodes (store : Store) : PasswordAction → String → Prop
  | .account (.createUser user _ _ _ _), newPassword =>
      checkCreateUser environment user store = .ok () ∧ user.password = some newPassword
  | .account (.completePasswordReset token _ password now), newPassword =>
      (∃ user, WaitsForReset environment token now store user) ∧ password = newPassword
  | .account (.changePassword currentUserId currentPassword _ password session _), newPassword =>
      (∃ user, findUserById currentUserId store = some user ∧
        environment.encoder.encodedMatches currentPassword user.password = true) ∧
      session.isSome ∧ password = newPassword
  | .postCompleteResetPassword form _ now, newPassword =>
      passwordsAreProvided form = true ∧ validatePasswordsMatch form = true ∧
      (∃ user, WaitsForReset environment form.token now store user) ∧
      form.newPassword = some newPassword
  | _, _ => False

/-- The encoder reads a text of every new password that gets as far as it. -/
def GivesRealPasswords (read : String → String) (state : AccountState)
    (action : PasswordAction) : Prop :=
  ∀ newPassword, action.Encodes environment state.store newPassword →
    hasText (some (read newPassword)) = true

end Steps

/-! ### What the entry points refuse -/

section Refusals

variable {environment : Environment} {state next : AccountState} {store : Store}

/-- An account is not created without a password or with an empty one. -/
theorem checkCreateUser_of_isEmpty {user : UserInput} (empty : isEmpty user.password = true) :
    checkCreateUser environment user store ≠ .ok () := by
  intro checked
  obtain ⟨valid, -⟩ := checkCreateUser_ok environment checked
  unfold validateCreateUser at valid
  split at valid
  · exact absurd valid throw_ne_ok
  · obtain ⟨email, -, rest⟩ := bind_eq_ok.mp valid
    simp only [empty, Bool.not_false, Bool.and_self, Bool.or_true, if_true] at rest
    exact absurd rest throw_ne_ok

/-- The page refuses every blank password. -/
theorem postCompleteResetPassword_of_blank {form : ResetPasswordForm}
    (blank : hasText form.newPassword = false) (salt : String) (now : Long) :
    postCompleteResetPassword environment form salt now store =
      (store, .resetPassword "password.blank") := by
  rw [postCompleteResetPassword, passwordsAreProvided, blank]
  rfl

/-! ### What a step does to the passwords -/

/-- Where a stored password comes from: it was there, or it is the encoding of a generated password
or of the one that the action brings. -/
def StoredPassword (environment : Environment) (store : Store) (action : PasswordAction)
    (password : String) : Prop :=
  (∃ old ∈ store.users.rows, password = old.password) ∨
    ∃ salt newPassword, password = environment.encoder.encode salt newPassword ∧
      (isGenerated newPassword = true ∨ action.Encodes environment store newPassword)

/-- An account that is created has a password. -/
theorem password_of_checkCreateUser {user : UserInput}
    (checked : checkCreateUser environment user store = .ok ()) :
    ∃ password, user.password = some password := by
  cases given : user.password with
  | none => exact absurd checked (checkCreateUser_of_isEmpty (by rw [given]; rfl))
  | some password => exact ⟨password, rfl⟩

/-- A reset sets the password of a user who waits for it, or changes nothing. -/
theorem completePasswordReset_cases (environment : Environment) (token salt newPassword : String)
    (now : Long) (store : Store) :
    (∃ thrown, completePasswordReset environment token salt newPassword now store =
      (store, .error thrown)) ∨
    ∃ found, WaitsForReset environment token now store found ∧
      (completePasswordReset environment token salt newPassword now store).1.users =
        store.users.set (withResetPassword environment found salt newPassword) := by
  rcases transaction_cases (completePasswordResetBody environment token salt newPassword now)
    store with ⟨changed, committed, returned, same⟩ | ⟨thrown, -, same⟩
  · obtain ⟨found, answer, recent, locked, rfl, rfl⟩ := completePasswordResetBody_ok returned
    exact .inr ⟨found, ⟨answer, recent, locked⟩, congrArg (·.1.users) same⟩
  · exact .inl ⟨thrown, same⟩

/-- A change sets the password of a user who knows the old one, or changes nothing. -/
theorem changePassword_cases (environment : Environment) (currentUserId : Long)
    (currentPassword salt newPassword : String) (session : Option String) (now : Long)
    (store : Store) :
    (∃ thrown, changePassword environment currentUserId currentPassword salt newPassword session
      now store = (store, .error thrown)) ∨
    ∃ found, findUserById currentUserId store = some found ∧
      environment.encoder.encodedMatches currentPassword found.password = true ∧ session.isSome ∧
      (changePassword environment currentUserId currentPassword salt newPassword session now
        store).1.users = store.users.set (withChangedPassword environment found salt newPassword
          now) := by
  rcases transaction_cases (changePasswordBody environment currentUserId currentPassword salt
    newPassword session now) store with ⟨changed, committed, returned, same⟩ | ⟨thrown, -, same⟩
  · obtain ⟨found, known, matching, hasSession, rfl, rfl⟩ := changePasswordBody_ok returned
    exact .inr ⟨found, known, matching, hasSession, congrArg (·.1.users) same⟩
  · exact .inl ⟨thrown, same⟩

/-- The page does what the endpoint does, if its checks are passed, or nothing. -/
theorem postCompleteResetPassword_fst (environment : Environment) (form : ResetPasswordForm)
    (salt : String) (now : Long) (store : Store) :
    (postCompleteResetPassword environment form salt now store).1 = store ∨
      ∃ newPassword, passwordsAreProvided form = true ∧ validatePasswordsMatch form = true ∧
        form.newPassword = some newPassword ∧
        (postCompleteResetPassword environment form salt now store).1 =
          (completePasswordReset environment form.token salt newPassword now store).1 := by
  cases given : form.newPassword with
  | none =>
      rw [postCompleteResetPassword_of_blank (by rw [given]; rfl)]
      exact .inl rfl
  | some newPassword =>
      unfold postCompleteResetPassword
      rw [given, Option.getD_some]
      split
      · exact .inl rfl
      rename_i provided
      split
      · rename_i matching
        rw [Bool.not_eq_true', Bool.not_eq_false] at provided
        refine .inr ⟨newPassword, provided, matching, rfl, ?_⟩
        split <;> rename_i same <;> rw [same]
      · exact .inl rfl

theorem storedPassword_inserted {action : AccountAction} {row : User}
    (generated : action.generatesPassword = true)
    (inserts : InsertsUser environment store action row) :
    StoredPassword environment store (.account action) row.password := by
  cases action with
  | createUser user guid userToken salt now =>
      obtain ⟨checked, avatarAsset, coverAsset, rfl⟩ := inserts
      obtain ⟨password, given⟩ := password_of_checkCreateUser checked
      exact .inr ⟨salt, password, by rw [given]; rfl, .inr ⟨checked, given⟩⟩
  | createExternalUser user account guid salt password now =>
      obtain ⟨-, avatarAsset, coverAsset, rfl⟩ := inserts
      exact .inr ⟨salt, password, rfl, .inl generated⟩
  | _ => exact inserts.elim

/-- Of the operations on accounts only two change a stored password. -/
theorem password_changed {action : AccountAction} {found changed : User}
    (changes : ChangesUser environment store action found changed)
    (noReset : ∀ token salt newPassword now,
      action ≠ .completePasswordReset token salt newPassword now)
    (noChange : ∀ currentUserId currentPassword salt newPassword session now,
      action ≠ .changePassword currentUserId currentPassword salt newPassword session now) :
    changed.password = found.password := by
  cases action with
  | createUser | createExternalUser => exact changes.elim
  | editUser =>
      rw [changes.2]
      rfl
  | activateUser => rw [changes.2]
  | resetPassword =>
      rw [changes]
      rfl
  | resetLoginAttempts => rw [changes]
  | updateLoginAttempts => rcases changes.2 with ⟨-, rfl⟩ | ⟨-, rfl⟩ <;> rfl
  | completePasswordReset => exact absurd rfl (noReset _ _ _ _)
  | changePassword => exact absurd rfl (noChange _ _ _ _ _ _)

theorem storedPassword_accountStep {action : AccountAction}
    (generated : action.generatesPassword = true)
    (taken : accountStep environment state action = some next) {user : User}
    (member : user ∈ next.store.users.rows) :
    StoredPassword environment state.store (.account action) user.password := by
  have setUser {changed : User} (saved : next.store.users = state.store.users.set changed)
      (stored : StoredPassword environment state.store (.account action) changed.password) :
      StoredPassword environment state.store (.account action) user.password := by
    rw [saved, Table.mem_set] at member
    rcases member with ⟨rfl, -⟩ | ⟨old, -⟩
    · exact stored
    · exact .inl ⟨user, old, rfl⟩
  have unchanged (same : next.store.users = state.store.users) :
      StoredPassword environment state.store (.account action) user.password :=
    .inl ⟨user, same ▸ member, rfl⟩
  cases action with
  | completePasswordReset token salt newPassword now =>
      obtain rfl := Option.some.inj taken
      rcases completePasswordReset_cases environment token salt newPassword now state.store with
        ⟨thrown, same⟩ | ⟨found, waits, saved⟩
      · exact unchanged (congrArg (·.1.users) same)
      · exact setUser saved (.inr ⟨salt, newPassword, rfl, .inr ⟨⟨found, waits⟩, rfl⟩⟩)
  | changePassword currentUserId currentPassword salt newPassword session now =>
      obtain rfl := Option.some.inj taken
      rcases changePassword_cases environment currentUserId currentPassword salt newPassword session
        now state.store with ⟨thrown, same⟩ | ⟨found, known, matching, hasSession, saved⟩
      · exact unchanged (congrArg (·.1.users) same)
      · exact setUser saved
          (.inr ⟨salt, newPassword, rfl, .inr ⟨⟨found, known, matching⟩, hasSession, rfl⟩⟩)
  | _ =>
      rcases accountStep_users taken with same | ⟨row, inserts, inserted⟩ |
        ⟨found, foundMember, changed, changes, saved⟩
      · exact unchanged same
      · rw [inserted, Table.mem_insert] at member
        rcases member with old | rfl
        · exact .inl ⟨user, old, rfl⟩
        · have stored := storedPassword_inserted generated inserts
          exact stored
      · exact setUser saved
          (.inl ⟨found, foundMember, password_changed changes (by simp) (by simp)⟩)

theorem storedPassword_step {action : PasswordAction}
    (taken : passwordStep environment state action = some next) {user : User}
    (member : user ∈ next.store.users.rows) :
    StoredPassword environment state.store action user.password := by
  cases action with
  | account action =>
      rw [passwordStep, Option.ite_none_right_eq_some] at taken
      exact storedPassword_accountStep taken.1 taken.2 member
  | postCompleteResetPassword form salt now =>
      obtain rfl := Option.some.inj taken
      rcases postCompleteResetPassword_fst environment form salt now state.store with
        same | ⟨newPassword, provided, matching, given, same⟩
      · exact .inl ⟨user, same ▸ member, rfl⟩
      simp only [same] at member
      rcases completePasswordReset_cases environment form.token salt newPassword now state.store
        with ⟨thrown, refused⟩ | ⟨found, waits, saved⟩
      · rw [refused] at member
        exact .inl ⟨user, member, rfl⟩
      · rw [saved, Table.mem_set] at member
        rcases member with ⟨rfl, -⟩ | ⟨old, -⟩
        · exact .inr ⟨salt, newPassword, rfl, .inr ⟨provided, matching, ⟨found, waits⟩, given⟩⟩
        · exact .inl ⟨user, old, rfl⟩

/-! ### Runs with real passwords -/

variable {read : String → String}

/-- A password of which a text is read has not the encoding of a blank one. -/
theorem not_encodesBlank (reads : environment.encoder.Reads read) (salt : String)
    {password : String} (isText : hasText (some (read password)) = true) :
    ¬ EncodesBlank environment (environment.encoder.encode salt password) := by
  rintro ⟨otherSalt, blank, isBlank, same⟩
  rw [reads.alike salt password otherSalt blank same, reads.blank blank isBlank] at isText
  cases isText

/-- A generated password is no blank one. -/
theorem hasText_of_isGenerated {password : String} (generated : isGenerated password = true) :
    hasText (some password) = true := by
  rw [isGenerated, Bool.and_eq_true, decide_eq_true_eq, List.all_eq_true] at generated
  obtain ⟨length, letters⟩ := generated
  obtain ⟨first, rest, isCons⟩ : ∃ first rest, password.toList = first :: rest :=
    List.exists_cons_of_length_pos (by rw [String.length_toList, length]; decide)
  have letter := letters first (isCons ▸ List.mem_cons_self)
  exact List.any_eq_true.mpr ⟨first, isCons ▸ List.mem_cons_self, by
    rw [not_isWhitespace_of_isAlphanum letter]
    rfl⟩

theorem read_of_isGenerated (reads : environment.encoder.Reads read) {password : String}
    (generated : isGenerated password = true) : read password = password := by
  rw [isGenerated, Bool.and_eq_true, decide_eq_true_eq] at generated
  exact reads.whole password (by omega) generated.2

/-- Under the condition every step keeps the stored passwords real. -/
theorem passwordsReal_step {action : PasswordAction} (reads : environment.encoder.Reads read)
    (kept : PasswordsReal environment state.store)
    (real : GivesRealPasswords environment read state action)
    (taken : passwordStep environment state action = some next) :
    PasswordsReal environment next.store := by
  intro user member
  rcases storedPassword_step taken member with ⟨old, oldMember, same⟩ |
    ⟨salt, newPassword, same, generated | encodes⟩
  · rw [same]
    exact kept old oldMember
  · rw [same]
    refine not_encodesBlank reads salt ?_
    rw [read_of_isGenerated reads generated]
    exact hasText_of_isGenerated generated
  · rw [same]
    exact not_encodesBlank reads salt (real newPassword encodes)

/-- Under the condition no blank password gets as far as the encoder. -/
theorem not_encodes_blank {action : PasswordAction} (reads : environment.encoder.Reads read)
    (real : GivesRealPasswords environment read state action) {newPassword : String}
    (blank : hasText (some newPassword) = false) :
    ¬ action.Encodes environment state.store newPassword := by
  intro encodes
  have isText := real newPassword encodes
  rw [reads.blank newPassword blank] at isText
  cases isText

/-- Under the condition blank passwords are refused. -/
theorem refused_of_setsBlank {action : PasswordAction} (reads : environment.encoder.Reads read)
    (real : GivesRealPasswords environment read state action) (blank : action.SetsBlank)
    (taken : passwordStep environment state action = some next) :
    next.store = state.store ∧ action.isAccepted environment state.store = false := by
  cases action with
  | postCompleteResetPassword form salt now =>
      obtain rfl := Option.some.inj taken
      have refused : postCompleteResetPassword environment form salt now state.store =
          (state.store, .resetPassword "password.blank") :=
        postCompleteResetPassword_of_blank blank salt now
      refine ⟨congrArg Prod.fst refused, ?_⟩
      rw [PasswordAction.isAccepted, refused]
      rfl
  | account action =>
      rw [passwordStep, Option.ite_none_right_eq_some] at taken
      obtain ⟨generated, taken⟩ := taken
      cases action with
      | createUser user guid userToken salt now =>
          simp only [accountStep, Option.ite_none_right_eq_some, Option.some.injEq] at taken
          obtain ⟨-, rfl⟩ := taken
          rcases createUser_cases environment user guid userToken salt now state.store with
            ⟨thrown, same⟩ | ⟨row, lastAssetId, isRow, checked, same⟩
          · refine ⟨congrArg Prod.fst same, ?_⟩
            rw [PasswordAction.isAccepted, same]
            rfl
          · obtain ⟨password, given⟩ := password_of_checkCreateUser checked
            rw [PasswordAction.SetsBlank, given] at blank
            exact absurd ⟨checked, given⟩ (not_encodes_blank reads real blank)
      | createExternalUser user account guid salt password now =>
          rw [PasswordAction.SetsBlank, hasText_of_isGenerated generated] at blank
          cases blank
      | completePasswordReset token salt newPassword now =>
          obtain rfl := Option.some.inj taken
          rcases completePasswordReset_cases environment token salt newPassword now state.store with
            ⟨thrown, same⟩ | ⟨found, waits, -⟩
          · refine ⟨congrArg Prod.fst same, ?_⟩
            rw [PasswordAction.isAccepted, same]
            rfl
          · exact absurd ⟨⟨found, waits⟩, rfl⟩ (not_encodes_blank reads real blank)
      | changePassword currentUserId currentPassword salt newPassword session now =>
          obtain rfl := Option.some.inj taken
          rcases changePassword_cases environment currentUserId currentPassword salt newPassword
            session now state.store with ⟨thrown, same⟩ | ⟨found, known, matching, hasSession, -⟩
          · refine ⟨congrArg Prod.fst same, ?_⟩
            rw [PasswordAction.isAccepted, same]
            rfl
          · exact absurd ⟨⟨found, known, matching⟩, hasSession, rfl⟩
              (not_encodes_blank reads real blank)
      | _ => exact blank.elim

/-- In every run in which the encoder reads a text of every new password, no account gets a blank
password. -/
theorem keepsPasswordsReal_of_givesRealPasswords (environment : Environment)
    (read : String → String) (reads : environment.encoder.Reads read) :
    KeepsPasswordsReal environment (GivesRealPasswords environment read) := by
  intro start startReal state reached
  have kept : PasswordsReal environment state.store :=
    reached.invariant (fun state => PasswordsReal environment state.store) startReal
      fun _ _ _ holds real taken => passwordsReal_step reads holds real taken
  exact ⟨kept, fun action next real blank taken => refused_of_setsBlank reads real blank taken⟩

end Refusals

/-- The plain encoder reads the whole password. -/
theorem reads_plainEncoder : plainEncoder.Reads id where
  alike _ _ _ _ same := same
  blank _ isBlank := isBlank
  whole _ _ _ := rfl

theorem keepsPasswordsReal_plainEncoder :
    KeepsPasswordsReal (plainEnvironment .entry)
      (GivesRealPasswords (plainEnvironment .entry) id) :=
  keepsPasswordsReal_of_givesRealPasswords (plainEnvironment .entry) id reads_plainEncoder

/-! ### A blank password -/

/-- Alice changes her password to a blank. -/
def changeToBlank : PasswordAction :=
  .account (.changePassword 1 "secret" "" " " (some "S") 1)

def aliceWithSecret : AccountState :=
  ⟨{ Store.empty with
    users := Table.empty.insert { plainUser 0 "alice" with password := "secret" } }, []⟩

def aliceWithBlank : AccountState :=
  (passwordStep (plainEnvironment .entry) aliceWithSecret changeToBlank).getD aliceWithSecret

/-- The change is accepted, and the account has the blank for its password. -/
theorem not_keepsPasswordsReal :
    ¬ KeepsPasswordsReal (plainEnvironment .entry) unrestricted := by
  intro keeps
  have realAtFirst : PasswordsReal (plainEnvironment .entry) aliceWithSecret.store := by
    rintro user member ⟨salt, blank, isBlank, same⟩
    obtain rfl := List.mem_singleton.mp member
    have isSecret : "secret" = blank := same
    subst isSecret
    exact absurd isBlank (by decide)
  have changed : passwordStep (plainEnvironment .entry) aliceWithSecret changeToBlank =
      some aliceWithBlank := rfl
  have reached := reaches_of_run_unrestricted [changeToBlank]
    (show run (passwordStep (plainEnvironment .entry)) aliceWithSecret [changeToBlank] =
      some aliceWithBlank from rfl)
  obtain ⟨real, -⟩ := keeps aliceWithSecret realAtFirst aliceWithBlank reached
  have blankStored : ∃ user ∈ aliceWithBlank.store.users.rows, user.password = " " := by decide
  obtain ⟨user, member, isBlank⟩ := blankStored
  exact real user member ⟨"", " ", by decide, isBlank⟩

end GraffiTab
