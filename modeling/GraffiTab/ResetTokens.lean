/-
This file asks whether a reset token can be used twice.

`completePasswordReset` does not delete the token that it accepts. What stands against a
second use is the status of the account, which the first use sets to `ACTIVE` and which
must be `RESET_PASSWORD`. The status can come back without a new token: failed logins
lock the account into `RESET_PASSWORD`, with the old token still stored. So a token is
accepted once in every run without such a lock of an account that still stores one, and
a run with a lock accepts it twice.
-/

import GraffiTab.Accounts

namespace GraffiTab

open Tables Runs

/-- The account stores the token under the key, or a text that the database takes for it. -/
def User.Holds (platform : Platform) (user : User) (key token : String) : Prop :=
  ∃ stored, user.metadata key = some stored ∧ SameToken platform stored token

/-- Once a token from a reset request was accepted, it is not accepted again, nor is any text that
the database takes for it: for every run whose steps meet the condition, from any state in which the
token is issued. -/
def AcceptedAtMostOnce (environment : Environment)
    (condition : AccountState → AccountAction → Prop) : Prop :=
  ∀ start requested before after later email token issuedAt presented salt newPassword now user,
    condition start (.resetPassword email token issuedAt) →
    accountStep environment start (.resetPassword email token issuedAt) = some requested →
    Reaches (accountStep environment) condition requested before →
    SameToken environment.platform presented token →
    (completePasswordReset environment presented salt newPassword now before.store).2 = .ok user →
    accountStep environment before (.completePasswordReset presented salt newPassword now) =
      some after →
    Reaches (accountStep environment) condition after later →
    ∀ again laterSalt laterPassword laterNow laterUser,
      SameToken environment.platform again token →
        (completePasswordReset environment again laterSalt laterPassword laterNow later.store).2 ≠
          .ok laterUser

/-- No failed login locks an active account that still stores a reset token. Where the query for
a token looks at all the metadata of a user, it is also needed that no clock reading is
written like a token. -/
def KeepsTokensUsed (environment : Environment) (state : AccountState) : AccountAction → Prop
  | .updateLoginAttempts usernameOrEmail => ∀ user,
      findByUsernameOrEmail environment.platform usernameOrEmail state.store = .ok (some user) →
        user.failedLoginAttempts ≥ 5 → user.accountStatus = .active →
          user.metadata resetPasswordActivationToken = none
  | .createUser _ _ _ _ now =>
      environment.platform.elementsScope = .collection →
        ¬ state.HasIssued environment.platform (toString now)
  | .resetPassword _ token now =>
      environment.platform.elementsScope = .collection →
        ¬ SameToken environment.platform token (toString now) ∧
          ¬ state.HasIssued environment.platform (toString now) ∧
            ∀ user ∈ state.store.users.rows, ∀ key ∈ clockKeys,
              ¬ user.Holds environment.platform key token
  | _ => True

/-! ### Metadata -/

theorem metadata_putMetadata_self (user : User) (key value : String) :
    (user.putMetadata key value).metadata key = some value :=
  AList.lookup_insert _

theorem metadata_putMetadata_other (user : User) {key other : String} (value : String)
    (different : other ≠ key) : (user.putMetadata key value).metadata other = user.metadata other :=
  AList.lookup_insert_ne different

theorem metadata_withResetToken (user : User) (token : String) (now : Long) (key : String) :
    (withResetToken user token now).metadata key =
      if key = resetPasswordActivationTokenDate then some (toString now)
      else if key = resetPasswordActivationToken then some token
      else user.metadata key := by
  unfold withResetToken
  by_cases isDate : key = resetPasswordActivationTokenDate
  · rw [if_pos isDate, isDate, metadata_putMetadata_self]
  · rw [if_neg isDate, metadata_putMetadata_other _ _ isDate]
    by_cases isToken : key = resetPasswordActivationToken
    · rw [if_pos isToken, isToken, metadata_putMetadata_self]
    · rw [if_neg isToken, metadata_putMetadata_other _ _ isToken]
      rfl

theorem metadata_activationMetadata (userToken : String) (now : Long) (key : String) :
    (activationMetadata userToken now).lookup key =
      if key = activationTokenDateMetadataKey then some (toString now)
      else if key = activationTokenMetadataKey then some userToken
      else none := by
  unfold activationMetadata
  by_cases isDate : key = activationTokenDateMetadataKey
  · rw [if_pos isDate, isDate, AList.lookup_insert]
  · rw [if_neg isDate, AList.lookup_insert_ne isDate]
    by_cases isToken : key = activationTokenMetadataKey
    · rw [if_pos isToken, isToken, AList.lookup_insert]
    · rw [if_neg isToken, AList.lookup_insert_ne isToken]
      rfl

/-- A fresh token is stored under no key but those of clock readings. -/
theorem FreshToken.not_holds {platform : Platform} {token : String} {state : AccountState}
    (fresh : FreshToken platform token state) {user : User}
    (member : user ∈ state.store.users.rows) {key : String} (notClock : key ∉ clockKeys) :
    ¬ user.Holds platform key token := by
  rintro ⟨stored, isStored, same⟩
  exact fresh.2 user member ⟨key, stored⟩ (AList.mem_lookup_iff.mp isStored) notClock same

/-- What the query for a reset token finds, in terms of the stored values. -/
theorem hasMetadataValue_iff {platform : Platform} {key value : String} {user : User} :
    hasMetadataValue platform key value user = true ↔
      match platform.elementsScope with
      | .entry => user.Holds platform key value
      | .collection => (user.metadata key).isSome ∧ ∃ other, user.Holds platform other value := by
  unfold hasMetadataValue
  cases platform.elementsScope with
  | entry => simp only [Option.any_eq_true, decide_eq_true_eq, User.Holds, User.metadata]
  | collection =>
      simp only [Bool.and_eq_true, List.any_eq_true, decide_eq_true_eq]
      refine and_congr Iff.rfl ⟨?_, ?_⟩
      · rintro ⟨⟨other, stored⟩, member, same⟩
        exact ⟨other, stored, AList.mem_lookup_iff.mpr member, same⟩
      · rintro ⟨other, stored, isStored, same⟩
        exact ⟨⟨other, stored⟩, AList.mem_lookup_iff.mp isStored, same⟩

/-- Whether a user is found depends on the token only as the database compares it. -/
theorem hasMetadataValue_congr {platform : Platform} {key first second : String}
    (same : SameToken platform first second) (user : User) :
    hasMetadataValue platform key first user = hasMetadataValue platform key second user := by
  simp only [hasMetadataValue, SameToken, same]

/-- The user answers to the token. -/
abbrev AnswersTo (environment : Environment) (token : String) (user : User) : Prop :=
  hasMetadataValue environment.platform resetPasswordActivationToken token user = true

/-- Whether a user answers to a token depends on the metadata only. -/
theorem answersTo_congr {environment : Environment} {token : String} {first second : User}
    (same : first.metadataItems = second.metadataItems) :
    AnswersTo environment token first ↔ AnswersTo environment token second := by
  simp only [AnswersTo, hasMetadataValue, same]

/-- A user that answers to some token stores one under the key for it. -/
theorem AnswersTo.isSome {environment : Environment} {token : String} {user : User}
    (answers : AnswersTo environment token user) :
    user.metadata resetPasswordActivationToken ≠ none := by
  have stored := hasMetadataValue_iff.mp answers
  cases scope : environment.platform.elementsScope with
  | entry =>
      rw [scope] at stored
      obtain ⟨token, isStored, -⟩ := stored
      rw [isStored]
      exact Option.some_ne_none token
  | collection =>
      rw [scope] at stored
      exact Option.isSome_iff_ne_none.mp stored.1

/-! ### A token before its use -/

/-- The token was generated; and where all the metadata counts, it is stored as a reset token
only. -/
structure Issued (environment : Environment) (token : String) (state : AccountState) : Prop where
  issued : state.HasIssued environment.platform token
  onlyReset : environment.platform.elementsScope = .collection →
    ∀ user ∈ state.store.users.rows, ∀ key, user.Holds environment.platform key token →
      key = resetPasswordActivationToken

/-- The token was generated, and every account that answers to it is active. -/
structure Used (environment : Environment) (token : String) (state : AccountState) : Prop
    extends Issued environment token state where
  answering : ∀ user ∈ state.store.users.rows, AnswersTo environment token user →
    user.accountStatus = .active

section Tokens

variable {environment : Environment} {token : String} {state next : AccountState}

theorem issued_subset {action : AccountAction}
    (taken : accountStep environment state action = some next) :
    state.issued ⊆ next.issued := by
  cases action with
  | createUser | resetPassword =>
      simp only [accountStep, Option.ite_none_right_eq_some, Option.some.injEq] at taken
      obtain ⟨-, rfl⟩ := taken
      exact List.subset_cons_self _ _
  | _ =>
      obtain rfl := Option.some.inj taken
      exact List.Subset.refl _

theorem AccountState.HasIssued.grow {platform : Platform}
    (issued : state.HasIssued platform token) (grows : state.issued ⊆ next.issued) :
    next.HasIssued platform token := by
  obtain ⟨earlier, member, same⟩ := issued
  exact ⟨earlier, grows member, same⟩

/-- A text that counts as the token was issued when the token was. -/
theorem AccountState.HasIssued.congr {platform : Platform} {other : String}
    (issued : state.HasIssued platform token) (same : SameToken platform other token) :
    state.HasIssued platform other := by
  obtain ⟨earlier, member, isToken⟩ := issued
  exact ⟨earlier, member, isToken.trans same.symm⟩

/-- An inserted user answers to no token. -/
theorem not_answersTo_inserted {action : AccountAction} {row : User} (id : Long)
    (inserts : InsertsUser environment state.store action row) :
    ¬ AnswersTo environment token { row with id } := by
  intro answers
  refine answers.isSome ?_
  cases action with
  | createUser user guid userToken salt now =>
      obtain ⟨-, avatarAsset, coverAsset, rfl⟩ := inserts
      refine (metadata_activationMetadata userToken now _).trans ?_
      rw [if_neg (by decide), if_neg (by decide)]
  | createExternalUser =>
      obtain ⟨-, avatarAsset, coverAsset, rfl⟩ := inserts
      rfl
  | _ => exact inserts.elim

/-- An inserted user does not store a token that was generated before. -/
theorem not_holds_inserted {action : AccountAction} {row : User}
    (issued : Issued environment token state)
    (kept : KeepsTokensUsed environment state action)
    (scope : environment.platform.elementsScope = .collection)
    (taken : accountStep environment state action = some next)
    (inserts : InsertsUser environment state.store action row) (key : String) :
    ¬ row.Holds environment.platform key token := by
  rintro ⟨value, stored, same⟩
  cases action with
  | createUser user guid userToken salt now =>
      obtain ⟨-, avatarAsset, coverAsset, rfl⟩ := inserts
      simp only [accountStep, Option.ite_none_right_eq_some] at taken
      have lookup := (metadata_activationMetadata userToken now key).symm.trans stored
      split at lookup
      · exact kept scope (Option.some.inj lookup ▸ issued.issued.congr same)
      split at lookup
      · exact taken.1.1 (Option.some.inj lookup ▸ issued.issued.congr same)
      · cases lookup
  | createExternalUser =>
      obtain ⟨-, avatarAsset, coverAsset, rfl⟩ := inserts
      cases stored
  | _ => exact inserts.elim

/-- The metadata of a changed user is that of the found one, but for a new reset token. -/
theorem ChangesUser.metadataItems_eq {store : Store} {action : AccountAction}
    {found changed : User} (changes : ChangesUser environment store action found changed)
    (notReset : ∀ email newToken now, action ≠ .resetPassword email newToken now) :
    changed.metadataItems = found.metadataItems := by
  cases action with
  | createUser | createExternalUser => exact changes.elim
  | resetPassword email newToken now => exact absurd rfl (notReset email newToken now)
  | activateUser => rw [changes.2]
  | editUser => rw [changes.2]; rfl
  | completePasswordReset => rw [changes.2]; rfl
  | changePassword => rw [changes]; rfl
  | resetLoginAttempts => rw [changes]
  | updateLoginAttempts => rcases changes.2 with ⟨-, rfl⟩ | ⟨-, rfl⟩ <;> rfl

/-- Every step keeps an issued token apart from the other stored texts. -/
theorem issued_step {action : AccountAction} (issued : Issued environment token state)
    (kept : KeepsTokensUsed environment state action)
    (taken : accountStep environment state action = some next) :
    Issued environment token next := by
  refine ⟨issued.issued.grow (issued_subset taken), fun scope user member key stored => ?_⟩
  have old : user ∈ state.store.users.rows → key = resetPasswordActivationToken :=
    fun oldMember => issued.onlyReset scope user oldMember key stored
  rcases accountStep_users taken with same | ⟨row, inserts, inserted⟩ |
    ⟨found, foundMember, changed, changes, saved⟩
  · exact old (same ▸ member)
  · rw [inserted, Table.mem_insert] at member
    rcases member with oldMember | rfl
    · exact old oldMember
    · exact absurd stored (not_holds_inserted issued kept scope taken inserts key)
  · rw [saved, Table.mem_set] at member
    rcases member with ⟨rfl, -⟩ | ⟨oldMember, -⟩
    · by_cases isReset : ∃ email newToken now, action = .resetPassword email newToken now
      · obtain ⟨email, newToken, now, rfl⟩ := isReset
        have changed_eq : user = withResetToken found newToken now := changes
        obtain ⟨value, stored, same⟩ := stored
        rw [changed_eq, metadata_withResetToken] at stored
        split at stored
        · have noClock := (kept scope).2.1
          rw [Option.some.inj stored] at noClock
          exact absurd (issued.issued.congr same) noClock
        split at stored
        · assumption
        · exact issued.onlyReset scope found foundMember key ⟨value, stored, same⟩
      · have same := changes.metadataItems_eq fun email newToken now isAction =>
          isReset ⟨email, newToken, now, isAction⟩
        refine issued.onlyReset scope found foundMember key ?_
        rwa [User.Holds, User.metadata, same] at stored
    · exact old oldMember

/-- A new reset token replaces the old one, so the account does not answer to the old one. -/
theorem not_answersTo_withResetToken {found : User} {newToken : String} {now : Long}
    {email : String} (issued : Issued environment token state)
    (foundMember : found ∈ state.store.users.rows)
    (kept : KeepsTokensUsed environment state (.resetPassword email newToken now))
    (different : ¬ SameToken environment.platform newToken token) :
    ¬ AnswersTo environment token (withResetToken found newToken now) := by
  intro answers
  have stored := hasMetadataValue_iff.mp answers
  have resetStored : (withResetToken found newToken now).metadata resetPasswordActivationToken =
      some newToken := by
    rw [metadata_withResetToken, if_neg (by decide), if_pos rfl]
  cases scope : environment.platform.elementsScope with
  | entry =>
      rw [scope] at stored
      obtain ⟨value, stored, same⟩ := stored
      exact different (Option.some.inj (resetStored.symm.trans stored) ▸ same)
  | collection =>
      rw [scope] at stored
      obtain ⟨-, key, value, stored, same⟩ := stored
      by_cases isReset : key = resetPasswordActivationToken
      · rw [isReset, resetStored] at stored
        exact different (Option.some.inj stored ▸ same)
      · rw [metadata_withResetToken, if_neg isReset] at stored
        split at stored
        · have noClock := (kept scope).2.1
          rw [Option.some.inj stored] at noClock
          exact noClock (issued.issued.congr same)
        · exact isReset (issued.onlyReset scope found foundMember key ⟨value, stored, same⟩)

/-- A change leaves every account that answers to a used token active. -/
theorem used_changed {action : AccountAction} {found changed : User}
    (used : Used environment token state) (kept : KeepsTokensUsed environment state action)
    (taken : accountStep environment state action = some next)
    (foundMember : found ∈ state.store.users.rows)
    (changes : ChangesUser environment state.store action found changed)
    (answers : AnswersTo environment token changed) : changed.accountStatus = .active := by
  have before (same : changed.metadataItems = found.metadataItems) :
      found.accountStatus = .active :=
    used.answering found foundMember ((answersTo_congr same).mp answers)
  cases action with
  | createUser | createExternalUser => exact changes.elim
  | activateUser => rw [changes.2]
  | completePasswordReset => rw [changes.2]; rfl
  | editUser =>
      obtain ⟨-, rfl⟩ := changes
      exact before rfl
  | changePassword =>
      obtain rfl := changes
      exact before rfl
  | resetLoginAttempts =>
      obtain rfl := changes
      exact before rfl
  | resetPassword email newToken now =>
      obtain rfl := changes
      simp only [accountStep, Option.ite_none_right_eq_some] at taken
      refine absurd answers
        (not_answersTo_withResetToken used.toIssued foundMember kept fun same => ?_)
      exact taken.1.1 (used.issued.congr same)
  | updateLoginAttempts usernameOrEmail =>
      obtain ⟨answer, ⟨many, rfl⟩ | ⟨few, rfl⟩⟩ := changes
      · -- the lock is the one step that could take an account out of `ACTIVE`
        have noToken := kept found answer many (before rfl)
        exact absurd noToken (AnswersTo.isSome ((answersTo_congr rfl).mp answers))
      · exact before rfl

/-- The status of the accounts that answer to a used token survives every step. -/
theorem used_step {action : AccountAction} (used : Used environment token state)
    (kept : KeepsTokensUsed environment state action)
    (taken : accountStep environment state action = some next) :
    Used environment token next := by
  refine ⟨issued_step used.toIssued kept taken, fun user member answers => ?_⟩
  rcases accountStep_users taken with same | ⟨row, inserts, inserted⟩ |
    ⟨found, foundMember, changed, changes, saved⟩
  · exact used.answering user (same ▸ member) answers
  · rw [inserted, Table.mem_insert] at member
    rcases member with oldMember | rfl
    · exact used.answering user oldMember answers
    · exact absurd answers (not_answersTo_inserted _ inserts)
  · rw [saved, Table.mem_set] at member
    rcases member with ⟨rfl, -⟩ | ⟨oldMember, -⟩
    · exact used_changed used kept taken foundMember changes answers
    · exact used.answering user oldMember answers

/-! ### The use of a token -/

/-- Right after its generation a token is stored as a reset token only. -/
theorem issued_requested {email : String} {now : Long}
    (kept : KeepsTokensUsed environment state (.resetPassword email token now))
    (taken : accountStep environment state (.resetPassword email token now) = some next) :
    Issued environment token next := by
  have fresh : FreshToken environment.platform token state := by
    simp only [accountStep, Option.ite_none_right_eq_some] at taken
    exact taken.1
  have isIssued : next.HasIssued environment.platform token := by
    simp only [accountStep, Option.ite_none_right_eq_some, Option.some.injEq] at taken
    obtain ⟨-, rfl⟩ := taken
    exact ⟨token, List.mem_cons_self, rfl⟩
  have old : environment.platform.elementsScope = .collection →
      ∀ user ∈ state.store.users.rows, ∀ key, ¬ user.Holds environment.platform key token := by
    intro scope user member key
    by_cases isClock : key ∈ clockKeys
    · exact (kept scope).2.2 user member key isClock
    · exact fresh.not_holds member isClock
  refine ⟨isIssued, fun scope user member key stored => ?_⟩
  rcases accountStep_users taken with same | ⟨row, inserts, -⟩ |
    ⟨found, foundMember, changed, changes, saved⟩
  · exact absurd stored (old scope user (same ▸ member) key)
  · exact inserts.elim
  · rw [saved, Table.mem_set] at member
    rcases member with ⟨rfl, -⟩ | ⟨oldMember, -⟩
    · have changed_eq : user = withResetToken found token now := changes
      obtain ⟨value, stored, same⟩ := stored
      rw [changed_eq, metadata_withResetToken] at stored
      split at stored
      · have noClock := (kept scope).1
        rw [Option.some.inj stored] at noClock
        exact absurd same.symm noClock
      split at stored
      · assumption
      · exact absurd ⟨value, stored, same⟩ (old scope found foundMember key)
    · exact absurd stored (old scope user oldMember key)

/-- The accepted token was answered by one account, which is active afterwards. -/
theorem used_completed {presented salt newPassword : String} {now : Long} {user : User}
    (issued : Issued environment token state)
    (isToken : SameToken environment.platform presented token)
    (accepted : (completePasswordReset environment presented salt newPassword now state.store).2 =
      .ok user)
    (taken : accountStep environment state
      (.completePasswordReset presented salt newPassword now) = some next) :
    Used environment token next := by
  have kept : KeepsTokensUsed environment state
      (.completePasswordReset presented salt newPassword now) := trivial
  refine ⟨issued_step issued kept taken, ?_⟩
  obtain rfl := Option.some.inj taken
  rcases transaction_cases (completePasswordResetBody environment presented salt newPassword now)
    state.store with ⟨changed, committed, returned, same⟩ | ⟨thrown, -, same⟩
  · obtain ⟨found, answer, -, -, rfl, saved⟩ := completePasswordResetBody_ok returned
    obtain ⟨-, only⟩ := findUsersWithMetadataValues_eq_some.mp answer
    intro other member answers
    simp only [completePasswordReset, same, saved, Store.saveUser, Table.mem_set] at member
    rcases member with ⟨rfl, -⟩ | ⟨oldMember, different⟩
    · rfl
    · have alsoAnswers := (hasMetadataValue_congr isToken other).trans answers
      exact absurd (congrArg User.id (only other oldMember alsoAnswers)) different
  · rw [completePasswordReset, same] at accepted
    cases accepted

/-- A used token is not accepted, because the account that answers to it is not locked. -/
theorem not_accepted_of_used {presented salt newPassword : String} {now : Long} {user : User}
    (used : Used environment token state)
    (isToken : SameToken environment.platform presented token) :
    (completePasswordReset environment presented salt newPassword now state.store).2 ≠
      .ok user := by
  intro accepted
  rcases transaction_cases (completePasswordResetBody environment presented salt newPassword now)
    state.store with ⟨changed, committed, returned, same⟩ | ⟨thrown, -, same⟩
  · obtain ⟨found, answer, -, locked, -, -⟩ := completePasswordResetBody_ok returned
    obtain ⟨⟨member, answers⟩, -⟩ := findUsersWithMetadataValues_eq_some.mp answer
    rw [used.answering found member ((hasMetadataValue_congr isToken found).symm.trans answers)]
      at locked
    cases locked
  · rw [completePasswordReset, same] at accepted
    cases accepted

end Tokens

/-- In every run that meets the condition, a reset token is accepted at most once. -/
theorem acceptedAtMostOnce_of_keepsTokensUsed (environment : Environment) :
    AcceptedAtMostOnce environment (KeepsTokensUsed environment) := by
  intro start requested before after later email token issuedAt presented salt newPassword now user
    allowed request toBefore isToken accepted completed toLater again laterSalt laterPassword
    laterNow laterUser isAgain
  have issued : Issued environment token before :=
    toBefore.invariant (Issued environment token) (issued_requested allowed request)
      fun _ _ _ holds kept taken => issued_step holds kept taken
  have used : Used environment token later :=
    toLater.invariant (Used environment token) (used_completed issued isToken accepted completed)
      fun _ _ _ holds kept taken => used_step holds kept taken
  exact not_accepted_of_used used isAgain

/-! ### A token accepted twice -/

/-- One active account. -/
def oneAccount : AccountState where
  store := { Store.empty with users := Table.empty.insert (plainUser 0 "alice") }
  issued := []

/-- A request for a reset, its completion, and six failed logins. -/
def requestReset : AccountAction := .resetPassword "alice@graffitab.com" "T" 0
def completeReset : AccountAction := .completePasswordReset "T" "" "first" 1
def sixFailedLogins : List AccountAction := List.replicate 6 (.updateLoginAttempts "alice")

/-- The state that the actions lead to from the one account. -/
def stateAfter (scope : ElementsScope) (actions : List AccountAction) : AccountState :=
  (run (accountStep (plainEnvironment scope)) oneAccount actions).getD oneAccount

theorem accepted_twice (scope : ElementsScope) :
    ¬ AcceptedAtMostOnce (plainEnvironment scope) unrestricted := by
  intro once
  have requested : accountStep (plainEnvironment scope) oneAccount requestReset =
      some (stateAfter scope [requestReset]) := by
    cases scope <;> decide
  have completed : accountStep (plainEnvironment scope) (stateAfter scope [requestReset])
      completeReset = some (stateAfter scope [requestReset, completeReset]) := by
    cases scope <;> decide
  have locked : run (accountStep (plainEnvironment scope))
      (stateAfter scope [requestReset, completeReset]) sixFailedLogins =
        some (stateAfter scope (requestReset :: completeReset :: sixFailedLogins)) := by
    cases scope <;> decide
  have accepted : (completePasswordReset (plainEnvironment scope) "T" "" "first" 1
      (stateAfter scope [requestReset]).store).2.isOk = true := by
    cases scope <;> decide
  have acceptedAgain : (completePasswordReset (plainEnvironment scope) "T" "" "second" 2
      (stateAfter scope (requestReset :: completeReset :: sixFailedLogins)).store).2.isOk =
        true := by
    cases scope <;> decide
  obtain ⟨user, accepted⟩ := isOk_iff.mp accepted
  obtain ⟨again, acceptedAgain⟩ := isOk_iff.mp acceptedAgain
  exact once oneAccount _ _ _ _ "alice@graffitab.com" "T" 0 "T" "" "first" 1 user trivial requested
    .refl rfl accepted completed (reaches_of_run_unrestricted sixFailedLogins locked) "T" ""
    "second" 2 again rfl acceptedAgain

/-- After six failed logins a token that was used is accepted again, in both readings of the query
for it. -/
theorem not_acceptedAtMostOnce :
    ¬ AcceptedAtMostOnce (plainEnvironment .entry) unrestricted ∧
      ¬ AcceptedAtMostOnce (plainEnvironment .collection) unrestricted :=
  ⟨accepted_twice .entry, accepted_twice .collection⟩

end GraffiTab
