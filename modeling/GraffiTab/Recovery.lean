/-
This file asks whether a user with a token gets into the account.

The token of a registration activates the account, and the token of a reset request lets the user
choose a new password. Both are looked for among the metadata of all users, both expire, and both
need the account in the status that the token was issued for. Meanwhile other users register, log
in, fail to log in and request tokens. As long as nobody else takes the account out of its status,
the token is accepted until it expires, and then the user can log in.
-/

import GraffiTab.AccountLifecycle
import GraffiTab.ActiveAccounts

namespace GraffiTab

open Tables Runs

/-! ### The tokens -/

/-- The two kinds of tokens. -/
inductive TokenKind where
  | activation | reset
  deriving DecidableEq

def TokenKind.key : TokenKind → String
  | .activation => activationTokenMetadataKey
  | .reset => resetPasswordActivationToken

def TokenKind.dateKey : TokenKind → String
  | .activation => activationTokenDateMetadataKey
  | .reset => resetPasswordActivationTokenDate

/-- The status in which an account waits for its token. -/
def TokenKind.status : TokenKind → AccountStatus
  | .activation => .pendingActivation
  | .reset => .resetPassword

def TokenKind.expirationMs : TokenKind → Long
  | .activation => activationTokenExpirationMs
  | .reset => resetPasswordTokenExpirationMs

/-- The values of the type `long`. -/
def IsLong (value : Long) : Prop :=
  -9223372036854775808 ≤ value ∧ value ≤ 9223372036854775807

section Tokens

variable (environment : Environment) (kind : TokenKind) (token : String)

/-- The account with the identifier waits for its token, and no other account answers to it. -/
structure Awaiting (issuedOn id : Long) (state : AccountState) : Prop where
  issued : state.HasIssued environment.platform token
  account : ∃ user ∈ state.store.users.rows, user.id = id ∧ user.accountStatus = kind.status ∧
    user.metadata kind.key = some token ∧ user.metadata kind.dateKey = some (toString issuedOn)
  only : ∀ other ∈ state.store.users.rows, ∀ key,
    (environment.platform.elementsScope = .entry → key = kind.key) →
      other.Holds environment.platform key token → other.id = id

/-- The action does not take the account out of the status in which it waits: it does not activate
the account, request another reset for it, complete one, or lock it after too many failed logins. -/
def Undisturbed (id : Long) (state : AccountState) : AccountAction → Prop
  | .createUser _ _ _ _ now => NotWrittenAsClock environment token now
  | .activateUser other now => ∀ user,
      (activateUser environment other now state.store).2 = .ok user → user.id ≠ id
  | .resetPassword email other now => NotWrittenAsClock environment token now ∧ ∀ user,
      (resetPassword environment email other now state.store).2 = .ok user → user.id ≠ id
  | .completePasswordReset other salt newPassword now => ∀ user,
      (completePasswordReset environment other salt newPassword now state.store).2 = .ok user →
        user.id ≠ id
  | .updateLoginAttempts usernameOrEmail => kind = .activation → ∀ user,
      findByUsernameOrEmail environment.platform usernameOrEmail state.store = .ok (some user) →
        user.id = id → user.failedLoginAttempts < 5
  | _ => True

end Tokens

/-! ### Printed clock readings -/

/-- The digits of a number, with or without a sign, are read. -/
theorem parseLong_isOk {text : String} {value : Long} (isLong : IsLong value)
    (read : (∃ digits number, text.toList = '-' :: digits ∧ parseDigits digits = some number ∧
        value = -(number : Int)) ∨
      ∃ number, parseDigits text.toList = some number ∧ value = number) :
    parseLong (some text) = .ok value := by
  simp only [parseLong, Option.map_some]
  rcases read with ⟨digits, number, written, isRead, rfl⟩ | ⟨number, isRead, rfl⟩
  · rw [written]
    simp only [isRead]
    exact if_pos isLong
  · have isDigit {first : Char} {rest : List Char} (written : text.toList = first :: rest) :
        first.isDigit = true := by
      rw [written, parseDigits] at isRead
      · exact List.all_eq_true.mp (Option.ite_none_right_eq_some.mp isRead).1 first
          List.mem_cons_self
      · intro absurdity
        cases absurdity
    generalize text.toList = digits at isRead isDigit
    -- A sign is no digit, so the text is read as it is.
    cases digits with
    | nil => cases isRead
    | cons first rest =>
        have digit := isDigit rfl
        have notMinus : first ≠ '-' := by rintro rfl; cases digit
        have notPlus : first ≠ '+' := by rintro rfl; cases digit
        split
        · rename_i value isValue
          split at isValue
          · cases isValue
          · rename_i written
            exact absurd (List.cons.inj (Option.some.inj written)).1 notMinus
          · rename_i written
            exact absurd (List.cons.inj (Option.some.inj written)).1 notPlus
          · rename_i written
            rw [← Option.some.inj written, isRead] at isValue
            rw [← Option.some.inj isValue]
            exact if_pos isLong
        · rename_i isNone
          split at isNone
          · rename_i absurdity
            cases absurdity
          · rename_i written
            exact absurd (List.cons.inj (Option.some.inj written)).1 notMinus
          · rename_i written
            exact absurd (List.cons.inj (Option.some.inj written)).1 notPlus
          · rename_i written
            rw [← Option.some.inj written, isRead] at isNone
            cases isNone

/-- A clock reading that was stored is read back. -/
theorem parseLong_toString_ok {number : Long} (isLong : IsLong number) :
    parseLong (some (toString number)) = .ok number := by
  refine parseLong_isOk isLong ?_
  cases number with
  | ofNat number =>
      exact .inr ⟨number, by rw [toList_toString_ofNat, parseDigits_toDigits], rfl⟩
  | negSucc number =>
      exact .inl ⟨_, number + 1, toList_toString_negSucc number, parseDigits_toDigits _, rfl⟩

/-! ### An account that waits -/

/-- The actions that change neither status nor tokens. -/
def AccountAction.keepsStatus : AccountAction → Bool
  | .editUser .. | .changePassword .. | .resetLoginAttempts _ => true
  | _ => false

section Waiting

variable {environment : Environment} {kind : TokenKind} {token : String} {issuedOn id : Long}
  {state next : AccountState}

theorem TokenKind.key_notClock (kind : TokenKind) : kind.key ∉ clockKeys := by
  cases kind <;> decide

/-- The texts that count as the token are those under its key, or under any key. -/
abbrev Counts (environment : Environment) (kind : TokenKind) (key : String) : Prop :=
  environment.platform.elementsScope = .entry → key = kind.key

/-- A key that counts is that of a clock reading only where all keys count. -/
theorem Counts.collection {key : String} (counts : Counts environment kind key)
    (isClock : key ∈ clockKeys) : environment.platform.elementsScope = .collection := by
  cases scope : environment.platform.elementsScope with
  | entry => exact absurd (counts scope ▸ isClock) kind.key_notClock
  | collection => rfl

/-- A step that changes no user. -/
theorem Awaiting.same (awaiting : Awaiting environment kind token issuedOn id state)
    (issued : state.issued ⊆ next.issued) (users : next.store.users = state.store.users) :
    Awaiting environment kind token issuedOn id next where
  issued := awaiting.issued.grow issued
  account := users ▸ awaiting.account
  only := users ▸ awaiting.only

/-- A step that inserts a user that does not store the token. -/
theorem Awaiting.insert (awaiting : Awaiting environment kind token issuedOn id state)
    (issued : state.issued ⊆ next.issued) {row : User}
    (users : next.store.users = state.store.users.insert row)
    (absent : ∀ key, Counts environment kind key → ¬ row.Holds environment.platform key token) :
    Awaiting environment kind token issuedOn id next where
  issued := awaiting.issued.grow issued
  account := by
    obtain ⟨user, member, waits⟩ := awaiting.account
    exact ⟨user, users ▸ Table.mem_insert.mpr (.inl member), waits⟩
  only other member key counts stored := by
    rw [users, Table.mem_insert] at member
    rcases member with old | rfl
    · exact awaiting.only other old key counts stored
    · exact absurd stored (absent key counts)

/-- A step that changes a user, who does not store the token newly, and who stays as it is in what
counts where it is the one that waits. -/
theorem Awaiting.change (awaiting : Awaiting environment kind token issuedOn id state)
    (issued : state.issued ⊆ next.issued) {found changed : User}
    (users : next.store.users = state.store.users.set changed)
    (member : found ∈ state.store.users.rows) (sameId : changed.id = found.id)
    (waits : found.id = id → found.accountStatus = kind.status →
      changed.accountStatus = kind.status ∧ changed.metadataItems = found.metadataItems)
    (old : ∀ key, Counts environment kind key → changed.Holds environment.platform key token →
      found.Holds environment.platform key token) :
    Awaiting environment kind token issuedOn id next where
  issued := awaiting.issued.grow issued
  account := by
    obtain ⟨user, userMember, isUser, status, stores, dated⟩ := awaiting.account
    rw [users]
    by_cases same : found.id = id
    · obtain rfl : user = found := Table.eq_of_id_eq userMember member (isUser.trans same.symm)
      obtain ⟨sameStatus, sameItems⟩ := waits same status
      refine ⟨changed, Table.mem_set.mpr (.inl ⟨rfl, user, member, sameId.symm⟩),
        sameId.trans same, sameStatus, ?_⟩
      rw [User.metadata, User.metadata, sameItems]
      exact ⟨stores, dated⟩
    · refine ⟨user, Table.mem_set.mpr (.inr ⟨userMember, fun equal => same ?_⟩), isUser, status,
        stores, dated⟩
      exact sameId.symm.trans (equal.symm.trans isUser)
  only other otherMember key counts stored := by
    rw [users, Table.mem_set] at otherMember
    rcases otherMember with ⟨rfl, -⟩ | ⟨stays, -⟩
    · exact sameId.trans (awaiting.only found member key counts (old key counts stored))
    · exact awaiting.only other stays key counts stored

/-- A change that keeps the metadata, and the status of the account that waits. -/
theorem Awaiting.change_keeping (awaiting : Awaiting environment kind token issuedOn id state)
    (issued : state.issued ⊆ next.issued) {found changed : User}
    (users : next.store.users = state.store.users.set changed)
    (member : found ∈ state.store.users.rows) (sameId : changed.id = found.id)
    (sameItems : changed.metadataItems = found.metadataItems)
    (status : found.id = id → found.accountStatus = kind.status →
      changed.accountStatus = kind.status) :
    Awaiting environment kind token issuedOn id next := by
  refine awaiting.change issued users member sameId
    (fun isId waits => ⟨status isId waits, sameItems⟩) fun key _ stored => ?_
  rwa [User.Holds, User.metadata, ← sameItems]

/-- An account that is created stores no token that was issued before. -/
theorem awaiting_created (awaiting : Awaiting environment kind token issuedOn id state)
    {user : UserInput} {guid userToken salt : String} {now : Long}
    (clock : NotWrittenAsClock environment token now)
    (taken : accountStep environment state (.createUser user guid userToken salt now) =
      some next) : Awaiting environment kind token issuedOn id next := by
  have issued := issued_subset taken
  rcases accountStep_users taken with same | ⟨row, inserts, inserted⟩ |
    ⟨found, member, changed, changes, saved⟩
  · exact awaiting.same issued same
  · obtain ⟨-, avatarAsset, coverAsset, rfl⟩ := inserts
    refine awaiting.insert issued inserted fun key counts ⟨value, stored, sameToken⟩ => ?_
    have lookup := (metadata_activationMetadata userToken now key).symm.trans stored
    split at lookup
    · rename_i isDate
      have isClock : key ∈ clockKeys := isDate ▸ List.mem_cons_self
      exact clock (counts.collection isClock) (Option.some.inj lookup ▸ sameToken)
    split at lookup
    · simp only [accountStep, Option.ite_none_right_eq_some] at taken
      exact taken.1.1 (Option.some.inj lookup ▸ awaiting.issued.congr sameToken)
    · cases lookup
  · exact changes.elim

/-- Another account is activated. -/
theorem awaiting_activated (awaiting : Awaiting environment kind token issuedOn id state)
    {other : String} {now : Long}
    (undisturbed : Undisturbed environment kind token id state (.activateUser other now))
    (taken : accountStep environment state (.activateUser other now) = some next) :
    Awaiting environment kind token issuedOn id next := by
  obtain rfl := Option.some.inj taken
  rcases executeInTransactionWithResult_cases (activateUserBody environment other now) state.store
    with ⟨user, committed, returned, same⟩ | ⟨thrown, -, same⟩
  · obtain ⟨found, answer, -, -, rfl, rfl⟩ := activateUserBody_ok returned
    have different := undisturbed _ (congrArg Prod.snd same)
    have saved : (activateUser environment other now state.store).1.users =
        state.store.users.set { found with accountStatus := .active } :=
      congrArg (fun result => result.1.users) same
    exact awaiting.change_keeping (List.Subset.refl _) saved
      (findUsersWithMetadataValues_eq_some.mp answer).1.1 rfl rfl
      fun isId _ => absurd isId different
  · exact awaiting.same (List.Subset.refl _) (congrArg (fun result => result.1.users) same)

/-- A reset is requested for another account. -/
theorem awaiting_requested (awaiting : Awaiting environment kind token issuedOn id state)
    {email other : String} {now : Long}
    (undisturbed : Undisturbed environment kind token id state (.resetPassword email other now))
    (taken : accountStep environment state (.resetPassword email other now) = some next) :
    Awaiting environment kind token issuedOn id next := by
  have issued := issued_subset taken
  simp only [accountStep, Option.ite_none_right_eq_some, Option.some.injEq] at taken
  obtain ⟨fresh, rfl⟩ := taken
  rcases resetPassword_answer environment email other now state.store with
    ⟨thrown, same⟩ | ⟨found, member, same⟩
  · exact awaiting.same issued (congrArg (fun result => result.1.users) same)
  · have different := undisturbed.2 _ (congrArg Prod.snd same)
    have saved : (resetPassword environment email other now state.store).1.users =
        state.store.users.set (withResetToken found other now) :=
      congrArg (fun result => result.1.users) same
    refine awaiting.change issued saved member rfl
      (fun isId _ => absurd isId different) fun key counts holds => ?_
    obtain ⟨value, stored, sameToken⟩ := holds
    rw [metadata_withResetToken] at stored
    split at stored
    · rename_i isDate
      have isClock : key ∈ clockKeys := isDate ▸ List.mem_cons_of_mem _ List.mem_cons_self
      exact absurd (Option.some.inj stored ▸ sameToken)
        (undisturbed.1 (counts.collection isClock))
    split at stored
    · exact absurd (Option.some.inj stored ▸ awaiting.issued.congr sameToken) fresh.1
    · exact ⟨value, stored, sameToken⟩

/-- The password of another account is reset. -/
theorem awaiting_completed (awaiting : Awaiting environment kind token issuedOn id state)
    {other salt newPassword : String} {now : Long}
    (undisturbed : Undisturbed environment kind token id state
      (.completePasswordReset other salt newPassword now))
    (taken : accountStep environment state (.completePasswordReset other salt newPassword now) =
      some next) : Awaiting environment kind token issuedOn id next := by
  obtain rfl := Option.some.inj taken
  rcases transaction_cases (completePasswordResetBody environment other salt newPassword now)
    state.store with ⟨user, committed, returned, same⟩ | ⟨thrown, -, same⟩
  · obtain ⟨found, answer, -, -, rfl, rfl⟩ := completePasswordResetBody_ok returned
    have different := undisturbed _ (congrArg Prod.snd same)
    have saved : (completePasswordReset environment other salt newPassword now
        state.store).1.users =
          state.store.users.set (withResetPassword environment found salt newPassword) :=
      congrArg (fun result => result.1.users) same
    exact awaiting.change_keeping (List.Subset.refl _) saved
      (findUsersWithMetadataValues_eq_some.mp answer).1.1 rfl rfl
      fun isId _ => absurd isId different
  · exact awaiting.same (List.Subset.refl _) (congrArg (fun result => result.1.users) same)

/-- A failed login is counted, or it locks an account. -/
theorem awaiting_counted (awaiting : Awaiting environment kind token issuedOn id state)
    {usernameOrEmail : String}
    (undisturbed : Undisturbed environment kind token id state
      (.updateLoginAttempts usernameOrEmail))
    (taken : accountStep environment state (.updateLoginAttempts usernameOrEmail) = some next) :
    Awaiting environment kind token issuedOn id next := by
  rcases accountStep_users taken with same | ⟨row, inserts, -⟩ |
    ⟨found, member, changed, changes, saved⟩
  · exact awaiting.same (issued_subset taken) same
  · exact inserts.elim
  · obtain ⟨answer, ⟨many, rfl⟩ | ⟨-, rfl⟩⟩ := changes
    · refine awaiting.change_keeping (issued_subset taken) saved member rfl rfl fun isId _ => ?_
      cases kind with
      | activation => exact absurd (undisturbed rfl found answer isId) (Int.not_lt.mpr many)
      | reset => rfl
    · exact awaiting.change_keeping (issued_subset taken) saved member rfl rfl fun _ waits => waits

/-- Three actions keep the status of the account that they change. -/
theorem ChangesUser.status_eq {store : Store} {action : AccountAction} {found changed : User}
    (changes : ChangesUser environment store action found changed)
    (keeps : action.keepsStatus = true) : changed.accountStatus = found.accountStatus := by
  cases action with
  | editUser => rw [changes.2]; rfl
  | changePassword => rw [changes]; rfl
  | resetLoginAttempts => rw [changes]
  | _ => cases keeps

/-- The account goes on waiting. -/
theorem awaiting_step {action : AccountAction}
    (awaiting : Awaiting environment kind token issuedOn id state)
    (undisturbed : Undisturbed environment kind token id state action)
    (taken : accountStep environment state action = some next) :
    Awaiting environment kind token issuedOn id next := by
  cases action with
  | createUser => exact awaiting_created awaiting undisturbed taken
  | activateUser => exact awaiting_activated awaiting undisturbed taken
  | resetPassword => exact awaiting_requested awaiting undisturbed taken
  | completePasswordReset => exact awaiting_completed awaiting undisturbed taken
  | updateLoginAttempts => exact awaiting_counted awaiting undisturbed taken
  | createExternalUser =>
      rcases accountStep_users taken with same | ⟨row, inserts, inserted⟩ |
        ⟨found, member, changed, changes, saved⟩
      · exact awaiting.same (issued_subset taken) same
      · obtain ⟨-, avatarAsset, coverAsset, rfl⟩ := inserts
        exact awaiting.insert (issued_subset taken) inserted
          fun key _ ⟨value, stored, _⟩ => by cases stored
      · exact changes.elim
  | editUser | changePassword | resetLoginAttempts =>
      rcases accountStep_users taken with same | ⟨row, inserts, -⟩ |
        ⟨found, member, changed, changes, saved⟩
      · exact awaiting.same (issued_subset taken) same
      · exact inserts.elim
      · refine awaiting.change_keeping (issued_subset taken) saved member changes.id_eq.1
          (changes.metadataItems_eq fun _ _ _ same => by cases same) fun _ waits => ?_
        rw [changes.status_eq rfl]
        exact waits

end Waiting

/-! ### The use of the token -/

/-- Where the query for tokens looks at all the metadata, the token is not the text of a clock
reading that is stored. -/
def NotStoredAsClock (environment : Environment) (token : String) (state : AccountState) : Prop :=
  environment.platform.elementsScope = .collection →
    ∀ user ∈ state.store.users.rows, ∀ key ∈ clockKeys,
      ¬ user.Holds environment.platform key token

/-- With the password, the user can log in by every name by which the query for users finds the
user, when it is not changed by the trimming of the login form. -/
def LogsIn (environment : Environment) (user : User) (password : String) (store : Store) : Prop :=
  ∀ name, trim name = name →
    findByUsernameOrEmail environment.platform name store = .ok (some user) →
      attemptJsonLogin environment (some ⟨some name, some password⟩) store =
        (store, .ok (some user))

section Use

variable {environment : Environment} {kind : TokenKind} {token : String} {issuedOn id now : Long}
  {state next : AccountState}

/-- A new token is stored nowhere. -/
theorem FreshToken.absent (fresh : FreshToken environment.platform token state)
    (clock : NotStoredAsClock environment token state) {user : User}
    (member : user ∈ state.store.users.rows) {key : String}
    (counts : Counts environment kind key) : ¬ user.Holds environment.platform key token := by
  by_cases isClock : key ∈ clockKeys
  · exact clock (counts.collection isClock) user member key isClock
  · exact fresh.not_holds member isClock

/-- After a request for a reset, the account waits. -/
theorem awaiting_reset {email : String} {locked : User}
    (clock : NotStoredAsClock environment token state)
    (answered : (resetPassword environment email token issuedOn state.store).2 = .ok locked)
    (taken : accountStep environment state (.resetPassword email token issuedOn) = some next) :
    Awaiting environment .reset token issuedOn locked.id next := by
  simp only [accountStep, Option.ite_none_right_eq_some, Option.some.injEq] at taken
  obtain ⟨fresh, rfl⟩ := taken
  rcases resetPassword_answer environment email token issuedOn state.store with
    ⟨thrown, same⟩ | ⟨found, member, same⟩
  · rw [same] at answered
    cases answered
  · rw [same] at answered
    obtain rfl := Except.ok.inj answered
    have saved : (resetPassword environment email token issuedOn state.store).1.users =
        state.store.users.set (withResetToken found token issuedOn) :=
      congrArg (fun result => result.1.users) same
    constructor
    case issued => exact ⟨token, List.mem_cons_self, rfl⟩
    case account =>
      refine ⟨withResetToken found token issuedOn, saved ▸ Table.mem_set.mpr
        (.inl ⟨rfl, found, member, rfl⟩), rfl, rfl, ?_, ?_⟩
      · rw [metadata_withResetToken, if_neg (by decide)]
        exact if_pos rfl
      · rw [metadata_withResetToken]
        exact if_pos rfl
    case only =>
      intro other otherMember key counts stored
      rw [saved, Table.mem_set] at otherMember
      rcases otherMember with ⟨rfl, -⟩ | ⟨old, -⟩
      · rfl
      · exact absurd stored (fresh.absent clock old counts)

/-- After a registration, the account waits. -/
theorem awaiting_activation {user : UserInput} {guid salt : String} {created : User}
    (clock : NotStoredAsClock environment token state)
    (later : environment.config.immediateUserActivation = false)
    (answered : (createUser environment user guid token salt issuedOn state.store).2 = .ok created)
    (taken : accountStep environment state (.createUser user guid token salt issuedOn) =
      some next) : Awaiting environment .activation token issuedOn created.id next := by
  simp only [accountStep, Option.ite_none_right_eq_some, Option.some.injEq] at taken
  obtain ⟨fresh, rfl⟩ := taken
  rcases createUser_cases environment user guid token salt issuedOn state.store with
    ⟨thrown, same⟩ | ⟨row, lastAssetId, ⟨avatarAsset, coverAsset, isRow⟩, -, same⟩
  · rw [same] at answered
    cases answered
  · rw [same] at answered
    obtain rfl := Except.ok.inj answered
    have saved : (createUser environment user guid token salt issuedOn state.store).1.users =
        state.store.users.insert row :=
      congrArg (fun result => result.1.users) same
    have metadata (key : String) := metadata_activationMetadata token issuedOn key
    have items : row.metadataItems = activationMetadata token issuedOn := by rw [isRow]; rfl
    rw [← items] at metadata
    constructor
    case issued => exact ⟨token, List.mem_cons_self, rfl⟩
    case account =>
      refine ⟨{ row with id := state.store.users.nextId }, saved ▸ Table.mem_insert.mpr (.inr rfl),
        rfl, ?_, ?_, ?_⟩
      · rw [isRow, later]
        rfl
      · refine (metadata _).trans ?_
        rw [if_neg (by decide)]
        exact if_pos rfl
      · exact (metadata _).trans (if_pos rfl)
    case only =>
      intro other otherMember key counts stored
      rw [saved, Table.mem_insert] at otherMember
      rcases otherMember with old | rfl
      · exact absurd stored (fresh.absent clock old counts)
      · rfl

/-- The query for the token finds the account that waits. -/
theorem Awaiting.found (awaiting : Awaiting environment kind token issuedOn id state)
    (isLong : IsLong issuedOn) (recent : now - issuedOn ≤ kind.expirationMs) :
    ∃ user, user.id = id ∧ user.accountStatus = kind.status ∧
      StoredWithin kind.expirationMs kind.dateKey now user ∧
      findUsersWithMetadataValues environment.platform kind.key token state.store =
        .ok (some user) := by
  obtain ⟨user, member, isUser, status, stores, dated⟩ := awaiting.account
  refine ⟨user, isUser, status, ⟨issuedOn, dated ▸ parseLong_toString_ok isLong, recent⟩, ?_⟩
  refine findUsersWithMetadataValues_eq_some.mpr ⟨⟨member, ?_⟩, fun other otherMember answers => ?_⟩
  · refine hasMetadataValue_iff.mpr ?_
    cases environment.platform.elementsScope with
    | entry => exact ⟨token, stores, rfl⟩
    | collection => exact ⟨Option.isSome_of_eq_some stores, kind.key, token, stores, rfl⟩
  · refine Table.eq_of_id_eq otherMember member (Eq.trans ?_ isUser.symm)
    have stored := hasMetadataValue_iff.mp answers
    cases scope : environment.platform.elementsScope with
    | entry =>
        rw [scope] at stored
        exact awaiting.only other otherMember kind.key (fun _ => rfl) stored
    | collection =>
        rw [scope] at stored
        obtain ⟨-, key, stored⟩ := stored
        exact awaiting.only other otherMember key (fun isEntry => by cases scope.symm.trans isEntry)
          stored

/-- An active user with a matching password logs in. -/
theorem logsIn_of_matches {user : User} {password : String} {store : Store}
    (active : user.accountStatus = .active)
    (right : environment.encoder.encodedMatches password user.password = true) :
    LogsIn environment user password store := by
  intro name trimmed named
  have accepted := daoAuthenticate_right named right
  simp only [attemptJsonLogin, attemptAuthenticationIfActiveUser, named, active, if_pos, trimmed,
    accepted]

/-- The password of the account that waits is reset. -/
theorem Awaiting.completes (awaiting : Awaiting environment .reset token issuedOn id state)
    (isLong : IsLong issuedOn) (recent : now - issuedOn ≤ resetPasswordTokenExpirationMs)
    (salt newPassword : String) :
    ∃ user sessions, user.id = id ∧ user.accountStatus = .active ∧
      user.password = environment.encoder.encode salt newPassword ∧
      (∀ row ∈ sessions.rows, row.userId ≠ id) ∧
      completePasswordReset environment token salt newPassword now state.store =
        ({ state.store.saveUser user with sessions }, .ok user) := by
  obtain ⟨user, isUser, status, ⟨tokenDate, dated, within⟩, answer⟩ := awaiting.found isLong recent
  have isFound : findUsersWithMetadataValues environment.platform resetPasswordActivationToken
      token state.store = .ok (some user) := answer
  have isDated : parseLong (user.metadata resetPasswordActivationTokenDate) = .ok tokenDate := dated
  have locked : user.accountStatus = .resetPassword := status
  have notExpired : ¬ now - tokenDate > resetPasswordTokenExpirationMs := Int.not_lt.mpr within
  refine ⟨withResetPassword environment user salt newPassword,
    state.store.sessions.remove fun row => row.userId = user.id, isUser, rfl, rfl, ?_, ?_⟩
  · intro row member
    have kept := (Table.mem_remove.mp member).2
    rw [isUser] at kept
    exact of_decide_eq_false kept
  · simp only [completePasswordReset, transaction, completePasswordResetBody, isFound, isDated,
      notExpired, locked, logoutEverywhere, bind, Except.bind, pure, Except.pure, if_false, ne_eq,
      not_true_eq_false, Bool.false_and, Bool.false_eq_true, Bool.not_false, Bool.and_true]
    rfl

/-- The account that waits is activated. -/
theorem Awaiting.activates (awaiting : Awaiting environment .activation token issuedOn id state)
    (isLong : IsLong issuedOn) (recent : now - issuedOn ≤ activationTokenExpirationMs) :
    ∃ user, user.id = id ∧ user.accountStatus = .active ∧
      activateUser environment token now state.store = (state.store.saveUser user, .ok user) := by
  obtain ⟨user, isUser, status, ⟨tokenDate, dated, within⟩, answer⟩ := awaiting.found isLong recent
  have isFound : findUsersWithMetadataValues environment.platform activationTokenMetadataKey
      token state.store = .ok (some user) := answer
  have isDated : parseLong (user.metadata activationTokenDateMetadataKey) = .ok tokenDate := dated
  have pending : user.accountStatus = .pendingActivation := status
  have notExpired : ¬ now - tokenDate > activationTokenExpirationMs := Int.not_lt.mpr within
  refine ⟨{ user with accountStatus := .active }, isUser, rfl, ?_⟩
  simp only [activateUser, executeInTransactionWithResult, activateUserBody, isFound, isDated,
    notExpired, pending, bind, Except.bind, pure, Except.pure, if_false, ne_eq, not_true_eq_false]

end Use

/-! ### The way back into an account -/

/-- After a request for a reset, the token completes it within 30 minutes, whatever other users do
meanwhile, unless the account is changed by another reset: the account is active, its sessions are
deleted, and the user logs in with the new password. -/
theorem resetCompletes (environment : Environment) {start requested before : AccountState}
    {email token : String} {issuedOn : Long} {locked : User} (isLong : IsLong issuedOn)
    (clock : NotStoredAsClock environment token start)
    (answered : (resetPassword environment email token issuedOn start.store).2 = .ok locked)
    (taken : accountStep environment start (.resetPassword email token issuedOn) = some requested)
    (reached : Reaches (accountStep environment) (Undisturbed environment .reset token locked.id)
      requested before)
    {now : Long} (recent : now - issuedOn ≤ resetPasswordTokenExpirationMs)
    (salt newPassword : String) :
    ∃ user after, completePasswordReset environment token salt newPassword now before.store =
        (after, .ok user) ∧ user.id = locked.id ∧ user.accountStatus = .active ∧
      (∀ row ∈ after.sessions.rows, row.userId ≠ user.id) ∧
      LogsIn environment user newPassword after := by
  have awaiting : Awaiting environment .reset token issuedOn locked.id before :=
    reached.invariant (Awaiting environment .reset token issuedOn locked.id)
      (awaiting_reset clock answered taken)
      fun _ _ _ waits undisturbed step => awaiting_step waits undisturbed step
  obtain ⟨user, sessions, isUser, active, password, loggedOut, completed⟩ :=
    awaiting.completes isLong recent salt newPassword
  refine ⟨user, _, completed, isUser, active, isUser ▸ loggedOut, logsIn_of_matches active ?_⟩
  rw [password]
  exact environment.encoder.matches_encode salt newPassword

/-- Alice and bob. -/
def twoAccounts : AccountState where
  store := { Store.empty with
    users := (Table.empty.insert (plainUser 0 "alice")).insert (plainUser 0 "bob") }
  issued := []

def aliceRequests : AccountAction := .resetPassword "alice@graffitab.com" "T" 0

/-- Bob requests a reset, too, and a login of alice fails. -/
def bobRequests : AccountAction := .resetPassword "bob@graffitab.com" "U" 5
def aliceFails : AccountAction := .updateLoginAttempts "alice"

/-- The state that the actions lead to from the two accounts. -/
def afterActions (actions : List AccountAction) : AccountState :=
  (run (accountStep (plainEnvironment .entry)) twoAccounts actions).getD twoAccounts

theorem undisturbed_bobRequests : Undisturbed (plainEnvironment .entry) .reset "T" 1
    (afterActions [aliceRequests]) bobRequests := by
  rw [bobRequests, Undisturbed]
  refine ⟨(fun scope => by cases scope), fun user answered => ?_⟩
  have isBob : (resetPassword (plainEnvironment .entry) "bob@graffitab.com" "U" 5
      (afterActions [aliceRequests]).store).2.map User.id = .ok 2 := by
    decide +kernel
  rw [answered] at isBob
  rw [Except.ok.inj isBob]
  decide

theorem undisturbed_aliceFails (state : AccountState) :
    Undisturbed (plainEnvironment .entry) .reset "T" 1 state aliceFails := by
  rw [aliceFails, Undisturbed]
  exact fun isActivation => by cases isActivation

theorem reaches_afterActions : Reaches (accountStep (plainEnvironment .entry))
    (Undisturbed (plainEnvironment .entry) .reset "T" 1) (afterActions [aliceRequests])
      (afterActions [aliceRequests, bobRequests, aliceFails]) := by
  have first : accountStep (plainEnvironment .entry) (afterActions [aliceRequests]) bobRequests =
      some (afterActions [aliceRequests, bobRequests]) := by
    decide +kernel
  have second : accountStep (plainEnvironment .entry) (afterActions [aliceRequests, bobRequests])
      aliceFails = some (afterActions [aliceRequests, bobRequests, aliceFails]) := by
    decide +kernel
  exact .tail (.single undisturbed_bobRequests first) (undisturbed_aliceFails _) second

theorem resetCompletes_alice :
    ∃ user after, completePasswordReset (plainEnvironment .entry) "T" "" "new" 1000
        (afterActions [aliceRequests, bobRequests, aliceFails]).store = (after, .ok user) ∧
      user.id = 1 ∧ user.accountStatus = .active ∧
      (∀ row ∈ after.sessions.rows, row.userId ≠ user.id) ∧
      LogsIn (plainEnvironment .entry) user "new" after := by
  have answered : (resetPassword (plainEnvironment .entry) "alice@graffitab.com" "T" 0
      twoAccounts.store).2 = .ok (withResetToken (plainUser 1 "alice") "T" 0) := by
    decide +kernel
  have taken : accountStep (plainEnvironment .entry) twoAccounts aliceRequests =
      some (afterActions [aliceRequests]) := by
    decide +kernel
  exact resetCompletes (plainEnvironment .entry) ⟨by decide, by decide⟩
    (fun scope => by cases scope) answered taken reaches_afterActions (by decide) "" "new"

/-- After a registration, the token activates the account within 24 hours, whatever other users do
meanwhile, unless the account is locked or a reset is requested for it; and the user logs in with a
password that matches the stored one. -/
theorem activationCompletes (environment : Environment) {start created before : AccountState}
    {input : UserInput} {guid token salt : String} {issuedOn : Long} {registered : User}
    (isLong : IsLong issuedOn) (clock : NotStoredAsClock environment token start)
    (later : environment.config.immediateUserActivation = false)
    (answered : (createUser environment input guid token salt issuedOn start.store).2 =
      .ok registered)
    (taken : accountStep environment start (.createUser input guid token salt issuedOn) =
      some created)
    (reached : Reaches (accountStep environment)
      (Undisturbed environment .activation token registered.id) created before)
    {now : Long} (recent : now - issuedOn ≤ activationTokenExpirationMs) :
    ∃ user after, activateUser environment token now before.store = (after, .ok user) ∧
      user.id = registered.id ∧ user.accountStatus = .active ∧
      ∀ password, environment.encoder.encodedMatches password user.password = true →
        LogsIn environment user password after := by
  have awaiting : Awaiting environment .activation token issuedOn registered.id before :=
    reached.invariant (Awaiting environment .activation token issuedOn registered.id)
      (awaiting_activation clock later answered taken)
      fun _ _ _ waits undisturbed step => awaiting_step waits undisturbed step
  obtain ⟨user, isUser, active, activated⟩ := awaiting.activates isLong recent
  exact ⟨user, _, activated, isUser, active, fun _ right => logsIn_of_matches active right⟩

/-- Carol registers, and bob requests a reset. -/
def carolRegisters : AccountAction := .createUser (plainInput "carol") "C" "V" "" 0

theorem activationCompletes_carol :
    ∃ user after, activateUser (plainEnvironment .entry) "V" 1000
        (afterActions [carolRegisters, bobRequests]).store = (after, .ok user) ∧
      user.id = 3 ∧ user.accountStatus = .active ∧
      ∀ password, (plainEnvironment .entry).encoder.encodedMatches password user.password = true →
        LogsIn (plainEnvironment .entry) user password after := by
  obtain ⟨carol, answered, isCarol⟩ : ∃ carol, (createUser (plainEnvironment .entry)
      (plainInput "carol") "C" "V" "" 0 twoAccounts.store).2 = .ok carol ∧ carol.id = 3 :=
    ⟨_, rfl, rfl⟩
  have taken : accountStep (plainEnvironment .entry) twoAccounts carolRegisters =
      some (afterActions [carolRegisters]) := by
    decide +kernel
  have second : accountStep (plainEnvironment .entry) (afterActions [carolRegisters]) bobRequests =
      some (afterActions [carolRegisters, bobRequests]) := by
    decide +kernel
  have undisturbed : Undisturbed (plainEnvironment .entry) .activation "V" carol.id
      (afterActions [carolRegisters]) bobRequests := by
    rw [bobRequests, Undisturbed]
    refine ⟨(fun scope => by cases scope), fun user answered => ?_⟩
    have isBob : (resetPassword (plainEnvironment .entry) "bob@graffitab.com" "U" 5
        (afterActions [carolRegisters]).store).2.map User.id = .ok 2 := by
      decide +kernel
    rw [answered] at isBob
    rw [Except.ok.inj isBob, isCarol]
    decide
  rw [← isCarol]
  exact activationCompletes (plainEnvironment .entry) ⟨by decide, by decide⟩
    (fun scope => by cases scope) rfl answered taken (.single undisturbed second) (by decide)

end GraffiTab
