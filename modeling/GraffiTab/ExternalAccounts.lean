/-
This file asks whether an access token speaks only for the external account it belongs to.

A login or a link with an external account names the account and brings a token, both
chosen by the client. `isValidToken` asks the social network whether the token is valid,
but not for whom, so a token of any account passes. The three entry points therefore keep
accounts and tokens together exactly when the token is not one of another account, or when
the request is turned away by a check that does not look at the token. Accounts are the same
where the database takes their identifiers for equal.
-/

import GraffiTab.Authentication

namespace GraffiTab

open Tables

section Binding

variable (environment : Environment) (store : Store) (externalUserId accessToken : String)

/-- The external account as the request presents it. -/
def facebookAccount : ExternalAccount := ⟨externalUserId, accessToken, .facebook⟩

/-- The two identifiers name one account, as the database compares them. -/
def SameAccount (first second : String) : Prop :=
  environment.platform.collateLatin first = environment.platform.collateLatin second

/-- The token belongs to the account. -/
def BelongsTo : Prop :=
  ∃ account, environment.owner accessToken = some account ∧
    SameAccount environment account externalUserId

/-- The user has the account of the social network linked. -/
def Linked (user : User) : Prop :=
  ∃ provider ∈ store.externalProviders.rows, provider.externalProviderType = .facebook ∧
    SameAccount environment provider.externalUserId externalUserId ∧ provider.userId = user.id

/-- The next store has a new row for the account with the token. -/
def Records (next : Store) : Prop :=
  ∃ provider ∈ next.externalProviders.rows, provider ∉ store.externalProviders.rows ∧
    provider.externalProviderType = .facebook ∧
      SameAccount environment provider.externalUserId externalUserId ∧
        provider.accessToken = accessToken

/-! ### The law at the three entry points -/

/-- A login with the account and the token is let in only as a user with the account linked, and
only if the token belongs to the account. -/
def LoginBinds : Prop :=
  ∀ user, (attemptAuthentication environment
      (.external (.account (facebookAccount externalUserId accessToken))) store).2 =
        .ok (some user) →
    Linked environment store externalUserId user ∧
      BelongsTo environment externalUserId accessToken

/-- A link of the account and the token is recorded only if the token belongs to the account. -/
def LinkBinds (currentUserId : Long) : Prop :=
  Records environment store externalUserId accessToken
      (transaction (linkExternalProvider environment currentUserId
        (facebookAccount externalUserId accessToken)) store).1 →
    BelongsTo environment externalUserId accessToken

/-- An account that is created from the external one records it only if the token belongs to
it. -/
def CreateBinds (user : UserInput) (guid salt generated : String) (now : Long) : Prop :=
  Records environment store externalUserId accessToken
      (createExternalUser environment user (facebookAccount externalUserId accessToken) guid salt
        generated now store).1 →
    BelongsTo environment externalUserId accessToken

/-! ### When it holds -/

/-- The token belongs to another account of the social network. -/
def ForeignToken : Prop :=
  ∃ other, environment.owner accessToken = some other ∧
    ¬ SameAccount environment other externalUserId

/-- One active user has the account linked, in one row. -/
def LoginReady : Prop :=
  ∃ user, findUserWithExternalProvider environment.platform .facebook externalUserId store =
    .ok (some user) ∧
    user.accountStatus = .active ∧
      ∃ provider, findExternalProvider user.id .facebook store = .ok (some provider)

/-- The current user has no account of the network linked, and nobody else has this one. -/
def LinkReady (currentUserId : Long) : Prop :=
  ∃ currentUser, findUserById currentUserId store = some currentUser ∧
    findExternalProvider currentUser.id .facebook store = .ok none ∧
      (findUserWithExternalProvider environment.platform .facebook externalUserId store = .ok none ∨
        ∃ other, findUserWithExternalProvider environment.platform .facebook externalUserId store =
          .ok (some other) ∧
          other.id = currentUser.id)

/-- The columns of an asset of the request that must not be null are given. -/
def CompleteAsset (asset : Option AssetInput) : Prop :=
  ∀ given ∈ asset, given.guid.isSome ∧ given.assetType.isSome ∧ given.state.isSome

/-- The data of the new user is valid, and nobody has the external account. -/
def CreateReady (user : UserInput) (salt generated : String) : Prop :=
  checkCreateUser environment (withGeneratedPassword environment user salt generated) store =
      .ok () ∧
    findUserWithExternalProvider environment.platform .facebook externalUserId store = .ok none ∧
      CompleteAsset user.avatarAsset ∧ CompleteAsset user.coverAsset

end Binding

section Proofs

variable {environment : Environment} {store : Store} {externalUserId accessToken : String}

/-- The check for a valid token passes exactly the tokens that belong to some account. -/
theorem isValidToken_facebook :
    isValidToken environment accessToken .facebook = true ↔
      ∃ account, environment.owner accessToken = some account :=
  Option.isSome_iff_exists

/-- A token that belongs to some account, but is not foreign, belongs to this one. -/
theorem belongsTo_of_not_foreign (valid : isValidToken environment accessToken .facebook = true)
    (own : ¬ ForeignToken environment externalUserId accessToken) :
    BelongsTo environment externalUserId accessToken := by
  obtain ⟨account, belongs⟩ := isValidToken_facebook.mp valid
  by_cases same : SameAccount environment account externalUserId
  · exact ⟨account, belongs, same⟩
  · exact absurd ⟨account, belongs, same⟩ own

theorem ForeignToken.isValidToken (foreign : ForeignToken environment externalUserId accessToken) :
    isValidToken environment accessToken .facebook = true := by
  obtain ⟨account, belongs, -⟩ := foreign
  exact isValidToken_facebook.mpr ⟨account, belongs⟩

theorem ForeignToken.not_belongsTo
    (foreign : ForeignToken environment externalUserId accessToken) :
    ¬ BelongsTo environment externalUserId accessToken := by
  obtain ⟨other, isOther, different⟩ := foreign
  rintro ⟨account, belongs, same⟩
  rw [isOther] at belongs
  exact different (Option.some.inj belongs ▸ same)

/-- The shape of the three results: an entry point that lets a request in exactly when it is ready
and its token is valid keeps the law exactly when no ready request has a foreign token. -/
theorem binds_iff {LetIn Ready : Prop}
    (letIn : LetIn ↔ Ready ∧ isValidToken environment accessToken .facebook = true) :
    (LetIn → BelongsTo environment externalUserId accessToken) ↔
      ¬ (ForeignToken environment externalUserId accessToken ∧ Ready) := by
  rw [letIn]
  constructor
  · rintro binds ⟨foreign, ready⟩
    exact foreign.not_belongsTo (binds ⟨ready, foreign.isValidToken⟩)
  · rintro notBoth ⟨ready, valid⟩
    exact belongsTo_of_not_foreign valid fun foreign => notBoth ⟨foreign, ready⟩

/-! ### The login -/

theorem updateToken_isOk (user : User) (type : ExternalProviderType) (token : String) :
    (∃ next, updateToken user type token store = .ok ((), next)) ↔
      ∃ provider, findExternalProvider user.id type store = .ok (some provider) := by
  constructor
  · rintro ⟨next, returned⟩
    obtain ⟨found, answer, rest⟩ := bind_eq_ok.mp returned
    cases found with
    | none => exact absurd rest throw_ne_ok
    | some provider => exact ⟨provider, answer⟩
  · rintro ⟨provider, answer⟩
    exact ⟨_, bind_eq_ok.mpr ⟨some provider, answer, rfl⟩⟩

/-- A login with an external account succeeds exactly for the user that has it linked, if it is
active and the token is valid. -/
theorem externalLogin_ok_iff {user : User} :
    (attemptAuthentication environment
        (.external (.account (facebookAccount externalUserId accessToken))) store).2 =
          .ok (some user) ↔
      findUserWithExternalProvider environment.platform .facebook externalUserId store =
        .ok (some user) ∧
        isValidToken environment accessToken .facebook = true ∧ user.accountStatus = .active ∧
          ∃ provider, findExternalProvider user.id .facebook store = .ok (some provider) := by
  simp only [attemptAuthentication, attemptExternalLogin, facebookAccount]
  rcases answer : findUserWithExternalProvider environment.platform .facebook externalUserId
    store with
    thrown | _ | found
  · exact iff_of_false (fun accepted => by cases accepted) fun both => by cases both.1
  · exact iff_of_false (fun accepted => by cases accepted) fun both => by cases both.1
  simp only [Except.ok.injEq, Option.some.injEq]
  by_cases valid : isValidToken environment accessToken .facebook = true
  swap
  · simp only [Bool.not_eq_true] at valid
    simp only [valid, Bool.not_false, if_true]
    refine iff_of_false (fun accepted => ?_) fun both => by cases both.2.1
    unfold countFailedLogin at accepted
    split at accepted <;> cases accepted
  simp only [valid, Bool.not_true, Bool.false_eq_true, if_false, true_and]
  by_cases active : found.accountStatus = .active
  · simp only [active, if_true]
    have updated : (transaction (updateToken found .facebook accessToken) store).2 = .ok () ↔
        ∃ provider, findExternalProvider found.id .facebook store = .ok (some provider) :=
      transaction_isOk.trans (updateToken_isOk found .facebook accessToken)
    rcases attempt : transaction (updateToken found .facebook accessToken) store with
      ⟨next, thrown | ⟨⟩⟩
    · rw [attempt] at updated
      refine iff_of_false (fun accepted => by cases accepted) ?_
      rintro ⟨rfl, -, one⟩
      cases updated.mpr one
    · rw [attempt] at updated
      simp only [Except.ok.injEq, Option.some.injEq]
      refine ⟨?_, And.left⟩
      rintro rfl
      exact ⟨rfl, active, updated.mp rfl⟩
  · simp only [active, if_false]
    refine iff_of_false (fun accepted => by cases accepted) ?_
    rintro ⟨rfl, isActive, -⟩
    exact active isActive

theorem loginBinds_iff :
    LoginBinds environment store externalUserId accessToken ↔
      ¬ (ForeignToken environment externalUserId accessToken ∧
        LoginReady environment store externalUserId) := by
  have letIn : (∃ user, (attemptAuthentication environment
      (.external (.account (facebookAccount externalUserId accessToken))) store).2 =
        .ok (some user)) ↔
      LoginReady environment store externalUserId ∧
        isValidToken environment accessToken .facebook = true := by
    simp only [externalLogin_ok_iff, LoginReady]
    constructor
    · rintro ⟨user, answer, valid, active, one⟩
      exact ⟨⟨user, answer, active, one⟩, valid⟩
    · rintro ⟨⟨user, answer, active, one⟩, valid⟩
      exact ⟨user, answer, valid, active, one⟩
  rw [← binds_iff letIn]
  constructor
  · rintro binds ⟨user, accepted⟩
    exact (binds user accepted).2
  · intro owned user accepted
    refine ⟨?_, owned ⟨user, accepted⟩⟩
    exact (findUserWithExternalProvider_eq_some (externalLogin_ok_iff.mp accepted).1).2

/-! ### The links -/

/-- A store with the same rows for external accounts records nothing. -/
theorem not_records_of_eq {next : Store}
    (same : next.externalProviders = store.externalProviders) :
    ¬ Records environment store externalUserId accessToken next := by
  rintro ⟨provider, member, new, -⟩
  rw [same] at member
  exact new member

theorem records_insert {next : Store} (userId : Long)
    (inserted : next.externalProviders = store.externalProviders.insert
      (providerRow userId (facebookAccount externalUserId accessToken))) :
    Records environment store externalUserId accessToken next := by
  refine ⟨Identified.withId store.externalProviders.nextId
    (providerRow userId (facebookAccount externalUserId accessToken)), ?_,
    fun old => Table.ne_nextId old (Identified.id_withId _ _), rfl, rfl, rfl⟩
  rw [inserted]
  exact Table.mem_insert.mpr (.inr rfl)

theorem records_link_iff {currentUserId : Long} :
    Records environment store externalUserId accessToken
        (transaction (linkExternalProvider environment currentUserId
          (facebookAccount externalUserId accessToken)) store).1 ↔
      LinkReady environment store externalUserId currentUserId ∧
        isValidToken environment accessToken .facebook = true := by
  constructor
  · intro recorded
    rcases transaction_cases (linkExternalProvider environment currentUserId
      (facebookAccount externalUserId accessToken)) store with
      ⟨user, next, returned, same⟩ | ⟨thrown, -, same⟩
    · obtain ⟨currentUser, checked, -⟩ := bind_eq_ok.mp returned
      obtain ⟨known, own, other, valid⟩ := (checkLinkExternalProvider_ok environment).mp checked
      exact ⟨⟨currentUser, known, own, other⟩, valid⟩
    · rw [same] at recorded
      exact absurd recorded (not_records_of_eq rfl)
  · rintro ⟨⟨currentUser, known, own, other⟩, valid⟩
    have checked : checkLinkExternalProvider environment currentUserId
        (facebookAccount externalUserId accessToken) store = .ok currentUser :=
      (checkLinkExternalProvider_ok environment).mpr ⟨known, own, other, valid⟩
    refine records_insert currentUser.id ?_
    simp only [transaction, linkExternalProvider, checked]
    rfl

theorem linkBinds_iff {currentUserId : Long} :
    LinkBinds environment store externalUserId accessToken currentUserId ↔
      ¬ (ForeignToken environment externalUserId accessToken ∧
        LinkReady environment store externalUserId currentUserId) :=
  binds_iff records_link_iff

/-! ### The new accounts -/

theorem persistAsset_isOk {asset : Option AssetInput} {lastAssetId : Long} :
    (∃ persisted, persistAsset asset lastAssetId = .ok persisted) ↔ CompleteAsset asset := by
  unfold persistAsset
  split
  · exact iff_of_true ⟨_, rfl⟩ fun given member => absurd member (Option.not_mem_none given)
  · refine iff_of_true ⟨_, rfl⟩ fun given member => ?_
    rw [← Option.some.inj member]
    exact ⟨rfl, rfl, rfl⟩
  · rename_i given incomplete
    refine iff_of_false (fun persisted => by obtain ⟨_, absurdity⟩ := persisted; cases absurdity) ?_
    intro complete
    obtain ⟨hasGuid, hasType, hasState⟩ := complete given rfl
    obtain ⟨guid, guidGiven⟩ := Option.isSome_iff_exists.mp hasGuid
    obtain ⟨assetType, typeGiven⟩ := Option.isSome_iff_exists.mp hasType
    obtain ⟨state, stateGiven⟩ := Option.isSome_iff_exists.mp hasState
    refine incomplete guid assetType state ?_
    rw [← guidGiven, ← typeGiven, ← stateGiven]

/-- A user is stored exactly when its assets are complete. -/
theorem persistUser_isOk {user : UserInput} {row : Option Asset → Option Asset → User} :
    (∃ result, persistUser user row store = .ok result) ↔
      CompleteAsset user.avatarAsset ∧ CompleteAsset user.coverAsset := by
  constructor
  · rintro ⟨result, returned⟩
    obtain ⟨avatar, avatarStored, rest⟩ := bind_eq_ok.mp returned
    obtain ⟨cover, coverStored, -⟩ := bind_eq_ok.mp rest
    exact ⟨persistAsset_isOk.mp ⟨avatar, avatarStored⟩, persistAsset_isOk.mp ⟨cover, coverStored⟩⟩
  · rintro ⟨avatarComplete, coverComplete⟩
    obtain ⟨avatar, avatarStored⟩ := persistAsset_isOk.mpr avatarComplete
    obtain ⟨cover, coverStored⟩ := persistAsset_isOk.mpr coverComplete
    exact ⟨_, bind_eq_ok.mpr ⟨avatar, avatarStored, bind_eq_ok.mpr ⟨cover, coverStored, rfl⟩⟩⟩

theorem insertExternalUser_isOk (environment : Environment) (store : Store) (user : UserInput)
    (account : ExternalAccount) (guid salt generated : String) (now : Long) :
    (∃ result, insertExternalUser environment user account guid salt generated now store =
      .ok result) ↔ CompleteAsset user.avatarAsset ∧ CompleteAsset user.coverAsset := by
  constructor
  · rintro ⟨result, returned⟩
    obtain ⟨persisted, persist, -⟩ := bind_eq_ok.mp returned
    exact persistUser_isOk.mp ⟨persisted, persist⟩
  · intro complete
    obtain ⟨persisted, persist⟩ := persistUser_isOk.mpr complete
    exact ⟨_, bind_eq_ok.mpr ⟨persisted, persist, rfl⟩⟩

theorem records_create_iff {user : UserInput} {guid salt generated : String} {now : Long} :
    Records environment store externalUserId accessToken
        (createExternalUser environment user (facebookAccount externalUserId accessToken) guid salt
          generated now store).1 ↔
      CreateReady environment store externalUserId user salt generated ∧
        isValidToken environment accessToken .facebook = true := by
  unfold createExternalUser
  split
  · rename_i checked
    obtain ⟨valid, unlinked, tokenValid⟩ := (checkCreateExternalUser_ok environment).mp checked
    have insertion := insertExternalUser_isOk environment store user
      (facebookAccount externalUserId accessToken) guid salt generated now
    rcases executeInTransactionWithResult_cases (insertExternalUser environment user
      (facebookAccount externalUserId accessToken) guid salt generated now) store with
      ⟨created, next, returned, same⟩ | ⟨thrown, failed, same⟩
    · rw [same]
      obtain ⟨avatarAsset, coverAsset, lastAssetId, rfl⟩ :=
        insertExternalUser_ok environment returned
      obtain ⟨avatarComplete, coverComplete⟩ := insertion.mp ⟨_, returned⟩
      exact iff_of_true (records_insert _ rfl)
        ⟨⟨valid, unlinked, avatarComplete, coverComplete⟩, tokenValid⟩
    · rw [same]
      refine iff_of_false (not_records_of_eq rfl) ?_
      rintro ⟨⟨-, -, avatarComplete, coverComplete⟩, -⟩
      obtain ⟨result, returned⟩ := insertion.mpr ⟨avatarComplete, coverComplete⟩
      rw [failed] at returned
      cases returned
  · rename_i thrown refused
    refine iff_of_false (not_records_of_eq rfl) ?_
    rintro ⟨⟨valid, unlinked, -, -⟩, tokenValid⟩
    have checked : checkCreateExternalUser environment user
        (facebookAccount externalUserId accessToken) salt generated store = .ok () :=
      (checkCreateExternalUser_ok environment).mpr ⟨valid, unlinked, tokenValid⟩
    rw [refused] at checked
    cases checked

theorem createBinds_iff {user : UserInput} {guid salt generated : String} {now : Long} :
    CreateBinds environment store externalUserId accessToken user guid salt generated now ↔
      ¬ (ForeignToken environment externalUserId accessToken ∧
        CreateReady environment store externalUserId user salt generated) :=
  binds_iff records_create_iff

end Proofs

/-- Each of the three entry points keeps accounts and tokens together exactly when it is not ready
for the account or the token is not one of another account. -/
theorem binds_iff_not_foreign (environment : Environment) (store : Store)
    (externalUserId accessToken : String) (currentUserId : Long) (user : UserInput)
    (guid salt generated : String) (now : Long) :
    (LoginBinds environment store externalUserId accessToken ↔
      ¬ (ForeignToken environment externalUserId accessToken ∧
        LoginReady environment store externalUserId)) ∧
    (LinkBinds environment store externalUserId accessToken currentUserId ↔
      ¬ (ForeignToken environment externalUserId accessToken ∧
        LinkReady environment store externalUserId currentUserId)) ∧
    (CreateBinds environment store externalUserId accessToken user guid salt generated now ↔
      ¬ (ForeignToken environment externalUserId accessToken ∧
        CreateReady environment store externalUserId user salt generated)) :=
  ⟨loginBinds_iff, linkBinds_iff, createBinds_iff⟩

/-! ### A token of somebody else -/

/-- A user who has the external account `X` linked. -/
def storeWithLink : Store :=
  { Store.empty with
    users := Table.empty.insert (plainUser 0 "alice")
    externalProviders := Table.empty.insert (providerRow 1 (facebookAccount "X" "X")) }

/-- The token of the account `Y` opens the account of the user who has `X` linked. -/
theorem not_loginBinds : ¬ LoginBinds (plainEnvironment .entry) storeWithLink "X" "Y" := by
  intro binds
  have accepted : (attemptAuthentication (plainEnvironment .entry)
      (.external (.account (facebookAccount "X" "Y"))) storeWithLink).2 =
        .ok (some (plainUser 1 "alice")) := by
    decide
  obtain ⟨account, belongs, same⟩ := (binds _ accepted).2
  have isOwner : account = "Y" := (Option.some.inj belongs).symm
  rw [isOwner] at same
  exact absurd (show "Y" = "X" from same) (by decide)

end GraffiTab
