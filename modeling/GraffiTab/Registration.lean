/-
This file models how accounts come into being and how external accounts are linked to them.

`createUser` and `createExternalUser` validate in one transaction and insert in another,
so each is given by its check and its insertion; the sequential operation is the two on
one store. `editUser` and `linkExternalProvider` run in one transaction, but what they
read and what they write are separate statements to the database, and they are given in
the same two parts. What the operations queue for other threads (mails, notifications)
touches no table of users or external accounts and is left out.
-/

import GraffiTab.Validation

namespace GraffiTab

open Tables

/-! ### The environment -/

/-- The password encoder, whose encoding also depends on a random salt. -/
structure PasswordEncoder where
  encode : String → String → String
  encodedMatches : String → String → Bool
  matches_encode : ∀ salt password, encodedMatches password (encode salt password) = true

/-- What the services run in: the platform, the application properties, the password encoder, and
the social network, which knows to which of its accounts an access token belongs. -/
structure Environment where
  platform : Platform
  config : Config
  encoder : PasswordEncoder
  owner : String → Option String

/-- An encoder that stores a password as it is, for runs on fixed inputs. -/
def plainEncoder : PasswordEncoder where
  encode _ password := password
  encodedMatches password encoded := password = encoded
  matches_encode _ _ := decide_eq_true rfl

/-- The default configuration with the plain encoder, where each account of the social network
has its identifier for an access token. -/
def plainEnvironment (elementsScope : ElementsScope) : Environment where
  platform := asciiPlatform elementsScope
  config := {}
  encoder := plainEncoder
  owner accessToken := some accessToken

/-- `FacebookSocialNetworkService.isValidToken`: the endpoint `/me` answers 200 for the tokens
that belong to an account. -/
def facebookIsValidToken (environment : Environment) (accessToken : String) : Bool :=
  (environment.owner accessToken).isSome

/-- `SocialNetworksService.isValidToken`. -/
def isValidToken (environment : Environment) (token : String) (type : ExternalProviderType) :
    Bool :=
  if type = .facebook then facebookIsValidToken environment token else false

/-! ### New rows -/

def activationTokenMetadataKey : String := "activationToken"
def activationTokenDateMetadataKey : String := "activationTokenDate"
def resetPasswordActivationToken : String := "resetPasswordToken"
def resetPasswordActivationTokenDate : String := "resetPasswordTokenDate"

/-- Stores an asset of the request: its columns must not be null. -/
def persistAsset (asset : Option AssetInput) (lastAssetId : Long) :
    Except Throwable (Option Asset × Long) :=
  match asset with
  | none => .ok (none, lastAssetId)
  | some { guid := some guid, assetType := some assetType, state := some state } =>
      .ok (some { id := lastAssetId + 1, guid, assetType, state }, lastAssetId + 1)
  | some _ => .error .notNullViolation

/-- The user row of a validated request, before it has an identifier. -/
def newUserRow (platform : Platform) (user : UserInput) (guid password : String) (now : Long)
    (accountStatus : AccountStatus) (metadataItems : Metadata)
    (avatarAsset coverAsset : Option Asset) : User where
  id := 0
  guid := guid
  username := user.username.getD ""
  firstName := user.firstName.getD ""
  lastName := user.lastName.getD ""
  password := password
  email := platform.toLowerCase (user.email.getD "")
  website := user.website
  about := user.about
  createdOn := now
  updatedOn := user.updatedOn
  failedLogins := none
  accountStatus := accountStatus
  isRecommendation := false
  recommendationRank := some 0
  avatarAsset := avatarAsset
  coverAsset := coverAsset
  metadataItems := metadataItems

/-- `userDao.persist`: the assets of the user are stored with it. -/
def persistUser (user : UserInput) (row : Option Asset → Option Asset → User) :
    Transaction User := fun store => do
  let (avatarAsset, lastAssetId) ← persistAsset user.avatarAsset store.lastAssetId
  let (coverAsset, lastAssetId) ← persistAsset user.coverAsset lastAssetId
  let users := store.users.insert (row avatarAsset coverAsset)
  return ({ row avatarAsset coverAsset with id := store.users.nextId },
    { store with users, lastAssetId })

section Operations

variable (environment : Environment)

/-! ### Creating a user -/

/-- The metadata of a new account. -/
def activationMetadata (userToken : String) (now : Long) : Metadata :=
  ((∅ : Metadata).insert activationTokenMetadataKey userToken).insert
    activationTokenDateMetadataKey (toString now)

/-- The transaction of `createUser` that stores the account. -/
def insertCreatedUser (user : UserInput) (guid userToken salt : String) (now : Long) :
    Transaction User :=
  persistUser user <| newUserRow environment.platform user guid
    (environment.encoder.encode salt (user.password.getD "")) now
    (if environment.config.immediateUserActivation then .active else .pendingActivation)
    (activationMetadata userToken now)

/-- What `createUser` asks before it stores anything. -/
def checkCreateUser (user : UserInput) (store : Store) : Except Throwable Unit := do
  validateCreateUser environment.platform user false store
  if user.id.isNone then
    return ()
  else
    throw (restApiException .invalidId
      "ID has been provided to create endpoint -- This is not allowed")

/-- `UserService.createUser`. -/
def createUser (user : UserInput) (guid userToken salt : String) (now : Long) (store : Store) :
    Store × Except Throwable User :=
  match checkCreateUser environment user store with
  | .ok () =>
      executeInTransactionWithResult
        (insertCreatedUser environment user guid userToken salt now) store
  | .error thrown => (store, .error thrown)

/-! ### Creating a user from an external account -/

/-- An external account as a request presents it. -/
structure ExternalAccount where
  externalUserId : String
  accessToken : String
  externalProviderType : ExternalProviderType
  deriving DecidableEq

/-- The request with the random password that the service gives the account. -/
def withGeneratedPassword (user : UserInput) (salt generated : String) : UserInput :=
  { user with password := some (environment.encoder.encode salt generated) }

/-- What `createExternalUser` asks once the user is valid: whether the external account is used
already, and whether the social network knows the token. -/
def checkExternalAccount (account : ExternalAccount) (store : Store) : Except Throwable Unit :=
  match findUserWithExternalProvider environment.platform account.externalProviderType
    account.externalUserId store with
  | .error thrown => throw (.runtimeException thrown)
  | .ok (some _) =>
      throw (restApiException .externalProviderAlreadyLinkedForOtherUser
        "This external provider is already used for another user.")
  | .ok none =>
      if isValidToken environment account.accessToken account.externalProviderType then
        return ()
      else
        throw (restApiException .invalidToken "The provided token is not valid.")

def checkCreateExternalUser (user : UserInput) (account : ExternalAccount)
    (salt generated : String) (store : Store) : Except Throwable Unit := do
  checkCreateUser environment (withGeneratedPassword environment user salt generated) store
  checkExternalAccount environment account store

/-- The row that links the user to the external account. -/
def providerRow (userId : Long) (account : ExternalAccount) : ExternalProvider where
  id := 0
  userId := userId
  externalProviderType := account.externalProviderType
  externalUserId := account.externalUserId
  accessToken := account.accessToken

def insertExternalUser (user : UserInput) (account : ExternalAccount)
    (guid salt generated : String) (now : Long) : Transaction User := fun store => do
  let (created, next) ← persistUser user (newUserRow environment.platform user guid
    (environment.encoder.encode salt generated) now .active ∅) store
  return (created, { next with
    externalProviders := next.externalProviders.insert (providerRow created.id account) })

/-- `UserService.createExternalUser`. -/
def createExternalUser (user : UserInput) (account : ExternalAccount)
    (guid salt generated : String) (now : Long) (store : Store) :
    Store × Except Throwable User :=
  match checkCreateExternalUser environment user account salt generated store with
  | .ok () =>
      executeInTransactionWithResult
        (insertExternalUser environment user account guid salt generated now) store
  | .error thrown => (store, .error thrown)

/-! ### Editing a user -/

/-- What `editUser` reads: the current user, and whether the new email is free. -/
def checkEditUser (currentUserId : Long) (toEdit : UserInput) (store : Store) :
    Except Throwable User := do
  match findUserById currentUserId store with
  | none => throw .nullPointerException
  | some currentUser =>
      validateEditInfo environment.platform { toEdit with id := some currentUser.id } store
      return currentUser

/-- The user that `editUser` writes back, with all its columns. -/
def editedUser (currentUser : User) (toEdit : UserInput) (now : Long) : User :=
  { currentUser with
    updatedOn := some now
    firstName := toEdit.firstName.getD ""
    lastName := toEdit.lastName.getD ""
    email := environment.platform.toLowerCase (toEdit.email.getD "")
    about := toEdit.about
    website := toEdit.website }

def commitEditUser (currentUser : User) (toEdit : UserInput) (now : Long) (store : Store) :
    Store :=
  { store with users := store.users.set (editedUser environment currentUser toEdit now) }

/-- `UserService.editUser`. -/
def editUser (currentUserId : Long) (toEdit : UserInput) (now : Long) : Transaction User :=
  fun store => do
    let currentUser ← checkEditUser environment currentUserId toEdit store
    return (editedUser environment currentUser toEdit now,
      commitEditUser environment currentUser toEdit now store)

/-! ### Linking external accounts -/

/-- What `linkExternalProvider` reads: whether the user has an account of the network, whether
another user has this one, and whether the social network knows the token. -/
def checkLinkExternalProvider (currentUserId : Long) (account : ExternalAccount)
    (store : Store) : Except Throwable User := do
  match findUserById currentUserId store with
  | none => throw .nullPointerException
  | some currentUser =>
      if (← findExternalProvider currentUser.id account.externalProviderType store).isSome then
        throw (restApiException .externalProviderAlreadyLinked
          ("An external provider for user " ++ currentUser.username ++ " with externalUserId " ++
            account.externalUserId ++ " already exists for type " ++
            account.externalProviderType.name))
      else
        match ← findUserWithExternalProvider environment.platform account.externalProviderType
            account.externalUserId store with
        | some other =>
            if other.id ≠ currentUser.id then
              throw (restApiException .externalProviderAlreadyLinkedForOtherUser
                "This external provider is already linked to a different user account")
            else checkToken currentUser
        | none => checkToken currentUser
where
  checkToken (currentUser : User) : Except Throwable User :=
    if isValidToken environment account.accessToken account.externalProviderType then
      .ok currentUser
    else .error (restApiException .invalidToken "The provided token is not valid.")

def commitLinkExternalProvider (userId : Long) (account : ExternalAccount) (store : Store) :
    Store :=
  { store with externalProviders := store.externalProviders.insert (providerRow userId account) }

/-- `ExternalProviderService.linkExternalProvider`. -/
def linkExternalProvider (currentUserId : Long) (account : ExternalAccount) : Transaction User :=
  fun store => do
    let currentUser ← checkLinkExternalProvider environment currentUserId account store
    return (currentUser, commitLinkExternalProvider currentUser.id account store)

end Operations

/-- `ExternalProviderService.unlinkExternalProvider`. -/
def unlinkExternalProvider (currentUserId : Long) (type : ExternalProviderType) :
    Transaction User := fun store => do
  match findUserById currentUserId store with
  | none => throw .nullPointerException
  | some currentUser =>
      match ← findExternalProvider currentUser.id type store with
      | none =>
          throw (restApiException .externalProviderNotFound
            ("An external provider with type " ++ type.name ++ " does not exist for user " ++
              currentUser.username))
      | some provider =>
          return (currentUser, { store with
            externalProviders := store.externalProviders.remove fun row => row.id = provider.id })

/-- `ExternalProviderService.updateToken`. -/
def updateToken (user : User) (type : ExternalProviderType) (accessToken : String) :
    Transaction Unit := fun store => do
  match ← findExternalProvider user.id type store with
  | none => throw .nullPointerException
  | some provider =>
      return ((), { store with
        externalProviders := store.externalProviders.set { provider with accessToken } })

/-! ### What is written -/

section Writes

variable (environment : Environment)

theorem persistUser_ok {user : UserInput} {row : Option Asset → Option Asset → User}
    {store next : Store} {created : User}
    (returned : persistUser user row store = .ok (created, next)) :
    ∃ avatarAsset coverAsset lastAssetId,
      created = { row avatarAsset coverAsset with id := store.users.nextId } ∧
        next = { store with
          users := store.users.insert (row avatarAsset coverAsset), lastAssetId } := by
  obtain ⟨⟨avatarAsset, afterAvatar⟩, -, rest⟩ := bind_eq_ok.mp returned
  obtain ⟨⟨coverAsset, lastAssetId⟩, -, rest⟩ := bind_eq_ok.mp rest
  obtain ⟨rfl, rfl⟩ := Prod.mk.inj (Except.ok.inj rest)
  exact ⟨avatarAsset, coverAsset, lastAssetId, rfl, rfl⟩

theorem checkCreateUser_ok {user : UserInput} {store : Store}
    (checked : checkCreateUser environment user store = .ok ()) :
    validateCreateUser environment.platform user false store = .ok () ∧ user.id = none := by
  obtain ⟨⟨⟩, valid, rest⟩ := bind_eq_ok.mp checked
  split at rest
  · rename_i absent
    exact ⟨valid, Option.isNone_iff_eq_none.mp absent⟩
  · exact absurd rest throw_ne_ok

theorem checkExternalAccount_ok {account : ExternalAccount} {store : Store} :
    checkExternalAccount environment account store = .ok () ↔
      findUserWithExternalProvider environment.platform account.externalProviderType
          account.externalUserId store = .ok none ∧
        isValidToken environment account.accessToken account.externalProviderType = true := by
  unfold checkExternalAccount
  constructor
  · intro checked
    split at checked
    · exact absurd checked throw_ne_ok
    · exact absurd checked throw_ne_ok
    · rename_i unlinked
      split at checked
      · rename_i tokenValid
        exact ⟨unlinked, tokenValid⟩
      · exact absurd checked throw_ne_ok
  · rintro ⟨unlinked, tokenValid⟩
    simp only [unlinked, tokenValid, if_true]
    rfl

/-- What must hold for a user to be created from an external account. -/
theorem checkCreateExternalUser_ok {user : UserInput} {account : ExternalAccount}
    {salt generated : String} {store : Store} :
    checkCreateExternalUser environment user account salt generated store = .ok () ↔
      checkCreateUser environment (withGeneratedPassword environment user salt generated) store =
          .ok () ∧
        findUserWithExternalProvider environment.platform account.externalProviderType
          account.externalUserId store = .ok none ∧
        isValidToken environment account.accessToken account.externalProviderType = true := by
  rw [checkCreateExternalUser, bind_eq_ok, ← checkExternalAccount_ok]
  exact ⟨fun ⟨(), valid, rest⟩ => ⟨valid, rest⟩, fun ⟨valid, rest⟩ => ⟨(), valid, rest⟩⟩

/-- `createUser` is refused, or answers with the row that it has inserted for a request that passed
the checks. -/
theorem createUser_cases (user : UserInput) (guid userToken salt : String) (now : Long)
    (store : Store) :
    (∃ thrown, createUser environment user guid userToken salt now store =
      (store, .error thrown)) ∨
    ∃ row lastAssetId,
      (∃ avatarAsset coverAsset, row = newUserRow environment.platform user guid
        (environment.encoder.encode salt (user.password.getD "")) now
        (if environment.config.immediateUserActivation then .active else .pendingActivation)
        (activationMetadata userToken now) avatarAsset coverAsset) ∧
      checkCreateUser environment user store = .ok () ∧
      createUser environment user guid userToken salt now store =
        ({ store with users := store.users.insert row, lastAssetId },
          .ok { row with id := store.users.nextId }) := by
  unfold createUser
  cases checked : checkCreateUser environment user store with
  | error thrown => exact .inl ⟨thrown, rfl⟩
  | ok =>
      rcases executeInTransactionWithResult_cases
        (insertCreatedUser environment user guid userToken salt now) store with
        ⟨created, next, returned, same⟩ | ⟨thrown, -, same⟩
      · obtain ⟨avatarAsset, coverAsset, lastAssetId, rfl, rfl⟩ := persistUser_ok returned
        exact .inr ⟨_, lastAssetId, ⟨avatarAsset, coverAsset, rfl⟩, rfl, same⟩
      · exact .inl ⟨_, same⟩

theorem insertExternalUser_ok {user : UserInput} {account : ExternalAccount}
    {guid salt generated : String} {now : Long} {store next : Store} {created : User}
    (returned : insertExternalUser environment user account guid salt generated now store =
      .ok (created, next)) :
    ∃ avatarAsset coverAsset lastAssetId, next = { store with
      users := store.users.insert (newUserRow environment.platform user guid
        (environment.encoder.encode salt generated) now .active ∅ avatarAsset coverAsset)
      externalProviders :=
        store.externalProviders.insert (providerRow store.users.nextId account)
      lastAssetId } := by
  obtain ⟨⟨persisted, inserted⟩, persist, rest⟩ := bind_eq_ok.mp returned
  obtain ⟨avatarAsset, coverAsset, lastAssetId, rfl, rfl⟩ := persistUser_ok persist
  obtain ⟨rfl, rfl⟩ := Prod.mk.inj (Except.ok.inj rest)
  exact ⟨avatarAsset, coverAsset, lastAssetId, rfl⟩

/-- `createExternalUser` leaves the database as it is, or inserts the row of a request that passed
the checks, with the external account. -/
theorem createExternalUser_cases (user : UserInput) (account : ExternalAccount)
    (guid salt generated : String) (now : Long) (store : Store) :
    (createExternalUser environment user account guid salt generated now store).1 = store ∨
    ∃ row lastAssetId,
      (∃ avatarAsset coverAsset, row = newUserRow environment.platform user guid
        (environment.encoder.encode salt generated) now .active ∅ avatarAsset coverAsset) ∧
      checkCreateExternalUser environment user account salt generated store = .ok () ∧
      (createExternalUser environment user account guid salt generated now store).1 =
        { store with
          users := store.users.insert row
          externalProviders :=
            store.externalProviders.insert (providerRow store.users.nextId account)
          lastAssetId } := by
  unfold createExternalUser
  split
  · rename_i checked
    rcases executeInTransactionWithResult_cases
      (insertExternalUser environment user account guid salt generated now) store with
      ⟨created, next, returned, same⟩ | ⟨thrown, -, same⟩
    · obtain ⟨avatarAsset, coverAsset, lastAssetId, rfl⟩ :=
        insertExternalUser_ok environment returned
      exact .inr ⟨_, lastAssetId, ⟨avatarAsset, coverAsset, rfl⟩, checked, by rw [same]⟩
    · exact .inl (by rw [same])
  · exact .inl rfl

/-- What must hold for an external account to be linked. -/
theorem checkLinkExternalProvider_ok {currentUserId : Long} {account : ExternalAccount}
    {store : Store} {currentUser : User} :
    checkLinkExternalProvider environment currentUserId account store = .ok currentUser ↔
      findUserById currentUserId store = some currentUser ∧
      findExternalProvider currentUser.id account.externalProviderType store = .ok none ∧
      (findUserWithExternalProvider environment.platform account.externalProviderType
          account.externalUserId store = .ok none ∨
        ∃ other, findUserWithExternalProvider environment.platform account.externalProviderType
          account.externalUserId store = .ok (some other) ∧ other.id = currentUser.id) ∧
      isValidToken environment account.accessToken account.externalProviderType = true := by
  have tokenChecked (user : User) :
      checkLinkExternalProvider.checkToken environment account user = .ok currentUser ↔
        user = currentUser ∧
          isValidToken environment account.accessToken account.externalProviderType = true := by
    unfold checkLinkExternalProvider.checkToken
    split
    · rename_i valid
      rw [Except.ok.injEq]
      exact (and_iff_left valid).symm
    · rename_i notValid
      exact iff_of_false (fun accepted => by cases accepted) fun both => notValid both.2
  unfold checkLinkExternalProvider
  cases known : findUserById currentUserId store with
  | none => exact iff_of_false throw_ne_ok fun both => by cases both.1
  | some found =>
      simp only [Option.some.injEq]
      constructor
      · intro checked
        obtain ⟨linked, ownAnswer, rest⟩ := bind_eq_ok.mp checked
        cases linked with
        | some provider => exact absurd rest throw_ne_ok
        | none =>
            simp only [Option.isSome_none, Bool.false_eq_true, if_false] at rest
            obtain ⟨other, otherAnswer, rest⟩ := bind_eq_ok.mp rest
            cases other with
            | none =>
                obtain ⟨rfl, valid⟩ := (tokenChecked found).mp rest
                exact ⟨rfl, ownAnswer, .inl otherAnswer, valid⟩
            | some other =>
                simp only at rest
                split at rest
                · exact absurd rest throw_ne_ok
                · rename_i same
                  obtain ⟨rfl, valid⟩ := (tokenChecked found).mp rest
                  exact ⟨rfl, ownAnswer, .inr ⟨other, otherAnswer, not_not.mp same⟩, valid⟩
      · rintro ⟨rfl, ownAnswer, otherAnswer, valid⟩
        refine bind_eq_ok.mpr ⟨none, ownAnswer, ?_⟩
        simp only [Option.isSome_none, Bool.false_eq_true, if_false]
        rcases otherAnswer with unlinked | ⟨other, answer, same⟩
        · exact bind_eq_ok.mpr ⟨none, unlinked, (tokenChecked found).mpr ⟨rfl, valid⟩⟩
        · refine bind_eq_ok.mpr ⟨some other, answer, ?_⟩
          simp only [same, ne_eq, not_true_eq_false, if_false]
          exact (tokenChecked found).mpr ⟨rfl, valid⟩

theorem checkEditUser_ok {currentUserId : Long} {toEdit : UserInput} {store : Store}
    {currentUser : User}
    (checked : checkEditUser environment currentUserId toEdit store = .ok currentUser) :
    currentUser ∈ store.users.rows ∧ currentUser.id = currentUserId ∧
      validateEditInfo environment.platform { toEdit with id := some currentUser.id } store =
        .ok () := by
  unfold checkEditUser at checked
  cases known : findUserById currentUserId store with
  | none =>
      rw [known] at checked
      exact absurd checked throw_ne_ok
  | some found =>
      rw [known] at checked
      obtain ⟨⟨⟩, valid, rest⟩ := bind_eq_ok.mp checked
      obtain rfl := Except.ok.inj rest
      exact ⟨Table.mem_of_find known, Table.id_of_find known, valid⟩

theorem editUser_ok {currentUserId : Long} {toEdit : UserInput} {now : Long}
    {store next : Store} {edited : User}
    (returned : editUser environment currentUserId toEdit now store = .ok (edited, next)) :
    ∃ currentUser, checkEditUser environment currentUserId toEdit store = .ok currentUser ∧
      edited = editedUser environment currentUser toEdit now ∧
        next = commitEditUser environment currentUser toEdit now store := by
  obtain ⟨currentUser, checked, rest⟩ := bind_eq_ok.mp returned
  obtain ⟨rfl, rfl⟩ := Prod.mk.inj (Except.ok.inj rest)
  exact ⟨currentUser, checked, rfl, rfl⟩

end Writes

end GraffiTab
