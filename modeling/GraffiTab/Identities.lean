/-
This file asks whether two accounts can get the same identity.

No column of the database is declared unique, and the services look for a username, an
email or an external account in a statement before the one that writes it. Between the
two, other requests write. A pending call is what remains of a call after its first
reads, and a run interleaves the calls in any order.

The invariant of the runs in which overlapping calls have different identities is that
what a pending call is about to write is still free. A run with two overlapping calls
for one username ends with two users of that name, and the query of the login for it
throws.
-/

import GraffiTab.Registration
import GraffiTab.Library.Runs

namespace GraffiTab

open Tables Runs

/-! ### Calls in parts -/

/-- A request, with what its call generates. -/
inductive Call where
  | createUser (user : UserInput) (guid userToken salt : String) (now : Long)
  | createExternalUser (user : UserInput) (account : ExternalAccount)
      (guid salt generated : String) (now : Long)
  | editUser (currentUserId : Long) (toEdit : UserInput) (now : Long)
  | linkExternalProvider (currentUserId : Long) (account : ExternalAccount)

/-- What remains of a call that read from the store and did not write yet. -/
inductive PendingCall where
  | insertUser (user : UserInput) (guid userToken salt : String) (now : Long)
  | lookUpAccount (user : UserInput) (account : ExternalAccount)
      (guid salt generated : String) (now : Long)
  | insertExternalUser (user : UserInput) (account : ExternalAccount)
      (guid salt generated : String) (now : Long)
  | writeUser (currentUser : User) (toEdit : UserInput) (now : Long)
  | insertProvider (currentUser : User) (account : ExternalAccount)

structure CallsState where
  store : Store
  pending : List PendingCall

inductive CallAction where
  | start (call : Call)
  | resume (index : Nat)

section Steps

variable (environment : Environment)

/-- The first reads of a call: the validation, or the checks of an external account. -/
def Call.begin (call : Call) (store : Store) : Except Throwable PendingCall :=
  match call with
  | .createUser user guid userToken salt now => do
      checkCreateUser environment user store
      return .insertUser user guid userToken salt now
  | .createExternalUser user account guid salt generated now => do
      checkCreateUser environment (withGeneratedPassword environment user salt generated) store
      return .lookUpAccount user account guid salt generated now
  | .editUser currentUserId toEdit now => do
      let currentUser ← checkEditUser environment currentUserId toEdit store
      return .writeUser currentUser toEdit now
  | .linkExternalProvider currentUserId account => do
      let currentUser ← checkLinkExternalProvider environment currentUserId account store
      return .insertProvider currentUser account

/-- The next transaction of a pending call, and what then remains of it. -/
def PendingCall.resume (pending : PendingCall) (store : Store) : Store × Option PendingCall :=
  match pending with
  | .insertUser user guid userToken salt now =>
      ((executeInTransactionWithResult
        (insertCreatedUser environment user guid userToken salt now) store).1, none)
  | .lookUpAccount user account guid salt generated now =>
      match checkExternalAccount environment account store with
      | .ok () => (store, some (.insertExternalUser user account guid salt generated now))
      | .error _ => (store, none)
  | .insertExternalUser user account guid salt generated now =>
      ((executeInTransactionWithResult
        (GraffiTab.insertExternalUser environment user account guid salt generated now)
          store).1, none)
  | .writeUser currentUser toEdit now =>
      (commitEditUser environment currentUser toEdit now store, none)
  | .insertProvider currentUser account =>
      (commitLinkExternalProvider currentUser.id account store, none)

/-- A call starts, or one of the pending calls goes on. -/
def callsStep (state : CallsState) : CallAction → Option CallsState
  | .start call =>
      match call.begin environment state.store with
      | .ok pending => some { state with pending := state.pending ++ [pending] }
      | .error _ => some state
  | .resume index =>
      match state.pending[index]? with
      | some pending =>
          let (store, rest) := pending.resume environment state.store
          some { store, pending := state.pending.eraseIdx index ++ rest.toList }
      | none => none

end Steps

/-! ### Calls that do not overlap -/

section Sequential

variable (environment : Environment) (store : Store)

theorem callsStep_start_ok {call : Call} {pending : PendingCall}
    (begun : call.begin environment store = .ok pending) :
    callsStep environment ⟨store, []⟩ (.start call) = some ⟨store, [pending]⟩ := by
  simp only [callsStep, begun, List.nil_append]

theorem callsStep_start_error {call : Call} {thrown : Throwable}
    (refused : call.begin environment store = .error thrown) :
    callsStep environment ⟨store, []⟩ (.start call) = some ⟨store, []⟩ := by
  simp only [callsStep, refused]

theorem callsStep_resume_single (pending : PendingCall) :
    callsStep environment ⟨store, [pending]⟩ (.resume 0) =
      some ⟨(pending.resume environment store).1,
        (pending.resume environment store).2.toList⟩ := rfl

/-- A call that checks and then writes, without another call in between. -/
theorem run_checked {Value : Type} {call : Call} {check : Except Throwable Value}
    {pending : Value → PendingCall} {final : Store}
    (begins : call.begin environment store = check >>= fun value => .ok (pending value))
    (refused : ∀ thrown, check = .error thrown → store = final)
    (resumed : ∀ value, check = .ok value →
      (pending value).resume environment store = (final, none)) :
    ∃ actions, run (callsStep environment) ⟨store, []⟩ actions = some ⟨final, []⟩ := by
  cases checked : check with
  | error thrown =>
      rw [checked] at begins
      refine ⟨[.start call], ?_⟩
      rw [run, callsStep_start_error environment store begins, refused thrown checked]
      rfl
  | ok value =>
      rw [checked] at begins
      refine ⟨[.start call, .resume 0], ?_⟩
      rw [run, callsStep_start_ok environment store begins]
      simp only [run, callsStep_resume_single, resumed value checked, Option.toList_none]

/-- A call that runs alone does what the service method does. -/
theorem createUser_run (user : UserInput) (guid userToken salt : String) (now : Long) :
    ∃ actions, run (callsStep environment) ⟨store, []⟩ actions =
      some ⟨(createUser environment user guid userToken salt now store).1, []⟩ := by
  have begins : (Call.createUser user guid userToken salt now).begin environment store =
      (checkCreateUser environment user store >>= fun _ =>
        .ok (.insertUser user guid userToken salt now)) := rfl
  refine run_checked environment store begins (fun thrown checked => ?_) fun value checked => ?_
  · rw [createUser, checked]
  · rw [createUser, checked]
    rfl

theorem createExternalUser_run (user : UserInput) (account : ExternalAccount)
    (guid salt generated : String) (now : Long) :
    ∃ actions, run (callsStep environment) ⟨store, []⟩ actions =
      some ⟨(createExternalUser environment user account guid salt generated now store).1,
        []⟩ := by
  have begins : (Call.createExternalUser user account guid salt generated now).begin environment
      store = (checkCreateUser environment
        (withGeneratedPassword environment user salt generated) store >>= fun _ =>
          .ok (.lookUpAccount user account guid salt generated now)) := rfl
  unfold createExternalUser checkCreateExternalUser
  cases checked : checkCreateUser environment
      (withGeneratedPassword environment user salt generated) store with
  | error thrown =>
      rw [checked] at begins
      refine ⟨[.start (.createExternalUser user account guid salt generated now)], ?_⟩
      rw [run, callsStep_start_error environment store begins]
      rfl
  | ok value =>
      rw [checked] at begins
      have resumes := callsStep_resume_single environment store
        (.lookUpAccount user account guid salt generated now)
      cases unlinked : checkExternalAccount environment account store with
      | error thrown =>
          refine ⟨[.start (.createExternalUser user account guid salt generated now),
            .resume 0], ?_⟩
          simp only [PendingCall.resume, unlinked] at resumes
          rw [run, callsStep_start_ok environment store begins]
          simp only [run, resumes]
          rfl
      | ok free =>
          refine ⟨[.start (.createExternalUser user account guid salt generated now),
            .resume 0, .resume 0], ?_⟩
          simp only [PendingCall.resume, unlinked] at resumes
          rw [run, callsStep_start_ok environment store begins]
          simp only [run, resumes]
          rfl

theorem editUser_run (currentUserId : Long) (toEdit : UserInput) (now : Long) :
    ∃ actions, run (callsStep environment) ⟨store, []⟩ actions =
      some ⟨(transaction (editUser environment currentUserId toEdit now) store).1, []⟩ := by
  have begins : (Call.editUser currentUserId toEdit now).begin environment store =
      (checkEditUser environment currentUserId toEdit store >>= fun currentUser =>
        .ok (.writeUser currentUser toEdit now)) := rfl
  unfold transaction editUser
  refine run_checked environment store begins (fun thrown checked => ?_) fun value checked => ?_
  · rw [checked]
    rfl
  · rw [checked]
    rfl

theorem linkExternalProvider_run (currentUserId : Long) (account : ExternalAccount) :
    ∃ actions, run (callsStep environment) ⟨store, []⟩ actions =
      some ⟨(transaction (linkExternalProvider environment currentUserId account) store).1,
        []⟩ := by
  have begins : (Call.linkExternalProvider currentUserId account).begin environment store =
      (checkLinkExternalProvider environment currentUserId account store >>= fun currentUser =>
        .ok (.insertProvider currentUser account)) := rfl
  unfold transaction linkExternalProvider
  refine run_checked environment store begins (fun thrown checked => ?_) fun value checked => ?_
  · rw [checked]
    rfl
  · rw [checked]
    rfl

end Sequential

/-! ### Identities -/

/-- What belongs to one user only: a username, an email and an external account, where texts
that the database takes for equal are one, and a user's link to a social network. -/
inductive Identity where
  | username (collated : String)
  | email (collated : String)
  | externalAccount (type : ExternalProviderType) (collated : String)
  | externalProvider (userId : Long) (type : ExternalProviderType)

section Identities

variable (platform : Platform)

def User.identities (user : User) : List Identity :=
  [.username (platform.collate user.username), .email (platform.collate user.email)]

def ExternalProvider.identities (provider : ExternalProvider) : List Identity :=
  [.externalAccount provider.externalProviderType
      (platform.collateLatin provider.externalUserId),
    .externalProvider provider.userId provider.externalProviderType]

def UserInput.usernameIdentity (user : UserInput) : Identity :=
  .username (platform.collate (user.username.getD ""))

def UserInput.emailIdentity (user : UserInput) : Identity :=
  .email (platform.collate (platform.toLowerCase (user.email.getD "")))

def ExternalAccount.identity (account : ExternalAccount) : Identity :=
  .externalAccount account.externalProviderType (platform.collateLatin account.externalUserId)

/-- The identities that a call gives to a user. -/
def Call.identities : Call → List Identity
  | .createUser user _ _ _ _ => [user.usernameIdentity platform, user.emailIdentity platform]
  | .createExternalUser user account _ _ _ _ =>
      [user.usernameIdentity platform, user.emailIdentity platform, account.identity platform]
  | .editUser _ toEdit _ => [toEdit.emailIdentity platform]
  | .linkExternalProvider currentUserId account =>
      [account.identity platform, .externalProvider currentUserId account.externalProviderType]

def PendingCall.identities : PendingCall → List Identity
  | .insertUser user _ _ _ _ => [user.usernameIdentity platform, user.emailIdentity platform]
  | .lookUpAccount user account _ _ _ _ =>
      [user.usernameIdentity platform, user.emailIdentity platform, account.identity platform]
  | .insertExternalUser user account _ _ _ _ =>
      [user.usernameIdentity platform, user.emailIdentity platform, account.identity platform]
  | .writeUser _ toEdit _ => [toEdit.emailIdentity platform]
  | .insertProvider currentUser account =>
      [account.identity platform, .externalProvider currentUser.id account.externalProviderType]

/-- Nothing in the store has the identity. -/
def Identity.FreeIn (store : Store) (identity : Identity) : Prop :=
  (∀ user ∈ store.users.rows, identity ∉ user.identities platform) ∧
    ∀ provider ∈ store.externalProviders.rows, identity ∉ provider.identities platform

end Identities

/-- No two users have a username, an email or an external account in common, and no user has two
external providers of one type. -/
structure UniqueIdentities (platform : Platform) (store : Store) : Prop where
  username : ∀ first ∈ store.users.rows, ∀ second ∈ store.users.rows,
    platform.collate first.username = platform.collate second.username → first = second
  email : ∀ first ∈ store.users.rows, ∀ second ∈ store.users.rows,
    platform.collate first.email = platform.collate second.email → first = second
  externalAccount : ∀ first ∈ store.externalProviders.rows,
    ∀ second ∈ store.externalProviders.rows,
      first.externalProviderType = second.externalProviderType →
        platform.collateLatin first.externalUserId =
            platform.collateLatin second.externalUserId →
          first.userId = second.userId
  externalProvider : ∀ first ∈ store.externalProviders.rows,
    ∀ second ∈ store.externalProviders.rows, first.userId = second.userId →
      first.externalProviderType = second.externalProviderType → first = second

/-- The queries of the login and of the services for a user or an external account answer. -/
structure LookupsAnswer (platform : Platform) (store : Store) : Prop where
  username : ∀ username, ∃ found, findByUsername platform username store = .ok found
  email : ∀ email, ∃ found, findByEmail platform email store = .ok found
  usernameOrEmail : ∀ usernameOrEmail, ∃ found,
    findByUsernameOrEmail platform usernameOrEmail store = .ok found
  externalAccount : ∀ type externalUserId, ∃ found,
    findUserWithExternalProvider platform type externalUserId store = .ok found
  externalProvider : ∀ userId type, ∃ found, findExternalProvider userId type store = .ok found

/-- Every external provider is a row of an existing user, as its foreign key asks. -/
def ProvidersOwned (store : Store) : Prop :=
  ∀ provider ∈ store.externalProviders.rows, ∃ user ∈ store.users.rows, user.id = provider.userId

/-- Identities stay unique, and the lookups answer, in every run whose steps meet the
condition, from any store in which the identities are unique. -/
def KeepsIdentitiesUnique (environment : Environment)
    (condition : CallsState → CallAction → Prop) : Prop :=
  ∀ start, UniqueIdentities environment.platform start → ProvidersOwned start →
    ∀ state, Reaches (callsStep environment) condition ⟨start, []⟩ state →
      UniqueIdentities environment.platform state.store ∧
        LookupsAnswer environment.platform state.store

/-- No call starts while a call that gives one of its identities is pending. -/
def StartsApart (platform : Platform) (state : CallsState) : CallAction → Prop
  | .start call => ∀ pending ∈ state.pending,
      (call.identities platform).Disjoint (pending.identities platform)
  | .resume _ => True

/-! ### Lookups in a store with unique identities -/

section Lookups

variable {platform : Platform} {store : Store}

theorem UniqueIdentities.lookupsAnswer (unique : UniqueIdentities platform store) :
    LookupsAnswer platform store := by
  have username (username : String) :
      ∃ found, findByUsername platform username store = .ok found := by
    refine uniqueResult_isOk fun first firstMember second secondMember => ?_
    simp only [Table.mem_select, decide_eq_true_eq] at firstMember secondMember
    exact unique.username first firstMember.1 second secondMember.1
      (firstMember.2.trans secondMember.2.symm)
  have email (email : String) : ∃ found, findByEmail platform email store = .ok found := by
    refine uniqueResult_isOk fun first firstMember second secondMember => ?_
    simp only [Table.mem_select, decide_eq_true_eq] at firstMember secondMember
    exact unique.email first firstMember.1 second secondMember.1
      (firstMember.2.trans secondMember.2.symm)
  refine ⟨username, email, fun usernameOrEmail => ?_, fun type externalUserId => ?_,
    fun userId type => ?_⟩
  · unfold findByUsernameOrEmail
    split
    · exact email _
    · exact username _
  · refine uniqueResult_isOk fun first firstMember second secondMember => ?_
    obtain ⟨provider, providerMember, rfl, isAccount, owner⟩ :=
      mem_usersWithExternalProvider.mp firstMember
    obtain ⟨other, otherMember, sameType, sameId, otherOwner⟩ :=
      mem_usersWithExternalProvider.mp secondMember
    have sameUser := unique.externalAccount other otherMember provider providerMember sameType
      (sameId.trans isAccount.symm)
    rw [sameUser, owner] at otherOwner
    exact Option.some.inj otherOwner
  · refine uniqueResult_isOk fun first firstMember second secondMember => ?_
    simp only [Table.mem_select, Bool.and_eq_true, decide_eq_true_eq] at firstMember secondMember
    exact unique.externalProvider first firstMember.1 second secondMember.1
      (firstMember.2.2.trans secondMember.2.2.symm) (firstMember.2.1.trans secondMember.2.1.symm)

end Lookups

/-! ### What a pending call relies on -/

section Reserved

variable (platform : Platform) (store : Store)

/-- The identities that no row may have before the call writes: the email of an edited user can
be its own, and an external account is looked up last. -/
def PendingCall.unheld : PendingCall → List Identity
  | .insertUser user _ _ _ _ => [user.usernameIdentity platform, user.emailIdentity platform]
  | .lookUpAccount user _ _ _ _ _ =>
      [user.usernameIdentity platform, user.emailIdentity platform]
  | .insertExternalUser user account _ _ _ _ =>
      [user.usernameIdentity platform, user.emailIdentity platform, account.identity platform]
  | .writeUser _ _ _ => []
  | .insertProvider currentUser account =>
      [account.identity platform, .externalProvider currentUser.id account.externalProviderType]

/-- The user that the call read. -/
def PendingCall.currentUser : PendingCall → Option User
  | .writeUser currentUser _ _ => some currentUser
  | .insertProvider currentUser _ => some currentUser
  | _ => none

/-- What a pending call read still holds: what it is about to write is free, and the user it read
is stored and the only one that can have the new email. -/
structure PendingCall.Reserved (pending : PendingCall) : Prop where
  free : ∀ identity ∈ pending.unheld platform, identity.FreeIn platform store
  known : ∀ currentUser ∈ pending.currentUser, ∃ user ∈ store.users.rows,
    user.id = currentUser.id ∧ user.username = currentUser.username
  ownEmail : ∀ currentUser toEdit now, pending = .writeUser currentUser toEdit now →
    ∀ user ∈ store.users.rows, toEdit.emailIdentity platform ∈ user.identities platform →
      user.id = currentUser.id

/-- The invariant of the runs in which overlapping calls have different identities. -/
structure KeptApart (state : CallsState) : Prop where
  unique : UniqueIdentities platform state.store
  owned : ProvidersOwned state.store
  reserved : ∀ pending ∈ state.pending, pending.Reserved platform state.store
  apart : state.pending.Pairwise fun first second =>
    (first.identities platform).Disjoint (second.identities platform)

end Reserved

theorem PendingCall.unheld_subset (platform : Platform) (pending : PendingCall) :
    pending.unheld platform ⊆ pending.identities platform := by
  cases pending with
  | insertUser user guid userToken salt now => exact List.Subset.refl _
  | lookUpAccount user account guid salt generated now => exact List.subset_append_left _ [_]
  | insertExternalUser user account guid salt generated now => exact List.Subset.refl _
  | writeUser currentUser toEdit now => exact List.nil_subset _
  | insertProvider currentUser account => exact List.Subset.refl _

/-! ### What a write leaves free -/

theorem forall_mem_pair {Value : Type} {Holds : Value → Prop} {first second : Value}
    (onFirst : Holds first) (onSecond : Holds second) : ∀ value ∈ [first, second], Holds value :=
  List.forall_mem_cons.mpr ⟨onFirst, List.forall_mem_singleton.mpr onSecond⟩

section Writes

variable {platform : Platform} {store : Store}

theorem Identity.FreeIn.insertUser {identity : Identity} (free : identity.FreeIn platform store)
    (new : User) (other : identity ∉ new.identities platform) (lastAssetId : Long) :
    identity.FreeIn platform { store with users := store.users.insert new, lastAssetId } := by
  refine ⟨fun user member => ?_, free.2⟩
  rcases Table.mem_insert.mp member with old | rfl
  · exact free.1 user old
  · exact other

theorem Identity.FreeIn.insertProvider {identity : Identity}
    (free : identity.FreeIn platform store) {new : ExternalProvider}
    (other : identity ∉ new.identities platform) :
    identity.FreeIn platform
      { store with externalProviders := store.externalProviders.insert new } := by
  refine ⟨free.1, fun provider member => ?_⟩
  rcases Table.mem_insert.mp member with old | rfl
  · exact free.2 provider old
  · exact other

/-- A written user keeps its username, so only its email can take what was free. -/
theorem Identity.FreeIn.setUser {identity : Identity} (free : identity.FreeIn platform store)
    {old new : User} (stored : old ∈ store.users.rows) (sameName : old.username = new.username)
    (other : identity ≠ .email (platform.collate new.email)) :
    identity.FreeIn platform { store with users := store.users.set new } := by
  refine ⟨fun user member => ?_, free.2⟩
  rcases Table.mem_set.mp member with ⟨rfl, -⟩ | ⟨kept, -⟩
  · intro taken
    rcases List.mem_pair.mp taken with name | email
    · refine free.1 old stored (List.mem_pair.mpr (.inl ?_))
      rw [name, sameName]
    · exact other email
  · exact free.1 user kept

/-- What a write does that gives the identities to a user: they stay unique, and calls that give
other identities can still rely on what they read. -/
structure Gives (platform : Platform) (identities : List Identity) (store next : Store) :
    Prop where
  unique : UniqueIdentities platform next
  owned : ProvidersOwned next
  reserved : ∀ pending : PendingCall, pending.Reserved platform store →
    (pending.identities platform).Disjoint identities → pending.Reserved platform next

theorem gives_self (unique : UniqueIdentities platform store) (owned : ProvidersOwned store)
    (identities : List Identity) : Gives platform identities store store :=
  ⟨unique, owned, fun _ reserved _ => reserved⟩

theorem UniqueIdentities.insertUser (unique : UniqueIdentities platform store) {new : User}
    (free : ∀ identity ∈ new.identities platform, identity.FreeIn platform store)
    (lastAssetId : Long) :
    UniqueIdentities platform { store with users := store.users.insert new, lastAssetId } := by
  have otherName (user : User) (member : user ∈ store.users.rows) :
      platform.collate user.username ≠ platform.collate new.username := by
    intro same
    refine (free _ List.mem_cons_self).1 user member ?_
    rw [← same]
    exact List.mem_cons_self
  have otherEmail (user : User) (member : user ∈ store.users.rows) :
      platform.collate user.email ≠ platform.collate new.email := by
    intro same
    refine (free _ (List.mem_cons_of_mem _ List.mem_cons_self)).1 user member ?_
    rw [← same]
    exact List.mem_cons_of_mem _ List.mem_cons_self
  refine ⟨?_, ?_, unique.externalAccount, unique.externalProvider⟩
  · intro first firstMember second secondMember same
    rcases Table.mem_insert.mp firstMember with firstOld | rfl <;>
      rcases Table.mem_insert.mp secondMember with secondOld | rfl
    · exact unique.username first firstOld second secondOld same
    · exact absurd same (otherName first firstOld)
    · exact absurd same.symm (otherName second secondOld)
    · rfl
  · intro first firstMember second secondMember same
    rcases Table.mem_insert.mp firstMember with firstOld | rfl <;>
      rcases Table.mem_insert.mp secondMember with secondOld | rfl
    · exact unique.email first firstOld second secondOld same
    · exact absurd same (otherEmail first firstOld)
    · exact absurd same.symm (otherEmail second secondOld)
    · rfl

theorem gives_insertUser (unique : UniqueIdentities platform store) (owned : ProvidersOwned store)
    (new : User) (free : ∀ identity ∈ new.identities platform, identity.FreeIn platform store)
    (lastAssetId : Long) :
    Gives platform (new.identities platform) store
      { store with users := store.users.insert new, lastAssetId } := by
  have kept {user : User} (member : user ∈ store.users.rows) :
      user ∈ (store.users.insert new).rows := Table.mem_insert.mpr (.inl member)
  refine ⟨unique.insertUser free lastAssetId, fun provider member => ?_,
    fun pending reserved apart => ⟨?_, ?_, ?_⟩⟩
  · obtain ⟨user, userMember, owner⟩ := owned provider member
    exact ⟨user, kept userMember, owner⟩
  · intro identity member
    exact (reserved.free identity member).insertUser new
      (apart (pending.unheld_subset platform member)) lastAssetId
  · intro currentUser read
    obtain ⟨user, userMember, same⟩ := reserved.known currentUser read
    exact ⟨user, kept userMember, same⟩
  · rintro currentUser toEdit now rfl other otherMember taken
    rcases Table.mem_insert.mp otherMember with old | rfl
    · exact reserved.ownEmail currentUser toEdit now rfl other old taken
    · exact absurd taken (apart (List.mem_singleton.mpr rfl))

theorem UniqueIdentities.insertProvider (unique : UniqueIdentities platform store)
    {new : ExternalProvider}
    (free : ∀ identity ∈ new.identities platform, identity.FreeIn platform store) :
    UniqueIdentities platform
      { store with externalProviders := store.externalProviders.insert new } := by
  have otherAccount (provider : ExternalProvider)
      (member : provider ∈ store.externalProviders.rows)
      (sameType : provider.externalProviderType = new.externalProviderType) :
      platform.collateLatin provider.externalUserId ≠
        platform.collateLatin new.externalUserId := by
    intro same
    refine (free _ List.mem_cons_self).2 provider member ?_
    rw [← sameType, ← same]
    exact List.mem_cons_self
  have otherOwner (provider : ExternalProvider)
      (member : provider ∈ store.externalProviders.rows) (sameUser : provider.userId = new.userId) :
      provider.externalProviderType ≠ new.externalProviderType := by
    intro same
    refine (free _ (List.mem_cons_of_mem _ List.mem_cons_self)).2 provider member ?_
    rw [← same, ← sameUser]
    exact List.mem_cons_of_mem _ List.mem_cons_self
  refine ⟨unique.username, unique.email, ?_, ?_⟩
  · intro first firstMember second secondMember sameType sameId
    rcases Table.mem_insert.mp firstMember with firstOld | rfl <;>
      rcases Table.mem_insert.mp secondMember with secondOld | rfl
    · exact unique.externalAccount first firstOld second secondOld sameType sameId
    · exact absurd sameId (otherAccount first firstOld sameType)
    · exact absurd sameId.symm (otherAccount second secondOld sameType.symm)
    · rfl
  · intro first firstMember second secondMember sameUser sameType
    rcases Table.mem_insert.mp firstMember with firstOld | rfl <;>
      rcases Table.mem_insert.mp secondMember with secondOld | rfl
    · exact unique.externalProvider first firstOld second secondOld sameUser sameType
    · exact absurd sameType (otherOwner first firstOld sameUser)
    · exact absurd sameType.symm (otherOwner second secondOld sameUser.symm)
    · rfl

theorem gives_insertProvider (unique : UniqueIdentities platform store)
    (owned : ProvidersOwned store) (new : ExternalProvider)
    (owner : ∃ user ∈ store.users.rows, user.id = new.userId)
    (free : ∀ identity ∈ new.identities platform, identity.FreeIn platform store) :
    Gives platform (new.identities platform) store
      { store with externalProviders := store.externalProviders.insert new } := by
  refine ⟨unique.insertProvider free, fun provider member => ?_,
    fun pending reserved apart => ⟨fun identity member => ?_, reserved.known, reserved.ownEmail⟩⟩
  · rcases Table.mem_insert.mp member with old | rfl
    · exact owned provider old
    · exact owner
  · exact (reserved.free identity member).insertProvider
      (apart (pending.unheld_subset platform member))

theorem UniqueIdentities.setUser (unique : UniqueIdentities platform store) {old new : User}
    (stored : old ∈ store.users.rows) (sameId : old.id = new.id)
    (sameName : old.username = new.username)
    (ownEmail : ∀ user ∈ store.users.rows, platform.collate user.email =
      platform.collate new.email → user.id = new.id) :
    UniqueIdentities platform { store with users := store.users.set new } := by
  have otherName (user : User) (member : user ∈ store.users.rows) (other : user.id ≠ new.id) :
      platform.collate user.username ≠ platform.collate new.username := by
    intro same
    rw [← sameName] at same
    rw [unique.username user member old stored same] at other
    exact other sameId
  refine ⟨?_, ?_, unique.externalAccount, unique.externalProvider⟩
  · intro first firstMember second secondMember same
    rcases Table.mem_set.mp firstMember with ⟨rfl, -⟩ | ⟨firstOld, firstOther⟩ <;>
      rcases Table.mem_set.mp secondMember with ⟨rfl, -⟩ | ⟨secondOld, secondOther⟩
    · rfl
    · exact absurd same.symm (otherName second secondOld secondOther)
    · exact absurd same (otherName first firstOld firstOther)
    · exact unique.username first firstOld second secondOld same
  · intro first firstMember second secondMember same
    rcases Table.mem_set.mp firstMember with ⟨rfl, -⟩ | ⟨firstOld, firstOther⟩ <;>
      rcases Table.mem_set.mp secondMember with ⟨rfl, -⟩ | ⟨secondOld, secondOther⟩
    · rfl
    · exact absurd (ownEmail second secondOld same.symm) secondOther
    · exact absurd (ownEmail first firstOld same) firstOther
    · exact unique.email first firstOld second secondOld same

theorem gives_setUser (unique : UniqueIdentities platform store) (owned : ProvidersOwned store)
    {old : User} (new : User) (stored : old ∈ store.users.rows) (sameId : old.id = new.id)
    (sameName : old.username = new.username)
    (ownEmail : ∀ user ∈ store.users.rows, platform.collate user.email =
      platform.collate new.email → user.id = new.id) :
    Gives platform [.email (platform.collate new.email)] store
      { store with users := store.users.set new } := by
  have kept {id : Long} {name : String}
      (known : ∃ user ∈ store.users.rows, user.id = id ∧ user.username = name) :
      ∃ user ∈ (store.users.set new).rows, user.id = id ∧ user.username = name := by
    obtain ⟨user, member, rfl, rfl⟩ := known
    by_cases same : user.id = new.id
    · have isOld : user = old := Table.eq_of_id_eq member stored (same.trans sameId.symm)
      exact ⟨new, Table.mem_set.mpr (.inl ⟨rfl, old, stored, sameId⟩), same.symm,
        by rw [isOld, sameName]⟩
    · exact ⟨user, Table.mem_set.mpr (.inr ⟨member, same⟩), rfl, rfl⟩
  refine ⟨unique.setUser stored sameId sameName ownEmail, fun provider member => ?_,
    fun pending reserved apart => ⟨?_, ?_, ?_⟩⟩
  · obtain ⟨user, userMember, owner⟩ := owned provider member
    obtain ⟨written, writtenMember, writtenId, -⟩ := kept ⟨user, userMember, owner, rfl⟩
    exact ⟨written, writtenMember, writtenId⟩
  · intro identity member
    refine (reserved.free identity member).setUser stored sameName fun same => ?_
    exact apart (pending.unheld_subset platform member) (List.mem_singleton.mpr same)
  · exact fun currentUser read => kept (reserved.known currentUser read)
  · rintro currentUser toEdit now rfl other otherMember taken
    rcases Table.mem_set.mp otherMember with ⟨rfl, -⟩ | ⟨unchanged, -⟩
    · rcases List.mem_pair.mp taken with name | email
      · exact absurd name nofun
      · exact (apart (List.mem_singleton.mpr rfl) (List.mem_singleton.mpr email)).elim
    · exact reserved.ownEmail currentUser toEdit now rfl other unchanged taken

end Writes

/-! ### The first reads of a call -/

section Begin

variable {environment : Environment} {store : Store}

/-- The username and the email of a valid new user are free. -/
theorem freeIn_of_checkCreateUser {user : UserInput}
    (checked : checkCreateUser environment user store = .ok ()) :
    (user.usernameIdentity environment.platform).FreeIn environment.platform store ∧
      (user.emailIdentity environment.platform).FreeIn environment.platform store := by
  obtain ⟨valid, new⟩ := checkCreateUser_ok environment checked
  obtain ⟨⟨email, givenEmail, -, emailFree⟩, usernameValid⟩ := validateCreateUser_ok valid
  obtain ⟨username, givenUsername, -, usernameFree⟩ := usernameValid rfl
  rw [new] at emailFree usernameFree
  have otherEmail := isEmailTaken_none_eq_false.mp emailFree
  have otherName := isUsernameTaken_none_eq_false.mp usernameFree
  rw [UserInput.usernameIdentity, UserInput.emailIdentity, givenUsername, givenEmail]
  refine ⟨⟨fun other member taken => ?_, fun provider member taken => ?_⟩,
    ⟨fun other member taken => ?_, fun provider member taken => ?_⟩⟩
  · simp only [User.identities, List.mem_cons, Identity.username.injEq, reduceCtorEq,
      List.not_mem_nil, or_false] at taken
    exact otherName other member taken.symm
  · simp [ExternalProvider.identities] at taken
  · simp only [User.identities, List.mem_cons, Identity.email.injEq, reduceCtorEq,
      List.not_mem_nil, or_false, false_or] at taken
    exact otherEmail other member taken.symm
  · simp [ExternalProvider.identities] at taken

theorem freeIn_externalProvider {platform : Platform} {userId : Long}
    {type : ExternalProviderType} :
    (Identity.externalProvider userId type).FreeIn platform store ↔
      ∀ provider ∈ store.externalProviders.rows, provider.externalProviderType = type →
        provider.userId ≠ userId := by
  constructor
  · rintro free provider member rfl rfl
    exact free.2 provider member (List.mem_cons_of_mem _ List.mem_cons_self)
  · intro free
    refine ⟨fun user member taken => ?_, fun provider member taken => ?_⟩
    · simp [User.identities] at taken
    · simp only [ExternalProvider.identities, List.mem_cons, reduceCtorEq, List.not_mem_nil,
        Identity.externalProvider.injEq, or_false, false_or] at taken
      exact free provider member taken.2.symm taken.1.symm

theorem freeIn_account {platform : Platform} {account : ExternalAccount} :
    (account.identity platform).FreeIn platform store ↔
      ∀ provider ∈ store.externalProviders.rows,
        provider.externalProviderType = account.externalProviderType →
          platform.collateLatin provider.externalUserId ≠
            platform.collateLatin account.externalUserId := by
  constructor
  · intro free provider member sameType sameId
    refine free.2 provider member ?_
    rw [ExternalAccount.identity, ← sameType, ← sameId]
    exact List.mem_cons_self
  · intro free
    refine ⟨fun user member taken => ?_, fun provider member taken => ?_⟩
    · simp [User.identities, ExternalAccount.identity] at taken
    · simp only [ExternalProvider.identities, ExternalAccount.identity, List.mem_cons,
        reduceCtorEq, List.not_mem_nil, Identity.externalAccount.injEq, or_false] at taken
      exact free provider member taken.1.symm taken.2.symm

/-- The users that the query joins with the rows of an external account are their owners. -/
theorem ProvidersOwned.mem_usersWithExternalProvider {platform : Platform}
    (owned : ProvidersOwned store) {provider : ExternalProvider}
    (member : provider ∈ store.externalProviders.rows) {externalUserId : String}
    (sameId : platform.collateLatin provider.externalUserId =
      platform.collateLatin externalUserId) :
    ∃ user, user.id = provider.userId ∧
      user ∈ usersWithExternalProvider platform provider.externalProviderType externalUserId
        store := by
  obtain ⟨user, userMember, same⟩ := owned provider member
  refine ⟨user, same, GraffiTab.mem_usersWithExternalProvider.mpr
    ⟨provider, member, rfl, sameId, ?_⟩⟩
  exact Table.find_eq_some.mpr ⟨userMember, same⟩

theorem freeIn_of_checkExternalAccount (owned : ProvidersOwned store) {account : ExternalAccount}
    (checked : checkExternalAccount environment account store = .ok ()) :
    (account.identity environment.platform).FreeIn environment.platform store := by
  refine freeIn_account.mpr fun provider member sameType sameId => ?_
  obtain ⟨user, -, listed⟩ := owned.mem_usersWithExternalProvider member sameId
  have noneFound := ((checkExternalAccount_ok environment).mp checked).1
  rw [sameType, uniqueResult_eq_none.mp noneFound] at listed
  exact List.not_mem_nil listed

/-- When linking is allowed, neither the account nor the place at the user is taken. -/
theorem freeIn_of_checkLinkExternalProvider (owned : ProvidersOwned store)
    {currentUserId : Long} {account : ExternalAccount} {currentUser : User}
    (checked : checkLinkExternalProvider environment currentUserId account store =
      .ok currentUser) :
    (account.identity environment.platform).FreeIn environment.platform store ∧
      Identity.FreeIn environment.platform store
        (.externalProvider currentUser.id account.externalProviderType) := by
  obtain ⟨-, unlinked, otherLinked, -⟩ := (checkLinkExternalProvider_ok environment).mp checked
  have notLinked := findExternalProvider_eq_none.mp unlinked
  refine ⟨freeIn_account.mpr fun provider member sameType sameId => ?_,
    freeIn_externalProvider.mpr notLinked⟩
  obtain ⟨user, owner, listed⟩ := owned.mem_usersWithExternalProvider member sameId
  rw [sameType] at listed
  rcases otherLinked with none | ⟨other, found, same⟩
  · rw [uniqueResult_eq_none.mp none] at listed
    exact List.not_mem_nil listed
  · have isOther : user = other := (uniqueResult_eq_some.mp found).2 user listed
    exact notLinked provider member sameType (by rw [← owner, isOther, same])

theorem begin_identities {call : Call} {pending : PendingCall}
    (begun : call.begin environment store = .ok pending) :
    pending.identities environment.platform = call.identities environment.platform := by
  cases call with
  | createUser user guid userToken salt now =>
      obtain ⟨-, -, rest⟩ := bind_eq_ok.mp begun
      obtain rfl := Except.ok.inj rest
      rfl
  | createExternalUser user account guid salt generated now =>
      obtain ⟨-, -, rest⟩ := bind_eq_ok.mp begun
      obtain rfl := Except.ok.inj rest
      rfl
  | editUser currentUserId toEdit now =>
      obtain ⟨currentUser, -, rest⟩ := bind_eq_ok.mp begun
      obtain rfl := Except.ok.inj rest
      rfl
  | linkExternalProvider currentUserId account =>
      obtain ⟨currentUser, checked, rest⟩ := bind_eq_ok.mp begun
      obtain rfl := Except.ok.inj rest
      have found := ((checkLinkExternalProvider_ok environment).mp checked).1
      have same : currentUser.id = currentUserId := Table.id_of_find found
      rw [PendingCall.identities, Call.identities, same]

/-- What a call reads first holds while nothing is written. -/
theorem begin_reserved (owned : ProvidersOwned store) {call : Call} {pending : PendingCall}
    (begun : call.begin environment store = .ok pending) :
    pending.Reserved environment.platform store := by
  cases call with
  | createUser user guid userToken salt now =>
      obtain ⟨⟨⟩, checked, rest⟩ := bind_eq_ok.mp begun
      obtain rfl := Except.ok.inj rest
      obtain ⟨usernameFree, emailFree⟩ := freeIn_of_checkCreateUser checked
      refine ⟨?_, fun _ read => absurd read (Option.not_mem_none _), fun _ _ _ same => ?_⟩
      · simpa [PendingCall.unheld] using ⟨usernameFree, emailFree⟩
      · cases same
  | createExternalUser user account guid salt generated now =>
      obtain ⟨⟨⟩, checked, rest⟩ := bind_eq_ok.mp begun
      obtain rfl := Except.ok.inj rest
      obtain ⟨usernameFree, emailFree⟩ := freeIn_of_checkCreateUser checked
      refine ⟨?_, fun _ read => absurd read (Option.not_mem_none _), fun _ _ _ same => ?_⟩
      · simpa [PendingCall.unheld] using ⟨usernameFree, emailFree⟩
      · cases same
  | editUser currentUserId toEdit now =>
      obtain ⟨currentUser, checked, rest⟩ := bind_eq_ok.mp begun
      obtain rfl := Except.ok.inj rest
      obtain ⟨member, -, valid⟩ := checkEditUser_ok environment checked
      obtain ⟨⟨email, given, -, emailFree⟩, -⟩ := validateCreateUser_ok valid
      have ownEmail := isEmailTaken_some_eq_false.mp emailFree
      refine ⟨List.forall_mem_nil _, fun user read => ?_, fun user edit time same => ?_⟩
      · obtain rfl := Option.some.inj read
        exact ⟨currentUser, member, rfl, rfl⟩
      · obtain ⟨rfl, rfl, rfl⟩ := PendingCall.writeUser.inj same
        intro user userMember taken
        refine ownEmail user userMember ?_
        simp only [UserInput.emailIdentity, User.identities, List.mem_cons, reduceCtorEq,
          Identity.email.injEq, List.not_mem_nil, or_false, false_or] at taken
        have givenEmail : toEdit.email = some email := given
        rw [← taken, givenEmail, Option.getD_some]
  | linkExternalProvider currentUserId account =>
      obtain ⟨currentUser, checked, rest⟩ := bind_eq_ok.mp begun
      obtain rfl := Except.ok.inj rest
      obtain ⟨accountFree, providerFree⟩ :=
        freeIn_of_checkLinkExternalProvider owned checked
      have found := ((checkLinkExternalProvider_ok environment).mp checked).1
      refine ⟨?_, fun user read => ?_, fun _ _ _ same => by cases same⟩
      · simpa [PendingCall.unheld] using ⟨accountFree, providerFree⟩
      · obtain rfl := Option.some.inj read
        exact ⟨currentUser, Table.mem_of_find found, rfl, rfl⟩

end Begin

/-! ### The next transaction of a call -/

section Resume

variable {environment : Environment} {store : Store}

/-- A call that is about to give an external provider has read its user. -/
theorem PendingCall.Reserved.owner {platform : Platform} {pending : PendingCall}
    (reserved : pending.Reserved platform store) {userId : Long} {type : ExternalProviderType}
    (given : .externalProvider userId type ∈ pending.identities platform) :
    ∃ user ∈ store.users.rows, user.id = userId := by
  cases pending with
  | insertProvider currentUser account =>
      simp only [PendingCall.identities, ExternalAccount.identity, List.mem_cons, reduceCtorEq,
        Identity.externalProvider.injEq, List.not_mem_nil, or_false, false_or] at given
      obtain ⟨user, member, same, -⟩ := reserved.known currentUser rfl
      exact ⟨user, member, same.trans given.1.symm⟩
  | _ =>
      simp [PendingCall.identities, UserInput.usernameIdentity, UserInput.emailIdentity,
        ExternalAccount.identity] at given

theorem gives_insertExternalUser (unique : UniqueIdentities environment.platform store)
    (owned : ProvidersOwned store) {user : UserInput} {account : ExternalAccount}
    {guid salt generated : String} {now : Long}
    (reserved : (PendingCall.insertExternalUser user account guid salt generated now).Reserved
      environment.platform store)
    {created : User} {next : Store}
    (returned : insertExternalUser environment user account guid salt generated now store =
      .ok (created, next)) :
    Gives environment.platform
      [user.usernameIdentity environment.platform, user.emailIdentity environment.platform,
        account.identity environment.platform] store next := by
  obtain ⟨⟨persisted, inserted⟩, persist, rest⟩ := bind_eq_ok.mp returned
  obtain ⟨avatarAsset, coverAsset, lastAssetId, rfl, rfl⟩ := persistUser_ok persist
  obtain ⟨rfl, rfl⟩ := Prod.mk.inj (Except.ok.inj rest)
  have usernameFree := reserved.free _ List.mem_cons_self
  have emailFree := reserved.free _ (List.mem_cons_of_mem _ List.mem_cons_self)
  have accountFree := reserved.free (account.identity environment.platform)
    (by simp [PendingCall.unheld])
  -- First the user gets its username and its email.
  have first := gives_insertUser unique owned (newUserRow environment.platform user guid
    (environment.encoder.encode salt generated) now .active ∅ avatarAsset coverAsset)
    (forall_mem_pair usernameFree emailFree) lastAssetId
  -- The external account was free before, and the user is new.
  have accountStillFree := accountFree.insertUser (newUserRow environment.platform user guid
    (environment.encoder.encode salt generated) now .active ∅ avatarAsset coverAsset)
    (by simp [User.identities, ExternalAccount.identity]) lastAssetId
  have notLinked : ∀ provider ∈ store.externalProviders.rows,
      provider.externalProviderType = account.externalProviderType →
        provider.userId ≠ store.users.nextId := by
    intro provider member _
    obtain ⟨owner, ownerMember, same⟩ := owned provider member
    exact same ▸ Table.ne_nextId ownerMember
  have second := gives_insertProvider first.unique first.owned
    (providerRow store.users.nextId account)
    ⟨_, Table.mem_insert.mpr (.inr rfl), rfl⟩
    (forall_mem_pair accountStillFree (freeIn_externalProvider.mpr notLinked))
  refine ⟨second.unique, second.owned, fun pending others apart => ?_⟩
  refine second.reserved pending (first.reserved pending others ?_) ?_
  · exact fun identity given taken =>
      apart given (List.mem_append_left [account.identity environment.platform] taken)
  · intro identity given taken
    rcases List.mem_pair.mp taken with rfl | rfl
    · exact apart given (List.mem_append_right [_, _] List.mem_cons_self)
    · obtain ⟨owner, member, same⟩ := others.owner given
      exact Table.ne_nextId member same

theorem resume_gives (unique : UniqueIdentities environment.platform store)
    (owned : ProvidersOwned store) {pending : PendingCall}
    (reserved : pending.Reserved environment.platform store) :
    Gives environment.platform (pending.identities environment.platform) store
      (pending.resume environment store).1 := by
  cases pending with
  | insertUser user guid userToken salt now =>
      have usernameFree := reserved.free _ List.mem_cons_self
      have emailFree := reserved.free _ (List.mem_cons_of_mem _ List.mem_cons_self)
      rcases executeInTransactionWithResult_cases
        (insertCreatedUser environment user guid userToken salt now) store with
        ⟨created, next, returned, same⟩ | ⟨thrown, -, same⟩
      · obtain ⟨avatarAsset, coverAsset, lastAssetId, -, rfl⟩ := persistUser_ok returned
        rw [PendingCall.resume, same]
        refine gives_insertUser unique owned (newUserRow environment.platform user guid
          (environment.encoder.encode salt (user.password.getD "")) now
          (if environment.config.immediateUserActivation then .active else .pendingActivation)
          (activationMetadata userToken now) avatarAsset coverAsset) ?_ lastAssetId
        exact forall_mem_pair usernameFree emailFree
      · rw [PendingCall.resume, same]
        exact gives_self unique owned _
  | lookUpAccount user account guid salt generated now =>
      rw [PendingCall.resume]
      split
      · exact gives_self unique owned _
      · exact gives_self unique owned _
  | insertExternalUser user account guid salt generated now =>
      rcases executeInTransactionWithResult_cases
        (insertExternalUser environment user account guid salt generated now) store with
        ⟨created, next, returned, same⟩ | ⟨thrown, -, same⟩
      · rw [PendingCall.resume, same]
        exact gives_insertExternalUser unique owned reserved returned
      · rw [PendingCall.resume, same]
        exact gives_self unique owned _
  | writeUser currentUser toEdit now =>
      obtain ⟨old, stored, sameId, sameName⟩ := reserved.known currentUser rfl
      refine gives_setUser unique owned (editedUser environment currentUser toEdit now) stored
        sameId sameName fun user member same => ?_
      refine reserved.ownEmail currentUser toEdit now rfl user member ?_
      exact List.mem_pair.mpr (.inr (congrArg Identity.email same.symm))
  | insertProvider currentUser account =>
      obtain ⟨user, member, same, -⟩ := reserved.known currentUser rfl
      exact gives_insertProvider unique owned (providerRow currentUser.id account)
        ⟨user, member, same⟩ reserved.free

/-- A call that looked up the external account gives the same identities, and can rely on all of
them. -/
theorem resume_rest (owned : ProvidersOwned store) {pending rest : PendingCall}
    (reserved : pending.Reserved environment.platform store)
    (remains : rest ∈ (pending.resume environment store).2) :
    (pending.resume environment store).1 = store ∧
      rest.Reserved environment.platform store ∧
        rest.identities environment.platform = pending.identities environment.platform := by
  cases pending with
  | lookUpAccount user account guid salt generated now =>
      rw [PendingCall.resume] at remains ⊢
      split at remains
      · rename_i checked
        obtain rfl := Option.some.inj remains
        refine ⟨rfl, ⟨?_, fun _ read => absurd read (Option.not_mem_none _), fun _ _ _ same => ?_⟩,
          rfl⟩
        · have accountFree :=
            freeIn_of_checkExternalAccount owned checked
          have userFree := reserved.free
          simp only [PendingCall.unheld, List.forall_mem_cons] at userFree ⊢
          exact ⟨userFree.1, userFree.2.1, accountFree, List.forall_mem_nil _⟩
        · cases same
      · exact absurd remains (Option.not_mem_none _)
  | _ => exact absurd remains (Option.not_mem_none _)

end Resume

/-! ### Runs of calls with different identities -/

/-- The other calls stay apart when one of them goes on, whatever remains of it. -/
theorem pairwise_eraseIdx_append {platform : Platform} {pending : List PendingCall} {index : Nat}
    {current : PendingCall} (apart : pending.Pairwise fun first second =>
      (first.identities platform).Disjoint (second.identities platform))
    (chosen : pending[index]? = some current) :
    (∀ other ∈ pending.eraseIdx index,
      (other.identities platform).Disjoint (current.identities platform)) ∧
    ∀ rest : Option PendingCall,
      (∀ later ∈ rest, later.identities platform = current.identities platform) →
      (pending.eraseIdx index ++ rest.toList).Pairwise fun first second =>
        (first.identities platform).Disjoint (second.identities platform) := by
  have others : ∀ other ∈ pending.eraseIdx index,
      (other.identities platform).Disjoint (current.identities platform) := by
    intro other member
    obtain ⟨place, bound, different, rfl⟩ := List.mem_eraseIdx_iff_getElem.mp member
    obtain ⟨chosenBound, rfl⟩ := List.getElem?_eq_some_iff.mp chosen
    rw [List.pairwise_iff_getElem] at apart
    rcases Nat.lt_or_gt_of_ne different with before | after
    · exact apart place index bound chosenBound before
    · exact List.disjoint_symm (apart index place chosenBound bound after)
  refine ⟨others, fun rest same => ?_⟩
  refine List.pairwise_append.mpr ⟨apart.sublist (List.eraseIdx_sublist _ _), ?_, ?_⟩
  · cases rest with
    | none => exact List.Pairwise.nil
    | some later => exact List.pairwise_singleton _ _
  · intro other member later laterMember
    rw [same later (Option.mem_toList.mp laterMember)]
    exact others other member

/-- What the start of a call does: unless it is refused, the call is pending. -/
theorem callsStep_start {environment : Environment} {state next : CallsState} {call : Call}
    (taken : callsStep environment state (.start call) = some next) :
    next = state ∨ ∃ pending, call.begin environment state.store = .ok pending ∧
      next = { state with pending := state.pending ++ [pending] } := by
  rw [callsStep] at taken
  split at taken
  · rename_i pending begun
    exact .inr ⟨pending, begun, (Option.some.inj taken).symm⟩
  · exact .inl (Option.some.inj taken).symm

/-- What a pending call does that goes on: what remains of it goes to the end. -/
theorem callsStep_resume {environment : Environment} {state next : CallsState} {index : Nat}
    (taken : callsStep environment state (.resume index) = some next) :
    ∃ pending, state.pending[index]? = some pending ∧
      next = {
        store := (pending.resume environment state.store).1
        pending := state.pending.eraseIdx index ++
          (pending.resume environment state.store).2.toList } := by
  rw [callsStep] at taken
  split at taken
  · rename_i pending chosen
    exact ⟨pending, chosen, (Option.some.inj taken).symm⟩
  · cases taken

theorem keptApart_step {environment : Environment} {state next : CallsState} {action : CallAction}
    (kept : KeptApart environment.platform state)
    (permitted : StartsApart environment.platform state action)
    (taken : callsStep environment state action = some next) :
    KeptApart environment.platform next := by
  cases action with
  | start call =>
      rcases callsStep_start taken with rfl | ⟨pending, begun, rfl⟩
      · exact kept
      refine ⟨kept.unique, kept.owned, fun other member => ?_, ?_⟩
      · rcases List.mem_append.mp member with old | new
        · exact kept.reserved other old
        · rw [List.mem_singleton.mp new]
          exact begin_reserved kept.owned begun
      · refine List.pairwise_append.mpr ⟨kept.apart, List.pairwise_singleton _ _, ?_⟩
        intro other member started isStarted
        rw [List.mem_singleton.mp isStarted, begin_identities begun]
        exact List.disjoint_symm (permitted other member)
  | resume index =>
      obtain ⟨pending, chosen, rfl⟩ := callsStep_resume taken
      have reserved := kept.reserved pending (List.mem_of_getElem? chosen)
      have given := resume_gives kept.unique kept.owned reserved
      have remains (rest : PendingCall)
          (isRest : rest ∈ (pending.resume environment state.store).2) :=
        resume_rest kept.owned reserved isRest
      obtain ⟨others, apart⟩ := pairwise_eraseIdx_append kept.apart chosen
      refine ⟨given.unique, given.owned, fun other member => ?_,
        apart _ fun rest isRest => (remains rest isRest).2.2⟩
      rcases List.mem_append.mp member with old | new
      · exact given.reserved other (kept.reserved other ((List.eraseIdx_sublist _ _).subset old))
          (others other old)
      · obtain ⟨unchanged, stillReserved, -⟩ := remains other (Option.mem_toList.mp new)
        show other.Reserved environment.platform (pending.resume environment state.store).1
        rw [unchanged]
        exact stillReserved

/-- Identities stay unique in every run in which no call starts while a call that gives one of its
identities is pending. -/
theorem keepsIdentitiesUnique_of_startsApart (environment : Environment) :
    KeepsIdentitiesUnique environment (StartsApart environment.platform) := by
  intro start unique owned state reached
  have kept : KeptApart environment.platform state := by
    refine reached.invariant (KeptApart environment.platform)
      ⟨unique, owned, List.forall_mem_nil _, List.Pairwise.nil⟩ ?_
    exact fun _ _ _ holds permitted taken => keptApart_step holds permitted taken
  exact ⟨kept.unique, kept.unique.lookupsAnswer⟩

/-! ### Two users of one name -/

/-- Two requests for one username, where both are validated before the first user is stored. -/
def overlappingCalls : List CallAction :=
  [.start (.createUser (plainInput "alice") "A" "T" "" 0),
    .start (.createUser (plainInput "alice") "B" "U" "" 0), .resume 0, .resume 0]

def afterOverlappingCalls : CallsState :=
  (run (callsStep (plainEnvironment .entry)) ⟨Store.empty, []⟩ overlappingCalls).getD
    ⟨Store.empty, []⟩

/-- After the two overlapping requests the query for the username throws. -/
theorem not_keepsIdentitiesUnique :
    ¬ KeepsIdentitiesUnique (plainEnvironment .entry) unrestricted := by
  intro always
  have executed : run (callsStep (plainEnvironment .entry)) ⟨Store.empty, []⟩ overlappingCalls =
      some afterOverlappingCalls := by
    rfl
  obtain ⟨-, answers⟩ := always Store.empty
    ⟨List.forall_mem_nil _, List.forall_mem_nil _, List.forall_mem_nil _, List.forall_mem_nil _⟩
    (List.forall_mem_nil _) afterOverlappingCalls
    (reaches_of_run_unrestricted overlappingCalls executed)
  have answered := isOk_iff.mpr (answers.username "alice")
  exact absurd answered (by decide)

end GraffiTab
