/-
This file shows that a text which a user logs in with names at most one account.

A text with an at sign is looked up among the emails, in lower case, and any other text
among the usernames. Every stored username and email was validated: no username has an at
sign, and every email has one and is in lower case. So each account is found under its
username and under every spelling of its email, and no text is the username of one account
and the email of another.

The database may take other characters for an at sign, so what is used of its comparison is
that it does not take a text with such a character for one without.
-/

import GraffiTab.ActiveAccounts
import GraffiTab.Identities

namespace GraffiTab

open Tables Runs

/-! ### At signs -/

/-- The at sign, its full-width form and its small form. -/
def isAtSign (char : Char) : Bool := char.toNat ∈ [0x40, 0xFF20, 0xFE6B]

def HasAtSign (text : String) : Prop := ∃ char ∈ text.toList, isAtSign char = true

/-- At signs have no case, and a text with one is not equal to a text without one for the
database. -/
structure KeepsAtSigns (platform : Platform) : Prop where
  toLowerCase : ∀ text char, isAtSign char = true →
    (char ∈ (platform.toLowerCase text).toList ↔ char ∈ text.toList)
  collate : ∀ first second, platform.collate first = platform.collate second →
    (HasAtSign first ↔ HasAtSign second)

/-! ### Runs -/

/-- The accounts of the site, and the calls that read from the database and did not write yet. -/
structure IdentifiersState where
  accounts : AccountState
  pending : List PendingCall

/-- A request that runs alone, or a step of one that runs while others do. -/
inductive IdentifiersAction where
  | site (action : SiteAction)
  | call (action : CallAction)

def identifiersStep (environment : Environment) (state : IdentifiersState) :
    IdentifiersAction → Option IdentifiersState
  | .site action =>
      (siteStep environment state.accounts action).map fun accounts => { state with accounts }
  | .call action =>
      (callsStep environment ⟨state.accounts.store, state.pending⟩ action).map fun calls =>
        ⟨{ state.accounts with store := calls.store }, calls.pending⟩

/-- No two users have the same username or the same email for the database. -/
structure UniqueNames (platform : Platform) (store : Store) : Prop where
  username : ∀ first ∈ store.users.rows, ∀ second ∈ store.users.rows,
    platform.collate first.username = platform.collate second.username → first = second
  email : ∀ first ∈ store.users.rows, ∀ second ∈ store.users.rows,
    platform.collate first.email = platform.collate second.email → first = second

/-- Each account is found under its username and under every spelling of its email, and no text
leads to two accounts. -/
structure IdentifiersUnambiguous (platform : Platform) (store : Store) : Prop where
  username : ∀ user ∈ store.users.rows,
    findByUsernameOrEmail platform user.username store = .ok (some user)
  email : ∀ user ∈ store.users.rows, ∀ text, platform.toLowerCase text = user.email →
    findByUsernameOrEmail platform text store = .ok (some user)
  oneAccount : ∀ text byUsername byEmail,
    findByUsername platform text store = .ok (some byUsername) →
    findByEmail platform (platform.toLowerCase text) store = .ok (some byEmail) →
      byUsername = byEmail

/-! ### Validated names -/

section Names

variable {platform : Platform} {store : Store}

theorem not_isAtSign_of_isUsernameChar {char : Char} (allowed : isUsernameChar char = true) :
    isAtSign char = false := by
  by_contra atSign
  simp only [isAtSign, List.mem_cons, List.not_mem_nil, or_false, decide_eq_false_iff_not,
    not_not] at atSign
  have same : Char.ofNat char.toNat = char := Char.ofNat_toNat char
  rcases atSign with isAt | isAt | isAt <;> rw [isAt] at same <;> subst same <;>
    exact absurd allowed (by decide)

theorem not_hasAtSign_of_isValidUsername {username : String}
    (valid : isValidUsername username = true) : ¬ HasAtSign username := by
  rintro ⟨char, member, atSign⟩
  simp only [isValidUsername, Bool.and_eq_true, List.all_eq_true] at valid
  rw [not_isAtSign_of_isUsernameChar (valid.1.1 char member)] at atSign
  exact Bool.false_ne_true atSign

/-- The two parts of an email are separated by an at sign. -/
theorem at_mem_of_isValidEmail {email : String} (valid : isValidEmail email = true) :
    '@' ∈ email.toList := by
  by_contra absent
  have single : email.toList.splitOn '@' = [email.toList] := List.splitOn_eq_singleton absent
  rw [isValidEmail, single] at valid
  exact Bool.false_ne_true valid

theorem hasAtSign_of_at_mem {text : String} (member : '@' ∈ text.toList) : HasAtSign text :=
  ⟨'@', member, rfl⟩

/-- An account is the only one with its username. -/
theorem UniqueNames.findByUsername (unique : UniqueNames platform store) {user : User}
    (member : user ∈ store.users.rows) :
    findByUsername platform user.username store = .ok (some user) := by
  refine uniqueResult_eq_some.mpr
    ⟨Table.mem_select.mpr ⟨member, decide_eq_true rfl⟩, fun other listed => ?_⟩
  obtain ⟨otherMember, same⟩ := Table.mem_select.mp listed
  exact unique.username other otherMember user member (of_decide_eq_true same)

theorem UniqueNames.findByEmail (unique : UniqueNames platform store) {user : User}
    (member : user ∈ store.users.rows) :
    findByEmail platform user.email store = .ok (some user) := by
  refine uniqueResult_eq_some.mpr
    ⟨Table.mem_select.mpr ⟨member, decide_eq_true rfl⟩, fun other listed => ?_⟩
  obtain ⟨otherMember, same⟩ := Table.mem_select.mp listed
  exact unique.email other otherMember user member (of_decide_eq_true same)

/-- With valid names that are unique, the lookup of the login finds the account that is meant. -/
theorem identifiersUnambiguous_of_namesValid (keepsAtSigns : KeepsAtSigns platform)
    (valid : NamesValid platform store) (unique : UniqueNames platform store) :
    IdentifiersUnambiguous platform store := by
  refine ⟨fun user member => ?_, fun user member text spells => ?_, ?_⟩
  · have noAt : user.username.toList.contains '@' = false := by
      rw [← Bool.not_eq_true, List.contains_iff_mem]
      exact fun isAt =>
        not_hasAtSign_of_isValidUsername (valid user member).1 (hasAtSign_of_at_mem isAt)
    rw [findByUsernameOrEmail, noAt, if_neg Bool.false_ne_true]
    exact unique.findByUsername member
  · have isAt : text.toList.contains '@' = true := by
      rw [List.contains_iff_mem, ← keepsAtSigns.toLowerCase text '@' rfl, spells]
      exact at_mem_of_isValidEmail (valid user member).2.1
    rw [findByUsernameOrEmail, isAt, if_pos rfl, spells]
    exact unique.findByEmail member
  · intro text byUsername byEmail username email
    obtain ⟨usernameMember, sameUsername⟩ := findByUsername_eq_some username
    obtain ⟨emailMember, sameEmail⟩ := findByEmail_eq_some email
    -- the text would have an at sign, as the email has, and none, as the username
    have inEmail : HasAtSign (platform.toLowerCase text) :=
      (keepsAtSigns.collate _ _ sameEmail).mp
        (hasAtSign_of_at_mem (at_mem_of_isValidEmail (valid byEmail emailMember).2.1))
    obtain ⟨char, charMember, atSign⟩ := inEmail
    have inText : HasAtSign text :=
      ⟨char, (keepsAtSigns.toLowerCase text char atSign).mp charMember, atSign⟩
    exact absurd ((keepsAtSigns.collate _ _ sameUsername).mpr inText)
      (not_hasAtSign_of_isValidUsername (valid byUsername usernameMember).1)

end Names

/-! ### Calls that overlap -/

section Steps

variable {environment : Environment}

/-- The names that a pending call is about to write were validated. -/
def PendingCall.NamesValid (platform : Platform) : PendingCall → Prop
  | .insertUser user _ _ _ _ => user.NamesValid platform
  | .lookUpAccount user _ _ _ _ _ => user.NamesValid platform
  | .insertExternalUser user _ _ _ _ _ => user.NamesValid platform
  | .writeUser currentUser toEdit _ =>
      currentUser.NamesValid platform ∧
        isValidEmail (platform.toLowerCase (toEdit.email.getD "")) = true
  | .insertProvider _ _ => True

theorem begin_namesValid {store : Store} (valid : NamesValid environment.platform store)
    {call : Call} {pending : PendingCall}
    (begun : call.begin environment store = .ok pending) :
    pending.NamesValid environment.platform := by
  cases call with
  | createUser user guid userToken salt now =>
      obtain ⟨⟨⟩, checked, rest⟩ := bind_eq_ok.mp begun
      obtain rfl := Except.ok.inj rest
      exact namesValid_of_checkCreateUser checked
  | createExternalUser user account guid salt generated now =>
      obtain ⟨⟨⟩, checked, rest⟩ := bind_eq_ok.mp begun
      obtain rfl := Except.ok.inj rest
      have requestValid := namesValid_of_checkCreateUser checked
      exact requestValid
  | editUser currentUserId toEdit now =>
      obtain ⟨currentUser, checked, rest⟩ := bind_eq_ok.mp begun
      obtain rfl := Except.ok.inj rest
      exact ⟨valid currentUser (checkEditUser_ok environment checked).1,
        isValidEmail_of_checkEditUser checked⟩
  | linkExternalProvider currentUserId account =>
      obtain ⟨currentUser, -, rest⟩ := bind_eq_ok.mp begun
      obtain rfl := Except.ok.inj rest
      trivial

theorem resume_namesValid {store : Store} (valid : NamesValid environment.platform store)
    {pending : PendingCall} (pendingValid : pending.NamesValid environment.platform) :
    NamesValid environment.platform (pending.resume environment store).1 ∧
      ∀ rest ∈ (pending.resume environment store).2, rest.NamesValid environment.platform := by
  cases pending with
  | insertUser user guid userToken salt now =>
      rw [PendingCall.resume]
      refine ⟨?_, fun rest none => absurd none (Option.not_mem_none rest)⟩
      refine executeInTransactionWithResult_keeps (NamesValid environment.platform) valid
        fun created next returned => ?_
      obtain ⟨avatarAsset, coverAsset, lastAssetId, -, rfl⟩ := persistUser_ok returned
      exact valid.insert (namesValid_newUserRow pendingValid _ _ _ _ _ _ _) rfl
  | lookUpAccount user account guid salt generated now =>
      rw [PendingCall.resume]
      split
      · refine ⟨valid, fun rest member => ?_⟩
        obtain rfl := Option.mem_some.mp member
        exact pendingValid
      · exact ⟨valid, fun rest none => absurd none (Option.not_mem_none rest)⟩
  | insertExternalUser user account guid salt generated now =>
      rw [PendingCall.resume]
      refine ⟨?_, fun rest none => absurd none (Option.not_mem_none rest)⟩
      refine executeInTransactionWithResult_keeps (NamesValid environment.platform) valid
        fun created next returned => ?_
      obtain ⟨avatarAsset, coverAsset, lastAssetId, rfl⟩ :=
        insertExternalUser_ok environment returned
      exact valid.insert (namesValid_newUserRow pendingValid _ _ _ _ _ _ _) rfl
  | writeUser currentUser toEdit now =>
      refine ⟨?_, fun rest none => absurd none (Option.not_mem_none rest)⟩
      exact valid.set (namesValid_editedUser pendingValid.1 pendingValid.2 now) rfl
  | insertProvider currentUser account =>
      exact ⟨valid, fun rest none => absurd none (Option.not_mem_none rest)⟩

theorem namesValid_callsStep {state next : CallsState} {action : CallAction}
    (valid : NamesValid environment.platform state.store)
    (pendingValid : ∀ pending ∈ state.pending, pending.NamesValid environment.platform)
    (taken : callsStep environment state action = some next) :
    NamesValid environment.platform next.store ∧
      ∀ pending ∈ next.pending, pending.NamesValid environment.platform := by
  cases action with
  | start call =>
      rcases callsStep_start taken with rfl | ⟨pending, begun, rfl⟩
      · exact ⟨valid, pendingValid⟩
      refine ⟨valid, fun other member => ?_⟩
      rcases List.mem_append.mp member with old | new
      · exact pendingValid other old
      · rw [List.mem_singleton.mp new]
        exact begin_namesValid valid begun
  | resume index =>
      obtain ⟨pending, chosen, rfl⟩ := callsStep_resume taken
      obtain ⟨nextValid, restValid⟩ :=
        resume_namesValid valid (pendingValid pending (List.mem_of_getElem? chosen))
      refine ⟨nextValid, fun other member => ?_⟩
      rcases List.mem_append.mp member with remains | rest
      · exact pendingValid other ((List.eraseIdx_sublist _ _).subset remains)
      · exact restValid other (Option.mem_toList.mp rest)

/-- In every reachable state in which no two accounts share a username or an email, the texts with
which users log in are unambiguous. -/
theorem identifiersUnambiguous (environment : Environment)
    (keepsAtSigns : KeepsAtSigns environment.platform) (state : IdentifiersState)
    (reached : Reaches (identifiersStep environment) unrestricted ⟨newInstallation, []⟩ state)
    (unique : UniqueNames environment.platform state.accounts.store) :
    IdentifiersUnambiguous environment.platform state.accounts.store := by
  have validated : NamesValid environment.platform state.accounts.store ∧
      ∀ pending ∈ state.pending, pending.NamesValid environment.platform := by
    refine reached.invariant (fun state => NamesValid environment.platform state.accounts.store ∧
      ∀ pending ∈ state.pending, pending.NamesValid environment.platform) ?_ ?_
    · exact ⟨fun _ member => absurd member List.not_mem_nil,
        fun _ member => absurd member List.not_mem_nil⟩
    · intro state action next ⟨valid, pendingValid⟩ _ taken
      cases action with
      | site action =>
          obtain ⟨accounts, accountsTaken, rfl⟩ := Option.map_eq_some_iff.mp taken
          exact ⟨namesValid_siteStep valid accountsTaken, pendingValid⟩
      | call action =>
          obtain ⟨calls, callsTaken, rfl⟩ := Option.map_eq_some_iff.mp taken
          exact namesValid_callsStep valid pendingValid callsTaken
  exact identifiersUnambiguous_of_namesValid keepsAtSigns validated.1 unique

end Steps

/-! ### Two accounts -/

theorem toLower_eq_atSign {char atSign : Char} (isSign : isAtSign atSign = true) :
    char.toLower = atSign ↔ char = atSign := by
  simp only [isAtSign, List.mem_cons, List.not_mem_nil, or_false, decide_eq_true_eq] at isSign
  unfold Char.toLower
  split
  · rename_i upper
    have bounds : 65 ≤ char.val ∧ char.val ≤ 90 := upper
    have shift : ('a'.val - 'A'.val).toNat = 32 := rfl
    rw [Char.ext_iff, Char.ext_iff, ← UInt32.toNat_inj, ← UInt32.toNat_inj]
    change _ ↔ char.toNat = atSign.toNat
    simp only [UInt32.le_iff_toNat_le, UInt32.toNat_add, UInt32.reduceToNat, shift] at bounds ⊢
    have inRange : char.toNat = char.val.toNat := rfl
    have isSignValue : atSign.val.toNat = atSign.toNat := rfl
    omega
  · exact Iff.rfl

theorem keepsAtSigns_asciiPlatform (elementsScope : ElementsScope) :
    KeepsAtSigns (asciiPlatform elementsScope) := by
  refine ⟨fun text char isSign => ?_, fun first second same => ?_⟩
  · simp only [asciiPlatform, String.toList_ofList, List.mem_map]
    simp only [toLower_eq_atSign isSign, exists_eq_right]
  · have same : first = second := same
    rw [same]

/-- Alice has an account, and bob's is made by a call that other calls can overlap. -/
def aliceAndBob : IdentifiersState :=
  (run (identifiersStep (plainEnvironment .entry)) ⟨newInstallation, []⟩
    [.site (.account (.createUser (plainInput "alice") "guid" "token" "" 0)),
      .call (.start (.createUser (plainInput "bob") "other guid" "other token" "" 0)),
      .call (.resume 0)]).getD ⟨newInstallation, []⟩

theorem identifiersUnambiguous_aliceAndBob :
    IdentifiersUnambiguous (asciiPlatform .entry) aliceAndBob.accounts.store := by
  have reached : Reaches (identifiersStep (plainEnvironment .entry)) unrestricted
      ⟨newInstallation, []⟩ aliceAndBob := by
    refine reaches_of_run_unrestricted
      [.site (.account (.createUser (plainInput "alice") "guid" "token" "" 0)),
        .call (.start (.createUser (plainInput "bob") "other guid" "other token" "" 0)),
        .call (.resume 0)] ?_
    rfl
  have unique : UniqueNames (asciiPlatform .entry) aliceAndBob.accounts.store :=
    ⟨by decide, by decide⟩
  exact identifiersUnambiguous (plainEnvironment .entry) (keepsAtSigns_asciiPlatform .entry)
    aliceAndBob reached unique

end GraffiTab
