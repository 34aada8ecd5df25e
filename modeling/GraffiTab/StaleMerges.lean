/-
This file asks whether the deletion of an avatar or a cover can undo another write.

`deleteAvatar` and `deleteCover` read the current user in one transaction, clear the image on
the object they have read, and merge that object in a later transaction. The merge writes
every column of the object, but not the metadata, a collection that was never initialized;
and the user has no version by which it could notice that the row was written in between. So
what the deletion leaves of the other columns is what it read; this is what it finds exactly
if nothing else was written between its transactions.
-/

import GraffiTab.Accounts
import GraffiTab.AssetEffects

namespace GraffiTab

open Tables Runs

/-! ### Deletions between their two transactions -/

/-- A deletion that has read the current user and not merged it. -/
structure Deletion where
  image : UserImageAsset
  storedUser : User
  deriving DecidableEq

/-- The accounts, and the deletions in the order of their first transactions, where one that has
merged leaves an empty place. -/
structure ProfileState where
  accounts : AccountState
  deletions : List (Option Deletion)
  deriving DecidableEq

inductive ProfileAction where
  | account (action : AccountAction)
  | readUser (currentUserId : Long) (image : UserImageAsset)
  | mergeUser (deletion : Nat) (now : Long)

/-- One transaction. A user that does not exist or has no such image leaves nothing to merge. -/
def profileStep (environment : Environment) (state : ProfileState) :
    ProfileAction → Option ProfileState
  | .account action =>
      (accountStep environment state.accounts action).map fun accounts => { state with accounts }
  | .readUser currentUserId image =>
      match state.accounts.store.users.find currentUserId with
      | none => some state
      | some user =>
          match user.imageAsset image with
          | none => some state
          | some _ => some { state with deletions := state.deletions ++ [some ⟨image, user⟩] }
  | .mergeUser deletion now =>
      match state.deletions[deletion]? with
      | some (some pending) =>
          some {
            accounts :=
              { state.accounts with
                store := (transaction (mergeWithoutImage pending.image pending.storedUser now)
                  state.accounts.store).1 }
            deletions := state.deletions.set deletion none }
      | _ => none

/-! ### What a deletion may change -/

/-- The columns of the user that a deletion of the image has no reason to write; the metadata are
a collection, and no column. -/
def User.otherColumns (user : User) (image : UserImageAsset) : User :=
  { user.withImageAsset image none with updatedOn := none, metadataItems := ∅ }

/-- The store after a deletion is the one before it, but for the image of the user and the date of
its last change. -/
def ChangesOnlyImage (image : UserImageAsset) (user : User) (before after : Store) : Prop :=
  after = before ∨ ∃ updatedOn,
    after = before.saveUser { user.withImageAsset image none with updatedOn }

/-- The row of the other image was written since it was read, so that the merge is a conflict. -/
def ConflictsWith (image : UserImageAsset) (user readUser : User) : Prop :=
  (user.imageAsset image.other).map Asset.id = (readUser.imageAsset image.other).map Asset.id ∧
    user.imageAsset image.other ≠ readUser.imageAsset image.other

/-- Whatever commits between the two transactions of a deletion, its merge changes only what it is
to change. -/
def DeletionsChangeOnlyImages (environment : Environment) : Prop :=
  ∀ userId image now before after, ∀ read merging : ProfileState, ∀ readUser user : User,
    before.accounts.store.users.find userId = some readUser →
    readUser.imageAsset image ≠ none →
    profileStep environment before (.readUser userId image) = some read →
    Reaches (profileStep environment) unrestricted read merging →
    merging.accounts.store.users.find userId = some user →
    profileStep environment merging (.mergeUser before.deletions.length now) = some after →
    ChangesOnlyImage image user merging.accounts.store after.accounts.store

/-! ### What a merge leaves -/

section Merges

variable {image : UserImageAsset} {readUser user : User} {store : Store}

theorem otherColumns_cleared (row : User) (image : UserImageAsset) (updatedOn : Option Long)
    (metadataItems : Metadata) :
    ({ row.withImageAsset image none with updatedOn, metadataItems } : User).otherColumns image =
      row.otherColumns image := by
  cases image <;> rfl

theorem imageAsset_otherColumns (row : User) (image : UserImageAsset) :
    (row.otherColumns image).imageAsset image.other = row.imageAsset image.other := by
  cases image <;> rfl

/-- Two rows that agree in the other columns are the same row once the image is cleared and the
remaining columns are written. -/
theorem cleared_eq_of_otherColumns (same : user.otherColumns image = readUser.otherColumns image)
    (updatedOn : Option Long) (metadataItems : Metadata) :
    ({ user.withImageAsset image none with updatedOn, metadataItems } : User) =
      { readUser.withImageAsset image none with updatedOn, metadataItems } :=
  congrArg (fun row : User => { row with updatedOn, metadataItems }) same

/-- The row that is written back can be read off the store. -/
theorem find_saveUser {row : User} (found : store.users.find row.id = some user) :
    (store.saveUser row).users.find row.id = some row :=
  Table.find_set_self found

/-- The row that the deletion merges: the columns as they were read but for the image, and the
metadata as they are stored. -/
def clearedUser (image : UserImageAsset) (readUser user : User) (now : Long) : User :=
  { readUser.withImageAsset image none with
    updatedOn := some now, metadataItems := user.metadataItems }

/-- A merge that writes the cleared row alone changes only the image exactly if the other columns
are those that were read. -/
theorem changesOnlyImage_saveUser_iff (found : store.users.find readUser.id = some user)
    (now : Long) :
    ChangesOnlyImage image user store (store.saveUser (clearedUser image readUser user now)) ↔
      user.otherColumns image = readUser.otherColumns image := by
  have sameId : user.id = readUser.id := Table.id_of_find found
  have clearedId : (clearedUser image readUser user now).id = readUser.id :=
    id_withImageAsset readUser image none
  have written : (store.saveUser (clearedUser image readUser user now)).users.find readUser.id =
      some (clearedUser image readUser user now) := by
    rw [← clearedId] at found
    exact clearedId ▸ find_saveUser found
  constructor
  · rintro (unchanged | ⟨updatedOn, changed⟩)
    · rw [unchanged, found] at written
      rw [Option.some.inj written]
      exact otherColumns_cleared readUser image (some now) _
    · have otherId : ({ user.withImageAsset image none with updatedOn } : User).id =
          readUser.id := (id_withImageAsset user image none).trans sameId
      have otherWritten := find_saveUser (otherId.symm ▸ found)
      rw [changed, ← otherId, otherWritten] at written
      have rows := congrArg (fun row : User => row.otherColumns image) (Option.some.inj written)
      exact (otherColumns_cleared user image updatedOn _).symm.trans
        (rows.trans (otherColumns_cleared readUser image (some now) _))
  · intro same
    have sameMetadata : (user.withImageAsset image none).metadataItems = user.metadataItems := by
      cases image <;> rfl
    refine .inr ⟨some now, congrArg store.saveUser ?_⟩
    exact (cleared_eq_of_otherColumns same (some now) user.metadataItems).symm.trans
      (congrArg (fun metadataItems : Metadata => ({ user.withImageAsset image none with
        updatedOn := some now, metadataItems } : User)) sameMetadata.symm)

/-- What the second transaction of a deletion leaves, by the other image of the object it merges. -/
theorem transaction_mergeWithoutImage (image : UserImageAsset)
    (found : store.users.find readUser.id = some user)
    (now : Long) :
    (transaction (mergeWithoutImage image readUser now) store).1 =
        store.saveUser (clearedUser image readUser user now) ∧
      (readUser.imageAsset image.other = none ∨
        user.imageAsset image.other = readUser.imageAsset image.other) ∨
    (transaction (mergeWithoutImage image readUser now) store).1 = store ∧
      ConflictsWith image user readUser ∨
    (transaction (mergeWithoutImage image readUser now) store).1.lastAssetId =
        store.lastAssetId + 1 ∧
      (user.imageAsset image.other).map Asset.id ≠
        (readUser.imageAsset image.other).map Asset.id := by
  unfold transaction mergeWithoutImage
  rw [found]
  cases kept : readUser.imageAsset image.other with
  | none => exact .inl ⟨rfl, .inl rfl⟩
  | some asset =>
      simp only
      by_cases same : user.imageAsset image.other = some asset
      · rw [if_pos same]
        exact .inl ⟨rfl, .inr same⟩
      rw [if_neg same]
      by_cases sameId : (user.imageAsset image.other).map Asset.id = some asset.id
      · rw [if_pos sameId]
        exact .inr (.inl ⟨rfl, by rw [kept]; exact sameId, by rw [kept]; exact same⟩)
      · rw [if_neg sameId]
        exact .inr (.inr ⟨rfl, sameId⟩)

/-- The second transaction of a deletion changes only the image exactly if the other columns of the
row are those that were read, or the merge is a conflict and nothing is written. -/
theorem changesOnlyImage_merge_iff (found : store.users.find readUser.id = some user)
    (now : Long) :
    ChangesOnlyImage image user store
        (transaction (mergeWithoutImage image readUser now) store).1 ↔
      user.otherColumns image = readUser.otherColumns image ∨
        ConflictsWith image user readUser := by
  rcases transaction_mergeWithoutImage image found now with
    ⟨saved, kept⟩ | ⟨rolledBack, conflict⟩ | ⟨inserted, replaced⟩
  · rw [saved, changesOnlyImage_saveUser_iff found]
    refine (or_iff_left ?_).symm
    rintro ⟨sameId, different⟩
    rcases kept with absent | same
    · rw [absent] at sameId different
      exact different (Option.map_eq_none_iff.mp sameId)
    · exact different same
  · exact iff_of_true (.inl rolledBack) (.inr conflict)
  · have counted : store.lastAssetId ≠ store.lastAssetId + 1 := (Int.lt_succ _).ne
    refine iff_of_false ?_ ?_
    · rintro (unchanged | ⟨updatedOn, changed⟩)
      · rw [unchanged] at inserted
        exact counted inserted
      · exact counted ((congrArg Store.lastAssetId changed).symm.trans inserted)
    · rintro (same | ⟨sameId, -⟩)
      · have sameImage := congrArg (fun row : User => row.imageAsset image.other) same
        simp only [imageAsset_otherColumns] at sameImage
        exact replaced (congrArg (Option.map Asset.id) sameImage)
      · exact replaced sameId

end Merges

/-! ### Between the two transactions -/

section Runs

variable {environment : Environment} {state next : ProfileState}

/-- A deletion that has read the user keeps what it has read until it merges. -/
def HoldsDeletion (deletion : Nat) (pending : Deletion) (state : ProfileState) : Prop :=
  state.deletions[deletion]? = some (some pending) ∨ state.deletions[deletion]? = some none

theorem holdsDeletion_step {action : ProfileAction} {deletion : Nat} {pending : Deletion}
    (holds : HoldsDeletion deletion pending state)
    (taken : profileStep environment state action = some next) :
    HoldsDeletion deletion pending next := by
  have bound : deletion < state.deletions.length := by
    rcases holds with holds | holds <;> exact (List.getElem?_eq_some_iff.mp holds).1
  cases action with
  | account action =>
      obtain ⟨accounts, -, rfl⟩ := Option.map_eq_some_iff.mp taken
      exact holds
  | readUser currentUserId image =>
      simp only [profileStep] at taken
      split at taken
      · exact Option.some.inj taken ▸ holds
      split at taken
      · exact Option.some.inj taken ▸ holds
      obtain rfl := Option.some.inj taken
      simp only [HoldsDeletion, List.getElem?_append_left bound]
      exact holds
  | mergeUser merged now =>
      simp only [profileStep] at taken
      split at taken
      · obtain rfl := Option.some.inj taken
        by_cases same : merged = deletion
        · exact .inr (by rw [same, List.getElem?_set_self bound])
        · simp only [HoldsDeletion, List.getElem?_set_ne same]
          exact holds
      · exact absurd taken nofun

/-- Reading a user with the image puts the deletion at the end of the list. -/
theorem holdsDeletion_readUser {userId : Long} {image : UserImageAsset} {readUser : User}
    (found : state.accounts.store.users.find userId = some readUser)
    (present : readUser.imageAsset image ≠ none)
    (taken : profileStep environment state (.readUser userId image) = some next) :
    HoldsDeletion state.deletions.length ⟨image, readUser⟩ next := by
  obtain ⟨asset, present⟩ := Option.ne_none_iff_exists'.mp present
  simp only [profileStep, found, present, Option.some.injEq] at taken
  obtain rfl := taken
  exact .inl List.getElem?_concat_length

end Runs

/-! ### The law of the deletions -/

/-- One active account with an avatar. -/
def accountWithAvatar : ProfileState where
  accounts :=
    { store :=
        { Store.empty with
          users := Table.empty.insert
            { plainUser 0 "alice" with
              password := "old"
              avatarAsset := some (.completed 1 "avatar") } }
      issued := [] }
  deletions := []

/-- The state that the actions lead to from the one account. -/
def profileAfter (actions : List ProfileAction) : ProfileState :=
  (run (profileStep (plainEnvironment .entry)) accountWithAvatar actions).getD accountWithAvatar

def readAlice : ProfileAction := .readUser 1 .avatar
def changeAlice : ProfileAction := .account (.changePassword 1 "old" "" "new" (some "session") 1)
def mergeAlice : ProfileAction := .mergeUser 0 2

/-- The row of the one account in a state. -/
def aliceIn (state : ProfileState) : User :=
  (state.accounts.store.users.find 1).getD (plainUser 0 "")

/-- Along every run, the merge of a deletion changes only the image exactly if the other columns of
the user then are those that the deletion has read (or the merge is a conflict). -/
theorem deletion_changesOnlyImage_iff (environment : Environment) (userId : Long)
    (image : UserImageAsset) (now : Long)
    {before read merging after : ProfileState} {readUser user : User}
    (found : before.accounts.store.users.find userId = some readUser)
    (present : readUser.imageAsset image ≠ none)
    (reads : profileStep environment before (.readUser userId image) = some read)
    (between : Reaches (profileStep environment) unrestricted read merging)
    (stored : merging.accounts.store.users.find userId = some user)
    (merges : profileStep environment merging (.mergeUser before.deletions.length now) =
      some after) :
    ChangesOnlyImage image user merging.accounts.store after.accounts.store ↔
      user.otherColumns image = readUser.otherColumns image ∨
        ConflictsWith image user readUser := by
  have holds : HoldsDeletion before.deletions.length ⟨image, readUser⟩ merging :=
    between.invariant _ (holdsDeletion_readUser found present reads)
      fun _ _ _ kept _ taken => holdsDeletion_step kept taken
  have sameId : readUser.id = userId := Table.id_of_find found
  rcases holds with pending | merged
  · simp only [profileStep, pending, Option.some.injEq] at merges
    obtain rfl := merges
    exact changesOnlyImage_merge_iff (sameId.symm ▸ stored) now
  · simp only [profileStep, merged] at merges
    exact absurd merges nofun

/-- With nothing in between, a deletion changes only the image. -/
theorem deletion_changesOnlyImage_iff_accountWithAvatar :
    ChangesOnlyImage .avatar (aliceIn accountWithAvatar) (profileAfter [readAlice]).accounts.store
      (profileAfter [readAlice, mergeAlice]).accounts.store := by
  have found : accountWithAvatar.accounts.store.users.find 1 =
      some (aliceIn accountWithAvatar) := by
    decide
  have stored : (profileAfter [readAlice]).accounts.store.users.find 1 =
      some (aliceIn accountWithAvatar) := by
    decide
  have reads : profileStep (plainEnvironment .entry) accountWithAvatar readAlice =
      some (profileAfter [readAlice]) := by
    decide
  have merges : profileStep (plainEnvironment .entry) (profileAfter [readAlice]) mergeAlice =
      some (profileAfter [readAlice, mergeAlice]) := by
    decide
  exact (deletion_changesOnlyImage_iff (plainEnvironment .entry) 1 .avatar 2 found (by decide) reads
    .refl stored merges).mpr (.inl rfl)

/-- A change of the password that commits between the two transactions is undone. -/
theorem not_deletionsChangeOnlyImages :
    ¬ DeletionsChangeOnlyImages (plainEnvironment .entry) := by
  intro changes
  have between : run (profileStep (plainEnvironment .entry)) (profileAfter [readAlice])
      [changeAlice] = some (profileAfter [readAlice, changeAlice]) := by
    decide
  have changed := changes 1 .avatar 2 accountWithAvatar
    (profileAfter [readAlice, changeAlice, mergeAlice]) (profileAfter [readAlice])
    (profileAfter [readAlice, changeAlice]) (aliceIn accountWithAvatar)
    (aliceIn (profileAfter [readAlice, changeAlice])) (by decide) (by decide) (by decide)
    (reaches_of_run_unrestricted [changeAlice] between) (by decide) (by decide)
  have found : (profileAfter [readAlice, changeAlice]).accounts.store.users.find
      (aliceIn accountWithAvatar).id = some (aliceIn (profileAfter [readAlice, changeAlice])) := by
    decide
  have sameStore : (profileAfter [readAlice, changeAlice, mergeAlice]).accounts.store =
      (transaction (mergeWithoutImage .avatar (aliceIn accountWithAvatar) 2)
        (profileAfter [readAlice, changeAlice]).accounts.store).1 := by
    decide
  rw [sameStore, changesOnlyImage_merge_iff found] at changed
  rcases changed with same | conflict
  · exact absurd (congrArg User.password same) (by decide)
  · exact absurd conflict.2 (by decide)

end GraffiTab
