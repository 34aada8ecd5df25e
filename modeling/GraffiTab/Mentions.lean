/-
This file asks whether a text mentions the users whom it names.

By the grammar of usernames, a text names a user where an at sign with the username stands, neither
inside of a longer name nor behind one. The pattern knows nothing of dots and hyphens, and takes no
notice of what stands before the at sign; and after a match that consists of other characters than
word characters, it has passed over the at signs among them. So it misses users, and it finds others
who are not named.
-/

import GraffiTab.TextParsing

namespace GraffiTab

open Tables Matches

/-! ### Names in a text -/

/-- The site while a text is parsed; the usernames have passed the validation of their users. -/
structure MentionSite (platform : Platform) where
  store : Store
  valid : ∀ user ∈ store.users.rows, isValidUsername user.username = true
  unique : ∀ first ∈ store.users.rows, ∀ second ∈ store.users.rows,
    platform.collate first.username = platform.collate second.username → first = second

/-- The characters of the text. -/
def ParsedText.letters (parsed : ParsedText) : List Char :=
  parsed.text.elim [] String.toList

section Names

variable {platform : Platform} (site : MentionSite platform) (parsed : ParsedText) (user : User)

/-- The characters are the username of the user, for the database. -/
def IsNameOf (platform : Platform) (user : User) (name : List Char) : Prop :=
  platform.collate user.username = platform.collate (String.ofList name)

/-- An at sign with the username stands in the text, with no character of usernames after it and
none before. -/
def NamedIn (platform : Platform) (user : User) (text : List Char) : Prop :=
  ∃ before name after, text = before ++ '@' :: (name ++ after) ∧ IsNameOf platform user name ∧
    (∀ char ∈ after.head?, isUsernameChar char = false) ∧
    ∀ char ∈ before.getLast?, isUsernameChar char = false

/-- The username stands in the text as the pattern reads: a whole run of word characters, or of
other ones, after an at sign that has a word character between it and each at sign before. -/
def SpelledIn (platform : Platform) (user : User) (text : List Char) : Prop :=
  ∃ before name after, ReadAt isWordChar '@' text before name after ∧ IsNameOf platform user name

/-- The job adds a notification for the user about the mention. -/
def Notified : Prop :=
  ∃ notification ∈ (parseText platform parsed site.store).notifications.rows,
    notification ∉ site.store.notifications.rows ∧ notification.userId = user.id ∧
      notification.content = parsed.mention

/-- Of all users but the author, those get a notification whom the text names. -/
def MentionsRightly : Prop :=
  ∀ user ∈ site.store.users.rows, user.id ≠ parsed.currentUser.id →
    (Notified site parsed user ↔ NamedIn platform user parsed.letters)

end Names

/-! ### The loop -/

section Loop

variable {platform : Platform} {parsed : ParsedText} {store next : Store} {user : User}

/-- The new store has the users and streamables of the old one, and its notifications. -/
structure OnlyNotifies (store next : Store) : Prop where
  users : next.users = store.users
  streamables : next.streamables = store.streamables
  keeps : ∀ notification ∈ store.notifications.rows, notification ∈ next.notifications.rows

theorem OnlyNotifies.refl (store : Store) : OnlyNotifies store store :=
  ⟨rfl, rfl, fun _ member => member⟩

theorem OnlyNotifies.trans {middle : Store} (first : OnlyNotifies store middle)
    (second : OnlyNotifies middle next) : OnlyNotifies store next :=
  ⟨second.users.trans first.users, second.streamables.trans first.streamables,
    fun notification member => second.keeps notification (first.keeps notification member)⟩

/-- The user has a notification about the mention that was not there before. -/
def AddsMention (parsed : ParsedText) (user : User) (store next : Store) : Prop :=
  ∃ notification ∈ next.notifications.rows, notification ∉ store.notifications.rows ∧
    notification.userId = user.id ∧ notification.content = parsed.mention

theorem addsMention_self : ¬ AddsMention parsed user store store := by
  rintro ⟨notification, member, isNew, -⟩
  exact isNew member

theorem addsMention_trans {middle : Store} (first : OnlyNotifies store middle)
    (second : OnlyNotifies middle next) :
    AddsMention parsed user store next ↔
      AddsMention parsed user store middle ∨ AddsMention parsed user middle next := by
  constructor
  · rintro ⟨notification, member, isNew, about⟩
    by_cases already : notification ∈ middle.notifications.rows
    · exact .inl ⟨notification, already, isNew, about⟩
    · exact .inr ⟨notification, member, already, about⟩
  · rintro (⟨notification, member, isNew, about⟩ | ⟨notification, member, isNew, about⟩)
    · exact ⟨notification, second.keeps notification member, isNew, about⟩
    · exact ⟨notification, member, fun old => isNew (first.keeps notification old), about⟩

theorem addNotificationToUser_eq {notification : Notification} (member : user ∈ store.users.rows)
    (isFor : notification.userId = user.id) :
    addNotificationToUser notification store =
      .ok ((), { store with notifications := store.notifications.insert notification }) := by
  have found : store.users.find user.id = some user := Table.find_of_mem member
  unfold addNotificationToUser findUserById
  rw [isFor, found]
  simp only [← isFor]
  rfl

theorem addMention_spec
    (unique : ∀ first ∈ store.users.rows, ∀ second ∈ store.users.rows,
      platform.collate first.username = platform.collate second.username → first = second)
    (group : String) :
    ∃ next, addMention platform parsed group store = .ok ((), next) ∧ OnlyNotifies store next ∧
      ∀ user ∈ store.users.rows, user.id ≠ parsed.currentUser.id →
        (AddsMention parsed user store next ↔
          platform.collate user.username = platform.collate group) := by
  unfold addMention
  rcases findByUsername_answers unique group with ⟨found, unknown⟩ | ⟨named, member, same, found⟩
  · rw [found]
    exact ⟨store, rfl, .refl store, fun user isUser _ =>
      iff_of_false addsMention_self (unknown user isUser)⟩
  · have onlyNamed (user : User) (isUser : user ∈ store.users.rows)
        (isName : platform.collate user.username = platform.collate group) : user = named :=
      unique user isUser named member (isName.trans same.symm)
    rw [found]
    simp only [bind, Except.bind]
    by_cases ownName : named.id = parsed.currentUser.id
    · rw [if_pos ownName]
      refine ⟨store, rfl, .refl store, fun user isUser notAuthor =>
        iff_of_false addsMention_self fun isName => notAuthor ?_⟩
      rw [onlyNamed user isUser isName, ownName]
    · rw [if_neg ownName, addNotificationToUser_eq member rfl]
      refine ⟨_, rfl, ⟨rfl, rfl, fun notification old => ?_⟩, fun user isUser notAuthor =>
        ⟨?_, fun isName => ?_⟩⟩
      · exact List.mem_append_left _ old
      · rintro ⟨notification, isRow, isNew, isFor, -⟩
        rcases List.mem_append.mp isRow with old | new
        · exact absurd old isNew
        · rw [List.mem_singleton.mp new] at isFor
          rw [Table.eq_of_id_eq isUser member isFor.symm, same]
      · obtain rfl := onlyNamed user isUser isName
        refine ⟨_, List.mem_append_right _ List.mem_cons_self, fun old => ?_, rfl, rfl⟩
        exact Table.ne_nextId old rfl

/-- The loop adds the notifications of all matches that are the name of a user. -/
theorem forEachMatch_addMention (parsed : ParsedText) (groups : List String)
    (unique : ∀ first ∈ store.users.rows, ∀ second ∈ store.users.rows,
      platform.collate first.username = platform.collate second.username → first = second) :
    ∃ next, forEachMatch (addMention platform parsed) groups store = (next, .ok ()) ∧
      OnlyNotifies store next ∧
      ∀ user ∈ store.users.rows, user.id ≠ parsed.currentUser.id →
        (AddsMention parsed user store next ↔
          ∃ group ∈ groups, platform.collate user.username = platform.collate group) := by
  induction groups generalizing store with
  | nil =>
      refine ⟨store, rfl, .refl store, fun user _ _ => iff_of_false addsMention_self ?_⟩
      rintro ⟨group, member, -⟩
      cases member
  | cons group rest inductionHypothesis =>
      obtain ⟨middle, returned, first, adds⟩ := addMention_spec unique group
      rw [← first.users] at unique
      obtain ⟨next, ended, others, addsRest⟩ := inductionHypothesis unique
      refine ⟨next, ?_, first.trans others, fun user member notAuthor => ?_⟩
      · rw [forEachMatch, transaction, returned]
        exact ended
      · rw [addsMention_trans first others, adds user member notAuthor,
          addsRest user (first.users ▸ member) notAuthor, List.exists_mem_cons_iff]

/-- The hashtags change no notification. -/
theorem forEachMatch_addHashtag_notifications (groups : List String) :
    (forEachMatch (addHashtag platform parsed) groups store).1.notifications =
      store.notifications := by
  refine forEachMatch_keeps (fun next => next.notifications = store.notifications)
    (fun group before after same returned => ?_) groups rfl
  unfold addHashtag at returned
  split at returned
  · obtain ⟨-, rfl⟩ := Prod.mk.inj (Except.ok.inj returned)
    exact same
  · split at returned
    · exact absurd returned throw_ne_ok
    · obtain ⟨-, rfl⟩ := Prod.mk.inj (Except.ok.inj returned)
      exact same

end Loop

/-! ### Who is notified -/

section Notified

variable {platform : Platform} (site : MentionSite platform) (parsed : ParsedText)

/-- A match is found where the username is spelled. -/
theorem spelledIn_iff (user : User) (text : String) :
    SpelledIn platform user text.toList ↔
      ∃ group ∈ mentionMatches text, platform.collate user.username = platform.collate group := by
  constructor
  · rintro ⟨before, name, after, readAt, isName⟩
    refine ⟨String.ofList name, List.mem_map_of_mem ?_, isName⟩
    rw [readAt.runs_eq (by decide)]
    exact List.mem_append_right _ List.mem_cons_self
  · rintro ⟨group, member, isName⟩
    obtain ⟨name, isRun, rfl⟩ := List.mem_map.mp member
    obtain ⟨first, last, found⟩ := List.append_of_mem isRun
    obtain ⟨before, after, readAt, -, -⟩ := (runs_eq_append_iff (by decide)).mp found
    exact ⟨before, name, after, readAt, isName⟩

/-- A user other than the author is notified exactly if the text spells the username. -/
theorem notified_iff {user : User} (member : user ∈ site.store.users.rows)
    (notAuthor : user.id ≠ parsed.currentUser.id) :
    Notified site parsed user ↔ SpelledIn platform user parsed.letters := by
  unfold Notified parseText ParsedText.letters
  cases parsed.text with
  | none =>
      refine iff_of_false (fun ⟨notification, isRow, isNew, _⟩ => isNew isRow) ?_
      rintro ⟨before, name, after, readAt, -⟩
      exact absurd readAt.split (List.append_ne_nil_of_right_ne_nil _ (List.cons_ne_nil _ _)).symm
  | some text =>
      obtain ⟨next, ended, -, adds⟩ :=
        forEachMatch_addMention parsed (mentionMatches text) site.unique
      simp only [ended]
      rw [forEachMatch_addHashtag_notifications]
      exact (adds user member notAuthor).trans (spelledIn_iff user text).symm

/-- Exactly the named users get a notification if and only if for each user but the author, the text
names the user where it spells the username as the pattern reads. -/
theorem mentionsRightly_iff :
    MentionsRightly site parsed ↔ ∀ user ∈ site.store.users.rows,
      user.id ≠ parsed.currentUser.id →
      (SpelledIn platform user parsed.letters ↔ NamedIn platform user parsed.letters) := by
  refine forall₃_congr fun user member notAuthor => ?_
  rw [notified_iff site parsed member notAuthor]

end Notified

/-! ### A name with a dot -/

/-- The site with alice and the user john.doe. -/
def siteOfJohn : MentionSite (asciiPlatform .entry) where
  store := { Store.empty with
    users := (Table.empty.insert (plainUser 1 "alice")).insert (plainUser 2 "john.doe") }
  valid := by decide
  unique := by decide

/-- The text @john.doe by alice. -/
def textForJohn : ParsedText where
  currentUser := plainUser 1 "alice"
  text := some "@john.doe"
  streamableId := 1
  commentId := none
  now := 0

/-- He is named, and is not notified. -/
theorem not_mentionsRightly : ¬ MentionsRightly siteOfJohn textForJohn := by
  intro rightly
  have member : plainUser 2 "john.doe" ∈ siteOfJohn.store.users.rows := by decide
  have named : NamedIn (asciiPlatform .entry) (plainUser 2 "john.doe") textForJohn.letters :=
    ⟨[], "john.doe".toList, [], by decide, String.ofList_toList.symm, nofun, nofun⟩
  obtain ⟨notification, added, -⟩ := (rightly _ member (by decide)).mpr named
  exact absurd added List.not_mem_nil

end GraffiTab
