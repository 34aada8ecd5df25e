/-
This file models how texts are searched for mentions and hashtags.

A job looks for all matches of two patterns, an at sign or a hash sign with the longest run of word
characters, or else of other characters, that follows. Each mention is looked up as a username, and
adds a notification for the user, if there is one and it is not the author. Each hashtag is added
to the streamable, unless the database finds one that is equal to it. Every match has a transaction
of its own, and the first exception ends the job.
-/

import GraffiTab.Library.Matches
import GraffiTab.UserFeed

namespace GraffiTab

open Tables Matches

/-! ### The patterns -/

/-- The characters of `\w`. -/
def isWordChar (char : Char) : Bool := char.isAlphanum || char = '_'

/-- The groups that the matches of `MENTION_PATTERN` capture. -/
def mentionMatches (text : String) : List String :=
  (runs isWordChar '@' text.toList).map String.ofList

/-- The groups that the matches of `HASH_PATTERN` capture. -/
def hashtagMatches (text : String) : List String :=
  (runs isWordChar '#' text.toList).map String.ofList

/-! ### The job -/

/-- Executes a transaction for every match; an exception ends the loop. -/
def forEachMatch (body : String → Transaction Unit) :
    List String → Store → Store × Except Throwable Unit
  | [], store => (store, .ok ())
  | group :: rest, store =>
      match transaction (body group) store with
      | (next, .ok ()) => forEachMatch body rest next
      | (next, .error thrown) => (next, .error thrown)

section Job

variable (platform : Platform)

/-- A text by an author: of a streamable, or of a comment on it. -/
structure ParsedText where
  currentUser : User
  text : Option String
  streamableId : Long
  commentId : Option Long
  now : Long

variable (parsed : ParsedText)

/-- The notification of `addMentionNotification`. -/
def ParsedText.mention : NotificationContent :=
  .mention parsed.currentUser.id parsed.streamableId parsed.commentId

/-- The transaction for a mention. -/
def addMention (group : String) : Transaction Unit := fun store => do
  match ← findByUsername platform group store with
  | none => return ((), store)
  | some foundUser =>
      if foundUser.id = parsed.currentUser.id then return ((), store)
      else
        addNotificationToUser
          { id := 0
            userId := foundUser.id
            isRead := false
            createdOn := parsed.now
            content := parsed.mention } store

/-- `StreamableService.hashtagExistsForStreamable`. -/
def hashtagExistsForStreamable (hashtag : String) (streamableId : Long) (store : Store) : Bool :=
  (store.streamables.find streamableId).any fun streamable =>
    streamable.hashtags.any fun tag => platform.collate tag = platform.collate hashtag

/-- The transaction for a hashtag. -/
def addHashtag (group : String) : Transaction Unit := fun store =>
  if hashtagExistsForStreamable platform group parsed.streamableId store then return ((), store)
  else
    match store.streamables.find parsed.streamableId with
    | none => throw .nullPointerException
    | some inner =>
        return ((), store.saveStreamable { inner with hashtags := inner.hashtags ++ [group] })

/-- `TextUtilsService.parseText`: what it leaves in the database. Every exception is caught, also
the one for a text that is null. -/
def parseText (store : Store) : Store :=
  match parsed.text with
  | none => store
  | some text =>
      match forEachMatch (addMention platform parsed) (mentionMatches text) store with
      | (next, .ok ()) => (forEachMatch (addHashtag platform parsed) (hashtagMatches text) next).1
      | (next, .error _) => next

end Job

/-! ### The loops -/

section Loops

variable {platform : Platform} {parsed : ParsedText} {store next : Store}

/-- A relation between stores that every match keeps is kept by the loop, whether it ends or not. -/
theorem forEachMatch_keeps {body : String → Transaction Unit} (Kept : Store → Prop)
    (keeps : ∀ group store next, Kept store → body group store = .ok ((), next) → Kept next)
    (groups : List String) (holds : Kept store) :
    Kept (forEachMatch body groups store).1 := by
  induction groups generalizing store with
  | nil => exact holds
  | cons group rest inductionHypothesis =>
      rw [forEachMatch]
      rcases transaction_cases (body group) store with
        ⟨value, middle, returned, same⟩ | ⟨thrown, -, same⟩
      · rw [same]
        exact inductionHypothesis (keeps group store middle holds returned)
      · rw [same]
        exact holds

/-- The lookup of a mention answers, when the usernames are unique. -/
theorem findByUsername_answers
    (unique : ∀ first ∈ store.users.rows, ∀ second ∈ store.users.rows,
      platform.collate first.username = platform.collate second.username → first = second)
    (group : String) :
    (findByUsername platform group store = .ok none ∧ ∀ user ∈ store.users.rows,
      platform.collate user.username ≠ platform.collate group) ∨
    ∃ user ∈ store.users.rows, platform.collate user.username = platform.collate group ∧
      findByUsername platform group store = .ok (some user) := by
  by_cases known : ∃ user ∈ store.users.rows,
      platform.collate user.username = platform.collate group
  · obtain ⟨user, member, same⟩ := known
    refine .inr ⟨user, member, same, uniqueResult_eq_some.mpr
      ⟨Table.mem_select.mpr ⟨member, decide_eq_true same⟩, fun other listed => ?_⟩⟩
    obtain ⟨otherMember, otherSame⟩ := Table.mem_select.mp listed
    exact unique other otherMember user member ((of_decide_eq_true otherSame).trans same.symm)
  · have unknown : ∀ user ∈ store.users.rows,
        platform.collate user.username ≠ platform.collate group :=
      fun user member same => known ⟨user, member, same⟩
    refine .inl ⟨uniqueResult_eq_none.mpr (List.eq_nil_iff_forall_not_mem.mpr
      fun user listed => ?_), unknown⟩
    obtain ⟨member, same⟩ := Table.mem_select.mp listed
    exact unknown user member (of_decide_eq_true same)

end Loops

end GraffiTab
