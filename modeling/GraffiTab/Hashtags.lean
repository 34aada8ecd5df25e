/-
This file asks whether a text gives its streamable the hashtags that stand in it.

A hashtag is a run of word characters after a hash sign. The pattern takes other characters in their
place when they follow the hash sign, up to the next word character, whatever they are: blanks and
at signs become part of a hashtag, and so do further hash signs, so that the word after the last of
them is no hashtag. That no hashtag comes twice, and that those from before are kept, always holds.
-/

import GraffiTab.Library.KeyedLists
import GraffiTab.LocaleResolver
import GraffiTab.Mentions

namespace GraffiTab

open Tables Matches KeyedLists

/-! ### Hashtags in a text -/

/-- A text that is parsed for a streamable; none of the hashtags of the streamable comes twice. -/
structure TaggedText (platform : Platform) where
  site : MentionSite platform
  parsed : ParsedText
  streamable : Streamable
  found : site.store.streamables.find parsed.streamableId = some streamable
  distinct : streamable.hashtags.Nodup

/-- The characters are a longest run of word characters right after a hash sign. -/
def FollowsHash (text run : List Char) : Prop :=
  ∃ before after, text = before ++ '#' :: (run ++ after) ∧ IsRun isWordChar run after ∧
    ∀ char ∈ run, isWordChar char = true

/-- The hashtag has no blank, no hash sign and no at sign. -/
def IsPlainTag (tag : String) : Prop :=
  ∀ char ∈ tag.toList, Character.isWhitespace char = false ∧ char ≠ '#' ∧ char ≠ '@'

namespace TaggedText

variable {platform : Platform} (tagged : TaggedText platform)

/-- The hashtags of the streamable after the job. -/
def hashtags : List String :=
  ((parseText platform tagged.parsed tagged.site.store).streamables.find
    tagged.parsed.streamableId).elim [] Streamable.hashtags

/-- Each word after a hash sign is a hashtag, those that are added have no blanks and signs, none
comes twice, and those from before stay in front. -/
structure TagsRightly : Prop where
  finds : ∀ run, FollowsHash tagged.parsed.letters run → String.ofList run ∈ tagged.hashtags
  clean : ∀ tag ∈ tagged.hashtags, tag ∉ tagged.streamable.hashtags → IsPlainTag tag
  distinct : tagged.hashtags.Nodup
  keeps : tagged.streamable.hashtags <+: tagged.hashtags

/-- The run stands in the text as the pattern reads, after a hash sign that has a word character
between it and each hash sign before; and neither an old hashtag nor one that is read before is
equal to it for the database. -/
def Reads (run : List Char) : Prop :=
  (∀ tag ∈ tagged.streamable.hashtags,
    platform.collate tag ≠ platform.collate (String.ofList run)) ∧
  ∃ before after, ReadAt isWordChar '#' tagged.parsed.letters before run after ∧
    ∀ earlier ∈ runs isWordChar '#' before,
      platform.collate (String.ofList earlier) ≠ platform.collate (String.ofList run)

/-- Each word after a hash sign is an old hashtag or is read, and what else is read has no blanks
and signs. -/
structure ReadsRightly : Prop where
  finds : ∀ run, FollowsHash tagged.parsed.letters run →
    String.ofList run ∈ tagged.streamable.hashtags ∨ tagged.Reads run
  clean : ∀ run, tagged.Reads run → (∃ char ∈ run, isWordChar char = false) →
    IsPlainTag (String.ofList run)

end TaggedText

/-! ### The loop -/

section Loop

variable {platform : Platform} {parsed : ParsedText} {store : Store} {streamable : Streamable}

theorem addHashtag_spec (found : store.streamables.find parsed.streamableId = some streamable)
    (group : String) :
    ∃ next, addHashtag platform parsed group store = .ok ((), next) ∧
      next.streamables.find parsed.streamableId =
        some { streamable with hashtags := add platform.collate streamable.hashtags group } := by
  have sameId := Table.id_of_find found
  unfold addHashtag hashtagExistsForStreamable
  rw [found, Option.any_some]
  split
  · rename_i known
    refine ⟨store, rfl, ?_⟩
    rw [found, add, if_pos known]
  · rename_i unknown
    refine ⟨_, rfl, ?_⟩
    rw [add, if_neg unknown, ← sameId]
    rw [← sameId] at found
    exact Table.find_set_self found

/-- The loop adds the groups one after the other. -/
theorem forEachMatch_addHashtag (groups : List String)
    (found : store.streamables.find parsed.streamableId = some streamable) :
    (forEachMatch (addHashtag platform parsed) groups store).1.streamables.find
        parsed.streamableId =
      some { streamable with
        hashtags := addAll platform.collate streamable.hashtags groups } := by
  induction groups generalizing store streamable with
  | nil => exact found
  | cons group rest inductionHypothesis =>
      obtain ⟨next, returned, added⟩ := addHashtag_spec found group
      rw [forEachMatch, transaction, returned]
      exact inductionHypothesis added

end Loop

/-! ### What the job adds -/

section Added

variable {platform : Platform} (tagged : TaggedText platform)

/-- The hashtags after the job: those from before, and the groups with new keys. -/
theorem hashtags_eq :
    tagged.hashtags = addAll platform.collate tagged.streamable.hashtags
      ((runs isWordChar '#' tagged.parsed.letters).map String.ofList) := by
  unfold TaggedText.hashtags parseText ParsedText.letters
  cases tagged.parsed.text with
  | none => exact congrArg (Option.elim · [] Streamable.hashtags) tagged.found
  | some text =>
      obtain ⟨next, ended, only, -⟩ :=
        forEachMatch_addMention tagged.parsed (mentionMatches text) tagged.site.unique
      have found : next.streamables.find tagged.parsed.streamableId = some tagged.streamable := by
        rw [only.streamables]
        exact tagged.found
      simp only [ended]
      rw [forEachMatch_addHashtag (hashtagMatches text) found]
      rfl

/-- The groups with new keys are the runs that are read. -/
theorem firstOfKey_iff_reads (run : List Char) :
    FirstOfKey platform.collate tagged.streamable.hashtags
      ((runs isWordChar '#' tagged.parsed.letters).map String.ofList) (String.ofList run) ↔
      tagged.Reads run := by
  refine and_congr Iff.rfl ⟨?_, ?_⟩
  · rintro ⟨first, last, split, earlier⟩
    obtain ⟨firstRuns, others, found, rfl, isRest⟩ := List.map_eq_append_iff.mp split
    obtain ⟨same, lastRuns, rfl, isRun, rfl⟩ := List.map_eq_cons_iff.mp isRest
    obtain rfl := String.ofList_injective isRun
    obtain ⟨before, after, readAt, rfl, -⟩ := (runs_eq_append_iff (by decide)).mp found
    exact ⟨before, after, readAt, fun other member =>
      earlier _ (List.mem_map_of_mem member)⟩
  · rintro ⟨before, after, readAt, earlier⟩
    refine ⟨(runs isWordChar '#' before).map String.ofList,
      (runs isWordChar '#' after).map String.ofList, ?_, ?_⟩
    · rw [readAt.runs_eq (by decide), List.map_append, List.map_cons]
    · intro other member
      obtain ⟨letters, isRun, rfl⟩ := List.mem_map.mp member
      exact earlier letters isRun

theorem mem_hashtags_iff {run : List Char} :
    String.ofList run ∈ tagged.hashtags ↔
      String.ofList run ∈ tagged.streamable.hashtags ∨ tagged.Reads run := by
  rw [hashtags_eq, mem_addAll, firstOfKey_iff_reads]

theorem not_isWhitespace_of_isWordChar {char : Char} (isWord : isWordChar char = true) :
    Character.isWhitespace char = false := by
  rw [isWordChar, Bool.or_eq_true, decide_eq_true_eq] at isWord
  rcases isWord with isAlphanum | rfl
  · exact not_isWhitespace_of_isAlphanum isAlphanum
  · decide

/-- Word characters are no blanks and no signs. -/
theorem isPlainTag_of_word {run : List Char} (word : ∀ char ∈ run, isWordChar char = true) :
    IsPlainTag (String.ofList run) := by
  intro char member
  rw [String.toList_ofList] at member
  have isWord := word char member
  refine ⟨?_, ?_, ?_⟩
  · exact not_isWhitespace_of_isWordChar isWord
  · rintro rfl
    exact absurd isWord (by decide)
  · rintro rfl
    exact absurd isWord (by decide)

/-- The hashtags are right if and only if each word after a hash sign is an old hashtag or is read,
and the other runs that are read have no blanks and signs. -/
theorem tagsRightly_iff : tagged.TagsRightly ↔ tagged.ReadsRightly := by
  constructor
  · intro rightly
    refine ⟨fun run follows => (mem_hashtags_iff tagged).mp (rightly.finds run follows),
      fun run reads _ => ?_⟩
    refine rightly.clean _ ((mem_hashtags_iff tagged).mpr (.inr reads)) fun old => ?_
    exact reads.1 _ old rfl
  · intro rightly
    refine ⟨fun run follows => (mem_hashtags_iff tagged).mpr (rightly.finds run follows),
      fun tag member isNew => ?_, ?_, ?_⟩
    · obtain ⟨run, rfl⟩ : ∃ run, tag = String.ofList run :=
        ⟨tag.toList, String.ofList_toList.symm⟩
      have reads := ((mem_hashtags_iff tagged).mp member).resolve_left isNew
      by_cases other : ∃ char ∈ run, isWordChar char = false
      · exact rightly.clean _ reads other
      · refine isPlainTag_of_word fun char isChar => ?_
        exact eq_true_of_ne_false fun isOther => other ⟨char, isChar, isOther⟩
    · rw [hashtags_eq]
      exact nodup_addAll tagged.distinct
    · rw [hashtags_eq]
      exact prefix_addAll _ _

end Added

/-! ### Two hash signs -/

/-- A graffiti by alice. -/
def taggedGraffiti : Streamable where
  id := 1
  userId := 1
  createdOn := 0
  updatedOn := none
  isPrivate := false
  isFlagged := false
  isDeleted := false
  text := some "##tag"
  asset := none
  hashtags := []
  latitude := none
  longitude := none
  roll := none
  yaw := none
  pitch := none

/-- Its text ##tag. -/
def twoHashSigns : TaggedText (asciiPlatform .entry) where
  site :=
    { store :=
        { Store.empty with
          users := Table.empty.insert (plainUser 1 "alice")
          streamables := Table.empty.insert taggedGraffiti }
      valid := by decide
      unique := by decide }
  parsed :=
    { currentUser := plainUser 1 "alice"
      text := taggedGraffiti.text
      streamableId := 1
      commentId := none
      now := 0 }
  streamable := taggedGraffiti
  found := by decide
  distinct := List.nodup_nil

/-- The second sign is the hashtag, and the word is none. -/
theorem not_tagsRightly : ¬ twoHashSigns.TagsRightly := by
  intro rightly
  have isWord : ∀ char ∈ ['t', 'a', 'g'], isWordChar char = true :=
    List.all_eq_true.mp (by decide)
  have isTag : FollowsHash twoHashSigns.parsed.letters ['t', 'a', 'g'] :=
    ⟨['#'], [], by decide, ⟨by decide, true, isWord, nofun⟩, isWord⟩
  exact absurd (rightly.finds _ isTag) (by decide)

end GraffiTab
