/-
This file asks whether the searches take a query literally.

A query is put between percent signs, or in front of one, and then it is a pattern for `like`. The
comments speak of special characters to escape, or even to filter out, but nothing is done with
them: percent signs and underscores of the query are wildcards, and a backslash takes the meaning
from the character after it, which can be the percent sign that the code has added. A query without
the three characters is searched literally.
-/

import GraffiTab.Library.LikePatterns
import GraffiTab.PendingUsers

namespace GraffiTab

open Tables LikePatterns

/-! ### The database -/

/-- The special characters of `like`. -/
def likeMarks : Marks Char where
  anyText := '%'
  anyLetter := '_'
  escape := '\\'

/-- The case mapping of Java, and the case folding by which `like` compares characters: the special
characters have no case. -/
structure LikeDatabase where
  toLowerCase : String → String
  fold : Char → Char
  offsetCoordinates : Rat → Rat → Int → Rat × Rat
  distinguished : Distinguished likeMarks fold
  plain_toLowerCase : ∀ text : String, Plain likeMarks text.toList →
    Plain likeMarks (toLowerCase text).toList

namespace LikeDatabase

variable (database : LikeDatabase)

def search : SearchPlatform where
  toLowerCase := database.toLowerCase
  like pattern text := accepts database.fold (parse likeMarks pattern.toList) text.toList
  offsetCoordinates := database.offsetCoordinates

/-- The text contains the query, case aside. -/
def contains (query text : String) : Bool :=
  query.toList.map database.fold <:+: text.toList.map database.fold

/-- The text starts with the query, case aside. -/
def startsWith (query text : String) : Bool :=
  query.toList.map database.fold <+: text.toList.map database.fold

/-- In every database and for every window, the three searches give pages of what contains the
query, or starts with it. -/
structure SearchesLiterally (query : String) : Prop where
  users : ∀ store currentUserId offset limit,
    (UserListing.searchUsersResult query).answer database.search currentUserId store offset limit =
      .ok (usersPage currentUserId store (User.searchUser store (database.contains query)) offset
        limit)
  streamables : ∀ store currentUserId offset limit,
    (ReadOperation.searchStreamablesForHashtag query).perform database.search currentUserId store
        offset limit =
      .ok (.streamables (streamablesPage currentUserId store
        (streamablesForHashtag currentUserId store (database.contains query)) offset limit))
  hashtags : ∀ store currentUserId offset limit,
    (ReadOperation.searchHashtags query).perform database.search currentUserId store offset limit =
      .ok (.hashtags (getItems (hashtagsLike store (database.startsWith query)) offset limit))

/-- The query has no special characters, and its lower case differs from it by the case only. -/
structure TakesLiterally (query : String) : Prop where
  plain : Plain likeMarks query.toList
  lowerCase : (database.toLowerCase query).toList.map database.fold =
    query.toList.map database.fold

end LikeDatabase

/-! ### The patterns of the searches -/

section Patterns

variable {database : LikeDatabase} {query : String}

theorem toList_between (query : String) :
    ("%" ++ query ++ "%").toList =
      likeMarks.anyText :: query.toList ++ [likeMarks.anyText] := by
  rw [String.toList_append, String.toList_append]
  rfl

theorem toList_inFront (query : String) :
    (query ++ "%").toList = query.toList ++ [likeMarks.anyText] := by
  rw [String.toList_append]
  rfl

theorem like_between (plain : Plain likeMarks query.toList) :
    database.search.like ("%" ++ query ++ "%") = database.contains query := by
  funext text
  show accepts database.fold (parse likeMarks ("%" ++ query ++ "%").toList) text.toList = _
  rw [toList_between, Bool.eq_iff_iff, LikeDatabase.contains, decide_eq_true_eq]
  exact accepts_contains database.distinguished plain

theorem like_inFront (plain : Plain likeMarks query.toList) :
    database.search.like (query ++ "%") = database.startsWith query := by
  funext text
  show accepts database.fold (parse likeMarks (query ++ "%").toList) text.toList = _
  rw [toList_inFront, Bool.eq_iff_iff, LikeDatabase.startsWith, decide_eq_true_eq]
  exact accepts_startsWith plain

/-- Queries with the same folding search for the same texts. -/
theorem contains_congr {other : String}
    (same : query.toList.map database.fold = other.toList.map database.fold) :
    database.contains query = database.contains other := by
  funext text
  rw [LikeDatabase.contains, LikeDatabase.contains, same]

theorem startsWith_congr {other : String}
    (same : query.toList.map database.fold = other.toList.map database.fold) :
    database.startsWith query = database.startsWith other := by
  funext text
  rw [LikeDatabase.startsWith, LikeDatabase.startsWith, same]

end Patterns

/-! ### Databases with one text -/

section OneText

variable {database : LikeDatabase} {query : String}

/-- A store with one user, whose names are the text. -/
def storeOfUser (text : String) : Store :=
  { Store.empty with users := Table.empty.insert (plainUser 1 text) }

theorem searchUser_storeOfUser (like : String → Bool) (text : String) :
    User.searchUser (storeOfUser text) like = [plainUser 1 text].filter fun _ => like text := by
  have rows : (storeOfUser text).users.rows = [plainUser 1 text] := rfl
  unfold User.searchUser Table.select
  rw [rows]
  refine List.filter_congr fun user member => ?_
  rw [List.mem_singleton.mp member]
  show ((like text || like text || like text) && true) = like text
  rw [Bool.or_self, Bool.or_self, Bool.and_true]

/-- A store with one streamable, whose hashtag is the text. -/
def storeOfHashtag (text : String) : Store :=
  { Store.empty with
    streamables := Table.empty.insert { deletedStreamable 1 1 with hashtags := [text] } }

theorem mem_hashtagsLike_storeOfHashtag {like : String → Bool} {text : String} :
    text ∈ hashtagsLike (storeOfHashtag text) like ↔ like text = true := by
  rw [hashtagsLike, Finset.mem_sort, List.mem_toFinset, List.mem_filter]
  exact and_iff_right List.mem_cons_self

namespace LikeDatabase.SearchesLiterally

variable (literally : database.SearchesLiterally query)

include literally

theorem like_user (text : String) :
    database.search.like ("%" ++ query ++ "%") text = database.contains query text := by
  have pages := Except.ok.inj (literally.users (storeOfUser text) 1 none (some (-2147483648)))
  have lengths := congrArg (fun page : PagedList UserDto => page.items.length) pages
  simp only [usersPage, PagedList.map, getItems_leastLimit, List.length_map,
    searchUser_storeOfUser] at lengths
  revert lengths
  cases database.search.like ("%" ++ query ++ "%") text <;>
    cases database.contains query text <;> intro lengths <;> first | rfl | cases lengths

theorem plain : Plain likeMarks query.toList := by
  by_contra notPlain
  obtain ⟨stored, accepted, missing⟩ := exists_accepted database.distinguished notPlain
  have found : database.search.like ("%" ++ query ++ "%") (String.ofList stored) = true := by
    show accepts database.fold (parse likeMarks ("%" ++ query ++ "%").toList) _ = true
    rw [toList_between, String.toList_ofList]
    exact accepted
  rw [literally.like_user, LikeDatabase.contains, decide_eq_true_eq, String.toList_ofList] at found
  exact missing found

theorem like_hashtag (text : String) :
    database.search.like (database.toLowerCase query ++ "%") text =
      database.startsWith query text := by
  have pages := ReadAnswer.hashtags.inj (Except.ok.inj
    (literally.hashtags (storeOfHashtag text) 1 none (some (-2147483648))))
  have items := congrArg PagedList.items pages
  rw [getItems_leastLimit, getItems_leastLimit] at items
  rw [Bool.eq_iff_iff, ← mem_hashtagsLike_storeOfHashtag, ← mem_hashtagsLike_storeOfHashtag]
  exact Iff.of_eq (congrArg (text ∈ ·) items)

theorem takesLiterally : database.TakesLiterally query := by
  have begins (text : String) : database.startsWith (database.toLowerCase query) text =
      database.startsWith query text := by
    rw [← literally.like_hashtag text,
      like_inFront (database.plain_toLowerCase query literally.plain)]
  have forward : database.startsWith query (database.toLowerCase query) = true := by
    rw [← begins]
    exact decide_eq_true List.prefix_rfl
  have backward : database.startsWith (database.toLowerCase query) query = true := by
    rw [begins]
    exact decide_eq_true List.prefix_rfl
  have short := (of_decide_eq_true forward).length_le
  exact ⟨literally.plain, (of_decide_eq_true backward).eq_of_length_le short⟩

end LikeDatabase.SearchesLiterally

end OneText

/-! ### The queries that are searched literally -/

/-- A query is searched literally exactly if it has no special characters, and is its lower case,
case aside. -/
theorem searchesLiterally_iff (database : LikeDatabase) (query : String) :
    database.SearchesLiterally query ↔ database.TakesLiterally query := by
  refine ⟨fun literally => literally.takesLiterally, fun takes => ?_⟩
  have plain := database.plain_toLowerCase query takes.plain
  constructor
  · intro store currentUserId offset limit
    rw [UserListing.answer, like_between takes.plain]
  · intro store currentUserId offset limit
    show Except.ok (ReadAnswer.streamables (streamablesPage currentUserId store
      (streamablesForHashtag currentUserId store
        (database.search.like ("%" ++ database.toLowerCase query ++ "%"))) offset limit)) = _
    rw [like_between plain, contains_congr takes.lowerCase]
  · intro store currentUserId offset limit
    show Except.ok (ReadAnswer.hashtags (getItems
      (hashtagsLike store (database.search.like (database.toLowerCase query ++ "%"))) offset
        limit)) = _
    rw [like_inFront plain, startsWith_congr takes.lowerCase]

theorem eq_of_toLower {char mark : Char} (small : mark.toNat < 97) (same : char.toLower = mark) :
    char = mark := by
  subst same
  unfold Char.toLower at small ⊢
  split at small
  · rename_i upper
    have bounds : 65 ≤ char.val ∧ char.val ≤ 90 := upper
    have shift : ('a'.val - 'A'.val).toNat = 32 := rfl
    simp only [Char.toNat, UInt32.le_iff_toNat_le, UInt32.toNat_add, UInt32.reduceToNat,
      shift] at bounds small
    omega
  · rename_i notUpper
    rw [dif_neg notUpper]

/-- A database whose letters are the ASCII letters. -/
def asciiDatabase : LikeDatabase where
  toLowerCase text := String.ofList (text.toList.map Char.toLower)
  fold := Char.toLower
  offsetCoordinates latitude longitude _ := (latitude, longitude)
  distinguished := ⟨by decide, by decide⟩
  plain_toLowerCase text plain := by
    obtain ⟨noAnyText, noAnyLetter, noEscape⟩ := plain
    have absent (mark : Char) (small : mark.toNat < 97) (missing : mark ∉ text.toList) :
        mark ∉ (String.ofList (text.toList.map Char.toLower)).toList := by
      rw [String.toList_ofList, List.mem_map]
      rintro ⟨char, member, same⟩
      rw [eq_of_toLower small same] at member
      exact missing member
    exact ⟨absent _ (by decide) noAnyText, absent _ (by decide) noAnyLetter,
      absent _ (by decide) noEscape⟩

/-- The underscore of the query stands for any letter. -/
theorem not_searchesLiterally : ¬ asciiDatabase.SearchesLiterally "j_hn" := by
  intro literally
  have same := literally.like_user "john"
  revert same
  decide

end GraffiTab
