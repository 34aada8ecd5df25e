/-
This file shows which reads let a user learn about streamables that are hidden from the
user.

For a read that reaches more than what is visible there is a second database that the
user cannot tell from the first one, with another text on a hidden streamable, one more
comment, like or tag, or one more hidden streamable, and in which the read answers
differently. The least limit of a page is no limit, so that the answer has every row.
-/

import GraffiTab.Visibility

namespace GraffiTab

open Tables

/-! ### Databases that differ in hidden items -/

section Changes

variable {currentUserId : Long} {store : Store}

/-- The references stay resolved when every streamable keeps its identifier and its user. -/
theorem wellFormed_streamables (wellFormed : store.WellFormed) (streamables : Table Streamable)
    (kept : ∀ row ∈ store.streamables.rows, ∃ new ∈ streamables.rows,
      new.id = row.id ∧ new.userId = row.userId)
    (known : ∀ row ∈ streamables.rows, store.HasUser row.userId) :
    ({ store with streamables } : Store).WellFormed := by
  have still {streamableId : Long} (stored : store.HasStreamable streamableId) :
      ({ store with streamables } : Store).HasStreamable streamableId := by
    obtain ⟨row, member, rfl⟩ := stored
    obtain ⟨new, newMember, sameId, -⟩ := kept row member
    exact ⟨new, newMember, sameId⟩
  refine ⟨known, fun row member => ?_, fun row member => ?_, fun reference listed => ?_,
    fun activity member created isCreated => ?_⟩
  · exact (wellFormed.comments row member).imp_right still
  · exact (wellFormed.likes row member).imp_right still
  · exact (wellFormed.references reference listed).imp_left still
  · unfold Activity.createdStreamable at isCreated
    split at isCreated
    · rename_i streamableId content
      have reference : (⟨streamableId, none⟩ : Reference) ∈ store.references :=
        List.mem_append_left _ (List.mem_filterMap.mpr ⟨activity, member, by rw [content]; rfl⟩)
      obtain ⟨⟨row, stored, sameId⟩, -⟩ := wellFormed.references _ reference
      obtain ⟨new, newMember, newId, owner⟩ := kept row stored
      have createdIs : created = new :=
        Table.eq_of_id_eq (Table.mem_of_find isCreated) newMember
          ((Table.id_of_find isCreated).trans (newId.trans sameId).symm)
      rw [createdIs, owner]
      refine wellFormed.creations activity member row ?_
      unfold Activity.createdStreamable
      rw [content]
      exact Table.find_eq_some.mpr ⟨stored, sameId⟩
    · exact absurd isCreated (Option.not_mem_none _)

theorem indistinguishable_streamables {streamables : Table Streamable}
    (same : (streamables.select fun row => row.visibleTo currentUserId) =
      store.streamables.select fun row => row.visibleTo currentUserId) :
    Indistinguishable currentUserId store { store with streamables } := by
  have shows : ({ store with streamables } : Store).shows currentUserId =
      store.shows currentUserId := shows_congr same
  refine ⟨rfl, rfl, rfl, rfl, rfl, rfl, rfl, rfl, same, ?_, ?_⟩
  · rw [shows]
  · rw [shows]

end Changes

namespace Database

variable (database : Database) {currentUserId : Long}

/-- The database with one more streamable. -/
def addStreamable (streamable : Streamable)
    (absent : ∀ row ∈ database.store.streamables.rows, row.id ≠ streamable.id)
    (known : database.store.HasUser streamable.userId) : Database where
  store := { database.store with
    streamables := database.store.streamables.add streamable absent }
  wellFormed := by
    refine wellFormed_streamables database.wellFormed _ (fun row member => ?_)
      (fun row member => ?_)
    · exact ⟨row, List.mem_append_left _ member, rfl, rfl⟩
    · rcases List.mem_append.mp member with old | new
      · exact database.wellFormed.streamables row old
      · rw [List.mem_singleton.mp new]
        exact known

theorem addStreamable_indistinguishable (streamable : Streamable)
    (absent : ∀ row ∈ database.store.streamables.rows, row.id ≠ streamable.id)
    (known : database.store.HasUser streamable.userId)
    (hidden : streamable.visibleTo currentUserId = false) :
    Indistinguishable currentUserId database.store
      (database.addStreamable streamable absent known).store := by
  refine indistinguishable_streamables ?_
  simp only [Table.select, Table.add, List.filter_append, List.filter_singleton, hidden]
  exact List.append_nil _

/-- The database with a change of every streamable that is hidden from the user. -/
def changeHidden (currentUserId : Long) (change : Streamable → Streamable)
    (sameId : ∀ row, (change row).id = row.id)
    (sameUser : ∀ row, (change row).userId = row.userId) : Database where
  store := { database.store with
    streamables := database.store.streamables.mapRows
      (fun row => if row.visibleTo currentUserId then row else change row)
      fun row => by split; exacts [rfl, sameId row] }
  wellFormed := by
    have keeps (row : Streamable) :
        (if row.visibleTo currentUserId then row else change row).id = row.id ∧
          (if row.visibleTo currentUserId then row else change row).userId = row.userId := by
      split
      exacts [⟨rfl, rfl⟩, ⟨sameId row, sameUser row⟩]
    refine wellFormed_streamables database.wellFormed _ (fun row member => ?_)
      (fun row member => ?_)
    · exact ⟨_, List.mem_map_of_mem member, keeps row⟩
    · obtain ⟨old, oldMember, rfl⟩ := List.mem_map.mp member
      rw [(keeps old).2]
      exact database.wellFormed.streamables old oldMember

theorem changeHidden_indistinguishable (currentUserId : Long) (change : Streamable → Streamable)
    (sameId : ∀ row, (change row).id = row.id) (sameUser : ∀ row, (change row).userId = row.userId)
    (sameVisibility : ∀ row, (change row).visibleTo currentUserId = row.visibleTo currentUserId) :
    Indistinguishable currentUserId database.store
      (database.changeHidden currentUserId change sameId sameUser).store := by
  refine indistinguishable_streamables ?_
  simp only [Table.select, Table.mapRows, List.filter_map]
  have condition : ((fun row : Streamable => row.visibleTo currentUserId) ∘ fun row =>
      if row.visibleTo currentUserId then row else change row) =
      fun row => row.visibleTo currentUserId := by
    funext row
    rw [Function.comp_apply]
    split
    · rfl
    · exact sameVisibility row
  rw [condition]
  refine (List.map_congr_left fun row member => ?_).trans (List.map_id _)
  rw [if_pos (List.mem_filter.mp member).2, id]

/-- The database with one more like. -/
def addLike (streamableId userId : Long) (stored : database.store.HasStreamable streamableId)
    (known : database.store.HasUser userId) : Database where
  store := { database.store with likes := database.store.likes ++ [⟨streamableId, userId⟩] }
  wellFormed := by
    refine ⟨database.wellFormed.streamables, database.wellFormed.comments, fun row member => ?_,
      database.wellFormed.references, database.wellFormed.creations⟩
    rcases List.mem_append.mp member with old | new
    · exact database.wellFormed.likes row old
    · rw [List.mem_singleton.mp new]
      exact ⟨known, stored⟩

theorem addLike_indistinguishable (streamableId userId : Long)
    (stored : database.store.HasStreamable streamableId) (known : database.store.HasUser userId)
    (hidden : database.store.shows currentUserId streamableId = false) :
    Indistinguishable currentUserId database.store
      (database.addLike streamableId userId stored known).store := by
  refine ⟨rfl, rfl, rfl, rfl, rfl, rfl, rfl, rfl, rfl, rfl, ?_⟩
  show ((database.store.likes ++ [(⟨streamableId, userId⟩ : Like)]).filter
    fun row => database.store.shows currentUserId row.streamableId) = _
  rw [List.filter_append, List.filter_singleton, hidden]
  exact List.append_nil _

/-- The database with one more comment, under a new identifier. -/
def addComment (comment : Comment) (stored : database.store.HasStreamable comment.streamableId)
    (known : database.store.HasUser comment.userId) : Database where
  store := { database.store with comments := database.store.comments.insert comment }
  wellFormed := by
    refine ⟨database.wellFormed.streamables, fun row member => ?_, database.wellFormed.likes,
      fun reference listed => ?_, database.wellFormed.creations⟩
    · rcases Table.mem_insert.mp member with old | rfl
      · exact database.wellFormed.comments row old
      · exact ⟨known, stored⟩
    · obtain ⟨streamable, comments⟩ := database.wellFormed.references reference listed
      refine ⟨streamable, fun commentId about => ?_⟩
      obtain ⟨row, member, found⟩ := comments commentId about
      exact ⟨row, Table.mem_insert.mpr (.inl member), found⟩

theorem addComment_indistinguishable (comment : Comment)
    (stored : database.store.HasStreamable comment.streamableId)
    (known : database.store.HasUser comment.userId)
    (hidden : database.store.shows currentUserId comment.streamableId = false) :
    Indistinguishable currentUserId database.store
      (database.addComment comment stored known).store := by
  refine ⟨rfl, rfl, rfl, rfl, rfl, rfl, rfl, rfl, rfl, ?_, rfl⟩
  show ((database.store.comments.rows ++
    [{ comment with id := database.store.comments.nextId }]).filter
      fun row : Comment => database.store.shows currentUserId row.streamableId) = _
  rw [List.filter_append, List.filter_singleton, hidden]
  exact List.append_nil _

end Database

/-! ### What a second database reveals -/

section Reveals

variable {search : SearchPlatform} {currentUserId : Long} {operation : ReadOperation}
  {database : Database}

/-- Only an active user passes the check of the endpoints. -/
theorem checkUserStatus_ok {store : Store} :
    checkUserStatus currentUserId store = .ok () ↔ MayRead currentUserId store := by
  unfold checkUserStatus
  rw [bind_eq_ok]
  constructor
  · rintro ⟨user, loaded, checked⟩
    obtain ⟨member, same⟩ := Table.find_eq_some.mp (loadCurrentUser_ok.mp loaded)
    split at checked
    · rename_i active
      exact ⟨user, member, same, active⟩
    · exact absurd checked throw_ne_ok
  · rintro ⟨user, member, same, active⟩
    exact ⟨user, loadCurrentUser_ok.mpr (Table.find_eq_some.mpr ⟨member, same⟩), if_pos active⟩

/-- Two databases that the user cannot tell from the given one, and in which a read performs
differently, show that it depends on something hidden. -/
theorem not_hidesAt {first second : Database} (mayRead : MayRead currentUserId database.store)
    (firstSame : Indistinguishable currentUserId database.store first.store)
    (secondSame : Indistinguishable currentUserId database.store second.store)
    (offset limit : Option Int)
    (differ : operation.perform search currentUserId first.store offset limit ≠
      operation.perform search currentUserId second.store offset limit) :
    ¬ HidesAt search currentUserId operation database := by
  intro hides
  have letsIn := checkUserStatus_ok.mpr mayRead
  have performs {other : Database}
      (otherSame : Indistinguishable currentUserId database.store other.store) :
      operation.perform search currentUserId other.store offset limit =
        operation.answer search currentUserId database.store offset limit := by
    rw [← hides other otherSame, ReadOperation.answer, otherSame.checkUserStatus_eq, letsIn]
    rfl
  exact differ ((performs firstSame).trans (performs secondSame).symm)

theorem indistinguishable_refl (store : Store) : Indistinguishable currentUserId store store :=
  ⟨rfl, rfl, rfl, rfl, rfl, rfl, rfl, rfl, rfl, rfl, rfl⟩

/-- A deleted streamable of the user. -/
def deletedStreamable (id userId : Long) : Streamable where
  id := id
  userId := userId
  createdOn := 0
  updatedOn := none
  isPrivate := false
  isFlagged := false
  isDeleted := true
  text := none
  asset := some { id := 0, guid := "", assetType := .image, state := .completed }
  hashtags := []
  latitude := none
  longitude := none
  roll := none
  yaw := none
  pitch := none

/-- Another text than the one that a streamable has. -/
def Streamable.withOtherText (streamable : Streamable) : Streamable :=
  { streamable with text := if streamable.text.isNone then some "" else none }

theorem Streamable.withOtherText_text (streamable : Streamable) :
    streamable.withOtherText.text ≠ streamable.text := by
  unfold withOtherText
  cases streamable.text <;> simp

/-- The database with another text on every hidden streamable. -/
def Database.withOtherTexts (database : Database) (currentUserId : Long) : Database :=
  database.changeHidden currentUserId Streamable.withOtherText (fun _ => rfl) fun _ => rfl

theorem withOtherTexts_indistinguishable : Indistinguishable currentUserId database.store
    (database.withOtherTexts currentUserId).store :=
  database.changeHidden_indistinguishable currentUserId Streamable.withOtherText (fun _ => rfl)
    (fun _ => rfl) fun _ => rfl

theorem hidden_of_shows {row : Streamable} (member : row ∈ database.store.streamables.rows)
    (hidden : database.store.shows currentUserId row.id = false) :
    row.visibleTo currentUserId = false := by
  unfold Store.shows at hidden
  rw [show database.store.streamables.find row.id = some row from Table.find_of_mem member,
    Option.any_some] at hidden
  exact hidden

/-- A hidden streamable is found with its other text. -/
theorem withOtherTexts_find {row : Streamable} (member : row ∈ database.store.streamables.rows)
    (hidden : database.store.shows currentUserId row.id = false) :
    (database.withOtherTexts currentUserId).store.streamables.find row.id =
      some row.withOtherText := by
  refine Table.find_eq_some.mpr ⟨List.mem_map.mpr ⟨row, member, if_neg ?_⟩, rfl⟩
  rw [hidden_of_shows member hidden]
  exact Bool.false_ne_true

theorem withOtherTexts_streamableDto {row : Streamable}
    (member : row ∈ database.store.streamables.rows)
    (hidden : database.store.shows currentUserId row.id = false) :
    streamableDto currentUserId (database.withOtherTexts currentUserId).store row.id ≠
      streamableDto currentUserId database.store row.id := by
  rw [streamableDto, streamableDto, withOtherTexts_find member hidden,
    show database.store.streamables.find row.id = some row from Table.find_of_mem member]
  intro same
  exact row.withOtherText_text (congrArg FullStreamableDto.text (Option.some.inj same))

/-! ### Streamables that are named -/

theorem absent_or_stored (database : Database) (streamableId : Long) :
    (∀ row ∈ database.store.streamables.rows, row.id ≠ streamableId) ∨
      ∃ row ∈ database.store.streamables.rows, row.id = streamableId := by
  cases found : database.store.streamables.find streamableId with
  | none => exact .inl (Table.find_eq_none.mp found)
  | some row => exact .inr ⟨row, Table.find_eq_some.mp found⟩

theorem hasUser_of_mayRead (mayRead : MayRead currentUserId database.store) :
    database.store.HasUser currentUserId := by
  obtain ⟨user, member, same, -⟩ := mayRead
  exact ⟨user, member, same⟩

/-- A read that fails for a missing streamable reveals that there is a deleted one. -/
theorem not_hidesAt_of_absent {streamableId : Long} (mayRead : MayRead currentUserId database.store)
    (absent : ∀ row ∈ database.store.streamables.rows, row.id ≠ streamableId)
    (fails : ∀ store : Store, (operation.perform search currentUserId store none none).isOk =
      (store.streamables.find streamableId).isSome) :
    ¬ HidesAt search currentUserId operation database := by
  have known := hasUser_of_mayRead mayRead
  refine not_hidesAt mayRead (indistinguishable_refl database.store)
    (database.addStreamable_indistinguishable (deletedStreamable streamableId currentUserId)
      absent known rfl) none none fun equal => ?_
  have missing := fails database.store
  rw [equal, fails, Table.find_eq_none.mpr absent] at missing
  have found : (database.addStreamable (deletedStreamable streamableId currentUserId) absent
      known).store.streamables.find streamableId =
      some (deletedStreamable streamableId currentUserId) :=
    Table.find_eq_some.mpr ⟨List.mem_append_right _ List.mem_cons_self, rfl⟩
  rw [found] at missing
  exact Bool.noConfusion missing

theorem getStreamable_reveals {streamableId : Long} (mayRead : MayRead currentUserId database.store)
    (hidden : database.store.shows currentUserId streamableId = false) :
    ¬ HidesAt search currentUserId (.getStreamable streamableId) database := by
  rcases absent_or_stored database streamableId with absent | ⟨row, member, rfl⟩
  · refine not_hidesAt_of_absent mayRead absent fun store => ?_
    simp only [ReadOperation.perform, getStreamable, streamableDto]
    cases store.streamables.find streamableId <;> rfl
  · refine not_hidesAt mayRead (indistinguishable_refl database.store)
      withOtherTexts_indistinguishable none none fun equal => ?_
    have found : database.store.streamables.find row.id = some row := Table.find_of_mem member
    simp only [ReadOperation.perform, getStreamable, streamableDto, found,
      withOtherTexts_find member hidden, Option.map_some] at equal
    have texts := congrArg FullStreamableDto.text
      (ReadAnswer.streamable.inj (Except.ok.inj equal))
    exact row.withOtherText_text texts.symm

theorem isOk_ofStreamable {Answer : Type} {store : Store} {streamableId : Long}
    {answer : Answer} {toAnswer : Answer → ReadAnswer} :
    ((ofStreamable store streamableId answer).map toAnswer).isOk =
      (store.streamables.find streamableId).isSome := by
  unfold ofStreamable
  cases store.streamables.find streamableId <;> rfl

theorem ofStreamable_of_mem {Answer : Type} (store : Store) {row : Streamable} {answer : Answer}
    (member : row ∈ store.streamables.rows) : ofStreamable store row.id answer = .ok answer := by
  unfold ofStreamable
  rw [show store.streamables.find row.id = some row from Table.find_of_mem member]
  rfl

/-- A like of the user on a hidden streamable is listed. -/
theorem getLikers_reveals {streamableId : Long} (mayRead : MayRead currentUserId database.store)
    (hidden : database.store.shows currentUserId streamableId = false) :
    ¬ HidesAt search currentUserId (.getLikers streamableId) database := by
  rcases absent_or_stored database streamableId with absent | ⟨row, member, rfl⟩
  · exact not_hidesAt_of_absent mayRead absent fun store => isOk_ofStreamable
  · have known := hasUser_of_mayRead mayRead
    have stored : database.store.HasStreamable row.id := ⟨row, member, rfl⟩
    refine not_hidesAt mayRead (indistinguishable_refl database.store)
      (database.addLike_indistinguishable row.id currentUserId stored known hidden) none
      (some (-2147483648)) fun equal => ?_
    obtain ⟨user, userMember, rfl, active⟩ := mayRead
    have likers : likersOf (database.addLike row.id user.id stored known).store row.id =
        likersOf database.store row.id ++ [user.id] := by
      unfold likersOf Database.addLike
      simp only [List.filter_append, List.filter_singleton, decide_true, List.map_append]
      rfl
    have found : database.store.users.find user.id = some user := Table.find_of_mem userMember
    have listed : listedLikers (database.addLike row.id user.id stored known).store row.id =
        listedLikers database.store row.id ++ [user] := by
      unfold listedLikers
      rw [likers, List.filterMap_append, List.filter_append]
      have last : ([user.id].filterMap database.store.users.find).filter
          (fun user => user.accountStatus ≠ .pendingActivation) = [user] := by
        rw [List.filterMap_cons_some found, List.filterMap_nil, List.filter_singleton, active]
        rfl
      exact congrArg _ last
    simp only [ReadOperation.perform, getLikersResult, ofStreamable_of_mem database.store member,
      ofStreamable_of_mem (database.addLike row.id user.id stored known).store member] at equal
    have lengths := congrArg (fun page : PagedList UserDto => page.items.length)
      (ReadAnswer.users.inj (Except.ok.inj equal))
    simp only [PagedList.map, getItems_leastLimit, List.length_map, listed, List.length_append,
      List.length_singleton] at lengths
    omega

/-- A comment of the user on a hidden streamable is listed. -/
theorem getComments_reveals {streamableId : Long} (mayRead : MayRead currentUserId database.store)
    (hidden : database.store.shows currentUserId streamableId = false) :
    ¬ HidesAt search currentUserId (.getComments streamableId) database := by
  rcases absent_or_stored database streamableId with absent | ⟨row, member, rfl⟩
  · exact not_hidesAt_of_absent mayRead absent fun store => isOk_ofStreamable
  · have known := hasUser_of_mayRead mayRead
    have stored : database.store.HasStreamable row.id := ⟨row, member, rfl⟩
    let comment : Comment :=
      { id := 0
        streamableId := row.id
        userId := currentUserId
        text := ""
        createdOn := 0
        updatedOn := none
        isDeleted := false }
    refine not_hidesAt mayRead (indistinguishable_refl database.store)
      (database.addComment_indistinguishable comment stored known hidden) none
      (some (-2147483648)) fun equal => ?_
    have comments : (commentsOf (database.addComment comment stored known).store row.id).length =
        (commentsOf database.store row.id).length + 1 := by
      simp only [commentsOf, Database.addComment, Table.select, Table.insert, List.filter_append,
        List.length_append]
      congr 1
      rw [List.filter_singleton]
      have listed : (decide ((Identified.withId database.store.comments.nextId
          comment).streamableId = row.id) && !(Identified.withId database.store.comments.nextId
          comment).isDeleted) = true := by
        rw [Bool.and_eq_true, decide_eq_true_eq]
        exact ⟨rfl, rfl⟩
      rw [listed]
      rfl
    simp only [ReadOperation.perform, getCommentsResult,
      ofStreamable_of_mem database.store member,
      ofStreamable_of_mem (database.addComment comment stored known).store member] at equal
    have lengths := congrArg (fun page : PagedList CommentDto => page.items.length)
      (ReadAnswer.comments.inj (Except.ok.inj equal))
    simp only [PagedList.map, getItems_leastLimit, List.length_map, orderByDesc,
      List.length_mergeSort, comments] at lengths
    omega

/-! ### Hashtags -/

/-- A text that no visible streamable has for a tag may be that of a hidden one, or of none. -/
theorem searchHashtags_reveals {hashtag text : String}
    (mayRead : MayRead currentUserId database.store)
    (accepted : search.like (search.toLowerCase hashtag ++ "%") text = true)
    (invisible : ∀ row ∈ database.store.streamables.rows,
      row.visibleTo currentUserId = true → text ∉ row.hashtags) :
    ¬ HidesAt search currentUserId (.searchHashtags hashtag) database := by
  have known := hasUser_of_mayRead mayRead
  have absent (row : Streamable) (member : row ∈ database.store.streamables.rows) :
      row.id ≠ database.store.streamables.nextId := Table.ne_nextId member
  let tagged : Streamable :=
    { deletedStreamable database.store.streamables.nextId currentUserId with hashtags := [text] }
  let untag (row : Streamable) : Streamable := { row with hashtags := [] }
  have untagged := database.changeHidden_indistinguishable currentUserId untag (fun _ => rfl)
    (fun _ => rfl) fun _ => rfl
  refine not_hidesAt mayRead untagged
    (database.addStreamable_indistinguishable tagged absent known rfl) none
    (some (-2147483648)) fun equal => ?_
  have items := congrArg PagedList.items (ReadAnswer.hashtags.inj (Except.ok.inj equal))
  rw [getItems_leastLimit, getItems_leastLimit] at items
  have listed : text ∈ hashtagsLike (database.addStreamable tagged absent known).store
      (search.like (search.toLowerCase hashtag ++ "%")) := by
    refine (Finset.mem_sort _).mpr (List.mem_toFinset.mpr (List.mem_filter.mpr ⟨?_, accepted⟩))
    exact List.mem_flatMap.mpr ⟨tagged, List.mem_append_right _ List.mem_cons_self,
      List.mem_cons_self⟩
  rw [← items] at listed
  have stored := (List.mem_filter.mp (List.mem_toFinset.mp ((Finset.mem_sort _).mp listed))).1
  obtain ⟨row, member, isTag⟩ := List.mem_flatMap.mp stored
  obtain ⟨old, oldMember, rfl⟩ := List.mem_map.mp member
  split at isTag
  · rename_i visible
    exact invisible old oldMember visible isTag
  · exact List.not_mem_nil isTag

/-! ### The activities of followed users -/

/-- The class of an activity, with what two activities of the class must share to be the same. -/
def ActivityContent.subject : ActivityContent → ActivityType × Long
  | .comment commentedStreamable _ => (.comment, commentedStreamable)
  | .createStreamable createdStreamable => (.createStreamable, createdStreamable)
  | .follow followed => (.follow, followed)
  | .like likedStreamable => (.like, likedStreamable)

theorem subject_of_isSameActivity {activity other : Activity}
    (same : activity.isSameActivity other = true) :
    activity.content.subject = other.content.subject := by
  unfold Activity.isSameActivity at same
  split at same
  · rename_i content otherContent
    rw [content, otherContent, ActivityContent.subject, ActivityContent.subject,
      of_decide_eq_true same]
  · rename_i content otherContent
    rw [content, otherContent, of_decide_eq_true same]
  · rename_i content otherContent
    rw [content, otherContent, of_decide_eq_true same]
  · rename_i content otherContent
    rw [content, otherContent, of_decide_eq_true same]
  · exact absurd same Bool.false_ne_true

/-- Every activity of the list is in a group, or one with its subject is; the container that is
being filled has one with the subject of the previous activity. -/
theorem groupFrom_subjects {numberOfItemsInGroup : Int} {previous : Activity}
    {container : ActivityContainer} {activities : List Activity}
    (filled : ∃ shown ∈ container.activities,
      shown.content.subject = previous.content.subject) :
    (∃ group ∈ groupFrom numberOfItemsInGroup previous container activities,
      container.activities ⊆ group.activities) ∧
    ∀ activity ∈ activities,
      ∃ group ∈ groupFrom numberOfItemsInGroup previous container activities,
        ∃ shown ∈ group.activities, shown.content.subject = activity.content.subject := by
  induction activities generalizing previous container with
  | nil =>
      exact ⟨⟨container, List.mem_singleton_self _, List.Subset.refl _⟩,
        fun activity member => absurd member List.not_mem_nil⟩
  | cons next rest inductionHypothesis =>
      rw [groupFrom]
      split
      · split
        · rename_i same
          obtain ⟨shown, member, subject⟩ := filled
          have keeps : ∃ shown ∈ container.activities,
              shown.content.subject = next.content.subject :=
            ⟨shown, member, subject.trans (subject_of_isSameActivity same).symm⟩
          obtain ⟨⟨group, grouped, included⟩, later⟩ := inductionHypothesis keeps
          obtain ⟨shown, member, subject⟩ := keeps
          exact ⟨⟨group, grouped, included⟩, List.forall_mem_cons.mpr
            ⟨⟨group, grouped, shown, included member, subject⟩, later⟩⟩
        · have added : ∃ shown ∈ ({ container with
              activities := container.activities ++ [next] } : ActivityContainer).activities,
              shown.content.subject = next.content.subject :=
            ⟨next, List.mem_append_right _ List.mem_cons_self, rfl⟩
          obtain ⟨⟨group, grouped, included⟩, later⟩ := inductionHypothesis added
          refine ⟨⟨group, grouped, fun activity member =>
            included (List.mem_append_left _ member)⟩, List.forall_mem_cons.mpr ⟨?_, later⟩⟩
          exact ⟨group, grouped, next, included (List.mem_append_right _ List.mem_cons_self), rfl⟩
      · have started : ∃ shown ∈ (ActivityContainer.start next).activities,
            shown.content.subject = next.content.subject :=
          ⟨next, List.mem_singleton_self _, rfl⟩
        obtain ⟨⟨group, grouped, included⟩, later⟩ := inductionHypothesis started
        refine ⟨⟨container, List.mem_cons_self, List.Subset.refl _⟩,
          List.forall_mem_cons.mpr ⟨?_, fun activity member => ?_⟩⟩
        · exact ⟨group, List.mem_cons_of_mem _ grouped, next,
            included (List.mem_singleton_self _), rfl⟩
        · obtain ⟨group, grouped, shown⟩ := later activity member
          exact ⟨group, List.mem_cons_of_mem _ grouped, shown⟩

theorem groupActivities_subjects {numberOfItemsInGroup : Int} {activities : List Activity}
    {activity : Activity} (member : activity ∈ activities) :
    ∃ group ∈ groupActivities numberOfItemsInGroup activities,
      ∃ shown ∈ group.activities, shown.content.subject = activity.content.subject := by
  cases activities with
  | nil => exact absurd member List.not_mem_nil
  | cons first rest =>
      exact (groupFrom_subjects ⟨first, List.mem_singleton_self _, rfl⟩).2 activity member

/-- What is shown of a like or a comment has what is shown of its streamable. -/
theorem streamableDto_of_toDto {first second : Store} {activity other : Activity}
    {reference : Reference} (about : reference ∈ activity.content.reference)
    (notCreation : activity.content.activityType ≠ .createStreamable)
    (subject : other.content.subject = activity.content.subject)
    (same : other.toDto currentUserId first = other.toDto currentUserId second) :
    streamableDto currentUserId first reference.streamableId =
      streamableDto currentUserId second reference.streamableId := by
  cases content : activity.content with
  | comment commentedStreamable commentId =>
      rw [content] at about subject
      rw [← Option.some.inj about]
      cases otherContent : other.content with
      | comment otherStreamable otherComment =>
          rw [otherContent] at subject
          have sameStreamable : otherStreamable = commentedStreamable :=
            (Prod.mk.inj subject).2
          have shown := congrArg ActivityDto.commentedStreamable same
          simp only [Activity.toDto, otherContent, sameStreamable] at shown
          exact shown
      | createStreamable _ | follow _ | like _ =>
          rw [otherContent] at subject
          cases (Prod.mk.inj subject).1
  | like likedStreamable =>
      rw [content] at about subject
      rw [← Option.some.inj about]
      cases otherContent : other.content with
      | like otherStreamable =>
          rw [otherContent] at subject
          have sameStreamable : otherStreamable = likedStreamable := (Prod.mk.inj subject).2
          have shown := congrArg ActivityDto.likedStreamable same
          simp only [Activity.toDto, otherContent, sameStreamable] at shown
          exact shown
      | comment _ _ | createStreamable _ | follow _ =>
          rw [otherContent] at subject
          cases (Prod.mk.inj subject).1
  | createStreamable createdStreamable =>
      rw [content] at notCreation
      exact absurd rfl notCreation
  | follow followed =>
      rw [content] at about
      exact absurd about (Option.not_mem_none _)

/-- The list looks at the streamables of creations only, so that a like or a comment shows a
hidden one. -/
theorem getFollowersActivity_reveals {numberOfItemsInGroup : Option Int} {activity : Activity}
    {reference : Reference} (mayRead : MayRead currentUserId database.store)
    (member : activity ∈ database.store.activities.rows)
    (followed : isFollowedByCurrentUser currentUserId activity.userId database.store = true)
    (notCreation : activity.content.activityType ≠ .createStreamable)
    (about : reference ∈ activity.content.reference)
    (hidden : database.store.shows currentUserId reference.streamableId = false) :
    ¬ HidesAt search currentUserId (.getFollowersActivity numberOfItemsInGroup) database := by
  have same : Indistinguishable currentUserId database.store
      (database.withOtherTexts currentUserId).store := withOtherTexts_indistinguishable
  refine not_hidesAt mayRead (indistinguishable_refl database.store) same none
    (some (-2147483648)) fun equal => ?_
  have listed : activity ∈ followersActivity currentUserId database.store := by
    refine List.mem_mergeSort.mpr (Table.mem_select.mpr ⟨member, ?_⟩)
    have noCreation : activity.createdStreamable database.store = none := by
      unfold Activity.createdStreamable
      cases content : activity.content with
      | createStreamable _ =>
          rw [content] at notCreation
          exact absurd rfl notCreation
      | comment _ _ | follow _ | like _ => rfl
    rw [followed, noCreation]
    rfl
  have items := congrArg PagedList.items (ReadAnswer.activities.inj (Except.ok.inj equal))
  simp only [getFollowersActivityResult, getItems_leastLimit,
    same.followersActivity_eq database.wellFormed
      (database.withOtherTexts currentUserId).wellFormed] at items
  obtain ⟨group, grouped, other, otherMember, subject⟩ := groupActivities_subjects listed
  have groups := List.map_inj_left.mp items group grouped
  have activities := List.map_inj_left.mp (congrArg ActivityContainerDto.activities groups) other
    otherMember
  obtain ⟨⟨row, stored, sameId⟩, -⟩ := database.wellFormed.references reference
    (List.mem_append_left _ (List.mem_filterMap.mpr ⟨activity, member, about⟩))
  have texts := streamableDto_of_toDto about notCreation subject activities
  rw [← sameId] at texts hidden
  exact withOtherTexts_streamableDto stored hidden texts.symm

/-! ### Profiles -/

/-- The profile of another user counts the private streamables. -/
theorem getUserProfile_reveals {userId : Long} (mayRead : MayRead currentUserId database.store)
    (known : database.store.HasUser userId) (other : userId ≠ currentUserId) :
    ¬ HidesAt search currentUserId (.getUserProfile userId) database := by
  have absent (row : Streamable) (member : row ∈ database.store.streamables.rows) :
      row.id ≠ database.store.streamables.nextId := Table.ne_nextId member
  let privateOne : Streamable :=
    { deletedStreamable database.store.streamables.nextId userId with
      isDeleted := false
      isPrivate := true }
  have hidden : privateOne.visibleTo currentUserId = false := by
    simp only [privateOne, Streamable.visibleTo, deletedStreamable, other, decide_false]
    rfl
  refine not_hidesAt mayRead (indistinguishable_refl database.store)
    (database.addStreamable_indistinguishable privateOne absent known hidden) none none
    fun equal => ?_
  obtain ⟨user, member, rfl⟩ := known
  have found : database.store.users.find user.id = some user := Table.find_of_mem member
  have counted :
      ((database.addStreamable privateOne absent ⟨user, member, rfl⟩).store.streamables.select
        fun row => row.userId = user.id && !row.isDeleted).length =
      (database.store.streamables.select
        fun row => row.userId = user.id && !row.isDeleted).length + 1 := by
    simp only [Database.addStreamable, Table.select, Table.add, List.filter_append,
      List.length_append, List.filter_singleton]
    simp [privateOne, deletedStreamable]
  simp only [ReadOperation.perform, getUserProfile, found, show
    (database.addStreamable privateOne absent ⟨user, member, rfl⟩).store.users.find user.id =
      some user from found] at equal
  have counts := congrArg FullUserDto.streamablesCount
    (ReadAnswer.profile.inj (Except.ok.inj equal))
  simp only [User.toFullDto, counted] at counts
  omega

theorem hidesAt_of_not_mayRead (turnedAway : ¬ MayRead currentUserId database.store) :
    HidesAt search currentUserId operation database := by
  intro other same
  funext offset limit
  unfold ReadOperation.answer
  rw [same.checkUserStatus_eq]
  cases checked : checkUserStatus currentUserId database.store with
  | ok passed => exact absurd (checkUserStatus_ok.mp checked) turnedAway
  | error thrown => rfl

/-- A read that reaches something hidden reveals it to a user who is let in. -/
theorem reachesOnlyVisible_of_hidesAt (mayRead : MayRead currentUserId database.store)
    (hides : HidesAt search currentUserId operation database) :
    ReachesOnlyVisible search currentUserId database.store operation := by
  by_contra reaches
  cases operation with
  | getStreamable streamableId =>
      exact getStreamable_reveals mayRead (Bool.eq_false_iff.mpr reaches) hides
  | getLikers streamableId =>
      exact getLikers_reveals mayRead (Bool.eq_false_iff.mpr reaches) hides
  | getComments streamableId =>
      exact getComments_reveals mayRead (Bool.eq_false_iff.mpr reaches) hides
  | searchHashtags hashtag =>
      simp only [ReachesOnlyVisible, not_forall, not_exists, not_and] at reaches
      obtain ⟨text, accepted, invisible⟩ := reaches
      exact searchHashtags_reveals mayRead accepted invisible hides
  | getFollowersActivity numberOfItemsInGroup =>
      simp only [ReachesOnlyVisible, not_forall] at reaches
      obtain ⟨activity, member, followed, notCreation, reference, about, notShown⟩ := reaches
      exact getFollowersActivity_reveals mayRead member followed notCreation about
        (Bool.eq_false_iff.mpr notShown) hides
  | getUserProfile userId =>
      rw [ReachesOnlyVisible, not_or, not_not] at reaches
      exact getUserProfile_reveals mayRead reaches.2 reaches.1 hides
  | _ => exact reaches trivial

end Reveals

/-! ### The law -/

/-- A read answers the same whatever is hidden from the user exactly when the user is turned away
or the read reaches only what is visible. -/
theorem hidesAt_iff (search : SearchPlatform) (currentUserId : Long) (operation : ReadOperation)
    (database : Database) :
    HidesAt search currentUserId operation database ↔
      ¬ MayRead currentUserId database.store ∨
        ReachesOnlyVisible search currentUserId database.store operation := by
  constructor
  · intro hides
    rw [← imp_iff_not_or]
    exact fun mayRead => reachesOnlyVisible_of_hidesAt mayRead hides
  · rintro (turnedAway | visible)
    · exact hidesAt_of_not_mayRead turnedAway
    · exact hidesAt_of_reachesOnlyVisible visible

/-- Two active users, and a private streamable of the first one. -/
def privateDatabase : Database where
  store := { Store.empty with
    users := (Table.empty.insert (plainUser 0 "alice")).insert (plainUser 0 "bob")
    streamables := Table.empty.insert
      { deletedStreamable 0 1 with isDeleted := false, isPrivate := true } }
  wellFormed := by
    refine ⟨fun row member => ?_, fun row member => absurd member List.not_mem_nil,
      fun row member => absurd member List.not_mem_nil,
      fun reference member => absurd member List.not_mem_nil,
      fun activity member => absurd member List.not_mem_nil⟩
    rw [List.mem_singleton.mp member]
    exact ⟨plainUser 1 "alice", by decide, rfl⟩

/-- A search platform that finds a text only for itself, for runs on fixed inputs. -/
def plainSearch : SearchPlatform where
  toLowerCase text := text
  like pattern text := pattern = text
  offsetCoordinates latitude longitude _ := (latitude, longitude)

/-- The second user gets the private streamable of the first one by its identifier. -/
theorem not_hidesAt_getStreamable :
    ¬ HidesAt plainSearch 2 (.getStreamable 1) privateDatabase :=
  getStreamable_reveals ⟨plainUser 2 "bob", by decide, rfl, rfl⟩ (by decide)

end GraffiTab
