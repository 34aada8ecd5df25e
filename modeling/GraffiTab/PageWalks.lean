/-
This file shows that a client which reads a listing page by page misses nothing.

A client asks for the page at the offset of as many rows as it has, again and again, while the site
goes on. New rows come in front of those that it has not seen yet, so that it gets some rows twice;
but whatever the interleaving, what was listed when it began is given to it, as long as nothing
that is listed is taken out of sight.
-/

import GraffiTab.HiddenItems
import GraffiTab.Library.Walks
import GraffiTab.SiteHistory

namespace GraffiTab

open Tables Runs Histories Walks

/-! ### Listings -/

/-- The listings by date that a user can read page by page. -/
inductive Listing where
  | newestStreamables
  | userStreamables (userId : Long)
  | userMentions (userId : Long)
  | userFeed
  | comments (streamableId : Long)

def Listing.operation : Listing → ReadOperation
  | .newestStreamables => .getNewestStreamables
  | .userStreamables userId => .getUserStreamables userId
  | .userMentions userId => .getUserMentions userId
  | .userFeed => .getUserFeed
  | .comments streamableId => .getComments streamableId

/-- The identifiers of what is listed before it is cut into pages. -/
def Listing.ids (readerId : Long) (store : Store) : Listing → List Long
  | .newestStreamables => (GraffiTab.newestStreamables readerId store).map Streamable.id
  | .userStreamables userId => (GraffiTab.userStreamables readerId store userId).map Streamable.id
  | .userMentions userId => (GraffiTab.userMentions readerId store userId).map Streamable.id
  | .userFeed => (GraffiTab.userFeed readerId store).map Streamable.id
  | .comments streamableId =>
      (orderByDesc Comment.createdOn (commentsOf store streamableId)).map Comment.id

/-- Without the thing, the listing is no longer what it was: the thing is listed, or the reader
follows by it those whose streamables are in the feed. -/
def Listing.Loses (readerId : Long) (store : Store) : Listing → Hideable → Prop
  | .comments streamableId, .comment commentId =>
      commentId ∈ Listing.ids readerId store (.comments streamableId)
  | .comments _, _ => False
  | .userFeed, .following row => row.userId = readerId
  | listing, .streamable streamableId => streamableId ∈ listing.ids readerId store
  | _, _ => False

/-! ### Listings that grow -/

section Grow

variable {readerId : Long} {store next : Store} {mayHide : Hideable → Prop}

/-- Rows by descending date, in terms of identifiers and dates alone. -/
theorem map_orderByDesc {Row : Type} (id key : Row → Int) (rows : List Row) :
    (orderByDesc key rows).map id =
      (orderByDesc Prod.snd (rows.map fun row => (id row, key row))).map Prod.fst := by
  have same : (orderByDesc key rows).map (fun row => (id row, key row)) =
      orderByDesc Prod.snd (rows.map fun row => (id row, key row)) :=
    List.map_mergeSort fun _ _ _ _ => rfl
  rw [← same, List.map_map]
  rfl

theorem orderByDesc_sublist {Row : Type} (key : Row → Int) {rows later : List Row}
    (grows : rows.Sublist later) : (orderByDesc key rows).Sublist (orderByDesc key later) := by
  refine mergeSort_sublist (fun first second third isSecond isThird => ?_)
    (fun first second => ?_) grows
  · rw [decide_eq_true_eq] at isSecond isThird ⊢
    exact isThird.trans isSecond
  · rw [Bool.or_eq_true, decide_eq_true_eq, decide_eq_true_eq]
    exact Int.le_total _ _

/-- A listing by date grows with the rows that it is chosen from. -/
theorem orderedIds_sublist {Row : Type} {Later : Row → Row → Prop} {rows later : List Row}
    (grow : RowsGrow Later rows later) {chosen nextChosen : Row → Bool} {id key : Row → Int}
    (stays : ∀ row ∈ rows, ∀ laterRow, Later row laterRow → chosen row = true →
      nextChosen laterRow = true ∧ id laterRow = id row ∧ key laterRow = key row) :
    ((orderByDesc key (rows.filter chosen)).map id).Sublist
      ((orderByDesc key (later.filter nextChosen)).map id) := by
  rw [map_orderByDesc id key (rows.filter chosen), map_orderByDesc id key (later.filter nextChosen)]
  refine (orderByDesc_sublist Prod.snd
    (grow.chosen fun row member laterRow after isChosen => ?_)).map Prod.fst
  obtain ⟨stillChosen, sameId, sameKey⟩ := stays row member laterRow after isChosen
  exact ⟨stillChosen, Prod.ext sameId sameKey⟩

/-- A streamable that is not hidden stays visible. -/
theorem Streamable.Later.visibleTo {row later : Streamable}
    (after : Streamable.Later mayHide row later) (inSight : ¬ mayHide (.streamable row.id))
    (visible : row.visibleTo readerId = true) : later.visibleTo readerId = true := by
  obtain ⟨-, userId, -, -, -, -, stays⟩ := after
  obtain ⟨notDeleted, isOpen⟩ := stays inSight
  rw [Streamable.visibleTo, Bool.and_eq_true, Bool.or_eq_true, Bool.not_eq_true',
    Bool.not_eq_true', decide_eq_true_eq] at visible ⊢
  rw [userId]
  exact ⟨notDeleted visible.1, visible.2.imp_left isOpen⟩

/-- The visible streamables that meet a condition, which their later versions meet then too. -/
theorem visibleIds_sublist (continues : Store.Continues mayHide store next)
    (chosen nextChosen : Streamable → Bool)
    (stays : ∀ row later, Streamable.Later mayHide row later → chosen row = true →
      nextChosen later = true)
    (inSight : ∀ row ∈ orderByDesc Streamable.createdOn
      (store.streamables.select fun row => chosen row && row.visibleTo readerId),
      ¬ mayHide (.streamable row.id)) :
    ((orderByDesc Streamable.createdOn
        (store.streamables.select fun row => chosen row && row.visibleTo readerId)).map
          Streamable.id).Sublist
      ((orderByDesc Streamable.createdOn
        (next.streamables.select fun row => nextChosen row && row.visibleTo readerId)).map
          Streamable.id) := by
  refine orderedIds_sublist continues.streamables fun row member later after isListed => ?_
  have listed := inSight row (mem_orderByDesc.mpr (Table.mem_select.mpr ⟨member, isListed⟩))
  obtain ⟨isChosen, visible⟩ := (Bool.and_eq_true _ _).mp isListed
  refine ⟨(Bool.and_eq_true _ _).mpr ⟨stays row later after isChosen,
    after.visibleTo listed visible⟩, after.1, after.2.2.1⟩

/-- A mention that is stored stays stored. -/
theorem mentioned_later (continues : Store.Continues mayHide store next) (userId : Long)
    {row later : Streamable} (after : Streamable.Later mayHide row later)
    (mentioned : (store.notifications.rows.any fun notification =>
      notification.userId = userId && notification.mentions row.id) = true) :
    (next.notifications.rows.any fun notification =>
      notification.userId = userId && notification.mentions later.id) = true := by
  obtain ⟨notification, stored, isMention⟩ := List.any_eq_true.mp mentioned
  obtain ⟨still, stillStored, -, sameUser, -, sameContent, -⟩ :=
    continues.notifications.stay notification stored
  refine List.any_eq_true.mpr ⟨still, stillStored, ?_⟩
  rw [Notification.mentions] at isMention ⊢
  rw [sameUser, sameContent, after.1]
  exact isMention

/-- A creation that is in the feed stays there. -/
theorem feedStreamable_later (continues : Store.Continues mayHide store next)
    {activity : Activity} {created : Streamable}
    (listed : feedStreamable readerId store activity = some created)
    (inSight : ¬ mayHide (.streamable created.id))
    (followed : ¬ mayHide (.following ⟨readerId, activity.userId⟩)) :
    ∃ later, feedStreamable readerId next activity = some later ∧ later.id = created.id := by
  rw [feedStreamable, Option.ite_none_right_eq_some, Option.filter_eq_some_iff] at listed
  obtain ⟨wanted, isCreated, isShown⟩ := listed
  obtain ⟨member, content⟩ := createdStreamable_eq_some.mp isCreated
  obtain ⟨later, laterMember, after⟩ := continues.streamables.stay created member
  have sameId : later.id = created.id := after.1
  have isLater : activity.createdStreamable next = some later :=
    createdStreamable_eq_some.mpr ⟨laterMember, content.trans (sameId ▸ rfl)⟩
  obtain ⟨notDeleted, isOpen⟩ := after.2.2.2.2.2.2 inSight
  refine ⟨later, ?_, sameId⟩
  rw [feedStreamable, Option.ite_none_right_eq_some, Option.filter_eq_some_iff]
  refine ⟨?_, isLater, ?_⟩
  · rw [Bool.or_eq_true, isFollowedByCurrentUser_iff] at wanted ⊢
    exact wanted.imp_left fun follows => continues.following _ follows followed
  · rw [Bool.and_eq_true, Bool.or_eq_true, Bool.not_eq_true', Bool.not_eq_true'] at isShown ⊢
    exact ⟨notDeleted isShown.1, isShown.2.imp_left isOpen⟩

theorem userFeed_ids (readerId : Long) (store : Store) :
    (userFeed readerId store).map Streamable.id =
      (orderByDesc Activity.createdOn store.activities.rows).filterMap fun activity =>
        (feedStreamable readerId store activity).map Streamable.id :=
  List.map_filterMap

theorem rows_sublist_of_grow {Row : Type} {rows later : List Row} (grow : RowsGrow Eq rows later) :
    rows.Sublist later := by
  induction grow with
  | added new => exact List.nil_sublist new
  | kept same _ inductionHypothesis => exact same ▸ inductionHypothesis.cons_cons _

theorem filterMap_sublist_of_le {Row Content : Type} {rows : List Row}
    {view nextView : Row → Option Content}
    (stays : ∀ row ∈ rows, ∀ content, view row = some content → nextView row = some content) :
    (rows.filterMap view).Sublist (rows.filterMap nextView) := by
  induction rows with
  | nil => exact .refl _
  | cons row rest inductionHypothesis =>
      obtain ⟨first, others⟩ := List.forall_mem_cons.mp stays
      have grows := inductionHypothesis others
      cases viewed : view row with
      | none =>
          rw [List.filterMap_cons_none viewed]
          exact grows.trans ((List.sublist_cons_self row rest).filterMap nextView)
      | some content =>
          rw [List.filterMap_cons_some viewed, List.filterMap_cons_some (first content viewed)]
          exact grows.cons_cons content

/-- A listing grows where nothing that it has may be hidden. -/
theorem Listing.ids_sublist (continues : Store.Continues mayHide store next) (listing : Listing)
    (inSight : ∀ thing, mayHide thing → ¬ listing.Loses readerId store thing) :
    (listing.ids readerId store).Sublist (listing.ids readerId next) := by
  have notHidden {thing : Hideable} (loses : listing.Loses readerId store thing) :
      ¬ mayHide thing :=
    fun hidden => inSight thing hidden loses
  cases listing with
  | newestStreamables =>
      refine visibleIds_sublist continues (fun _ => true) (fun _ => true) (fun _ _ _ _ => rfl) ?_
      exact fun row listed => notHidden (List.mem_map_of_mem listed)
  | userStreamables userId =>
      refine visibleIds_sublist continues (fun row => row.userId = userId)
        (fun row => row.userId = userId) (fun row later after owned => ?_) ?_
      · rw [decide_eq_true_eq] at owned ⊢
        exact after.2.1.trans owned
      · exact fun row listed => notHidden (List.mem_map_of_mem listed)
  | userMentions userId =>
      refine visibleIds_sublist continues _ _
        (fun row later after mentioned => mentioned_later continues userId after mentioned) ?_
      exact fun row listed => notHidden (List.mem_map_of_mem listed)
  | userFeed =>
      have activities := orderByDesc_sublist Activity.createdOn
        (rows_sublist_of_grow continues.activities)
      rw [Listing.ids, Listing.ids, userFeed_ids, userFeed_ids]
      refine (filterMap_sublist_of_le fun activity member streamableId listed => ?_).trans
        (activities.filterMap _)
      obtain ⟨created, isCreated, rfl⟩ := Option.map_eq_some_iff.mp listed
      have isListed : created.id ∈ Listing.ids readerId store .userFeed := by
        rw [Listing.ids, userFeed_ids]
        exact List.mem_filterMap.mpr ⟨activity, member, listed⟩
      obtain ⟨later, isLater, sameId⟩ :=
        feedStreamable_later continues isCreated (notHidden isListed)
          (notHidden (show Listing.Loses readerId store .userFeed (.following _) from rfl))
      rw [isLater, Option.map_some, sameId]
  | comments streamableId =>
      refine orderedIds_sublist continues.comments fun row member later after isListed => ?_
      have listed : row ∈ orderByDesc Comment.createdOn (commentsOf store streamableId) :=
        mem_orderByDesc.mpr (Table.mem_select.mpr ⟨member, isListed⟩)
      obtain ⟨isOn, notDeleted⟩ := (Bool.and_eq_true _ _).mp isListed
      obtain ⟨sameId, sameStreamable, -, sameDate, -, stays⟩ := after
      refine ⟨(Bool.and_eq_true _ _).mpr ⟨?_, ?_⟩, sameId, sameDate⟩
      · rw [decide_eq_true_eq] at isOn ⊢
        exact sameStreamable.trans isOn
      · rw [Bool.not_eq_true'] at notDeleted ⊢
        exact stays (notHidden (List.mem_map_of_mem listed)) notDeleted

end Grow

/-! ### Pages -/

/-- The identifiers that an answer lists. -/
def ReadAnswer.ids : ReadAnswer → List Long
  | .streamables page => page.items.map FullStreamableDto.id
  | .comments page => page.items.map CommentDto.id
  | .users page => page.items.map UserDto.id
  | .streamable dto => [dto.id]
  | .profile dto => [dto.user.id]
  | .hashtags _ | .activities _ => []

section Pages

variable {readerId : Long} {search : SearchPlatform} {store : Store}

/-- The paging service cuts pages, whatever limit is asked for. -/
theorem isPage_getItems {Row : Type} (rows : List Row) (offset : Nat) (limit : Option Int) :
    IsPage rows offset (getItems rows (some (offset : Int)) limit).items := by
  have sameOffset : mathAbs (offset : Int) = offset := by
    rw [mathAbs, if_neg (by omega), Int.natAbs_natCast]
  rw [getItems, getPage]
  simp only [Option.map_some, Option.getD_some, sameOffset]
  generalize (if (limit.map mathAbs).getD pageSizeDefaultValue > pageSizeMaxValue then
    pageSizeMaxValue else (limit.map mathAbs).getD pageSizeDefaultValue) = maxResults
  rw [queryList, Int.toNat_natCast]
  split
  · exact isPage_drop rows offset
  · exact isPage_take rows offset (by omega)

theorem isPage_streamablesPage (readerId : Long) (store : Store) (rows : List Streamable)
    (offset : Nat) (limit : Option Int) :
    IsPage (rows.map Streamable.id) offset
      (ReadAnswer.ids (.streamables (streamablesPage readerId store rows (some (offset : Int))
        limit))) := by
  rw [ReadAnswer.ids, streamablesPage, PagedList.map, List.map_map]
  exact (isPage_getItems rows offset limit).map Streamable.id

/-- An endpoint refuses all pages alike, or answers with the pages of its listing. -/
theorem answer_listing (listing : Listing) :
    (∃ thrown, ∀ offset limit,
      listing.operation.answer search readerId store offset limit = .error thrown) ∨
    ∀ (offset : Nat) limit, ∃ answer,
      listing.operation.answer search readerId store (some (offset : Int)) limit = .ok answer ∧
        IsPage (listing.ids readerId store) offset answer.ids := by
  cases checked : checkUserStatus readerId store with
  | error thrown =>
      refine .inl ⟨thrown, fun offset limit => ?_⟩
      rw [ReadOperation.answer, checked]
      rfl
  | ok passed =>
      cases listing with
      | newestStreamables | userFeed =>
          refine .inr fun offset limit =>
            ⟨_, ?_, isPage_streamablesPage readerId store _ offset limit⟩
          rw [ReadOperation.answer, checked]
          rfl
      | userStreamables userId | userMentions userId =>
          cases found : store.users.find userId with
          | none =>
              refine .inl ⟨restApiException .userNotFound
                ("User with id " ++ toString userId ++ " not found"), fun offset limit => ?_⟩
              rw [ReadOperation.answer, checked, Listing.operation, ReadOperation.perform, ofUser,
                found]
              rfl
          | some user =>
              refine .inr fun offset limit =>
                ⟨_, ?_, isPage_streamablesPage readerId store _ offset limit⟩
              rw [ReadOperation.answer, checked, Listing.operation, ReadOperation.perform, ofUser,
                found]
              rfl
      | comments streamableId =>
          cases found : store.streamables.find streamableId with
          | none =>
              refine .inl ⟨streamableNotFound streamableId, fun offset limit => ?_⟩
              rw [ReadOperation.answer, checked, Listing.operation, ReadOperation.perform,
                getCommentsResult, ofStreamable, found]
              rfl
          | some streamable =>
              refine .inr fun offset limit => ⟨.comments ((getItems (orderByDesc Comment.createdOn
                (commentsOf store streamableId)) (some (offset : Int)) limit).map
                  (Comment.toDto readerId store)), ?_, ?_⟩
              · rw [ReadOperation.answer, checked, Listing.operation, ReadOperation.perform,
                  getCommentsResult, ofStreamable, found]
                rfl
              · rw [ReadAnswer.ids, PagedList.map, List.map_map]
                exact (isPage_getItems _ offset limit).map Comment.id

end Pages

/-! ### Walks -/

/-- The greatest offset that a request can ask for. -/
def maxInteger : Nat := 2147483647

/-- What the reader gets of a listing from an offset on; nothing when the endpoint refuses. -/
def nextPage (search : SearchPlatform) (readerId : Long) (listing : Listing) (limit : Option Int)
    (state : PoolState SiteWorld Job) (offset : Nat) : Option (List Long) :=
  if offset ≤ maxInteger then
    match listing.operation.answer search readerId state.world.store (some (offset : Int))
        limit with
    | .ok answer => some answer.ids
    | .error _ => none
  else none

/-- The site with a reader who asks for the pages of a listing, each with a limit. -/
def pageWalkStep (environment : Environment) (uploaded : Job → Bool) (search : SearchPlatform)
    (readerId : Long) (listing : Listing) :
    Walk (PoolState SiteWorld Job) Long → WalkAction (PoolAction SiteRequest Job) (Option Int) →
      Option (Walk (PoolState SiteWorld Job) Long) :=
  walkStep (poolStep (siteServer environment uploaded)) (nextPage search readerId listing)

/-- The step hides nothing that the listing has. -/
def KeepsListed (readerId : Long) (listing : Listing) (state : PoolState SiteWorld Job)
    (action : PoolAction SiteRequest Job) : Prop :=
  ∀ thing ∈ siteHides action, ¬ listing.Loses readerId state.world.store thing

section Walks

variable {environment : Environment} {uploaded : Job → Bool} {search : SearchPlatform}
  {readerId : Long} {listing : Listing}

theorem isPage_nextPage {limit : Option Int} {state : PoolState SiteWorld Job} {offset : Nat}
    {items : List Long} (got : nextPage search readerId listing limit state offset = some items) :
    IsPage (listing.ids readerId state.world.store) offset items := by
  rw [nextPage, Option.ite_none_right_eq_some] at got
  obtain ⟨-, got⟩ := got
  rcases answer_listing listing with ⟨thrown, refused⟩ | answered
  · rw [refused] at got
    cases got
  · obtain ⟨answer, isAnswer, isPage⟩ := answered offset limit
    rw [isAnswer] at got
    exact Option.some.inj got ▸ isPage

/-- An endpoint that answers for one offset answers for all. -/
theorem isSome_nextPage {limit : Option Int} {state : PoolState SiteWorld Job}
    (answers : (nextPage search readerId listing limit state 0).isSome = true) {offset : Nat}
    (sent : offset ≤ maxInteger) :
    (nextPage search readerId listing limit state offset).isSome = true := by
  rw [nextPage, if_pos (Nat.zero_le _)] at answers
  rw [nextPage, if_pos sent]
  rcases answer_listing listing with ⟨thrown, refused⟩ | answered
  · rw [refused] at answers
    cases answers
  · obtain ⟨answer, isAnswer, -⟩ := answered offset limit
    rw [isAnswer]
    rfl

theorem siteKept_grows {state next : PoolState SiteWorld Job} {action : PoolAction SiteRequest Job}
    (kept : SiteKept state) (keeps : KeepsListed readerId listing state action)
    (taken : poolStep (siteServer environment uploaded) state action = some next) :
    SiteKept next ∧ (listing.ids readerId state.world.store).Sublist
      (listing.ids readerId next.world.store) := by
  obtain ⟨stillKept, continues⟩ := siteKept_step kept taken
  exact ⟨stillKept, listing.ids_sublist continues keeps⟩

variable (environment uploaded search readerId listing)

/-- What a reader has of a listing: nothing that it began with has been skipped; an empty page says
that the reader has all of it; and, where the endpoint answers, that page comes by asking alone. -/
structure MissesNothing (first : List Long) (walk : Walk (PoolState SiteWorld Job) Long) :
    Prop where
  covers : Covers first (listing.ids readerId walk.state.world.store) walk.given
  hasAll : ∀ limit,
    nextPage search readerId listing limit walk.state walk.given.length = some [] →
      (∀ id ∈ first, id ∈ walk.given) ∧
        walk.given.length = (listing.ids readerId walk.state.world.store).length
  ends : ∀ limit, (nextPage search readerId listing limit walk.state 0).isSome = true →
    (listing.ids readerId walk.state.world.store).length ≤ maxInteger →
      ∃ rest, Reaches (pageWalkStep environment uploaded search readerId listing)
          (duringWalk (KeepsListed readerId listing)) walk ⟨walk.state, walk.given ++ rest⟩ ∧
        nextPage search readerId listing limit walk.state (walk.given ++ rest).length = some []

/-- However the requests of a reader and the steps of the site are interleaved, the reader misses
nothing of the listing as it was at the start. -/
theorem pageWalk_missesNothing (nThreads : Nat) (start : SiteWorld)
    (refers : start.store.RefersToRows) (cached : start.CachesUsers)
    (state : PoolState SiteWorld Job)
    (reached : Reaches (poolStep (siteServer environment uploaded)) unrestricted
      (.initial nThreads start) state)
    (walk : Walk (PoolState SiteWorld Job) Long)
    (walked : Reaches (pageWalkStep environment uploaded search readerId listing)
      (duringWalk (KeepsListed readerId listing)) ⟨state, []⟩ walk) :
    MissesNothing environment uploaded search readerId listing
      (listing.ids readerId state.world.store) walk := by
  let listed (state : PoolState SiteWorld Job) : List Long :=
    listing.ids readerId state.world.store
  obtain ⟨-, covers⟩ := covers_of_reaches listed
    (fun _ _ _ _ got => isPage_nextPage got)
    (fun _ _ _ kept keeps taken => siteKept_grows kept keeps taken)
    (siteKept_of_reaches refers cached reached) walked
  refine ⟨covers, fun limit ended => covers.ended (isPage_nextPage ended),
    fun limit answers few => ?_⟩
  refine exists_ended listed limit (fun _ _ got => isPage_nextPage got) (fun offset within => ?_)
    covers.short
  exact isSome_nextPage answers (Nat.le_trans within few)

end Walks

/-! ### A walk -/

/-- Rows that came at rising dates are listed in reverse. -/
theorem orderByDesc_of_rising {Row : Type} {key : Row → Int} {rows : List Row}
    (rising : rows.Pairwise fun first second => key first < key second) :
    orderByDesc key rows = rows.reverse := by
  have listed : (orderByDesc key rows).Perm rows.reverse :=
    (List.mergeSort_perm _ _).trans (List.reverse_perm rows).symm
  have falling : rows.reverse.Pairwise fun first second => key second ≤ key first :=
    List.pairwise_reverse.mpr (rising.imp Int.le_of_lt)
  have distinct : (rows.map key).Nodup := List.pairwise_map.mpr (rising.imp Int.ne_of_lt)
  refine listed.eq_of_pairwise ?_ (ordered_orderByDesc key rows) falling
  intro first second isFirst isSecond notEarlier notLater
  exact List.inj_on_of_nodup_map distinct (mem_orderByDesc.mp isFirst)
    (List.mem_reverse.mp isSecond) (Int.le_antisymm notLater notEarlier)

def anotherGraffiti (now : Long) : PoolAction SiteRequest Job :=
  .serve (.feed (.createStreamableGraffiti 1 ⟨none, none, none, none, none, none, none, none⟩
    true "G") now now)

/-- The site after the first graffiti of Alice and others at the given dates. -/
def siteWith (dates : List Long) : PoolState SiteWorld Job :=
  siteAfter (firstGraffiti ++ dates.map anotherGraffiti)

/-- Alice reads the newest graffitis one by one, while two more come. -/
def scrolling : List (WalkAction (PoolAction SiteRequest Job) (Option Int)) :=
  [.act (anotherGraffiti 6), .ask (some 1), .act (anotherGraffiti 7), .ask (some 1), .ask (some 1)]

def shownTo (readerId : Long) (state : PoolState SiteWorld Job) : List Streamable :=
  state.world.store.streamables.select fun row => row.visibleTo readerId

theorem nextPage_of_rising {readerId : Long} {state : PoolState SiteWorld Job}
    (rising : (shownTo readerId state).Pairwise fun first second =>
      first.createdOn < second.createdOn)
    (active : checkUserStatus readerId state.world.store = .ok ()) {offset : Nat}
    (sent : offset ≤ maxInteger) :
    nextPage plainSearch readerId .newestStreamables (some 1) state offset =
      some ((getItems (shownTo readerId state).reverse (some (offset : Int)) (some 1)).items.map
        Streamable.id) := by
  have newest : newestStreamables readerId state.world.store = (shownTo readerId state).reverse :=
    orderByDesc_of_rising rising
  rw [nextPage, if_pos sent, Listing.operation, ReadOperation.answer, active,
    ReadOperation.perform, newest]
  show some (List.map _ (List.map _ _)) = _
  rw [List.map_map]
  rfl

/-- The second graffiti is given twice. -/
theorem run_scrolling :
    run (pageWalkStep (plainEnvironment .entry) (fun _ => true) plainSearch 1 .newestStreamables)
        ⟨siteAfter firstGraffiti, []⟩ scrolling =
      some ⟨siteWith [6, 7], [2, 2, 1]⟩ := by
  have created : poolStep plainSite (siteAfter firstGraffiti) (anotherGraffiti 6) =
      some (siteWith [6]) := by rfl
  have createdAgain : poolStep plainSite (siteWith [6]) (anotherGraffiti 7) =
      some (siteWith [6, 7]) := by rfl
  have first : nextPage plainSearch 1 .newestStreamables (some 1) (siteWith [6]) 0 = some [2] :=
    (nextPage_of_rising (by decide +kernel) (by rfl) (by decide)).trans (by decide +kernel)
  have second : nextPage plainSearch 1 .newestStreamables (some 1) (siteWith [6, 7]) 1 =
      some [2] :=
    (nextPage_of_rising (by decide +kernel) (by rfl) (by decide)).trans (by decide +kernel)
  have third : nextPage plainSearch 1 .newestStreamables (some 1) (siteWith [6, 7]) 2 =
      some [1] :=
    (nextPage_of_rising (by decide +kernel) (by rfl) (by decide)).trans (by decide +kernel)
  rw [plainSite] at created createdAgain
  simp only [scrolling, run, pageWalkStep, walkStep, created, createdAgain, Option.map_some,
    List.length_nil, List.length_cons, List.nil_append, List.cons_append, first, second, third,
    Nat.zero_add, Nat.reduceAdd]

theorem pageWalk_missesNothing_scrolling :
    MissesNothing (plainEnvironment .entry) (fun _ => true) plainSearch 1 .newestStreamables
      (Listing.ids 1 (siteAfter firstGraffiti).world.store .newestStreamables)
      ⟨siteWith [6, 7], [2, 2, 1]⟩ := by
  refine pageWalk_missesNothing (plainEnvironment .entry) (fun _ => true) plainSearch 1
    .newestStreamables 1 emptySite emptySite_refers emptySite_caches (siteAfter firstGraffiti)
    (reaches_of_run_unrestricted firstGraffiti run_firstGraffiti) _
    (reaches_of_run scrolling (fun walk action member => ?_) run_scrolling)
  cases action with
  | ask limit => trivial
  | act action =>
      simp only [scrolling, List.mem_cons, WalkAction.act.injEq, reduceCtorEq, List.not_mem_nil,
        or_false, false_or] at member
      rcases member with rfl | rfl <;> exact fun thing hidden => by cases hidden

end GraffiTab
