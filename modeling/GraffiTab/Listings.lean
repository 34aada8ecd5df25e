/-
This file asks whether the six listings of streamables have the right rows.

The named queries are written over joins with the likers, the streamables and the
notifications of a user, and each repeats the rule for hidden items. A query over a join
lists a streamable once for each row it is joined with; the mentions are made distinct,
the popular streamables are grouped, and of the streamables of a user each has one owner.
The liked streamables have nothing of the kind, so all six listings are right exactly if
no streamable that is shown has two rows for a like of the user.
-/

import GraffiTab.EdgeLists
import GraffiTab.Library.Joins
import GraffiTab.Reads

namespace GraffiTab

open Tables Joins Runs PersistentLists

/-! ### The named queries -/

section Queries

variable (currentUserId userId : Long) (store : Store)

/-- `Streamable.getPopularStreamables`: a left join with the likers, grouped by the streamable. -/
def Streamable.getPopularStreamables : List Streamable :=
  (orderByDesc (fun group => (group.2 : Int)) <|
    countGroups <|
      (leftJoin store.streamables.rows fun row => likersOf store row.id).filter fun pair =>
        pair.1.visibleTo currentUserId).map Prod.fst

/-- `Streamable.getLikedStreamables`: a join with the likers. -/
def Streamable.getLikedStreamables : List Streamable :=
  orderByDesc Streamable.createdOn <|
    ((innerJoin store.streamables.rows fun row => likersOf store row.id).filter fun pair =>
      pair.1.visibleTo currentUserId && pair.2 = userId).map Prod.fst

/-- `u.streamables`. -/
def streamablesOf (user : User) : List Streamable :=
  store.streamables.select fun row => row.userId = user.id

/-- `Streamable.getUserStreamables`: a join of the user with the own streamables. -/
def Streamable.getUserStreamables : List Streamable :=
  orderByDesc Streamable.createdOn <|
    ((innerJoin store.users.rows (streamablesOf store)).filter fun pair =>
      pair.1.id = userId && pair.2.visibleTo currentUserId).map Prod.snd

/-- `Streamable.getPrivateStreamables`. -/
def Streamable.getPrivateStreamables : List Streamable :=
  orderByDesc Streamable.createdOn <|
    ((innerJoin store.users.rows (streamablesOf store)).filter fun pair =>
      pair.1.id = currentUserId && (!pair.2.isDeleted && pair.2.isPrivate)).map Prod.snd

/-- `n.mentionedStreamable`, which only a mention has. -/
def Notification.mentionedStreamable (notification : Notification) : List Streamable :=
  match notification.content with
  | .mention _ mentionedStreamable _ => (store.streamables.find mentionedStreamable).toList
  | _ => []

/-- `n.notificationType = 'MENTION'`. -/
def Notification.isMention (notification : Notification) : Bool :=
  match notification.content with
  | .mention _ _ _ => true
  | _ => false

/-- `u.notifications`, each with its mentioned streamable or null. -/
def notificationsOf (user : User) : List (Notification × Option Streamable) :=
  leftJoin (store.notifications.select fun row => row.userId = user.id)
    (Notification.mentionedStreamable store)

/-- `Streamable.getUserMentions`: the distinct streamables of a join of the user with the
notifications. -/
def Streamable.getUserMentions : List Streamable :=
  orderByDesc Streamable.createdOn <|
    (((innerJoin store.users.rows (notificationsOf store)).filter fun pair =>
      pair.1.id = userId && (pair.2.1.isMention &&
        pair.2.2.any fun row => row.visibleTo currentUserId)).filterMap fun pair =>
          pair.2.2).dedup

/-! ### What they should list -/

/-- A streamable that is not deleted, and public or the current user's own. -/
def Shown (row : Streamable) : Prop :=
  row ∈ store.streamables.rows ∧ row.isDeleted = false ∧
    (row.isPrivate = false ∨ row.userId = currentUserId)

/-- The user has a notification that mentions him in the streamable. -/
def MentionedIn (row : Streamable) : Prop :=
  ∃ notification ∈ store.notifications.rows, notification.userId = userId ∧
    ∃ mentioner comment, notification.content = .mention mentioner row.id comment

/-- Each listing has what it should list, once and in its order. -/
structure ListingsExact : Prop where
  newest : Listed (newestStreamables currentUserId store) (Shown currentUserId store)
    Streamable.createdOn
  popular : Listed (Streamable.getPopularStreamables currentUserId store)
    (Shown currentUserId store) fun row => (likersOf store row.id).length
  liked : Listed (Streamable.getLikedStreamables currentUserId userId store)
    (fun row => Shown currentUserId store row ∧ userId ∈ likersOf store row.id)
    Streamable.createdOn
  created : Listed (Streamable.getUserStreamables currentUserId userId store)
    (fun row => Shown currentUserId store row ∧ row.userId = userId) Streamable.createdOn
  mentions : Listed (Streamable.getUserMentions currentUserId userId store)
    (fun row => Shown currentUserId store row ∧ MentionedIn userId store row)
    Streamable.createdOn
  hidden : Listed (Streamable.getPrivateStreamables currentUserId store)
    (fun row => row ∈ store.streamables.rows ∧ row.isDeleted = false ∧ row.isPrivate = true ∧
      row.userId = currentUserId) Streamable.createdOn

/-- No streamable that is shown has two rows for a like of the user. -/
def LikesOnce : Prop :=
  ∀ row, Shown currentUserId store row → (likersOf store row.id).count userId ≤ 1

end Queries

/-! ### Ordered rows -/

theorem mem_orderByDesc {Item : Type} {key : Item → Int} {rows : List Item} {row : Item} :
    row ∈ orderByDesc key rows ↔ row ∈ rows :=
  List.mem_mergeSort

theorem nodup_orderByDesc {Item : Type} {key : Item → Int} {rows : List Item} :
    (orderByDesc key rows).Nodup ↔ rows.Nodup :=
  (List.mergeSort_perm rows _).nodup_iff

theorem ordered_orderByDesc {Item : Type} (key : Item → Int) (rows : List Item) :
    (orderByDesc key rows).Pairwise fun first second => key second ≤ key first := by
  have transitive : ∀ first second third : Item, decide (key second ≤ key first) = true →
      decide (key third ≤ key second) = true → decide (key third ≤ key first) = true := by
    intro first second third before after
    exact decide_eq_true (le_trans (of_decide_eq_true after) (of_decide_eq_true before))
  have total : ∀ first second : Item,
      (decide (key second ≤ key first) || decide (key first ≤ key second)) = true := by
    intro first second
    rw [Bool.or_eq_true, decide_eq_true_eq, decide_eq_true_eq]
    exact le_total _ _
  exact (List.pairwise_mergeSort transitive total rows).imp of_decide_eq_true

/-- Distinct rows of a condition are listed in order. -/
theorem listed_orderByDesc {Item : Type} {key : Item → Int} {rows : List Item}
    {condition : Item → Prop} (distinct : rows.Nodup)
    (exactly : ∀ row, row ∈ rows ↔ condition row) :
    Listed (orderByDesc key rows) condition key where
  once := nodup_orderByDesc.mpr distinct
  exactly row := mem_orderByDesc.trans (exactly row)
  ordered := ordered_orderByDesc key rows

theorem nodup_rows {Item : Type} [Identified Item] (table : Table Item) : table.rows.Nodup :=
  List.Nodup.of_map _ table.distinct

theorem nodup_select {Item : Type} [Identified Item] (table : Table Item)
    (condition : Item → Bool) : (table.select condition).Nodup :=
  (nodup_rows table).filter _

/-- The row of an identifier is the only one. -/
theorem filter_id {Item : Type} [Identified Item] {table : Table Item} {identifier : Int}
    {row : Item} (found : table.find identifier = some row) :
    table.rows.filter (fun other => Identified.id other = identifier) = [row] := by
  have member := Table.mem_of_find found
  have isRow : table.rows.filter (fun other => Identified.id other = identifier) ⊆ [row] := by
    intro other listed
    obtain ⟨otherMember, sameId⟩ := List.mem_filter.mp listed
    rw [List.mem_singleton]
    exact Table.eq_of_id_eq otherMember member
      ((of_decide_eq_true sameId).trans (Table.id_of_find found).symm)
  have listed : row ∈ table.rows.filter fun other => Identified.id other = identifier :=
    List.mem_filter.mpr ⟨member, decide_eq_true (Table.id_of_find found)⟩
  exact List.perm_singleton.mp ((List.perm_ext_iff_of_nodup ((nodup_rows table).filter _)
    (List.nodup_singleton row)).mpr fun other =>
      ⟨fun isListed => isRow isListed, fun same => List.mem_singleton.mp same ▸ listed⟩)

section Listed

variable {currentUserId userId : Long} {store : Store}

theorem shown_iff {row : Streamable} :
    Shown currentUserId store row ↔
      row ∈ store.streamables.rows ∧ row.visibleTo currentUserId = true := by
  rw [Shown, Streamable.visibleTo, Bool.and_eq_true, Bool.not_eq_true', Bool.or_eq_true,
    Bool.not_eq_true', decide_eq_true_eq]

/-! ### The rows of the queries -/

theorem listed_newest :
    Listed (newestStreamables currentUserId store) (Shown currentUserId store)
      Streamable.createdOn :=
  listed_orderByDesc (nodup_select _ _) fun _ => Table.mem_select.trans shown_iff.symm

/-- The groups are the streamables that are shown, with the number of their likers. -/
theorem groups_perm :
    (countGroups ((leftJoin store.streamables.rows fun row => likersOf store row.id).filter
        fun pair => pair.1.visibleTo currentUserId)).Perm
      ((store.streamables.select fun row => row.visibleTo currentUserId).map fun row =>
        (row, (likersOf store row.id).length)) := by
  rw [filter_leftJoin fun row : Streamable => row.visibleTo currentUserId]
  exact countGroups_leftJoin (nodup_select _ _)

theorem getPopularStreamables_perm_shown :
    (Streamable.getPopularStreamables currentUserId store).Perm
      (store.streamables.select fun row => row.visibleTo currentUserId) := by
  refine ((List.mergeSort_perm _ _).trans groups_perm).map Prod.fst |>.trans ?_
  rw [List.map_map]
  exact List.Perm.of_eq (List.map_id _)

theorem listed_popular :
    Listed (Streamable.getPopularStreamables currentUserId store) (Shown currentUserId store)
      fun row => (likersOf store row.id).length := by
  have groups : (Streamable.getPopularStreamables currentUserId store).Perm
      (store.streamables.select fun row => row.visibleTo currentUserId) :=
    getPopularStreamables_perm_shown
  refine ⟨groups.nodup_iff.mpr (nodup_select _ _), fun row =>
    groups.mem_iff.trans (Table.mem_select.trans shown_iff.symm), ?_⟩
  rw [Streamable.getPopularStreamables, List.pairwise_map]
  refine (ordered_orderByDesc _ _).imp_of_mem fun firstListed secondListed ordered => ?_
  have counted : ∀ group ∈ orderByDesc (fun group : Streamable × Nat => (group.2 : Int))
      (countGroups ((leftJoin store.streamables.rows fun row => likersOf store row.id).filter
        fun pair => pair.1.visibleTo currentUserId)),
      group.2 = (likersOf store group.1.id).length := by
    intro group listed
    obtain ⟨row, -, rfl⟩ := List.mem_map.mp (groups_perm.mem_iff.mp (mem_orderByDesc.mp listed))
    rfl
  rw [counted _ firstListed, counted _ secondListed] at ordered
  exact ordered

/-- A streamable that is shown is listed for each row of a like of the user. -/
theorem nodup_liked_iff :
    (((innerJoin store.streamables.rows fun row => likersOf store row.id).filter fun pair =>
      pair.1.visibleTo currentUserId && pair.2 = userId).map Prod.fst).Nodup ↔
        LikesOnce currentUserId userId store := by
  rw [nodup_map_fst_filter_innerJoin (nodup_rows _)]
  have counts : ∀ row : Streamable, row.visibleTo currentUserId = true →
      ((likersOf store row.id).filter fun liker =>
        row.visibleTo currentUserId && liker = userId).length =
          (likersOf store row.id).count userId := by
    intro row visible
    simp only [visible, Bool.true_and]
    exact List.countP_eq_length_filter.symm
  constructor
  · intro lengths row shown
    obtain ⟨member, visible⟩ := shown_iff.mp shown
    exact counts row visible ▸ lengths row member
  · intro once row member
    cases visible : row.visibleTo currentUserId with
    | true =>
        have count := once row (shown_iff.mpr ⟨member, visible⟩)
        rw [← counts row visible] at count
        simpa only [visible] using count
    | false =>
        simp only [visible, Bool.false_and, List.filter_false, List.length_nil, Nat.zero_le]

theorem mem_getLikedStreamables {row : Streamable} :
    row ∈ Streamable.getLikedStreamables currentUserId userId store ↔
      Shown currentUserId store row ∧ userId ∈ likersOf store row.id := by
  rw [Streamable.getLikedStreamables, mem_orderByDesc, mem_map_fst_filter_innerJoin, shown_iff,
    and_assoc]
  refine and_congr_right fun _ => ?_
  constructor
  · rintro ⟨liker, member, satisfies⟩
    rw [Bool.and_eq_true, decide_eq_true_eq] at satisfies
    exact ⟨satisfies.1, satisfies.2 ▸ member⟩
  · rintro ⟨visible, member⟩
    exact ⟨userId, member, by rw [visible, decide_eq_true rfl]; rfl⟩

theorem listed_liked_iff :
    Listed (Streamable.getLikedStreamables currentUserId userId store)
        (fun row => Shown currentUserId store row ∧ userId ∈ likersOf store row.id)
        Streamable.createdOn ↔
      LikesOnce currentUserId userId store := by
  constructor
  · intro listed
    exact nodup_liked_iff.mp (nodup_orderByDesc.mp listed.once)
  · intro once
    exact ⟨nodup_orderByDesc.mpr (nodup_liked_iff.mpr once), fun _ => mem_getLikedStreamables,
      ordered_orderByDesc _ _⟩

/-- The streamables of the one user in the join. -/
theorem map_snd_streamablesOf {user : User} (known : store.users.find userId = some user)
    (condition : Streamable → Bool) :
    ((innerJoin store.users.rows (streamablesOf store)).filter fun pair =>
      pair.1.id = userId && condition pair.2).map Prod.snd =
        store.streamables.select fun row => row.userId = userId && condition row := by
  have only := filter_id known
  rw [map_snd_filter_innerJoin (fun other : User => decide (other.id = userId)) only,
    streamablesOf, Table.select, Table.select, List.filter_filter]
  refine List.filter_congr fun row _ => ?_
  rw [show user.id = userId from Table.id_of_find known, Bool.and_comm]

theorem listed_created {user : User} (known : store.users.find userId = some user) :
    Listed (Streamable.getUserStreamables currentUserId userId store)
      (fun row => Shown currentUserId store row ∧ row.userId = userId) Streamable.createdOn := by
  rw [Streamable.getUserStreamables, map_snd_streamablesOf known]
  refine listed_orderByDesc (nodup_select _ _) fun row => ?_
  rw [Table.mem_select, Bool.and_eq_true, decide_eq_true_eq, shown_iff, and_assoc]
  exact and_congr_right fun _ => And.comm

theorem listed_hidden {user : User} (known : store.users.find currentUserId = some user) :
    Listed (Streamable.getPrivateStreamables currentUserId store)
      (fun row => row ∈ store.streamables.rows ∧ row.isDeleted = false ∧ row.isPrivate = true ∧
        row.userId = currentUserId) Streamable.createdOn := by
  rw [Streamable.getPrivateStreamables,
    map_snd_streamablesOf known fun row => !row.isDeleted && row.isPrivate]
  refine listed_orderByDesc (nodup_select _ _) fun row => ?_
  rw [Table.mem_select, Bool.and_eq_true, Bool.and_eq_true, decide_eq_true_eq, Bool.not_eq_true']
  exact and_congr_right fun _ => And.comm.trans and_assoc

theorem mentionedStreamable_iff {notification : Notification} {row : Streamable} :
    row ∈ notification.mentionedStreamable store ↔
      row ∈ store.streamables.rows ∧
        ∃ mentioner comment, notification.content = .mention mentioner row.id comment := by
  rw [Notification.mentionedStreamable]
  split
  · rename_i mentioner mentioned comment content
    rw [Option.mem_toList, Table.find_eq_some, content]
    refine and_congr_right fun _ => ⟨fun sameId => ⟨mentioner, comment, ?_⟩, ?_⟩
    · exact congrArg (NotificationContent.mention mentioner · comment) sameId.symm
    · rintro ⟨otherMentioner, otherComment, same⟩
      injection same with _ sameId
      exact sameId.symm
  · rename_i other
    refine iff_of_false List.not_mem_nil ?_
    rintro ⟨-, mentioner, comment, content⟩
    exact other mentioner row.id comment content

/-- The left join with the mentioned streamables finds what the notifications of a user mention. -/
theorem listed_mentions {user : User} (known : store.users.find userId = some user) :
    Listed (Streamable.getUserMentions currentUserId userId store)
      (fun row => Shown currentUserId store row ∧ MentionedIn userId store row)
      Streamable.createdOn := by
  have ofUser : ∀ pairs : List (User × Notification × Option Streamable),
      pairs.filterMap (fun pair => pair.2.2) = (pairs.map Prod.snd).filterMap Prod.snd := by
    intro pairs
    rw [List.filterMap_map]
    rfl
  rw [Streamable.getUserMentions, ofUser,
    map_snd_filter_innerJoin (fun other : User => decide (other.id = userId)) (filter_id known)
      fun pair : Notification × Option Streamable =>
        pair.1.isMention && pair.2.any fun row => row.visibleTo currentUserId]
  refine listed_orderByDesc (List.nodup_dedup _) fun row => ?_
  rw [List.mem_dedup, List.mem_filterMap, shown_iff]
  constructor
  · rintro ⟨⟨notification, other⟩, listed, rfl⟩
    obtain ⟨joined, satisfies⟩ := List.mem_filter.mp listed
    obtain ⟨own, mentioned⟩ := mem_leftJoin_some.mp joined
    obtain ⟨member, content⟩ := mentionedStreamable_iff.mp mentioned
    obtain ⟨stored, ofUser⟩ := Table.mem_select.mp own
    have sameUser : notification.userId = userId :=
      (of_decide_eq_true ofUser).trans (Table.id_of_find known)
    exact ⟨⟨member, (Bool.and_eq_true _ _ ▸ satisfies).2⟩, notification, stored, sameUser, content⟩
  · rintro ⟨⟨member, visible⟩, notification, stored, sameUser, content⟩
    refine ⟨(notification, some row), List.mem_filter.mpr ⟨mem_leftJoin_some.mpr ⟨?_, ?_⟩, ?_⟩, rfl⟩
    · exact Table.mem_select.mpr ⟨stored, decide_eq_true
        (sameUser.trans (Table.id_of_find known).symm)⟩
    · exact mentionedStreamable_iff.mpr ⟨member, content⟩
    · obtain ⟨mentioner, comment, isContent⟩ := content
      simp only [Notification.isMention, isContent, Option.any_some, visible, Bool.and_self]

/-! ### The listings of the services -/

/-- The services page the streamables of the named queries; where a query leaves ties, in some
order. -/
theorem getPopularStreamables_perm :
    (Streamable.getPopularStreamables currentUserId store).Perm
      (popularStreamables currentUserId store) := by
  refine getPopularStreamables_perm_shown.trans (List.Perm.symm ?_)
  refine ((List.mergeSort_perm _ _).map Prod.fst).trans ?_
  rw [List.map_map]
  exact List.Perm.of_eq (List.map_id _)

theorem getLikedStreamables_eq :
    Streamable.getLikedStreamables currentUserId userId store =
      likedStreamables currentUserId store userId := by
  have narrowed : (innerJoin store.streamables.rows fun row => likersOf store row.id).filter
      (fun pair => pair.1.visibleTo currentUserId && pair.2 = userId) =
      (innerJoin (store.streamables.select fun row => row.visibleTo currentUserId) fun row =>
        likersOf store row.id).filter fun pair => pair.2 = userId := by
    rw [Table.select, ← filter_innerJoin, List.filter_filter]
    exact List.filter_congr fun pair _ => Bool.and_comm _ _
  rw [Streamable.getLikedStreamables, likedStreamables, narrowed, map_fst_filter_innerJoin]
  refine congrArg (orderByDesc Streamable.createdOn) (congrArg (List.flatMap · _) ?_)
  funext row
  exact List.map_const'.symm

theorem getUserStreamables_eq {user : User} (known : store.users.find userId = some user) :
    Streamable.getUserStreamables currentUserId userId store =
      userStreamables currentUserId store userId := by
  rw [Streamable.getUserStreamables, map_snd_streamablesOf known]
  rfl

theorem getPrivateStreamables_eq {user : User}
    (known : store.users.find currentUserId = some user) :
    Streamable.getPrivateStreamables currentUserId store =
      privateStreamables currentUserId store := by
  rw [Streamable.getPrivateStreamables,
    map_snd_streamablesOf known fun row => !row.isDeleted && row.isPrivate, privateStreamables]
  refine congrArg (orderByDesc Streamable.createdOn) (congrArg store.streamables.select ?_)
  funext row
  exact (Bool.and_assoc _ _ _).symm

theorem mentions_iff {notification : Notification} {streamableId : Long} :
    notification.mentions streamableId = true ↔
      ∃ mentioner comment, notification.content = .mention mentioner streamableId comment := by
  rw [Notification.mentions]
  split
  · rename_i mentioner mentioned comment content
    rw [decide_eq_true_eq, content]
    constructor
    · rintro rfl
      exact ⟨mentioner, comment, rfl⟩
    · rintro ⟨otherMentioner, otherComment, same⟩
      injection same with _ sameId
  · rename_i other
    refine iff_of_false Bool.false_ne_true ?_
    rintro ⟨mentioner, comment, content⟩
    exact other mentioner streamableId comment content

theorem mem_userMentions {row : Streamable} :
    row ∈ userMentions currentUserId store userId ↔
      Shown currentUserId store row ∧ MentionedIn userId store row := by
  rw [userMentions, mem_orderByDesc, Table.mem_select, Bool.and_eq_true, List.any_eq_true,
    shown_iff, and_assoc]
  refine and_congr_right fun _ => And.comm.trans (and_congr_right fun _ => ?_)
  refine exists_congr fun notification => and_congr_right fun _ => ?_
  rw [Bool.and_eq_true, decide_eq_true_eq, mentions_iff]

theorem getUserMentions_perm {user : User} (known : store.users.find userId = some user) :
    (Streamable.getUserMentions currentUserId userId store).Perm
      (userMentions currentUserId store userId) :=
  (List.perm_ext_iff_of_nodup (listed_mentions known).once
    (nodup_orderByDesc.mpr (nodup_select _ _))).mpr fun row =>
      ((listed_mentions known).exactly row).trans mem_userMentions.symm

end Listed

/-! ### Listings along runs -/

/-- The store with the rows of the two tables of edges. -/
def EdgeState.toStore (state : EdgeState) : Store :=
  { state.store with
    following := state.edges.rows.filterMap fun row =>
      match row.owner with
      | .following userId => some ⟨userId, row.element⟩
      | .likers _ => none
    likes := state.edges.rows.filterMap fun row =>
      match row.owner with
      | .likers streamableId => some ⟨streamableId, row.element⟩
      | .following _ => none }

theorem likersOf_toStore (state : EdgeState) (streamableId : Long) :
    likersOf state.toStore streamableId = state.elements (.likers streamableId) := by
  rw [likersOf, EdgeState.toStore, EdgeState.elements, rowsOf, Table.select]
  induction state.edges.rows with
  | nil => rfl
  | cons row rest inductionHypothesis =>
      rcases row with ⟨id, owner, element, orderKey⟩
      cases owner with
      | following userId =>
          simp only [List.filterMap_cons, List.filter_cons, reduceCtorEq, decide_false,
            Bool.false_eq_true, if_false]
          exact inductionHypothesis
      | likers other =>
          by_cases same : other = streamableId
          · simp only [List.filterMap_cons, List.filter_cons, same, decide_true, if_true,
              List.map_cons, inductionHypothesis]
          · simp only [List.filterMap_cons, List.filter_cons, same, EdgeList.likers.injEq,
              decide_false, Bool.false_eq_true, if_false]
            exact inductionHypothesis

theorem likesOnce_of_nodup {currentUserId userId : Long} {store : Store}
    (once : ∀ streamableId, (likersOf store streamableId).Nodup) :
    LikesOnce currentUserId userId store :=
  fun row _ => List.nodup_iff_count_le_one.mp (once row.id) userId

theorem listingsExact_of_likesOnce {currentUserId userId : Long} {store : Store}
    {currentUser user : User} (current : store.users.find currentUserId = some currentUser)
    (known : store.users.find userId = some user) (once : LikesOnce currentUserId userId store) :
    ListingsExact currentUserId userId store :=
  ⟨listed_newest, listed_popular, listed_liked_iff.mpr once, listed_created known,
    listed_mentions known, listed_hidden current⟩

/-- The listings of a store are exact if and only if no streamable that is shown has two rows for
a like of the user. -/
theorem listingsExact_iff {currentUserId userId : Long} {store : Store} {currentUser user : User}
    (current : store.users.find currentUserId = some currentUser)
    (known : store.users.find userId = some user) :
    ListingsExact currentUserId userId store ↔ LikesOnce currentUserId userId store := by
  constructor
  · intro listed
    exact listed_liked_iff.mp listed.liked
  · intro once
    exact listingsExact_of_likesOnce current known once

theorem listingsExact_iff_likedOnce : ListingsExact 1 3 likedOnce.toStore := by
  refine (listingsExact_iff rfl rfl).mpr (likesOnce_of_nodup fun streamableId => ?_)
  rw [likersOf_toStore]
  exact edgeStart_likedOnce.once (.likers streamableId)

/-- At the end of every run whose steps meet the condition, the listings are exact for every
current user and every user that they are asked about. -/
def ListingsExactAlong (condition : EdgeState → EdgeAction → Prop) : Prop :=
  ∀ start final, EdgeStart start → Reaches edgeStep condition start final →
    ∀ currentUserId userId currentUser user,
      final.toStore.users.find currentUserId = some currentUser →
        final.toStore.users.find userId = some user →
          ListingsExact currentUserId userId final.toStore

/-- The listings are exact along runs in which each transaction finds its list as it was read. -/
theorem listingsExactAlong_of_findsListAsRead : ListingsExactAlong FindsListAsRead := by
  intro start final started reached currentUserId userId currentUser user current known
  have kept : EdgesKept final :=
    reached.invariant EdgesKept started.kept
      fun _ _ _ holds permitted taken => edgesKept_step holds permitted taken
  refine listingsExact_of_likesOnce current known (likesOnce_of_nodup fun streamableId => ?_)
  rw [likersOf_toStore]
  exact kept.once (.likers streamableId)

/-! ### A streamable that is liked twice -/

/-- The graffiti before anybody likes it. -/
def notLiked : EdgeState := { likedOnce with edges := .empty }

/-- Alice sends a like twice, and both requests have read the likers before one commits. -/
def likedTwice : EdgeState :=
  (run edgeStep notLiked
    [.begin (.like 1 1), .begin (.like 1 1), .write 0, .commit 0, .write 0, .commit 0]).getD
      notLiked

theorem edgeStart_notLiked : EdgeStart notLiked where
  stored list := by
    cases list <;> exact rfl
  once _ := List.nodup_nil
  notSelf _ := List.not_mem_nil
  idle := rfl
  unlogged := rfl

/-- The liked streamables of alice have the graffiti twice. -/
theorem not_listingsExactAlong : ¬ ListingsExactAlong unrestricted := by
  intro always
  have executed : run edgeStep notLiked
      [.begin (.like 1 1), .begin (.like 1 1), .write 0, .commit 0, .write 0, .commit 0] =
        some likedTwice := by
    rfl
  have holds := always notLiked likedTwice edgeStart_notLiked
    (reaches_of_run_unrestricted _ executed) 1 1 _ _ rfl rfl
  have once := listed_liked_iff.mp holds.liked
  have graffiti : Shown 1 likedTwice.toStore { likedGraffiti with id := 1 } :=
    ⟨List.mem_singleton_self _, rfl, .inl rfl⟩
  exact absurd (once _ graffiti) (by decide)

end GraffiTab
