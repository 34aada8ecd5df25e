/-
This file asks whether the two changes of a comment are made exactly by its author, under the
streamable that the comment belongs to.

The path of the request names a streamable and a comment. Both are looked up, but the code never
asks whether they belong together, so the author can change a comment under any streamable that
exists. An edited text goes through its column when the transaction is flushed, where a missing
one is rejected.
-/

import GraffiTab.TextLimits

namespace GraffiTab

open Tables

/-! ### Requests -/

/-- What a request does to a comment; the text of an edit can be missing in the JSON. -/
inductive CommentChange where
  | deleteComment
  | editComment (newText : Option String) (now : Long)
  deriving DecidableEq

structure CommentRequest where
  currentUserId : Long
  streamableId : Long
  commentId : Long
  change : CommentChange
  deriving DecidableEq

/-- What the column of a comment's text keeps; it must not be null. -/
def requiredColumnValue (strict : Bool) (text : Option String) : Option (Option String) :=
  (text.bind (columnValue strict)).map some

/-- What the request leaves in the database, and how it ends. -/
def CommentRequest.perform (strict : Bool) (request : CommentRequest) (store : Store) :
    Store × TextOutcome :=
  match request.change with
  | .deleteComment =>
      flushed some (fun _ : Unit => transaction
        (deleteComment request.currentUserId request.streamableId request.commentId)) () store
  | .editComment newText now =>
      flushed (requiredColumnValue strict)
        (fun text => transaction
          (editComment request.currentUserId request.streamableId request.commentId
            (text.getD "") now)) newText store

/-! ### What should be answered -/

/-- The comment with the change. -/
def CommentChange.apply : CommentChange → Comment → Comment
  | .deleteComment, comment => { comment with isDeleted := true }
  | .editComment newText now, comment =>
      { comment with text := newText.getD "", updatedOn := some now }

/-- The request is for the caller's own comment of an existing streamable. -/
structure CommentRequest.IsFor (request : CommentRequest) (store : Store) (comment : Comment) :
    Prop where
  exists_streamable : ∃ streamable, store.streamables.find request.streamableId = some streamable
  found : store.comments.find request.commentId = some comment
  belongs : comment.streamableId = request.streamableId
  own : comment.userId = request.currentUserId

/-- The own comment is changed and nothing else is; any other request is refused and changes
nothing. -/
structure ChangesRightly (strict : Bool) (request : CommentRequest) (store : Store) : Prop where
  accepted : ∀ comment, request.IsFor store comment → request.perform strict store =
    ({ store with comments := store.comments.set (request.change.apply comment) }, .returned)
  refused : (¬ ∃ comment, request.IsFor store comment) →
    ∃ exception, request.perform strict store = (store, .thrown (.restApi exception))

/-- The column keeps the text of an edit as it is. -/
def CommentChange.IsKept (strict : Bool) : CommentChange → Prop
  | .deleteComment => True
  | .editComment newText _ => ∃ text ∈ newText, columnValue strict text = some text

/-- When the two rows exist, so does the caller; and the author names the streamable of the comment
and a text that the column keeps. -/
def CommentRequest.NamesItsStreamable (strict : Bool) (request : CommentRequest)
    (store : Store) : Prop :=
  ∀ streamable comment, store.streamables.find request.streamableId = some streamable →
    store.comments.find request.commentId = some comment →
      (∃ user, store.users.find request.currentUserId = some user) ∧
        (comment.userId = request.currentUserId →
          comment.streamableId = request.streamableId ∧ request.change.IsKept strict)

/-! ### The outcomes of a change -/

section Outcomes

variable {currentUserId streamableId commentId : Long} {change : Comment → Comment}
  {store : Store} {streamable : Streamable} {comment : Comment} {user : User}

/-- The author's change is made. -/
theorem transaction_changeComment_own
    (streamableFound : store.streamables.find streamableId = some streamable)
    (commentFound : store.comments.find commentId = some comment)
    (userFound : store.users.find currentUserId = some user)
    (own : comment.userId = currentUserId) :
    transaction (changeComment currentUserId streamableId commentId change) store =
      ({ store with comments := store.comments.set (change comment) }, .ok (change comment)) := by
  have loaded := loadCurrentUser_ok.mpr userFound
  have same : user.id = comment.userId := (id_of_loadCurrentUser loaded).trans own.symm
  have body : changeComment currentUserId streamableId commentId change store =
      .ok (change comment, { store with comments := store.comments.set (change comment) }) := by
    simp only [changeComment, streamableFound, commentFound, loaded]
    exact if_pos same
  rw [transaction, body]

/-- A known caller who is not the author is refused. -/
theorem transaction_changeComment_other
    (streamableFound : store.streamables.find streamableId = some streamable)
    (commentFound : store.comments.find commentId = some comment)
    (userFound : store.users.find currentUserId = some user)
    (other : comment.userId ≠ currentUserId) :
    ∃ exception, transaction (changeComment currentUserId streamableId commentId change) store =
      (store, .error (.restApi exception)) := by
  have loaded := loadCurrentUser_ok.mpr userFound
  have different : user.id ≠ comment.userId := by
    rw [id_of_loadCurrentUser loaded]
    exact other.symm
  have body : changeComment currentUserId streamableId commentId change store = .error
      (restApiException .userNotOwner ("The comment with id " ++ toString commentId ++
        " cannot be edited by user with id " ++ toString user.id)) := by
    simp only [changeComment, streamableFound, commentFound, loaded]
    exact if_neg different
  rw [transaction, body]
  exact ⟨_, rfl⟩

/-- Without one of the two rows the change is refused. -/
theorem transaction_changeComment_missing
    (missing : store.streamables.find streamableId = none ∨
      store.comments.find commentId = none) :
    ∃ exception, transaction (changeComment currentUserId streamableId commentId change) store =
      (store, .error (.restApi exception)) := by
  rw [transaction, changeComment]
  cases streamableFound : store.streamables.find streamableId with
  | none => exact ⟨_, rfl⟩
  | some streamable =>
      rw [missing.resolve_left (by rw [streamableFound]; nofun)]
      exact ⟨_, rfl⟩

/-- A caller without a row is met with another exception. -/
theorem transaction_changeComment_unknown
    (streamableFound : store.streamables.find streamableId = some streamable)
    (commentFound : store.comments.find commentId = some comment)
    (unknown : store.users.find currentUserId = none) :
    transaction (changeComment currentUserId streamableId commentId change) store =
      (store, .error .nullPointerException) := by
  have notLoaded : loadCurrentUser currentUserId store = .error .nullPointerException := by
    rw [loadCurrentUser, findUserById, unknown]
  have body : changeComment currentUserId streamableId commentId change store =
      .error .nullPointerException := by
    simp only [changeComment, streamableFound, commentFound, notLoaded]
    rfl
  rw [transaction, body]

end Outcomes

/-! ### The outcomes of a request -/

section Requests

variable {strict : Bool} {request : CommentRequest} {store : Store} {comment : Comment}

/-- What the columns make of the change. -/
def CommentChange.flush (strict : Bool) : CommentChange → Option CommentChange
  | .deleteComment => some .deleteComment
  | .editComment newText now =>
      (requiredColumnValue strict newText).map fun stored => .editComment stored now

/-- The transaction of the request, when the change is another one. -/
def CommentRequest.run (request : CommentRequest) (change : CommentChange) (store : Store) :
    Store × Except Throwable Comment :=
  transaction (changeComment request.currentUserId request.streamableId request.commentId
    change.apply) store

/-- A request runs its change, and once more as its columns keep it. -/
theorem CommentRequest.perform_eq :
    request.perform strict store =
      match request.run request.change store with
      | (next, .error thrown) => (next, .thrown thrown)
      | (_, .ok _) =>
          match request.change.flush strict with
          | some change => ((request.run change store).1, .returned)
          | none => (store, .rejected) := by
  have deletion : transaction (deleteComment request.currentUserId request.streamableId
      request.commentId) = request.run .deleteComment := rfl
  have edit (text : Option String) (now : Long) : transaction (editComment
      request.currentUserId request.streamableId request.commentId (text.getD "") now) =
        request.run (.editComment text now) := rfl
  rw [CommentRequest.perform]
  cases request.change with
  | deleteComment =>
      simp only [flushed, deletion, CommentChange.flush]
      rcases request.run .deleteComment store with ⟨next, thrown | changed⟩ <;> rfl
  | editComment newText now =>
      simp only [flushed, edit, CommentChange.flush]
      rcases request.run (.editComment newText now) store with ⟨next, thrown | changed⟩
      · rfl
      · cases requiredColumnValue strict newText <;> rfl

/-- A refused change refuses the request. -/
theorem CommentRequest.perform_of_thrown {thrown : Throwable}
    (refused : request.run request.change store = (store, .error thrown)) :
    request.perform strict store = (store, .thrown thrown) := by
  rw [perform_eq, refused]

/-- The request of the author is made as the columns keep it. -/
theorem CommentRequest.perform_own (strict : Bool)
    (own : ∀ change, request.run change store =
      ({ store with comments := store.comments.set (change.apply comment) },
        .ok (change.apply comment))) :
    request.perform strict store =
      match request.change.flush strict with
      | some change =>
          ({ store with comments := store.comments.set (change.apply comment) }, .returned)
      | none => (store, .rejected) := by
  rw [perform_eq, own]
  cases request.change.flush strict with
  | none => rfl
  | some change => simp only [own]

theorem CommentChange.id_apply (change : CommentChange) :
    (change.apply comment).id = comment.id := by
  cases change <;> rfl

/-- A change is made as it stands exactly if the column keeps its text. -/
theorem CommentChange.isKept_iff {change : CommentChange} :
    change.IsKept strict ↔
      ∃ kept, change.flush strict = some kept ∧ kept.apply comment = change.apply comment := by
  cases change with
  | deleteComment => exact iff_of_true trivial ⟨_, rfl, rfl⟩
  | editComment newText now =>
      simp only [IsKept, flush, requiredColumnValue]
      cases newText with
      | none => exact iff_of_false nofun nofun
      | some text =>
          cases stored : columnValue strict text with
          | none => simp [stored]
          | some value => simp [stored, apply]

/-- A request that no comment is for has to be refused. -/
theorem changesRightly_of_refused {exception : RestApiException}
    (refused : request.perform strict store = (store, .thrown (.restApi exception)))
    (noneFor : ¬ ∃ comment, request.IsFor store comment) :
    ChangesRightly strict request store :=
  ⟨fun comment isFor => absurd ⟨comment, isFor⟩ noneFor, fun _ => ⟨exception, refused⟩⟩

/-- A request that ends with a null pointer is neither accepted nor refused. -/
theorem changesWrongly_of_nullPointer
    (thrown : request.perform strict store = (store, .thrown .nullPointerException)) :
    ¬ ChangesRightly strict request store := by
  intro rightly
  by_cases isFor : ∃ comment, request.IsFor store comment
  · obtain ⟨comment, isFor⟩ := isFor
    have answer := congrArg Prod.snd (rightly.accepted comment isFor)
    rw [thrown] at answer
    cases answer
  · obtain ⟨exception, refused⟩ := rightly.refused isFor
    have answer := congrArg Prod.snd refused
    rw [thrown] at answer
    cases answer

/-- The change that is written back is the one of the request exactly if their comments are the
same. -/
theorem set_apply_eq {kept change : CommentChange}
    (found : store.comments.find request.commentId = some comment)
    (same : store.comments.set (kept.apply comment) = store.comments.set (change.apply comment)) :
    kept.apply comment = change.apply comment := by
  have stored (change : CommentChange) :
      (store.comments.set (change.apply comment)).find request.commentId =
        some (change.apply comment) := by
    have id : request.commentId = Identified.id (change.apply comment) :=
      (Table.id_of_find found).symm.trans change.id_apply.symm
    rw [id] at found ⊢
    exact Table.find_set_self found
  have keptStored := stored kept
  rw [same, stored change] at keptStored
  exact (Option.some_inj.mp keptStored).symm

/-- Under an existing streamable, the author's own request is answered rightly exactly if it names
the streamable of the comment and its text is kept. -/
theorem changesRightly_own_iff {streamable : Streamable} {user : User}
    (streamableFound : store.streamables.find request.streamableId = some streamable)
    (commentFound : store.comments.find request.commentId = some comment)
    (userFound : store.users.find request.currentUserId = some user)
    (own : comment.userId = request.currentUserId) :
    ChangesRightly strict request store ↔
      comment.streamableId = request.streamableId ∧ request.change.IsKept strict := by
  have performed := CommentRequest.perform_own strict fun change =>
    transaction_changeComment_own streamableFound commentFound userFound own
  by_cases belongs : comment.streamableId = request.streamableId
  · have isFor : request.IsFor store comment :=
      ⟨⟨streamable, streamableFound⟩, commentFound, belongs, own⟩
    rw [and_iff_right belongs, CommentChange.isKept_iff]
    constructor
    · intro rightly
      have answer := rightly.accepted comment isFor
      rw [performed] at answer
      cases flushes : request.change.flush strict with
      | none =>
          rw [flushes] at answer
          cases congrArg Prod.snd answer
      | some kept =>
          rw [flushes] at answer
          have same := congrArg Store.comments (congrArg Prod.fst answer)
          exact ⟨kept, rfl, set_apply_eq commentFound same⟩
    · rintro ⟨kept, flushes, same⟩
      refine ⟨fun other otherFor => ?_, fun noneFor => absurd ⟨comment, isFor⟩ noneFor⟩
      obtain rfl := Option.some_inj.mp (commentFound.symm.trans otherFor.found)
      rw [performed, flushes]
      simp only [same]
  · refine iff_of_false (fun rightly => ?_) fun both => belongs both.1
    have noneFor : ¬ ∃ other, request.IsFor store other := by
      rintro ⟨other, otherFor⟩
      obtain rfl := Option.some_inj.mp (commentFound.symm.trans otherFor.found)
      exact belongs otherFor.belongs
    obtain ⟨exception, refused⟩ := rightly.refused noneFor
    rw [performed] at refused
    cases flushes : request.change.flush strict with
    | none => rw [flushes] at refused; cases congrArg Prod.snd refused
    | some kept => rw [flushes] at refused; cases congrArg Prod.snd refused

/-- The request is answered rightly exactly if, where the two rows exist, the caller does, and the
author names the comment's streamable and a text that the column keeps. -/
theorem changesRightly_iff (strict : Bool) (request : CommentRequest) (store : Store) :
    ChangesRightly strict request store ↔ request.NamesItsStreamable strict store := by
  by_cases missing : store.streamables.find request.streamableId = none ∨
      store.comments.find request.commentId = none
  · obtain ⟨exception, refused⟩ := transaction_changeComment_missing missing
    refine iff_of_true (changesRightly_of_refused (CommentRequest.perform_of_thrown refused) ?_) ?_
    · rintro ⟨comment, ⟨streamable, streamableFound⟩, commentFound, -, -⟩
      rw [streamableFound, commentFound] at missing
      exact missing.elim nofun nofun
    · intro streamable comment streamableFound commentFound
      rw [streamableFound, commentFound] at missing
      exact missing.elim nofun nofun
  obtain ⟨streamableThere, commentThere⟩ := not_or.mp missing
  obtain ⟨streamable, streamableFound⟩ := Option.ne_none_iff_exists'.mp streamableThere
  obtain ⟨comment, commentFound⟩ := Option.ne_none_iff_exists'.mp commentThere
  have names_iff : request.NamesItsStreamable strict store ↔
      (∃ user, store.users.find request.currentUserId = some user) ∧
        (comment.userId = request.currentUserId →
          comment.streamableId = request.streamableId ∧ request.change.IsKept strict) := by
    refine ⟨fun names => names streamable comment streamableFound commentFound, ?_⟩
    rintro condition _ other - otherFound
    obtain rfl := Option.some_inj.mp (commentFound.symm.trans otherFound)
    exact condition
  rw [names_iff]
  cases userFound : store.users.find request.currentUserId with
  | none =>
      refine iff_of_false (changesWrongly_of_nullPointer (CommentRequest.perform_of_thrown
        (transaction_changeComment_unknown streamableFound commentFound userFound))) ?_
      rintro ⟨⟨user, ⟨⟩⟩, -⟩
  | some user =>
      rw [and_iff_right ⟨user, rfl⟩]
      by_cases own : comment.userId = request.currentUserId
      · rw [changesRightly_own_iff streamableFound commentFound userFound own,
          forall_prop_of_true own]
      · obtain ⟨exception, refused⟩ :=
          transaction_changeComment_other streamableFound commentFound userFound own
        refine iff_of_true (changesRightly_of_refused
          (CommentRequest.perform_of_thrown refused) ?_) fun isOwn => absurd isOwn own
        rintro ⟨other, otherFor⟩
        obtain rfl := Option.some_inj.mp (commentFound.symm.trans otherFor.found)
        exact own otherFor.own

end Requests

/-! ### A comment of another streamable -/

/-- Two graffiti of alice, and her comment on the first. -/
def commentBesideGraffiti : Store :=
  let graffiti : Streamable :=
    { id := 0, userId := 1, createdOn := 0, updatedOn := none, isPrivate := false
      isFlagged := false, isDeleted := false, text := none
      asset := some (.processing 2 "guid2"), hashtags := []
      latitude := none, longitude := none, roll := none, yaw := none, pitch := none }
  { commentedGraffiti with
    streamables := commentedGraffiti.streamables.insert graffiti
    lastAssetId := 2 }

/-- alice edits the comment under the second graffiti. -/
def editUnderOther : CommentRequest where
  currentUserId := 1
  streamableId := 2
  commentId := 1
  change := .editComment (some "changed") 1

/-- The edit is made, under a streamable that the comment does not belong to. -/
theorem not_changesRightly : ¬ ChangesRightly true editUnderOther commentBesideGraffiti := by
  intro rightly
  have returned : (editUnderOther.perform true commentBesideGraffiti).2 = .returned := by decide
  obtain ⟨exception, refused⟩ := rightly.refused fun ⟨comment, isFor⟩ => by
    have elsewhere : ∀ comment ∈ commentBesideGraffiti.comments.rows, comment.streamableId ≠ 2 := by
      decide
    exact elsewhere comment (Table.find_eq_some.mp isFor.found).1 isFor.belongs
  rw [refused] at returned
  cases returned

end GraffiTab
