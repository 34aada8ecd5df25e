/-
This file asks whether the texts of comments and streamables stay within their limit.

A text of more than 5000 characters is refused by `validateText`, which each operation has
to call itself. `editComment` and `createStreamableGraffitiFromExternalResource` do not, and
a text of blanks passes it at any length. What is not refused is left to the column, which
holds 5000 characters: it rejects a longer text in the strict mode of the database and cuts
it otherwise.
-/

import GraffiTab.AssetPipeline
import GraffiTab.Library.Runs

namespace GraffiTab

open Tables Runs

/-! ### Columns -/

/-- What the column keeps of a text, if it takes it. Blanks beyond its end are cut in every mode. -/
def columnValue (strict : Bool) (text : String) : Option String :=
  if text.length ≤ 5000 then some text
  else if strict && (text.toList.drop 5000).any (· ≠ ' ') then none
  else some (String.ofList (text.toList.take 5000))

/-- The same for a column that can be null. -/
def nullableColumnValue (strict : Bool) : Option String → Option (Option String)
  | none => some none
  | some text => (columnValue strict text).map some

/-- How a call ends; the database can reject what the call has written. -/
inductive TextOutcome where
  | returned
  | thrown (thrown : Throwable)
  | rejected
  deriving DecidableEq

/-- A call whose text goes through a column when its transaction is flushed. -/
def flushed {Text Value : Type} (column : Text → Option Text)
    (call : Text → Store → Store × Except Throwable Value) (text : Text) (store : Store) :
    Store × TextOutcome :=
  match call text store with
  | (next, .error thrown) => (next, .thrown thrown)
  | (_, .ok _) =>
      match column text with
      | some stored => ((call stored store).1, .returned)
      | none => (store, .rejected)

/-! ### Calls -/

/-- The transaction of `CommentService.postComment`. -/
def postCommentBody (currentUserId streamableId : Long) (text : String) (now : Long) :
    Transaction Comment := fun store => do
  match store.streamables.find streamableId with
  | none => throw (streamableNotFound streamableId)
  | some streamable =>
      let currentUser ← loadCurrentUser currentUserId store
      let comment : Comment :=
        { id := 0
          streamableId := streamable.id
          userId := currentUser.id
          text
          createdOn := now
          updatedOn := none
          isDeleted := false }
      return ({ comment with id := store.comments.nextId },
        { store with comments := store.comments.insert comment })

inductive TextCall where
  | postComment (currentUserId streamableId : Long) (text : String) (now : Long)
  | editComment (currentUserId streamableId commentId : Long) (newText : String) (now : Long)
  | createStreamableGraffiti (currentUserId : Long) (dto : StreamableGraffitiDto)
      (transferred : Bool) (guid : String) (now : Long)
  | createStreamableGraffitiFromExternalResource (currentUserId : Long)
      (dto : StreamableGraffitiDto) (guid : String) (now : Long)
  | editStreamableGraffiti (currentUserId streamableId : Long) (dto : StreamableGraffitiDto)
      (transferred : Bool) (guid : String) (now : Long)

def TextCall.text : TextCall → Option String
  | .postComment _ _ text _ => some text
  | .editComment _ _ _ newText _ => some newText
  | .createStreamableGraffiti _ dto _ _ _ => dto.text
  | .createStreamableGraffitiFromExternalResource _ dto _ _ => dto.text
  | .editStreamableGraffiti _ _ dto _ _ _ => dto.text

/-- The stored graffiti of a call that creates one. -/
def createGraffitiWithText (currentUserId : Long) (dto : StreamableGraffitiDto)
    (asset : Long → Asset) (now : Long) (text : Option String) (store : Store) :
    Store × Except Throwable Streamable :=
  executeInTransactionWithResult
    (createStreamableInTransaction currentUserId { dto with text } asset now) store

/-- What a call leaves in the database, and how it ends. -/
def TextCall.perform (strict : Bool) (store : Store) : TextCall → Store × TextOutcome
  | .postComment currentUserId streamableId text now =>
      match validateText (some text) with
      | .error thrown => (store, .thrown thrown)
      | .ok () =>
          flushed (columnValue strict)
            (fun text => executeInTransactionWithResult
              (postCommentBody currentUserId streamableId text now)) text store
  | .editComment currentUserId streamableId commentId newText now =>
      flushed (columnValue strict)
        (fun text => transaction
          (GraffiTab.editComment currentUserId streamableId commentId text now)) newText store
  | .createStreamableGraffiti currentUserId dto transferred guid now =>
      match validateText dto.text, transferAssetFile transferred with
      | .error thrown, _ => (store, .thrown thrown)
      | .ok (), .error thrown => (store, .thrown thrown)
      | .ok (), .ok () =>
          flushed (nullableColumnValue strict)
            (createGraffitiWithText currentUserId dto (fun id => .processing id guid) now)
            dto.text store
  | .createStreamableGraffitiFromExternalResource currentUserId dto guid now =>
      match dto.asset with
      | none => (store, .thrown .nullPointerException)
      | some _ =>
          flushed (nullableColumnValue strict)
            (createGraffitiWithText currentUserId dto (fun id => .completed id guid) now)
            dto.text store
  | .editStreamableGraffiti currentUserId streamableId dto transferred guid now =>
      match GraffiTab.editStreamableGraffiti currentUserId streamableId dto transferred guid now
        store with
      | (next, .ok _) => (next, .returned)
      | (next, .error thrown) => (next, .thrown thrown)

def textStep (strict : Bool) (store : Store) (call : TextCall) : Option Store :=
  some (call.perform strict store).1

/-! ### The limit -/

def ShortTexts (store : Store) : Prop :=
  (∀ comment ∈ store.comments.rows, textLength comment.text ≤ 5000) ∧
    ∀ streamable ∈ store.streamables.rows, ∀ text ∈ streamable.text, textLength text ≤ 5000

def TextCall.IsTooLong (call : TextCall) : Prop := ∃ text ∈ call.text, 5000 < textLength text

def textTooLong : Throwable := restApiException .textTooLong "Text sent is too long"

/-- All stored texts stay within the limit, and a call with a longer text is refused and changes
nothing; in every run whose calls meet the condition. -/
def KeepsTextsShort (strict : Bool) (condition : Store → TextCall → Prop) : Prop :=
  ∀ start, ShortTexts start → ∀ state, Reaches (textStep strict) condition start state →
    ShortTexts state ∧ ∀ call, condition state call → call.IsTooLong →
      call.perform strict state = (state, .thrown textTooLong)

/-- The operation calls `validateText`. -/
def TextCall.validates : TextCall → Bool
  | .postComment .. | .createStreamableGraffiti .. | .editStreamableGraffiti .. => true
  | .editComment .. | .createStreamableGraffitiFromExternalResource .. => false

/-- A text beyond the limit has a character that is no blank, and the operation validates it. -/
def ValidatesLongTexts (_store : Store) (call : TextCall) : Prop :=
  call.IsTooLong → call.validates = true ∧ hasText call.text = true

/-! ### Lengths -/

section Lengths

variable {strict : Bool} {text stored : String}

/-- A character of a text takes one or two units of its length in Java. -/
theorem length_le_textLength (text : String) : text.length ≤ textLength text := by
  have counted (chars : List Char) (length : Nat) : length + chars.length ≤
      chars.foldl (fun length char => length + if char.toNat < 65536 then 1 else 2) length := by
    induction chars generalizing length with
    | nil => exact Nat.le_refl length
    | cons char rest inductionHypothesis =>
        rw [List.foldl_cons, List.length_cons]
        refine le_trans ?_ (inductionHypothesis _)
        split <;> omega
  have counts := counted text.toList 0
  rwa [Nat.zero_add, String.length_toList] at counts

/-- A column keeps a text within the limit as it is. -/
theorem columnValue_short (short : textLength text ≤ 5000) :
    columnValue strict text = some text :=
  if_pos ((length_le_textLength text).trans short)

theorem nullableColumnValue_short {text : Option String}
    (short : ∀ value ∈ text, textLength value ≤ 5000) :
    nullableColumnValue strict text = some text := by
  cases text with
  | none => rfl
  | some value => rw [nullableColumnValue, columnValue_short (short value rfl), Option.map_some]

theorem validateText_eq_error {text : Option String} {thrown : Throwable} :
    validateText text = .error thrown ↔
      thrown = textTooLong ∧ hasText text = true ∧ 5000 < textLength (text.getD "") := by
  rw [validateText]
  split
  · rename_i refused
    simp only [Bool.and_eq_true, decide_eq_true_eq] at refused
    exact ⟨fun same => ⟨(Except.error.inj same).symm, refused⟩,
      fun both => congrArg Except.error both.1.symm⟩
  · rename_i passed
    simp only [Bool.and_eq_true, decide_eq_true_eq] at passed
    exact iff_of_false nofun fun both => passed both.2

end Lengths

/-! ### What a call stores -/

section Storing

variable {store next : Store} {text : Option String}

/-- Every text of the next store was stored before or is the given one. -/
def StoresText (text : Option String) (store next : Store) : Prop :=
  (∀ comment ∈ next.comments.rows,
    (∃ old ∈ store.comments.rows, comment.text = old.text) ∨ some comment.text = text) ∧
  ∀ streamable ∈ next.streamables.rows,
    (∃ old ∈ store.streamables.rows, streamable.text = old.text) ∨ streamable.text = text

theorem StoresText.of_eq (comments : next.comments = store.comments)
    (streamables : next.streamables = store.streamables) : StoresText text store next :=
  ⟨fun comment member => .inl ⟨comment, comments ▸ member, rfl⟩,
    fun streamable member => .inl ⟨streamable, streamables ▸ member, rfl⟩⟩

theorem StoresText.shortTexts (stores : StoresText text store next) (kept : ShortTexts store)
    (short : ∀ value ∈ text, textLength value ≤ 5000) : ShortTexts next := by
  refine ⟨fun comment member => ?_, fun streamable member value isText => ?_⟩
  · rcases stores.1 comment member with ⟨old, oldMember, same⟩ | same
    · rw [same]
      exact kept.1 old oldMember
    · exact short comment.text same.symm
  · rcases stores.2 streamable member with ⟨old, oldMember, same⟩ | same
    · exact kept.2 old oldMember value (same ▸ isText)
    · exact short value (same ▸ isText)

theorem storesText_transaction {Value : Type} {body : Transaction Value}
    (stores : ∀ value next, body store = .ok (value, next) → StoresText text store next) :
    StoresText text store (transaction body store).1 :=
  transaction_keeps (StoresText text store) (.of_eq rfl rfl) stores

theorem storesText_executeInTransactionWithResult {Value : Type} {body : Transaction Value}
    (stores : ∀ value next, body store = .ok (value, next) → StoresText text store next) :
    StoresText text store (executeInTransactionWithResult body store).1 :=
  executeInTransactionWithResult_keeps (StoresText text store) (.of_eq rfl rfl) stores

theorem storesText_postCommentBody {currentUserId streamableId : Long} {text : String}
    {now : Long} {comment : Comment}
    (returned : postCommentBody currentUserId streamableId text now store = .ok (comment, next)) :
    StoresText (some text) store next := by
  unfold postCommentBody at returned
  split at returned
  · exact absurd returned throw_ne_ok
  · obtain ⟨currentUser, -, rest⟩ := bind_eq_ok.mp returned
    obtain ⟨-, rfl⟩ := Prod.mk.inj (Except.ok.inj rest)
    refine ⟨fun stored member => ?_, fun streamable member => .inl ⟨streamable, member, rfl⟩⟩
    rcases Table.mem_insert.mp member with old | rfl
    · exact .inl ⟨stored, old, rfl⟩
    · exact .inr rfl

theorem storesText_editComment {currentUserId streamableId commentId : Long} {newText : String}
    {now : Long} {comment : Comment}
    (returned : editComment currentUserId streamableId commentId newText now store =
      .ok (comment, next)) : StoresText (some newText) store next := by
  unfold editComment changeComment at returned
  split at returned
  · exact absurd returned throw_ne_ok
  split at returned
  · exact absurd returned throw_ne_ok
  obtain ⟨currentUser, -, rest⟩ := bind_eq_ok.mp returned
  split at rest
  · obtain ⟨-, rfl⟩ := Prod.mk.inj (Except.ok.inj rest)
    refine ⟨fun stored member => ?_, fun streamable member => .inl ⟨streamable, member, rfl⟩⟩
    rcases Table.mem_set.mp member with ⟨rfl, -⟩ | ⟨old, -⟩
    · exact .inr rfl
    · exact .inl ⟨stored, old, rfl⟩
  · exact absurd rest throw_ne_ok

theorem storesText_createGraffitiWithText (currentUserId : Long) (dto : StreamableGraffitiDto)
    (asset : Long → Asset) (now : Long) (text : Option String) (store : Store) :
    StoresText text store (createGraffitiWithText currentUserId dto asset now text store).1 := by
  refine storesText_executeInTransactionWithResult fun streamable next returned => ?_
  obtain ⟨currentUser, -, rest⟩ := bind_eq_ok.mp returned
  obtain ⟨-, rfl⟩ := Prod.mk.inj (Except.ok.inj rest)
  refine ⟨fun comment member => .inl ⟨comment, member, rfl⟩, fun stored member => ?_⟩
  rcases Table.mem_insert.mp member with old | rfl
  · exact .inl ⟨stored, old, rfl⟩
  · exact .inr rfl

/-- An edit of a graffiti keeps its text. -/
theorem storesText_editStreamableGraffiti (currentUserId streamableId : Long)
    (dto : StreamableGraffitiDto) (transferred : Bool) (guid : String) (now : Long)
    (text : Option String) (store : Store) :
    StoresText text store
      (editStreamableGraffiti currentUserId streamableId dto transferred guid now store).1 := by
  unfold editStreamableGraffiti
  split
  · exact .of_eq rfl rfl
  · exact .of_eq rfl rfl
  · refine storesText_executeInTransactionWithResult fun streamable next returned => ?_
    obtain ⟨own, found, rest⟩ := bind_eq_ok.mp returned
    split at rest
    · exact absurd rest throw_ne_ok
    · obtain ⟨-, rfl⟩ := Prod.mk.inj (Except.ok.inj rest)
      refine ⟨fun comment member => .inl ⟨comment, member, rfl⟩, fun stored member => ?_⟩
      rcases Table.mem_set.mp member with ⟨rfl, -⟩ | ⟨old, -⟩
      · exact .inl ⟨own, Table.mem_of_find (find_of_ownStreamable found).1, rfl⟩
      · exact .inl ⟨stored, old, rfl⟩

end Storing

/-! ### Calls with a short and with a long text -/

section Calls

variable {strict : Bool} {store : Store} {call : TextCall}

/-- A text that the column keeps is stored as the call has it. -/
theorem flushed_fst {Text Value : Type} {column : Text → Option Text}
    {write : Text → Store → Store × Except Throwable Value} {text : Text}
    (kept : column text = some text) :
    (flushed column write text store).1 = (write text store).1 := by
  unfold flushed
  rw [kept]
  split
  · rename_i next thrown same
    rw [same]
  · rfl

/-- What a call throws with its text, it throws before the flush. -/
theorem flushed_snd_ne {Text Value : Type} {column : Text → Option Text}
    {write : Text → Store → Store × Except Throwable Value} {text : Text} {thrown : Throwable}
    (never : (write text store).2 ≠ .error thrown) :
    (flushed column write text store).2 ≠ .thrown thrown := by
  unfold flushed
  split
  · rename_i next other same
    rw [same] at never
    exact fun isThrown => never (congrArg Except.error (TextOutcome.thrown.inj isThrown))
  · split <;> exact nofun

theorem executeInTransactionWithResult_ne {Value : Type} (body : Transaction Value)
    (exception : RestApiException) :
    (executeInTransactionWithResult body store).2 ≠ .error (.restApi exception) := by
  rcases executeInTransactionWithResult_cases body store with
    ⟨value, next, -, same⟩ | ⟨thrown, -, same⟩
  · rw [same]
    exact nofun
  · rw [same]
    exact nofun

theorem editComment_ne (currentUserId streamableId commentId : Long) (newText : String)
    (now : Long) :
    (transaction (editComment currentUserId streamableId commentId newText now) store).2 ≠
      .error textTooLong := by
  have never : editComment currentUserId streamableId commentId newText now store ≠
      .error textTooLong := by
    unfold editComment changeComment
    split
    · exact nofun
    split
    · exact nofun
    · unfold loadCurrentUser
      split
      · change (if _ then _ else _) ≠ _
        split <;> exact nofun
      · exact nofun
  rcases transaction_cases (editComment currentUserId streamableId commentId newText now) store
    with ⟨comment, next, -, same⟩ | ⟨thrown, failed, same⟩
  · rw [same]
    exact nofun
  · rw [same]
    rw [failed] at never
    exact fun isThrown => never (congrArg Except.error (Except.error.inj isThrown))

/-- A short text is the only one that a call can add. -/
theorem storesText_perform (short : ∀ value ∈ call.text, textLength value ≤ 5000) :
    StoresText call.text store (call.perform strict store).1 := by
  cases call with
  | postComment currentUserId streamableId text now =>
      rw [TextCall.perform]
      split
      · exact .of_eq rfl rfl
      · rw [flushed_fst (columnValue_short (short text rfl))]
        exact storesText_executeInTransactionWithResult fun _ _ => storesText_postCommentBody
  | editComment currentUserId streamableId commentId newText now =>
      rw [TextCall.perform, flushed_fst (columnValue_short (short newText rfl))]
      exact storesText_transaction fun _ _ => storesText_editComment
  | createStreamableGraffiti currentUserId dto transferred guid now =>
      rw [TextCall.perform]
      split
      · exact .of_eq rfl rfl
      · exact .of_eq rfl rfl
      · have shortText : ∀ value ∈ dto.text, textLength value ≤ 5000 := short
        rw [flushed_fst (nullableColumnValue_short shortText)]
        exact storesText_createGraffitiWithText currentUserId dto _ now dto.text store
  | createStreamableGraffitiFromExternalResource currentUserId dto guid now =>
      rw [TextCall.perform]
      split
      · exact .of_eq rfl rfl
      · have shortText : ∀ value ∈ dto.text, textLength value ≤ 5000 := short
        rw [flushed_fst (nullableColumnValue_short shortText)]
        exact storesText_createGraffitiWithText currentUserId dto _ now dto.text store
  | editStreamableGraffiti currentUserId streamableId dto transferred guid now =>
      have stores := storesText_editStreamableGraffiti currentUserId streamableId dto transferred
        guid now dto.text store
      rw [TextCall.perform]
      split
      · rename_i next edited same
        rw [same] at stores
        exact stores
      · rename_i next thrown same
        rw [same] at stores
        exact stores

/-- What `validateText` refuses is not stored. -/
theorem perform_refused (validates : call.validates = true)
    (refused : validateText call.text = .error textTooLong) :
    call.perform strict store = (store, .thrown textTooLong) := by
  cases call with
  | postComment currentUserId streamableId text now =>
      have invalid : validateText (some text) = .error textTooLong := refused
      simp only [TextCall.perform, invalid]
  | editComment => exact absurd validates Bool.false_ne_true
  | createStreamableGraffiti currentUserId dto transferred guid now =>
      have invalid : validateText dto.text = .error textTooLong := refused
      simp only [TextCall.perform, invalid]
  | createStreamableGraffitiFromExternalResource => exact absurd validates Bool.false_ne_true
  | editStreamableGraffiti currentUserId streamableId dto transferred guid now =>
      have invalid : validateText dto.text = .error textTooLong := refused
      simp only [TextCall.perform, editStreamableGraffiti, invalid]

/-- Nothing but `validateText` throws its exception. -/
theorem perform_ne
    (passes : call.validates = true → validateText call.text ≠ .error textTooLong) :
    (call.perform strict store).2 ≠ .thrown textTooLong := by
  cases call with
  | postComment currentUserId streamableId text now =>
      rw [TextCall.perform]
      split
      · rename_i thrown refused
        intro isThrown
        exact passes rfl (refused.trans (congrArg Except.error (TextOutcome.thrown.inj isThrown)))
      · exact flushed_snd_ne (executeInTransactionWithResult_ne _ _)
  | editComment currentUserId streamableId commentId newText now =>
      rw [TextCall.perform]
      exact flushed_snd_ne (editComment_ne currentUserId streamableId commentId newText now)
  | createStreamableGraffiti currentUserId dto transferred guid now =>
      rw [TextCall.perform]
      split
      · rename_i thrown refused
        intro isThrown
        exact passes rfl (refused.trans (congrArg Except.error (TextOutcome.thrown.inj isThrown)))
      · rename_i thrown valid failed
        rintro ⟨⟩
        cases transferred <;> cases failed
      · exact flushed_snd_ne (executeInTransactionWithResult_ne _ _)
  | createStreamableGraffitiFromExternalResource currentUserId dto guid now =>
      rw [TextCall.perform]
      split
      · exact nofun
      · exact flushed_snd_ne (executeInTransactionWithResult_ne _ _)
  | editStreamableGraffiti currentUserId streamableId dto transferred guid now =>
      rw [TextCall.perform]
      split
      · exact nofun
      · rename_i next thrown failed
        rintro ⟨⟩
        unfold editStreamableGraffiti at failed
        split at failed
        · rename_i refused
          obtain ⟨-, same⟩ := Prod.mk.inj failed
          exact passes rfl (refused.trans (congrArg Except.error (Except.error.inj same)))
        · rename_i notTransferred
          obtain ⟨-, same⟩ := Prod.mk.inj failed
          obtain rfl := Except.error.inj same
          cases transferred <;> cases notTransferred
        · exact executeInTransactionWithResult_ne _ _ (congrArg Prod.snd failed)

/-- A long text is refused exactly by the operations that validate it, and only when it has a
character that is no blank. -/
theorem refused_iff (long : call.IsTooLong) :
    call.perform strict store = (store, .thrown textTooLong) ↔
      call.validates = true ∧ hasText call.text = true := by
  obtain ⟨value, isText, exceeds⟩ := long
  have invalid : validateText call.text = .error textTooLong ↔ hasText call.text = true := by
    rw [validateText_eq_error, Option.mem_def.mp isText]
    exact ⟨fun refused => refused.2.1, fun hasChar => ⟨rfl, hasChar, exceeds⟩⟩
  constructor
  · intro refused
    by_contra notRefused
    refine perform_ne (fun validates isInvalid => ?_) (congrArg Prod.snd refused)
    exact notRefused ⟨validates, invalid.mp isInvalid⟩
  · rintro ⟨validates, hasChar⟩
    exact perform_refused validates (invalid.mpr hasChar)

/-- In every run in which long texts are validated and have a character that is no blank, the
stored texts stay within the limit and longer ones are refused. -/
theorem keepsTextsShort_of_validatesLongTexts (strict : Bool) :
    KeepsTextsShort strict ValidatesLongTexts := by
  intro start short state reached
  refine ⟨?_, fun call validated long => (refused_iff long).mpr (validated long)⟩
  refine reached.invariant ShortTexts short fun store call next kept validated taken => ?_
  obtain rfl := Option.some.inj taken
  by_cases long : call.IsTooLong
  · rw [(refused_iff long).mpr (validated long)]
    exact kept
  · have isShort : ∀ value ∈ call.text, textLength value ≤ 5000 :=
      fun value isText => not_lt.mp fun exceeds => long ⟨value, isText, exceeds⟩
    exact (storesText_perform isShort).shortTexts kept isShort

end Calls

/-! ### A long text that is not validated -/

/-- A comment of alice on her own graffiti. -/
def commentedGraffiti : Store :=
  let graffiti : Streamable :=
    { id := 0, userId := 1, createdOn := 0, updatedOn := none, isPrivate := false
      isFlagged := false, isDeleted := false, text := none
      asset := some (.processing 1 "guid"), hashtags := []
      latitude := none, longitude := none, roll := none, yaw := none, pitch := none }
  let comment : Comment :=
    { id := 0, streamableId := 1, userId := 1, text := "nice", createdOn := 0
      updatedOn := none, isDeleted := false }
  { Store.empty with
    users := Table.empty.insert (plainUser 0 "alice")
    streamables := Table.empty.insert graffiti
    comments := Table.empty.insert comment
    lastAssetId := 1 }

/-- The call in which alice changes it to a text of 5001 letters. -/
def longEdit : TextCall :=
  .editComment 1 1 1 (String.ofList (List.replicate 5001 'a')) 1

/-- In both modes of the database, the edit does not end with the exception for long texts. -/
theorem not_keepsTextsShort :
    ¬ KeepsTextsShort true unrestricted ∧ ¬ KeepsTextsShort false unrestricted := by
  have long : longEdit.IsTooLong := by
    refine ⟨_, rfl, lt_of_lt_of_le ?_ (length_le_textLength _)⟩
    rw [String.length_ofList, List.length_replicate]
    exact Nat.lt_succ_self 5000
  have shortStart : ShortTexts commentedGraffiti := ⟨by decide, by decide⟩
  have notKept (strict : Bool) : ¬ KeepsTextsShort strict unrestricted := by
    intro keeps
    obtain ⟨-, refuses⟩ := keeps commentedGraffiti shortStart commentedGraffiti .refl
    have validated := (refused_iff long).mp (refuses longEdit trivial long)
    exact Bool.false_ne_true validated.1
  exact ⟨notKept true, notKept false⟩

end GraffiTab
