/-
This file asks whether a flagged streamable is reported by exactly one mail, with the right content.

A request reads the row and, if it is not flagged, sets the flag in its transaction; after the
commit it builds the mail. Nothing keeps two requests from reading the row before one of them
commits, so both send a mail. And the body of the mail is built from the language, where the other
mails look up their template: it is the language code.
-/

import GraffiTab.AssetProcessing
import GraffiTab.EmailTemplates
import GraffiTab.TextLimits

namespace GraffiTab

open Tables Runs Placeholders

/-! ### Mails -/

inductive EmailType where
  | activation | activationExternal | resetPassword | feedback | flag
  deriving DecidableEq, Repr

structure Email where
  emailType : EmailType
  subject : Text
  htmlBody : Text
  recipients : List Text
  fromAddress : Text
  fromName : Text
  deriving DecidableEq

/-- What the mails are built from: the bucket of the download links, the subjects and the templates
for the supported languages, and the order in which a hash map lists its entries. Language codes
are plain, and each template for flags has a place for the link. The asset of a streamable is
fetched lazily, so it can be read after the transaction only if the caller keeps a session open. -/
structure MailEnvironment where
  sessionOpen : Bool
  bucketName : Text
  subject : Text → Text
  flagTemplate : Text → Option Text
  plain : ∀ language, (flagTemplate language).isSome → '@' ∉ language ∧ ':' ∉ language
  hasLink : ∀ language template, flagTemplate language = some template →
    occurrences streamableLinkKey template ≠ 0
  entrySet : List (Entry '@') → List (Entry '@')

section Mails

variable (environment : MailEnvironment)

/-- `AmazonS3DatastoreService.generateDownloadLink`. -/
def generateDownloadLink (assetGuid : String) : Text :=
  "http://".toList ++ environment.bucketName ++ ".s3.amazonaws.com/".toList ++
    (generateKey assetGuid).toList

/-- `Email.flag`: the placeholders are replaced in the language. -/
def Email.flag (placeHolders : List (Entry '@')) (subject language : Text) :
    Except MatcherException Email := do
  let emailBody ← replacePlaceholders (environment.entrySet placeHolders) language
  return {
    emailType := .flag
    subject := subject
    htmlBody := emailBody
    recipients := ["support@graffitab.com".toList]
    fromAddress := "no_reply@graffitab.com".toList
    fromName := "GraffiTab".toList }

/-- The placeholders of the mail about a streamable. -/
def flagData (streamableId : Long) (streamableLink : Text) : EmailData :=
  .flag (toString streamableId).toList streamableLink

/-- `EmailService.sendFlagEmail`, up to the queue. -/
def sendFlagEmail (streamableId : Long) (streamableLink language : Text) :
    Except MatcherException Email :=
  Email.flag environment (flagData streamableId streamableLink).placeholders
    (environment.subject language) language

/-! ### Requests -/

/-- A request to flag a streamable, with the language of its locale. -/
structure FlagRequest where
  streamableId : Long
  language : Text
  deriving DecidableEq

/-- The database, the requests so far, those in their transaction with the row as they have read it,
those that have flagged a row, and the queued mails, each with the request that it comes from. -/
structure FlagState where
  store : Store
  requests : List FlagRequest
  reads : List (FlagRequest × Streamable)
  flagged : List (FlagRequest × Streamable)
  mails : List (FlagRequest × Email)

/-- A request begins and reads, or the transaction at the position commits, or a request that has
flagged a row goes on to its mail. -/
inductive FlagAction where
  | read (request : FlagRequest)
  | commit (position : Nat)
  | send (position : Nat)

/-- `StreamableService.flag`, step by step, for the supported languages. An exception ends the
request. -/
def flagStep (state : FlagState) : FlagAction → Option FlagState
  | .read request =>
      if (environment.flagTemplate request.language).isSome then
        let begun := { state with requests := state.requests ++ [request] }
        match state.store.streamables.find request.streamableId with
        | none => some begun
        | some streamable =>
            if streamable.isFlagged then some begun
            else some { begun with reads := state.reads ++ [(request, streamable)] }
      else none
  | .commit position =>
      match state.reads[position]? with
      | none => none
      | some (request, streamable) =>
          let written := { streamable with isFlagged := true }
          some { state with
            store := state.store.saveStreamable written
            reads := state.reads.eraseIdx position
            flagged := state.flagged ++ [(request, written)] }
  | .send position =>
      match state.flagged[position]? with
      | none => none
      | some (request, streamable) =>
          let rest := { state with flagged := state.flagged.eraseIdx position }
          match streamable.asset with
          | none => some rest
          | some asset =>
              if environment.sessionOpen then
                match sendFlagEmail environment streamable.id
                  (generateDownloadLink environment asset.guid) request.language with
                | .error _ => some rest
                | .ok email => some { rest with mails := state.mails ++ [(request, email)] }
              -- the asset cannot be initialized any more
              else some rest

/-- No request has come yet. -/
def FlagState.initial (store : Store) : FlagState := ⟨store, [], [], [], []⟩

/-- All requests are over. -/
def FlagState.IsIdle (state : FlagState) : Prop := state.reads = [] ∧ state.flagged = []

/-! ### What should be sent -/

/-- The mail has the template of the language, with the identifier and the download link of the
streamable. -/
def IsFlagEmail (streamable : Streamable) (language : Text) (email : Email) : Prop :=
  email.emailType = .flag ∧ ∃ template asset, environment.flagTemplate language = some template ∧
    streamable.asset = some asset ∧
    email.htmlBody = substitute (flagData streamable.id
      (generateDownloadLink environment asset.guid)).placeholders template

/-- Those of the entries that come from a request for the streamable. -/
def entriesAbout {Value : Type} (streamableId : Long) (entries : List (FlagRequest × Value)) :
    List (FlagRequest × Value) :=
  entries.filter fun entry => entry.1.streamableId = streamableId

/-- The mails about a streamable. -/
def FlagState.mailsAbout (state : FlagState) (streamableId : Long) : List (FlagRequest × Email) :=
  entriesAbout streamableId state.mails

/-- The streamable was not flagged, and a request has come for it. -/
def FlagState.Reports (state : FlagState) (streamable : Streamable) : Prop :=
  streamable.isFlagged = false ∧
    ∃ request ∈ state.requests, request.streamableId = streamable.id

/-- Each streamable that a request had to flag is reported by exactly one mail, which is right, and
no other streamable is reported. -/
def FlagsRightly (start : Store) (state : FlagState) : Prop :=
  ∀ streamable ∈ start.streamables.rows,
    (state.Reports streamable → ∃ request email,
      state.mailsAbout streamable.id = [(request, email)] ∧
        IsFlagEmail environment streamable request.language email) ∧
    (¬ state.Reports streamable → state.mailsAbout streamable.id = [])

end Mails

/-! ### The body of a mail -/

section Bodies

variable {environment : MailEnvironment} {streamableId : Long} {streamableLink language : Text}

/-- A text without the mark has no placeholder to replace. -/
theorem replacePlaceholders_of_free {text : Text} (free : '@' ∉ text)
    (placeholders : List (Entry '@')) : replacePlaceholders placeholders text = .ok text := by
  have absent (key : Key '@') : occurrences key text = 0 := by
    rw [← List.append_nil text, occurrences_free_append free]
    rfl
  induction placeholders with
  | nil => rfl
  | cons entry rest inductionHypothesis =>
      rw [replacePlaceholders, List.foldlM_cons, replaceAll_of_absent (absent entry.1)]
      exact inductionHypothesis

/-- The body of every mail is the language. -/
theorem sendFlagEmail_eq (supported : (environment.flagTemplate language).isSome) :
    ∃ email, sendFlagEmail environment streamableId streamableLink language = .ok email ∧
      email.emailType = .flag ∧ email.htmlBody = language := by
  have replaced := replacePlaceholders_of_free (environment.plain language supported).1
    (environment.entrySet (flagData streamableId streamableLink).placeholders)
  rw [sendFlagEmail, Email.flag, replaced]
  exact ⟨_, rfl, rfl, rfl⟩

theorem colon_mem_generateDownloadLink (assetGuid : String) :
    ':' ∈ generateDownloadLink environment assetGuid := by
  have scheme : ':' ∈ "http://".toList := by decide
  exact List.mem_append_left _ (List.mem_append_left _ (List.mem_append_left _ scheme))

/-- The link comes into the template. -/
theorem mem_substitute_link {template : Text} {symbol : Char}
    (hasLink : occurrences streamableLinkKey template ≠ 0) (member : symbol ∈ streamableLink) :
    symbol ∈ substitute (flagData streamableId streamableLink).placeholders template := by
  obtain ⟨before, after, rfl, -⟩ :=
    (exists_first_occurrence streamableLinkKey template).resolve_left hasLink
  have apart : streamableIdKey.Separate streamableLinkKey := by decide
  rw [flagData, EmailData.placeholders]
  generalize (toString streamableId).toList = shown
  have separate (entry : Entry '@') (isFirst : entry ∈ [(streamableIdKey, shown)]) :
      entry.1.Separate streamableLinkKey := by
    rw [List.mem_singleton.mp isFirst]
    exact apart
  rw [← List.singleton_append, substitute_own_around separate, List.append_assoc]
  exact List.mem_append_right _ (List.mem_append_left _ member)

/-- A mail whose body is a supported language is not the one that should be sent. -/
theorem not_isFlagEmail {streamable : Streamable} {email : Email} {other : Text}
    (supported : (environment.flagTemplate other).isSome) (body : email.htmlBody = other) :
    ¬ IsFlagEmail environment streamable language email := by
  rintro ⟨-, template, asset, isTemplate, -, right⟩
  refine (environment.plain other supported).2 ?_
  rw [← body, right]
  exact mem_substitute_link (environment.hasLink language template isTemplate)
    (colon_mem_generateDownloadLink asset.guid)

end Bodies

/-! ### What a step does -/

/-- The ways in which a step changes the state. -/
inductive FlagChange (environment : MailEnvironment) (state : FlagState) :
    FlagAction → FlagState → Prop
  | ended {request : FlagRequest} (supported : (environment.flagTemplate request.language).isSome)
      (nothing : ∀ streamable,
        state.store.streamables.find request.streamableId = some streamable →
          streamable.isFlagged = true) :
      FlagChange environment state (.read request)
        { state with requests := state.requests ++ [request] }
  | read {request : FlagRequest} {streamable : Streamable}
      (supported : (environment.flagTemplate request.language).isSome)
      (found : state.store.streamables.find request.streamableId = some streamable)
      (unflagged : streamable.isFlagged = false) :
      FlagChange environment state (.read request)
        { state with
          requests := state.requests ++ [request]
          reads := state.reads ++ [(request, streamable)] }
  | commit {position : Nat} {request : FlagRequest} {streamable : Streamable}
      (pending : state.reads[position]? = some (request, streamable)) :
      FlagChange environment state (.commit position)
        { state with
          store := state.store.saveStreamable { streamable with isFlagged := true }
          reads := state.reads.eraseIdx position
          flagged := state.flagged ++ [(request, { streamable with isFlagged := true })] }
  | fail {position : Nat} {request : FlagRequest} {streamable : Streamable}
      (pending : state.flagged[position]? = some (request, streamable))
      (failed : environment.sessionOpen = true → ∀ asset email, streamable.asset = some asset →
        sendFlagEmail environment streamable.id (generateDownloadLink environment asset.guid)
          request.language ≠ .ok email) :
      FlagChange environment state (.send position)
        { state with flagged := state.flagged.eraseIdx position }
  | send {position : Nat} {request : FlagRequest} {streamable : Streamable} {asset : Asset}
      {email : Email} (pending : state.flagged[position]? = some (request, streamable))
      (hasAsset : streamable.asset = some asset)
      (sent : sendFlagEmail environment streamable.id
        (generateDownloadLink environment asset.guid) request.language = .ok email) :
      FlagChange environment state (.send position)
        { state with
          flagged := state.flagged.eraseIdx position
          mails := state.mails ++ [(request, email)] }

section Steps

variable {environment : MailEnvironment} {state next : FlagState} {action : FlagAction}

theorem flagChange_read {request : FlagRequest}
    (taken : flagStep environment state (.read request) = some next) :
    FlagChange environment state (.read request) next := by
  rw [flagStep] at taken
  split at taken
  · rename_i supported
    cases found : state.store.streamables.find request.streamableId with
    | none =>
        rw [found] at taken
        obtain rfl := Option.some.inj taken
        exact .ended supported fun streamable other => by rw [found] at other; cases other
    | some streamable =>
        rw [found] at taken
        cases isFlagged : streamable.isFlagged with
        | true =>
            simp only [isFlagged, if_true] at taken
            obtain rfl := Option.some.inj taken
            refine .ended supported fun other same => ?_
            obtain rfl : streamable = other := Option.some.inj (found.symm.trans same)
            exact isFlagged
        | false =>
            simp only [isFlagged, Bool.false_eq_true, if_false] at taken
            obtain rfl := Option.some.inj taken
            exact .read supported found isFlagged
  · cases taken

theorem flagChange_commit {position : Nat}
    (taken : flagStep environment state (.commit position) = some next) :
    FlagChange environment state (.commit position) next := by
  rw [flagStep] at taken
  cases pending : state.reads[position]? with
  | none => rw [pending] at taken; cases taken
  | some entry =>
      rw [pending] at taken
      obtain rfl := Option.some.inj taken
      exact .commit pending

theorem flagChange_send {position : Nat}
    (taken : flagStep environment state (.send position) = some next) :
    FlagChange environment state (.send position) next := by
  rw [flagStep] at taken
  cases pending : state.flagged[position]? with
  | none => rw [pending] at taken; cases taken
  | some entry =>
      obtain ⟨request, streamable⟩ := entry
      rw [pending] at taken
      simp only at taken
      cases hasAsset : streamable.asset with
      | none =>
          rw [hasAsset] at taken
          obtain rfl := Option.some.inj taken
          exact .fail pending fun _ asset _ other => by rw [hasAsset] at other; cases other
      | some asset =>
          simp only [hasAsset] at taken
          cases isOpen : environment.sessionOpen with
          | false =>
              simp only [isOpen, Bool.false_eq_true, if_false] at taken
              obtain rfl := Option.some.inj taken
              refine .fail pending fun opened => ?_
              rw [isOpen] at opened
              cases opened
          | true =>
              simp only [isOpen, if_true] at taken
              cases sent : sendFlagEmail environment streamable.id
                  (generateDownloadLink environment asset.guid) request.language with
              | error thrown =>
                  rw [sent] at taken
                  obtain rfl := Option.some.inj taken
                  refine .fail pending fun _ other email same => ?_
                  obtain rfl : asset = other := Option.some.inj (hasAsset.symm.trans same)
                  rw [sent]
                  nofun
              | ok email =>
                  rw [sent] at taken
                  obtain rfl := Option.some.inj taken
                  exact .send pending hasAsset sent

theorem flagChange_of_flagStep (taken : flagStep environment state action = some next) :
    FlagChange environment state action next := by
  cases action with
  | read request => exact flagChange_read taken
  | commit position => exact flagChange_commit taken
  | send position => exact flagChange_send taken

end Steps

/-! ### Bodies over runs -/

/-- The language of an entry is supported. -/
def IsSupported (environment : MailEnvironment) {Value : Type}
    (entry : FlagRequest × Value) : Prop :=
  (environment.flagTemplate entry.1.language).isSome

/-- All languages are supported, and the body of each mail is its language. -/
structure FlagState.Plain (environment : MailEnvironment) (state : FlagState) : Prop where
  reads : ∀ entry ∈ state.reads, IsSupported environment entry
  flagged : ∀ entry ∈ state.flagged, IsSupported environment entry
  mails : ∀ mail ∈ state.mails, IsSupported environment mail ∧ mail.2.htmlBody = mail.1.language

section Plain

variable {environment : MailEnvironment} {start : Store} {state next : FlagState}

theorem forall_mem_concat {Value : Type} {entries : List Value} {entry : Value}
    {Property : Value → Prop} (old : ∀ other ∈ entries, Property other) (new : Property entry) :
    ∀ other ∈ entries ++ [entry], Property other :=
  List.forall_mem_append.mpr ⟨old, List.forall_mem_singleton.mpr new⟩

theorem forall_mem_eraseIdx {Value : Type} {entries : List Value} (position : Nat)
    {Property : Value → Prop} (old : ∀ other ∈ entries, Property other) :
    ∀ other ∈ entries.eraseIdx position, Property other :=
  fun other member => old other (List.mem_of_mem_eraseIdx member)

theorem plain_step {action : FlagAction} (plain : state.Plain environment)
    (taken : flagStep environment state action = some next) : next.Plain environment := by
  cases flagChange_of_flagStep taken with
  | ended _ _ => exact ⟨plain.reads, plain.flagged, plain.mails⟩
  | read supported _ _ =>
      exact ⟨forall_mem_concat plain.reads supported, plain.flagged, plain.mails⟩
  | commit pending =>
      have supported := plain.reads _ (List.mem_of_getElem? pending)
      exact ⟨forall_mem_eraseIdx _ plain.reads, forall_mem_concat plain.flagged supported,
        plain.mails⟩
  | fail _ _ => exact ⟨plain.reads, forall_mem_eraseIdx _ plain.flagged, plain.mails⟩
  | send pending _ sent =>
      have supported := plain.flagged _ (List.mem_of_getElem? pending)
      obtain ⟨email, built, -, body⟩ := sendFlagEmail_eq supported
      obtain rfl := Except.ok.inj (sent.symm.trans built)
      exact ⟨plain.reads, forall_mem_eraseIdx _ plain.flagged,
        forall_mem_concat plain.mails ⟨supported, body⟩⟩

theorem plain_initial (environment : MailEnvironment) (start : Store) :
    (FlagState.initial start).Plain environment :=
  ⟨List.forall_mem_nil _, List.forall_mem_nil _, List.forall_mem_nil _⟩

/-- In every run the body of every mail is its language. -/
theorem plain_of_reaches {allowed : FlagState → FlagAction → Prop}
    (reached : Reaches (flagStep environment) allowed (.initial start) state) :
    state.Plain environment :=
  reached.invariant (FlagState.Plain environment) (plain_initial environment start)
    fun _ _ _ plain _ taken => plain_step plain taken

end Plain

/-! ### When the mails are right -/

section Iff

variable {environment : MailEnvironment} {start : Store} {state next : FlagState}
  {streamable : Streamable} {action : FlagAction}

/-- A streamable stays reported. -/
theorem reports_step (reports : state.Reports streamable)
    (taken : flagStep environment state action = some next) : next.Reports streamable := by
  obtain ⟨unflagged, request, member, same⟩ := reports
  cases flagChange_of_flagStep taken with
  | ended _ _ => exact ⟨unflagged, request, List.mem_append_left _ member, same⟩
  | read _ _ _ => exact ⟨unflagged, request, List.mem_append_left _ member, same⟩
  | commit _ => exact ⟨unflagged, request, member, same⟩
  | fail _ _ => exact ⟨unflagged, request, member, same⟩
  | send _ _ _ => exact ⟨unflagged, request, member, same⟩

/-- Nothing has happened but requests. -/
def FlagState.Untouched (start : Store) (state : FlagState) : Prop :=
  state = { FlagState.initial start with requests := state.requests }

/-- Nothing happens until a streamable is reported. -/
theorem untouched_step (untouched : state.Untouched start)
    (taken : flagStep environment state action = some next) :
    (∃ streamable ∈ start.streamables.rows, next.Reports streamable) ∨ next.Untouched start := by
  rw [FlagState.Untouched] at untouched
  rw [untouched] at taken
  cases flagChange_of_flagStep taken with
  | ended _ _ => exact .inr rfl
  | read _ found unflagged =>
      obtain ⟨member, same⟩ := Table.find_eq_some.mp found
      exact .inl ⟨_, member, unflagged, _, List.mem_append_right _ (List.mem_singleton.mpr rfl),
        same.symm⟩
  | commit pending => cases pending
  | fail pending _ => cases pending
  | send pending _ _ => cases pending

theorem untouched_of_reaches
    (reached : Reaches (flagStep environment) unrestricted (.initial start) state) :
    (∃ streamable ∈ start.streamables.rows, state.Reports streamable) ∨ state.Untouched start := by
  refine reached.invariant
    (fun state => (∃ streamable ∈ start.streamables.rows, state.Reports streamable) ∨
      state.Untouched start) (.inr rfl) fun state action next kept _ taken => ?_
  rcases kept with ⟨streamable, member, reports⟩ | untouched
  · exact .inl ⟨streamable, member, reports_step reports taken⟩
  · exact untouched_step untouched taken

/-- No mail of a run is right. -/
theorem not_flagsRightly_of_reports (plain : state.Plain environment)
    (member : streamable ∈ start.streamables.rows) (reports : state.Reports streamable) :
    ¬ FlagsRightly environment start state := by
  intro rightly
  obtain ⟨request, email, mails, right⟩ := (rightly streamable member).1 reports
  have about : (request, email) ∈ state.mailsAbout streamable.id :=
    mails ▸ List.mem_singleton.mpr rfl
  obtain ⟨supported, body⟩ := plain.mails _ (List.mem_filter.mp about).1
  exact not_isFlagEmail supported body right

/-- A run reports its streamables rightly exactly if it has none to report. -/
theorem flagsRightly_iff
    (reached : Reaches (flagStep environment) unrestricted (.initial start) state) :
    FlagsRightly environment start state ↔
      ∀ streamable ∈ start.streamables.rows, ¬ state.Reports streamable := by
  constructor
  · intro rightly streamable member reports
    exact not_flagsRightly_of_reports (plain_of_reaches reached) member reports rightly
  · intro none streamable member
    refine ⟨fun reports => absurd reports (none streamable member), fun _ => ?_⟩
    rcases untouched_of_reaches reached with ⟨other, isRow, reports⟩ | untouched
    · exact absurd reports (none other isRow)
    · rw [untouched]
      rfl

end Iff

/-! ### Transactions that are kept apart -/

/-- No request reads a streamable while another one has it in its transaction. -/
def ReadsApart (state : FlagState) : FlagAction → Prop
  | .read request => entriesAbout request.streamableId state.reads = []
  | .commit _ | .send _ => True

/-- How far the report of a streamable has come. -/
inductive FlagStage where
  | quiet
  | reading (request : FlagRequest)
  | writing (request : FlagRequest)
  | reported (request : FlagRequest) (email : Email)

namespace FlagStage

variable (streamable : Streamable)

/-- The row of the streamable, from the one at the start. -/
def row : FlagStage → Streamable
  | quiet | reading _ => streamable
  | writing _ | reported _ _ => { streamable with isFlagged := true }

def reads : FlagStage → List (FlagRequest × Streamable)
  | reading request => [(request, streamable)]
  | quiet | writing _ | reported _ _ => []

def flagged : FlagStage → List (FlagRequest × Streamable)
  | writing request => [(request, { streamable with isFlagged := true })]
  | quiet | reading _ | reported _ _ => []

def mails : FlagStage → List (FlagRequest × Email)
  | reported request email => [(request, email)]
  | quiet | reading _ | writing _ => []

end FlagStage

/-- What the state has of the streamable is what belongs to the stage. -/
structure FlagState.IsAt (state : FlagState) (streamable : Streamable) (stage : FlagStage) :
    Prop where
  found : state.store.streamables.find streamable.id = some (stage.row streamable)
  reads : entriesAbout streamable.id state.reads = stage.reads streamable
  flagged : entriesAbout streamable.id state.flagged = stage.flagged streamable
  mails : state.mailsAbout streamable.id = stage.mails
  due : state.Reports streamable ↔ stage ≠ .quiet
  own : ∀ entry ∈ state.reads, entry.2.id = entry.1.streamableId

section Entries

variable {Value : Type} {streamableId : Long} {entries : List (FlagRequest × Value)}
  {entry : FlagRequest × Value} {position : Nat}

theorem entriesAbout_append (streamableId : Long) (before after : List (FlagRequest × Value)) :
    entriesAbout streamableId (before ++ after) =
      entriesAbout streamableId before ++ entriesAbout streamableId after :=
  List.filter_append before after

theorem entriesAbout_cons_self (same : entry.1.streamableId = streamableId) :
    entriesAbout streamableId (entry :: entries) = entry :: entriesAbout streamableId entries := by
  rw [entriesAbout, List.filter_cons, if_pos (decide_eq_true same)]
  rfl

theorem entriesAbout_cons_other (other : entry.1.streamableId ≠ streamableId) :
    entriesAbout streamableId (entry :: entries) = entriesAbout streamableId entries := by
  rw [entriesAbout, List.filter_cons, decide_eq_false other, if_neg Bool.false_ne_true]
  rfl

theorem entriesAbout_concat_self (same : entry.1.streamableId = streamableId) :
    entriesAbout streamableId (entries ++ [entry]) =
      entriesAbout streamableId entries ++ [entry] := by
  rw [entriesAbout_append, entriesAbout_cons_self same]
  rfl

theorem entriesAbout_concat_other (other : entry.1.streamableId ≠ streamableId) :
    entriesAbout streamableId (entries ++ [entry]) = entriesAbout streamableId entries := by
  rw [entriesAbout_append, entriesAbout_cons_other other]
  exact List.append_nil _

/-- An entry that is taken out stands between the others. -/
theorem exists_eraseIdx (pending : entries[position]? = some entry) :
    ∃ before after, entries = before ++ entry :: after ∧
      entries.eraseIdx position = before ++ after := by
  obtain ⟨inside, isEntry⟩ := List.getElem?_eq_some_iff.mp pending
  refine ⟨entries.take position, entries.drop (position + 1), ?_,
    List.eraseIdx_eq_take_drop_succ entries position⟩
  rw [← isEntry, ← List.drop_eq_getElem_cons inside, List.take_append_drop]

theorem entriesAbout_eraseIdx_other (pending : entries[position]? = some entry)
    (other : entry.1.streamableId ≠ streamableId) :
    entriesAbout streamableId (entries.eraseIdx position) = entriesAbout streamableId entries := by
  obtain ⟨before, after, whole, rest⟩ := exists_eraseIdx pending
  rw [rest, whole, entriesAbout_append, entriesAbout_append, entriesAbout_cons_other other]

/-- The only entry about a streamable is the one that is taken out. -/
theorem entriesAbout_eraseIdx_only {only : FlagRequest × Value}
    (pending : entries[position]? = some entry) (same : entry.1.streamableId = streamableId)
    (alone : entriesAbout streamableId entries = [only]) :
    entry = only ∧ entriesAbout streamableId (entries.eraseIdx position) = [] := by
  obtain ⟨before, after, whole, rest⟩ := exists_eraseIdx pending
  have inside : entriesAbout streamableId before ++ entry :: entriesAbout streamableId after =
      [only] := by
    rw [← alone, whole, entriesAbout_append, entriesAbout_cons_self same]
  obtain ⟨noneBefore, isOnly, noneAfter⟩ :
      entriesAbout streamableId before = [] ∧ entry = only ∧
        entriesAbout streamableId after = [] := by
    cases isBefore : entriesAbout streamableId before with
    | nil =>
        rw [isBefore] at inside
        exact ⟨rfl, List.cons.inj inside⟩
    | cons first others =>
        rw [isBefore] at inside
        exact absurd (List.cons.inj inside).2 (List.append_ne_nil_of_right_ne_nil _ nofun)
  refine ⟨isOnly, ?_⟩
  rw [rest, entriesAbout_append, noneBefore, noneAfter]
  rfl

theorem mem_entriesAbout (pending : entries[position]? = some entry)
    (same : entry.1.streamableId = streamableId) : entry ∈ entriesAbout streamableId entries :=
  List.mem_filter.mpr ⟨List.mem_of_getElem? pending, decide_eq_true same⟩

end Entries

section Stages

variable {environment : MailEnvironment} {start : Store} {state next : FlagState}
  {streamable : Streamable} {stage : FlagStage} {request : FlagRequest} {action : FlagAction}

theorem reports_concat_iff (state : FlagState) (request : FlagRequest)
    (added : next.requests = state.requests ++ [request]) :
    next.Reports streamable ↔ state.Reports streamable ∨
      (streamable.isFlagged = false ∧ request.streamableId = streamable.id) := by
  constructor
  · rintro ⟨unflagged, asked, member, same⟩
    rw [added] at member
    rcases List.mem_append.mp member with old | new
    · exact .inl ⟨unflagged, asked, old, same⟩
    · exact .inr ⟨unflagged, List.mem_singleton.mp new ▸ same⟩
  · rintro (⟨unflagged, asked, member, same⟩ | ⟨unflagged, same⟩)
    · exact ⟨unflagged, asked, added ▸ List.mem_append_left _ member, same⟩
    · exact ⟨unflagged, request, added ▸ List.mem_append_right _ List.mem_cons_self, same⟩

/-- A request that finds no row to flag changes no stage. -/
theorem isAt_ended (placed : state.IsAt streamable stage)
    (nothing : ∀ other, state.store.streamables.find request.streamableId = some other →
      other.isFlagged = true) :
    { state with requests := state.requests ++ [request] }.IsAt streamable stage := by
  refine ⟨placed.found, placed.reads, placed.flagged, placed.mails, ?_, placed.own⟩
  rw [reports_concat_iff state request rfl, placed.due]
  refine or_iff_left_of_imp ?_
  rintro ⟨unflagged, same⟩ rfl
  exact absurd (nothing streamable (same ▸ placed.found)) (unflagged ▸ Bool.false_ne_true)

/-- A request that reads an unflagged row begins the report of the streamable, and no other. -/
theorem isAt_read {other : Streamable} (placed : state.IsAt streamable stage)
    (apart : entriesAbout request.streamableId state.reads = [])
    (found : state.store.streamables.find request.streamableId = some other)
    (unflagged : other.isFlagged = false) :
    ∃ stage, { state with
      requests := state.requests ++ [request]
      reads := state.reads ++ [(request, other)] }.IsAt streamable stage := by
  have own : ∀ entry ∈ state.reads ++ [(request, other)],
      entry.2.id = entry.1.streamableId :=
    forall_mem_concat placed.own (Table.find_eq_some.mp found).2
  by_cases same : request.streamableId = streamable.id
  · rw [same] at apart found
    obtain rfl : other = stage.row streamable := Option.some.inj (found.symm.trans placed.found)
    cases stage with
    | quiet =>
        refine ⟨.reading request, placed.found, ?_, placed.flagged, placed.mails, ?_, own⟩
        · rw [entriesAbout_concat_self same, apart]
          rfl
        · exact iff_of_true ⟨unflagged, request, List.mem_append_right _ List.mem_cons_self, same⟩
            nofun
    | reading first => exact absurd (apart.symm.trans placed.reads) nofun
    | writing first => cases unflagged
    | reported first email => cases unflagged
  · refine ⟨stage, placed.found, ?_, placed.flagged, placed.mails, ?_, own⟩
    · rw [entriesAbout_concat_other same]
      exact placed.reads
    · rw [reports_concat_iff state request rfl, placed.due]
      exact or_iff_left_of_imp fun ⟨_, isSame⟩ => absurd isSame same

/-- A request in its transaction is the one that the streamable is read by. -/
theorem FlagState.IsAt.reading {position : Nat} {other : Streamable}
    (placed : state.IsAt streamable stage)
    (pending : state.reads[position]? = some (request, other))
    (same : request.streamableId = streamable.id) :
    stage = .reading request ∧ other = streamable := by
  have about := mem_entriesAbout pending same
  rw [placed.reads] at about
  cases stage with
  | reading first =>
      obtain ⟨rfl, rfl⟩ := Prod.mk.inj (List.mem_singleton.mp about)
      exact ⟨rfl, rfl⟩
  | quiet => cases about
  | writing first => cases about
  | reported first email => cases about

/-- A request on its way to a mail is the one that the streamable was flagged by. -/
theorem FlagState.IsAt.writing {position : Nat} {other : Streamable}
    (placed : state.IsAt streamable stage)
    (pending : state.flagged[position]? = some (request, other))
    (same : request.streamableId = streamable.id) :
    stage = .writing request ∧ other = { streamable with isFlagged := true } := by
  have about := mem_entriesAbout pending same
  rw [placed.flagged] at about
  cases stage with
  | writing first =>
      obtain ⟨rfl, rfl⟩ := Prod.mk.inj (List.mem_singleton.mp about)
      exact ⟨rfl, rfl⟩
  | quiet => cases about
  | reading first => cases about
  | reported first email => cases about

/-- A commit goes on with the report of its streamable, and of no other. -/
theorem isAt_commit {position : Nat} {other : Streamable} (placed : state.IsAt streamable stage)
    (pending : state.reads[position]? = some (request, other)) :
    ∃ stage, { state with
      store := state.store.saveStreamable { other with isFlagged := true }
      reads := state.reads.eraseIdx position
      flagged := state.flagged ++ [(request, { other with isFlagged := true })] }.IsAt
        streamable stage := by
  have isOwn : other.id = request.streamableId := placed.own _ (List.mem_of_getElem? pending)
  have own := forall_mem_eraseIdx position placed.own
  by_cases same : request.streamableId = streamable.id
  · obtain ⟨rfl, rfl⟩ := placed.reading pending same
    obtain ⟨-, rest⟩ := entriesAbout_eraseIdx_only pending same placed.reads
    refine ⟨.writing request, ?_, rest, ?_, placed.mails, ?_, own⟩
    · exact Table.find_set_self placed.found
    · rw [entriesAbout_concat_self same, placed.flagged]
      rfl
    · exact iff_of_true (placed.due.mpr nofun) nofun
  · refine ⟨stage, ?_, ?_, ?_, placed.mails, placed.due, own⟩
    · rw [← placed.found]
      exact Table.find_set_other _ fun isSame => same (isOwn.symm.trans isSame.symm)
    · rw [entriesAbout_eraseIdx_other pending same]
      exact placed.reads
    · rw [entriesAbout_concat_other same]
      exact placed.flagged

/-- A mail ends the report of its streamable, and of no other. -/
theorem isAt_send {position : Nat} {other : Streamable} {email : Email}
    (placed : state.IsAt streamable stage)
    (pending : state.flagged[position]? = some (request, other)) :
    ∃ stage, { state with
      flagged := state.flagged.eraseIdx position
      mails := state.mails ++ [(request, email)] }.IsAt streamable stage := by
  by_cases same : request.streamableId = streamable.id
  · obtain ⟨rfl, rfl⟩ := placed.writing pending same
    obtain ⟨-, rest⟩ := entriesAbout_eraseIdx_only pending same placed.flagged
    refine ⟨.reported request email, placed.found, placed.reads, rest, ?_, ?_, placed.own⟩
    · rw [FlagState.mailsAbout, entriesAbout_concat_self same]
      exact congrArg (· ++ _) placed.mails
    · exact iff_of_true (placed.due.mpr nofun) nofun
  · refine ⟨stage, placed.found, placed.reads, ?_, ?_, placed.due, placed.own⟩
    · rw [entriesAbout_eraseIdx_other pending same]
      exact placed.flagged
    · rw [FlagState.mailsAbout, entriesAbout_concat_other same]
      exact placed.mails

/-- While sessions are open, a request that sends no mail was not about a streamable with an
asset. -/
theorem isAt_fail {position : Nat} {other : Streamable} (placed : state.IsAt streamable stage)
    (plain : state.Plain environment) (isOpen : environment.sessionOpen = true)
    (hasAsset : streamable.asset.isSome)
    (pending : state.flagged[position]? = some (request, other))
    (failed : environment.sessionOpen = true → ∀ asset email, other.asset = some asset →
      sendFlagEmail environment other.id (generateDownloadLink environment asset.guid)
        request.language ≠ .ok email) :
    { state with flagged := state.flagged.eraseIdx position }.IsAt streamable stage := by
  have supported := plain.flagged _ (List.mem_of_getElem? pending)
  have elsewhere : request.streamableId ≠ streamable.id := by
    intro same
    obtain ⟨-, rfl⟩ := placed.writing pending same
    obtain ⟨asset, isAsset⟩ := Option.isSome_iff_exists.mp hasAsset
    obtain ⟨email, built, -⟩ := sendFlagEmail_eq supported
    exact failed isOpen asset email isAsset built
  refine ⟨placed.found, placed.reads, ?_, placed.mails, placed.due, placed.own⟩
  rw [entriesAbout_eraseIdx_other pending elsewhere]
  exact placed.flagged

theorem isAt_step (placed : state.IsAt streamable stage) (plain : state.Plain environment)
    (isOpen : environment.sessionOpen = true) (hasAsset : streamable.asset.isSome)
    (apart : ReadsApart state action)
    (taken : flagStep environment state action = some next) :
    ∃ stage, next.IsAt streamable stage := by
  cases flagChange_of_flagStep taken with
  | ended _ nothing => exact ⟨stage, isAt_ended placed nothing⟩
  | read _ found unflagged => exact isAt_read placed apart found unflagged
  | commit pending => exact isAt_commit placed pending
  | fail pending failed => exact ⟨stage, isAt_fail placed plain isOpen hasAsset pending failed⟩
  | send pending _ _ => exact isAt_send placed pending

theorem exists_isAt (isOpen : environment.sessionOpen = true)
    (member : streamable ∈ start.streamables.rows) (hasAsset : streamable.asset.isSome)
    (reached : Reaches (flagStep environment) ReadsApart (.initial start) state) :
    ∃ stage, state.IsAt streamable stage := by
  have initial : (FlagState.initial start).IsAt streamable .quiet :=
    ⟨Table.find_of_mem member, rfl, rfl, rfl,
      iff_of_false (fun ⟨_, _, asked, _⟩ => List.not_mem_nil asked) (fun moved => moved rfl),
      List.forall_mem_nil _⟩
  have both : state.Plain environment ∧ ∃ stage, state.IsAt streamable stage := by
    refine reached.invariant
      (fun state => state.Plain environment ∧ ∃ stage, state.IsAt streamable stage)
      ⟨plain_initial environment start, .quiet, initial⟩ ?_
    rintro state action next ⟨plain, stage, placed⟩ apart taken
    exact ⟨plain_step plain taken, isAt_step placed plain isOpen hasAsset apart taken⟩
  exact both.2

/-- When the transactions on a streamable do not overlap and its asset can be read after them, it is
reported by exactly one mail if a request had to flag it, and by none otherwise. The body of the
mail is still the language. -/
theorem mailsAbout_of_apart (isOpen : environment.sessionOpen = true)
    (member : streamable ∈ start.streamables.rows) (hasAsset : streamable.asset.isSome)
    (reached : Reaches (flagStep environment) ReadsApart (.initial start) state)
    (idle : state.IsIdle) :
    (state.Reports streamable → ∃ request email,
      state.mailsAbout streamable.id = [(request, email)] ∧
        email.htmlBody = request.language) ∧
    (¬ state.Reports streamable → state.mailsAbout streamable.id = []) := by
  obtain ⟨stage, placed⟩ := exists_isAt isOpen member hasAsset reached
  obtain ⟨noReads, noneFlagged⟩ := idle
  have reads := placed.reads
  have flagged := placed.flagged
  rw [noReads] at reads
  rw [noneFlagged] at flagged
  cases stage with
  | quiet =>
      exact ⟨fun reports => absurd rfl (placed.due.mp reports), fun _ => placed.mails⟩
  | reading request => cases reads
  | writing request => cases flagged
  | reported request email =>
      have sent : (request, email) ∈ state.mailsAbout streamable.id :=
        placed.mails ▸ List.mem_cons_self
      obtain ⟨-, body⟩ := (plain_of_reaches reached).mails _ (List.mem_filter.mp sent).1
      exact ⟨fun _ => ⟨request, email, placed.mails, body⟩,
        fun quiet => absurd (placed.due.mpr nofun) quiet⟩

end Stages

/-- The templates of English, which are the link only. -/
def englishMails : MailEnvironment where
  sessionOpen := true
  bucketName := "graffitab".toList
  subject _ := "Flagged".toList
  flagTemplate language := if language = ['e', 'n'] then some streamableLinkKey.text else none
  plain language supported := by
    split at supported
    · rename_i isEnglish
      rw [isEnglish]
      decide
    · cases supported
  hasLink language template isTemplate := by
    split at isTemplate
    · rw [← Option.some.inj isTemplate]
      decide
    · cases isTemplate
  entrySet := id

def englishFlag : FlagRequest := ⟨1, ['e', 'n']⟩

/-- The numbers of requests in their transaction and on their way to a mail, the bodies of the mails
about the graffiti, and the requests. -/
def FlagState.summary (state : FlagState) : Nat × Nat × List Text × List FlagRequest :=
  (state.reads.length, state.flagged.length,
    (state.mailsAbout 1).map fun mail => mail.2.htmlBody, state.requests)

section Samples

variable {actions : List FlagAction} {bodies : List Text} {requests : List FlagRequest}

theorem exists_idle_run
    (ends : (run (flagStep englishMails) (.initial commentedGraffiti) actions).map
      FlagState.summary = some (0, 0, bodies, requests)) :
    ∃ state, Reaches (flagStep englishMails) unrestricted (.initial commentedGraffiti) state ∧
      state.IsIdle ∧ ((state.mailsAbout 1).map fun mail => mail.2.htmlBody) = bodies ∧
      state.requests = requests := by
  obtain ⟨state, executed, shown⟩ := Option.map_eq_some_iff.mp ends
  obtain ⟨reads, flagged, isBodies, isRequests⟩ :
      state.reads.length = 0 ∧ state.flagged.length = 0 ∧
        ((state.mailsAbout 1).map fun mail => mail.2.htmlBody) = bodies ∧
        state.requests = requests := by
    simpa only [FlagState.summary, Prod.mk.injEq] using shown
  exact ⟨state, reaches_of_run_unrestricted actions executed,
    ⟨List.length_eq_zero_iff.mp reads, List.length_eq_zero_iff.mp flagged⟩, isBodies, isRequests⟩

/-- In every run in which the graffiti was to be flagged, it is not reported rightly. -/
theorem not_flagsRightly_of_run {state : FlagState}
    (reached : Reaches (flagStep englishMails) unrestricted (.initial commentedGraffiti) state)
    (asked : englishFlag ∈ state.requests) :
    ¬ FlagsRightly englishMails commentedGraffiti state := by
  have exists_row : ∃ streamable ∈ commentedGraffiti.streamables.rows,
      streamable.isFlagged = false ∧ streamable.id = 1 := by decide
  obtain ⟨streamable, member, unflagged, isFirst⟩ := exists_row
  exact not_flagsRightly_of_reports (plain_of_reaches reached) member
    ⟨unflagged, englishFlag, asked, isFirst.symm⟩

end Samples

theorem run_once :
    (run (flagStep englishMails) (.initial commentedGraffiti)
      [.read englishFlag, .commit 0, .send 0]).map FlagState.summary =
        some (0, 0, [['e', 'n']], [englishFlag]) := by
  decide +kernel

/-- The run of a single request. -/
theorem flagsRightly_iff_english :
    ∃ state, Reaches (flagStep englishMails) unrestricted (.initial commentedGraffiti) state ∧
      (FlagsRightly englishMails commentedGraffiti state ↔
        ∀ streamable ∈ commentedGraffiti.streamables.rows, ¬ state.Reports streamable) ∧
      state.requests = [englishFlag] := by
  obtain ⟨state, reached, -, -, requests⟩ := exists_idle_run run_once
  exact ⟨state, reached, flagsRightly_iff reached, requests⟩

/-- One request sends a mail with the body "en", and two at the same time send two. -/
theorem not_flagsRightly :
    (∃ state, Reaches (flagStep englishMails) unrestricted (.initial commentedGraffiti) state ∧
      state.IsIdle ∧ ((state.mailsAbout 1).map fun mail => mail.2.htmlBody) = [['e', 'n']] ∧
      ¬ FlagsRightly englishMails commentedGraffiti state) ∧
    ∃ state, Reaches (flagStep englishMails) unrestricted (.initial commentedGraffiti) state ∧
      state.IsIdle ∧ (state.mailsAbout 1).length = 2 ∧
      ¬ FlagsRightly englishMails commentedGraffiti state := by
  have twice : (run (flagStep englishMails) (.initial commentedGraffiti)
      [.read englishFlag, .read englishFlag, .commit 0, .commit 0, .send 0, .send 0]).map
        FlagState.summary =
          some (0, 0, [['e', 'n'], ['e', 'n']], [englishFlag, englishFlag]) := by decide +kernel
  obtain ⟨one, reachedOne, idleOne, bodyOne, requestsOne⟩ := exists_idle_run run_once
  obtain ⟨two, reachedTwo, idleTwo, bodiesTwo, requestsTwo⟩ := exists_idle_run twice
  refine ⟨⟨one, reachedOne, idleOne, bodyOne, ?_⟩, two, reachedTwo, idleTwo, ?_, ?_⟩
  · refine not_flagsRightly_of_run reachedOne ?_
    rw [requestsOne]
    exact List.mem_cons_self
  · rw [← List.length_map, bodiesTwo]
    rfl
  · refine not_flagsRightly_of_run reachedTwo ?_
    rw [requestsTwo]
    exact List.mem_cons_self

end GraffiTab
