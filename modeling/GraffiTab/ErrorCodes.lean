/-
This file asks whether a request is answered with the result code of the exception that ended it.

A block of `executeInTransactionWithResult` wraps what its body throws, and the error handling
looks behind one wrapping, as its comment says. Behind two it finds no result code. Four
controllers catch every exception of the service that they call and throw one of their own
instead. So a request keeps its result code exactly if its controller catches nothing and at
most one block wraps the exception, or if the code is the one that replaces it.
-/

import GraffiTab.Entities

namespace GraffiTab

/-! ### Result codes -/

/-- `ResultCode.getStatusCode`. -/
def ResultCode.statusCode : ResultCode → Nat
  | .ok => 200
  | .unsupportedFileType | .invalidToken | .streamCouldNotBeRead | .invalidArgument
  | .missingArgument | .invalidJson | .invalidFollowee | .emptyMandatoryField
  | .invalidUsername | .invalidEmail | .usernameAlreadyInUse | .emailAlreadyInUse
  | .invalidId | .textTooLong => 400
  | .userNotLoggedIn | .userNotOwner => 401
  | .incorrectPassword | .maximumLoginAttempts | .forbiddenResource => 403
  | .externalProviderNotFound | .externalProviderNotLinked | .deviceNotFound | .userNotFound
  | .assetNotFound | .streamableNotFound | .commentNotFound | .locationNotFound
  | .tokenNotFound => 404
  | .tokenExpired | .userNotInExpectedState => 406
  | .deviceAlreadyExists | .externalProviderAlreadyLinked
  | .externalProviderAlreadyLinkedForOtherUser => 409
  | .generalError => 500

/-! ### The error handling -/

/-- The status of an answer and its `RestApiResult`. -/
structure ErrorResponse where
  status : Nat
  resultCode : ResultCode
  resultMessage : Option String
  deriving DecidableEq

/-- What reaches the error handling: the exceptions of the frameworks that it knows, and those of
the code. -/
inductive Raised where
  | methodArgumentTypeMismatchException
  | missingJsonPropertyException (requestedJsonProperty : String)
  | other (throwable : Throwable)

namespace GeneralErrorHandlingAdvice

-- `Throwable.getMessage`.
variable (getMessage : Throwable → Option String)

def apiException (exception : RestApiException) : ErrorResponse where
  status := exception.resultCode.statusCode
  resultCode := exception.resultCode
  resultMessage := some exception.message

/-- `throwable.getCause()`. -/
def getCause : Throwable → Option Throwable
  | .runtimeException cause => some cause
  | _ => none

def generalException : Raised → ErrorResponse
  | .methodArgumentTypeMismatchException =>
      { status := 400
        resultCode := .invalidArgument
        resultMessage := some "The argument passed to the endpoint is not of the expected type" }
  | .missingJsonPropertyException requestedJsonProperty =>
      { status := 400
        resultCode := .missingArgument
        resultMessage := some ("The required property " ++ requestedJsonProperty ++
          " is not present in the request") }
  | .other throwable =>
      match getCause throwable with
      | some (.restApi exception) =>
          { status := exception.resultCode.statusCode
            resultCode := exception.resultCode
            resultMessage := some exception.message }
      | _ =>
          { status := 500
            resultCode := .generalError
            resultMessage := getMessage throwable }

/-- The handler with the closest exception class is called. -/
def handle : Raised → ErrorResponse
  | .other (.restApi exception) => apiException exception
  | raised => generalException getMessage raised

end GeneralErrorHandlingAdvice

/-! ### Blocks and controllers -/

/-- What a part of a service can be surrounded by. -/
inductive TransactionBlock where
  | transactional
  | executeInTransaction
  | executeInTransactionWithResult
  | executeInNewTransaction
  deriving DecidableEq

/-- What leaves a block when its body throws. -/
def TransactionBlock.rethrow : TransactionBlock → Throwable → Throwable
  | .executeInTransactionWithResult, thrown => .runtimeException thrown
  | .transactional, thrown | .executeInTransaction, thrown
  | .executeInNewTransaction, thrown => thrown

/-- A body in a block that is itself part of a transaction. -/
def TransactionBlock.surround {Value : Type} (block : TransactionBlock)
    (body : Transaction Value) : Transaction Value := fun store =>
  match body store with
  | .ok result => .ok result
  | .error thrown => .error (block.rethrow thrown)

/-- A body in blocks within blocks, the outermost first. -/
def nested {Value : Type} (blocks : List TransactionBlock) (body : Transaction Value) :
    Transaction Value :=
  blocks.foldr TransactionBlock.surround body

/-- The controllers with their own catch block, and the others. -/
inductive RestEndpoint where
  | editAvatar
  | editCover
  | createGraffiti
  | editGraffiti
  | other
  deriving DecidableEq

section Controllers

-- `String.equalsIgnoreCase`, and `Throwable.getMessage`.
variable (equalsIgnoreCase : String → String → Bool) (getMessage : Throwable → Option String)
  {Value : Type}

/-- The content type is that of a JPEG or of a PNG image. -/
def isSupported (contentType : String) : Bool :=
  equalsIgnoreCase contentType "image/jpeg" || equalsIgnoreCase contentType "image/png"

def checkContentType (contentType : String) : Except Throwable Unit :=
  if isSupported equalsIgnoreCase contentType then
    return ()
  else
    throw (restApiException .unsupportedFileType
      ("The file type '" ++ contentType ++ "' is not supported."))

/-- `catch (Exception e)`, with a `RestApiException` of the controller instead. -/
def catchException (message : String) (attempt : Except Throwable Value) :
    Except Throwable Value :=
  match attempt with
  | .ok value => .ok value
  | .error _ => .error (restApiException .streamCouldNotBeRead message)

/-- The controller around what its service returns or throws; `createGraffiti` checks the content
type within its own `try`. -/
def RestEndpoint.call (contentType : String) (service : Except Throwable Value) :
    RestEndpoint → Except Throwable Value
  | .editAvatar | .editCover | .editGraffiti => do
      checkContentType equalsIgnoreCase contentType
      catchException "File stream could not be read." service
  | .createGraffiti =>
      catchException "File   stream could not be read." do
        checkContentType equalsIgnoreCase contentType
        service
  | .other => service

/-- What a request is answered. -/
def RestEndpoint.answer (endpoint : RestEndpoint) (contentType : String)
    (service : Transaction Value) (store : Store) : Except ErrorResponse Value :=
  match endpoint.call equalsIgnoreCase contentType ((service store).map Prod.fst) with
  | .ok value => .ok value
  | .error thrown => .error (GeneralErrorHandlingAdvice.handle getMessage (.other thrown))

/-- A service whose body throws the exception in the blocks is answered with the code and the status
of the exception. -/
def KeepsResultCode (endpoint : RestEndpoint) (blocks : List TransactionBlock)
    (exception : RestApiException) : Prop :=
  ∀ contentType, isSupported equalsIgnoreCase contentType = true →
    ∀ (Value : Type) (body : Transaction Value) store, body store = .error (.restApi exception) →
      ∃ response, endpoint.answer equalsIgnoreCase getMessage contentType (nested blocks body)
          store = .error response ∧
        response.resultCode = exception.resultCode ∧
          response.status = exception.resultCode.statusCode

end Controllers

/-- The controller has a catch block around its service. -/
def RestEndpoint.catchesExceptions : RestEndpoint → Bool
  | .editAvatar | .editCover | .createGraffiti | .editGraffiti => true
  | .other => false

/-- How often the blocks wrap what their body throws. -/
def wrappings (blocks : List TransactionBlock) : Nat :=
  blocks.count .executeInTransactionWithResult

/-- Nothing on the way to the answer replaces the code, or it is replaced by itself. -/
def IsUnreplaced (endpoint : RestEndpoint) (blocks : List TransactionBlock)
    (resultCode : ResultCode) : Prop :=
  if endpoint.catchesExceptions then resultCode = .streamCouldNotBeRead
  else wrappings blocks ≤ 1 ∨ resultCode = .generalError

/-! ### Wrapped exceptions -/

section Wrapped

variable {Value : Type} {body : Transaction Value} {store : Store}

/-- The block of a result is the transaction helper of that name. -/
theorem executeInTransactionWithResult_eq (body : Transaction Value) (store : Store) :
    executeInTransactionWithResult body store =
      transaction (TransactionBlock.executeInTransactionWithResult.surround body) store := by
  rw [executeInTransactionWithResult, transaction, TransactionBlock.surround]
  cases body store <;> rfl

/-- The exception, wrapped a number of times. -/
def wrapped (thrown : Throwable) : Nat → Throwable
  | 0 => thrown
  | times + 1 => .runtimeException (wrapped thrown times)

/-- Blocks wrap what their body throws as often as there are blocks of a result. -/
theorem nested_error {thrown : Throwable} (failed : body store = .error thrown)
    (blocks : List TransactionBlock) :
    nested blocks body store = .error (wrapped thrown (wrappings blocks)) := by
  induction blocks with
  | nil => exact failed
  | cons block rest inductionHypothesis =>
      have surrounded : nested (block :: rest) body store =
          .error (block.rethrow (wrapped thrown (wrappings rest))) := by
        show TransactionBlock.surround block (nested rest body) store = _
        rw [TransactionBlock.surround, inductionHypothesis]
      have counted : wrappings (block :: rest) = wrappings rest +
          if block == .executeInTransactionWithResult then 1 else 0 := List.count_cons
      rw [surrounded, counted]
      cases block <;> rfl

open GeneralErrorHandlingAdvice in
/-- The error handling finds the code behind at most one wrapping. -/
theorem handle_wrapped (getMessage : Throwable → Option String) (exception : RestApiException)
    (times : Nat) :
    let response := handle getMessage (.other (wrapped (.restApi exception) times))
    response.resultCode = (if times ≤ 1 then exception.resultCode else .generalError) ∧
      response.status =
        (if times ≤ 1 then exception.resultCode else .generalError).statusCode := by
  match times with
  | 0 => exact ⟨rfl, rfl⟩
  | 1 => exact ⟨rfl, rfl⟩
  | times + 2 => exact ⟨(if_neg (by omega)).symm, by rw [if_neg (by omega)]; rfl⟩

variable {equalsIgnoreCase : String → String → Bool} {getMessage : Throwable → Option String}
  {endpoint : RestEndpoint} {contentType : String} {thrown : Throwable}

/-- A controller that catches nothing hands the exception of its service on. -/
theorem answer_other (failed : body store = .error thrown) (blocks : List TransactionBlock) :
    RestEndpoint.other.answer equalsIgnoreCase getMessage contentType (nested blocks body) store =
      .error (GeneralErrorHandlingAdvice.handle getMessage
        (.other (wrapped thrown (wrappings blocks)))) := by
  rw [RestEndpoint.answer, nested_error failed]
  rfl

/-- A controller with a catch block answers that the stream could not be read. -/
theorem answer_catching (catching : endpoint.catchesExceptions = true)
    (supported : isSupported equalsIgnoreCase contentType = true)
    (failed : body store = .error thrown) (blocks : List TransactionBlock) :
    ∃ response, endpoint.answer equalsIgnoreCase getMessage contentType (nested blocks body) store =
        .error response ∧
      response.resultCode = .streamCouldNotBeRead ∧
        response.status = ResultCode.streamCouldNotBeRead.statusCode := by
  have checked : checkContentType equalsIgnoreCase contentType = .ok () := if_pos supported
  rw [RestEndpoint.answer, nested_error failed]
  cases endpoint with
  | other => cases catching
  | editAvatar =>
      rw [RestEndpoint.call, checked]
      exact ⟨_, rfl, rfl, rfl⟩
  | editCover =>
      rw [RestEndpoint.call, checked]
      exact ⟨_, rfl, rfl, rfl⟩
  | editGraffiti =>
      rw [RestEndpoint.call, checked]
      exact ⟨_, rfl, rfl, rfl⟩
  | createGraffiti =>
      rw [RestEndpoint.call, checked]
      exact ⟨_, rfl, rfl, rfl⟩

/-- A body that only throws. -/
def throwing (thrown : Throwable) : Transaction Unit := fun _ => .error thrown

/-- A controller with a catch block keeps only the code of its own exception. -/
theorem KeepsResultCode.eq_streamCouldNotBeRead {blocks : List TransactionBlock}
    {exception : RestApiException}
    (keeps : KeepsResultCode equalsIgnoreCase getMessage endpoint blocks exception)
    (supported : isSupported equalsIgnoreCase contentType = true)
    (catching : endpoint.catchesExceptions = true) :
    exception.resultCode = .streamCouldNotBeRead := by
  have failed : throwing (.restApi exception) Store.empty = .error (.restApi exception) := rfl
  obtain ⟨response, answered, code, -⟩ := keeps contentType supported Unit _ _ failed
  obtain ⟨caught, same, caughtCode, -⟩ :=
    answer_catching catching supported failed blocks
  obtain rfl := Except.error.inj (answered.symm.trans same)
  exact code.symm.trans caughtCode

end Wrapped

/-! ### The result code of an answer -/

/-- A request keeps the result code of the exception exactly if nothing on the way replaces it. -/
theorem keepsResultCode_iff (equalsIgnoreCase : String → String → Bool)
    (getMessage : Throwable → Option String) (endpoint : RestEndpoint)
    (blocks : List TransactionBlock) (exception : RestApiException)
    (reflexive : ∀ text, equalsIgnoreCase text text = true) :
    KeepsResultCode equalsIgnoreCase getMessage endpoint blocks exception ↔
      IsUnreplaced endpoint blocks exception.resultCode := by
  have jpeg : isSupported equalsIgnoreCase "image/jpeg" = true := by
    rw [isSupported, reflexive, Bool.true_or]
  unfold IsUnreplaced
  cases catching : endpoint.catchesExceptions with
  | true =>
      rw [if_pos rfl]
      constructor
      · intro keeps
        exact keeps.eq_streamCouldNotBeRead jpeg catching
      · intro isOwn contentType supported Value body store failed
        rw [isOwn]
        exact answer_catching catching supported failed blocks
  | false =>
      obtain rfl : endpoint = .other := by
        cases endpoint <;> first | rfl | cases catching
      rw [if_neg Bool.false_ne_true]
      obtain ⟨code, status⟩ := handle_wrapped getMessage exception (wrappings blocks)
      constructor
      · intro keeps
        have failed : throwing (.restApi exception) Store.empty = .error (.restApi exception) :=
          rfl
        obtain ⟨response, answered, kept, -⟩ := keeps "image/jpeg" jpeg Unit _ _ failed
        obtain rfl := Except.error.inj ((answer_other failed blocks).symm.trans answered)
        by_cases atMostOnce : wrappings blocks ≤ 1
        · exact .inl atMostOnce
        · rw [if_neg atMostOnce] at code
          exact .inr (kept.symm.trans code)
      · intro unreplaced contentType _ Value body store failed
        have sameCode : (if wrappings blocks ≤ 1 then exception.resultCode else .generalError) =
            exception.resultCode := by
          split
          · rfl
          · rename_i moreThanOnce
            exact (unreplaced.resolve_left moreThanOnce).symm
        rw [sameCode] at code status
        exact ⟨_, answer_other failed blocks, code, status⟩

/-- An exception behind one wrapping, in a controller that catches nothing. -/
theorem keepsResultCode_iff_once :
    KeepsResultCode (fun first second => first = second) (fun _ => none) .other
        [.transactional, .executeInTransactionWithResult]
        ⟨.restApiException, .userNotOwner, "The streamable cannot be changed"⟩ ↔
      IsUnreplaced .other [.transactional, .executeInTransactionWithResult] .userNotOwner :=
  keepsResultCode_iff _ _ _ _ _ fun _ => decide_eq_true rfl

/-- A post with a text that is too long is answered that its stream could not be read. -/
theorem not_keepsResultCode :
    ¬ ∀ endpoint blocks exception,
      KeepsResultCode (fun first second => first = second) (fun _ => none) endpoint blocks
        exception := by
  intro always
  have supported : isSupported (fun first second => first = second) "image/jpeg" = true := by
    decide
  have replaced := (always .createGraffiti []
    ⟨.restApiException, .textTooLong, "Text sent is too long"⟩).eq_streamCouldNotBeRead
      supported rfl
  cases replaced

end GraffiTab
