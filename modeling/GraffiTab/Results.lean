/-
This file collects how the services of the backend answer: the result codes of the
REST interface, the exceptions that the modelled code throws, and the transactions
around the service methods.

A service method runs in a transaction that is rolled back when the method throws,
so it is a function from the store to an exception or to a result with the next
store. `transaction` turns such a body into what a caller sees, and
`executeInTransactionWithResult` adds the wrapping that the code of that name does.
-/

namespace GraffiTab

/-! ### Result codes -/

/-- The codes of the JSON answers. -/
inductive ResultCode where
  | ok
  | unsupportedFileType | invalidToken | streamCouldNotBeRead | invalidArgument
  | missingArgument | invalidJson | invalidFollowee | emptyMandatoryField | invalidUsername
  | invalidEmail | usernameAlreadyInUse | emailAlreadyInUse | invalidId | textTooLong
  | userNotLoggedIn | userNotOwner
  | incorrectPassword | maximumLoginAttempts | forbiddenResource
  | externalProviderNotFound | externalProviderNotLinked | deviceNotFound | userNotFound
  | assetNotFound | streamableNotFound | commentNotFound | locationNotFound | tokenNotFound
  | tokenExpired | userNotInExpectedState
  | deviceAlreadyExists | externalProviderAlreadyLinked
  | externalProviderAlreadyLinkedForOtherUser
  | generalError
  deriving DecidableEq, Repr

/-! ### Exceptions -/

/-- The subclasses of `RestApiException` that the code distinguishes. -/
inductive RestApiExceptionClass where
  | restApiException
  | entityNotFoundException
  | userNotLoggedInException
  | validationErrorException
  deriving DecidableEq, Repr

/-- What a service throws to have the request answered with a result code. -/
structure RestApiException where
  exceptionClass : RestApiExceptionClass
  resultCode : ResultCode
  message : String
  deriving DecidableEq, Repr

/-- What the modelled code can throw: its own exceptions, those of the libraries it calls, and
the `RuntimeException` around a cause that the transaction helper builds. -/
inductive Throwable where
  | restApi (exception : RestApiException)
  | nonUniqueResultException
  | nullPointerException
  | numberFormatException
  | classCastException
  | jsonException
  | illegalStateException (message : String)
  | notNullViolation
  | staleObjectStateException
  | runtimeException (cause : Throwable)
  deriving DecidableEq, Repr

def restApiException (resultCode : ResultCode) (message : String) : Throwable :=
  .restApi ⟨.restApiException, resultCode, message⟩

def entityNotFoundException (resultCode : ResultCode) (message : String) : Throwable :=
  .restApi ⟨.entityNotFoundException, resultCode, message⟩

def userNotLoggedInException (message : String) : Throwable :=
  .restApi ⟨.userNotLoggedInException, .userNotLoggedIn, message⟩

def validationErrorException (resultCode : ResultCode) (message : String) : Throwable :=
  .restApi ⟨.validationErrorException, resultCode, message⟩

/-- A sequence of two computations returns what the second one returns on the value of the
first. -/
theorem bind_eq_ok {Value Result : Type} {first : Except Throwable Value}
    {second : Value → Except Throwable Result} {result : Result} :
    (first >>= second) = .ok result ↔
      ∃ value, first = .ok value ∧ second value = .ok result := by
  cases first with
  | error thrown => exact iff_of_false (fun absurdity => by cases absurdity) (by simp)
  | ok value =>
      refine ⟨fun returned => ⟨value, rfl, returned⟩, ?_⟩
      rintro ⟨_, ⟨⟩, returned⟩
      exact returned

theorem throw_ne_ok {Value : Type} {thrown : Throwable} {value : Value} :
    (throw thrown : Except Throwable Value) ≠ .ok value := by
  intro absurdity
  cases absurdity

theorem isOk_iff {Value : Type} {result : Except Throwable Value} :
    result.isOk = true ↔ ∃ value, result = .ok value := by
  cases result with
  | error thrown => exact iff_of_false (fun absurdity => by cases absurdity) (by simp)
  | ok value => exact iff_of_true rfl ⟨value, rfl⟩

/-! ### Queries with at most one answer -/

/-- Hibernate's `uniqueResult`: nothing for an empty list, the element when all the listed
objects are the same one, and an exception for two different ones. -/
def uniqueResult {Row : Type} [DecidableEq Row] (rows : List Row) :
    Except Throwable (Option Row) :=
  match rows with
  | [] => .ok none
  | first :: rest =>
      if ∀ row ∈ rest, row = first then .ok (some first) else .error .nonUniqueResultException

section UniqueResult

variable {Row : Type} [DecidableEq Row] {rows : List Row}

/-- A found object is listed, and it is the only one. -/
theorem uniqueResult_eq_some {found : Row} :
    uniqueResult rows = .ok (some found) ↔ found ∈ rows ∧ ∀ row ∈ rows, row = found := by
  cases rows with
  | nil => simp [uniqueResult]
  | cons first rest =>
      rw [uniqueResult]
      by_cases same : ∀ row ∈ rest, row = first
      · rw [if_pos same]
        constructor
        · rintro ⟨⟩
          exact ⟨List.mem_cons_self, List.forall_mem_cons.mpr ⟨rfl, same⟩⟩
        · rintro ⟨-, all⟩
          rw [all first List.mem_cons_self]
      · rw [if_neg same]
        refine iff_of_false nofun fun unique => same fun row member => ?_
        rw [unique.2 row (List.mem_cons_of_mem _ member), unique.2 first List.mem_cons_self]

theorem uniqueResult_eq_none : uniqueResult rows = .ok none ↔ rows = [] := by
  cases rows with
  | nil => simp [uniqueResult]
  | cons first rest =>
      rw [uniqueResult]
      split <;> simp

theorem uniqueResult_eq_error {thrown : Throwable} (failed : uniqueResult rows = .error thrown) :
    thrown = .nonUniqueResultException ∧ ∃ first ∈ rows, ∃ second ∈ rows, first ≠ second := by
  cases rows with
  | nil => exact absurd failed nofun
  | cons first rest =>
      rw [uniqueResult] at failed
      split at failed
      · exact absurd failed nofun
      · rename_i different
        simp only [Classical.not_forall, exists_prop] at different
        obtain ⟨second, member, other⟩ := different
        exact ⟨(Except.error.inj failed).symm, second, List.mem_cons_of_mem _ member, first,
          List.mem_cons_self, other⟩

/-- When all the listed objects are one, the query does not throw. -/
theorem uniqueResult_isOk (one : ∀ first ∈ rows, ∀ second ∈ rows, first = second) :
    ∃ found, uniqueResult rows = .ok found := by
  cases answer : uniqueResult rows with
  | ok found => exact ⟨found, rfl⟩
  | error thrown =>
      obtain ⟨-, first, firstMember, second, secondMember, different⟩ :=
        uniqueResult_eq_error answer
      exact absurd (one first firstMember second secondMember) different

end UniqueResult

end GraffiTab
