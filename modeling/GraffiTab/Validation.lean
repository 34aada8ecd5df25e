/-
This file models the validation of the data with which an account is created or edited.

`UserInput` is the transient user that the mapper builds from the JSON of the request,
so any of its fields can be missing. The checks come in the order of the code, and the
first that fails decides the answer. What later proofs use is `validateCreateUser_ok`:
when the validation lets a user through, no other row has its username or its email in
the store in which it was asked.
-/

import GraffiTab.Lookups

namespace GraffiTab

open Tables

/-- An asset of the request, with the fields that the mapper copies by their names. -/
structure AssetInput where
  guid : Option String
  assetType : Option AssetType
  state : Option AssetState
  deriving DecidableEq

/-- A user of the request. -/
structure UserInput where
  id : Option Long
  username : Option String
  firstName : Option String
  lastName : Option String
  password : Option String
  email : Option String
  website : Option String
  about : Option String
  updatedOn : Option Long
  avatarAsset : Option AssetInput
  coverAsset : Option AssetInput
  deriving DecidableEq

/-- A request to create an account, for runs on fixed inputs. -/
def plainInput (username : String) : UserInput where
  id := none
  username := some username
  firstName := some username
  lastName := some username
  password := some "secret"
  email := some (username ++ "@graffitab.com")
  website := none
  about := none
  updatedOn := none
  avatarAsset := none
  coverAsset := none

/-! ### The two patterns -/

def isUsernameChar (char : Char) : Bool := char.isAlphanum || char ∈ ['-', '_', '.']

/-- The pattern of usernames, with the bounds on the length. -/
def isValidUsername (username : String) : Bool :=
  username.toList.all isUsernameChar && 3 ≤ username.length && username.length ≤ 25

def isLowerAlphanum (char : Char) : Bool :=
  ('a' ≤ char && char ≤ 'z') || ('0' ≤ char && char ≤ '9')

/-- The characters between the dots of the local part; the last four are the quote, the
backquote and the two braces. -/
def isEmailAtomChar (char : Char) : Bool :=
  isLowerAlphanum char || char ∈ "!#$%&*+/=?^_|~-".toList || char.toNat ∈ [39, 96, 123, 125]

/-- A label of the domain: it starts and ends with a letter or a digit. -/
def isDomainLabel : List Char → Bool
  | [] => false
  | first :: rest =>
      isLowerAlphanum first && isLowerAlphanum ((first :: rest).getLast (by simp)) &&
        rest.all fun char => isLowerAlphanum char || char = '-'

/-- The pattern of emails: atoms separated by dots, one `@`, and at least two labels. -/
def isValidEmail (email : String) : Bool :=
  match email.toList.splitOn '@' with
  | [localPart, domain] =>
      (localPart.splitOn '.').all (fun atom => !atom.isEmpty && atom.all isEmailAtomChar) &&
        2 ≤ (domain.splitOn '.').length && (domain.splitOn '.').all isDomainLabel
  | _ => false

/-! ### The validation -/

section Validation

variable (platform : Platform)

/-- `User.getEmail`, which throws when there is no email to lower-case. -/
def UserInput.getEmail (user : UserInput) : Except Throwable String :=
  match user.email with
  | none => .error .nullPointerException
  | some email => .ok (platform.toLowerCase email)

def isUsernameTaken (username : String) (userId : Option Long) (store : Store) :
    Except Throwable Bool :=
  match userId with
  | some userId =>
      .ok (!(findUsersByUsernameWithDifferentId platform username userId store).isEmpty)
  | none => (findByUsername platform username store).map Option.isSome

def isEmailTaken (email : String) (userId : Option Long) (store : Store) :
    Except Throwable Bool :=
  match userId with
  | some userId =>
      .ok (!(findUsersByEmailWithDifferentID platform email userId store).isEmpty)
  | none => (findByEmail platform email store).map Option.isSome

/-- The search for another account with the email. -/
def checkEmailTaken (email : String) (userId : Option Long) (store : Store) :
    Except Throwable Unit := do
  if ← isEmailTaken platform email userId store then
    throw (validationErrorException .emailAlreadyInUse "Email already in use.")
  else
    return ()

/-- The searches for another account; the username of an existing user cannot change. -/
def checkTaken (username email : String) (userId : Option Long) (isEdit : Bool) (store : Store) :
    Except Throwable Unit := do
  if isEdit then
    checkEmailTaken platform email userId store
  else if ← isUsernameTaken platform username userId store then
    throw (validationErrorException .usernameAlreadyInUse "Username already in use.")
  else
    checkEmailTaken platform email userId store

/-- `UserValidationService.validateCreateUser`. -/
def validateCreateUser (user : UserInput) (isEdit : Bool) (store : Store) :
    Except Throwable Unit := do
  if !isEdit && isEmpty user.username then
    throw (validationErrorException .emptyMandatoryField "Empty mandatory field.")
  else
    let email ← user.getEmail platform
    let username := user.username.getD ""
    if email.isEmpty || isEmpty user.firstName || isEmpty user.lastName ||
        (!isEdit && isEmpty user.password) then
      throw (validationErrorException .emptyMandatoryField "Empty mandatory field.")
    else if !isEdit && !isValidUsername username then
      throw (validationErrorException .invalidUsername "Invalid username")
    else if !isValidEmail email then
      throw (validationErrorException .invalidEmail "Invalid email")
    else
      checkTaken platform username email user.id isEdit store

/-- `UserValidationService.validateEditInfo`. -/
def validateEditInfo (toEdit : UserInput) (store : Store) : Except Throwable Unit :=
  validateCreateUser platform toEdit true store

end Validation

/-! ### Names without blanks -/

/-- A character of a list is the separator or belongs to a piece of the split list. -/
theorem mem_splitOn (separator : Char) {char : Char} {chars : List Char} (member : char ∈ chars) :
    char = separator ∨ ∃ part ∈ chars.splitOn separator, char ∈ part := by
  induction chars with
  | nil => exact absurd member List.not_mem_nil
  | cons first rest inductionHypothesis =>
      simp only [List.splitOn, List.splitOnP_cons_eq_if_modifyHead] at inductionHypothesis ⊢
      obtain ⟨head, tail, split⟩ :=
        List.exists_cons_of_ne_nil (List.splitOnP_ne_nil (· == separator) rest)
      rw [split] at inductionHypothesis ⊢
      by_cases isSeparator : first = separator
      · rw [if_pos (beq_iff_eq.mpr isSeparator)]
        rcases List.mem_cons.mp member with rfl | later
        · exact .inl isSeparator
        · refine (inductionHypothesis later).imp_right ?_
          rintro ⟨part, partMember, charMember⟩
          exact ⟨part, List.mem_cons_of_mem _ partMember, charMember⟩
      · rw [if_neg (mt beq_iff_eq.mp isSeparator), List.modifyHead_cons]
        rcases List.mem_cons.mp member with rfl | later
        · exact .inr ⟨char :: head, List.mem_cons_self, List.mem_cons_self⟩
        · refine (inductionHypothesis later).imp_right ?_
          rintro ⟨part, partMember, charMember⟩
          rcases List.mem_cons.mp partMember with rfl | tailMember
          · exact ⟨first :: part, List.mem_cons_self, List.mem_cons_of_mem _ charMember⟩
          · exact ⟨part, List.mem_cons_of_mem _ tailMember, charMember⟩

theorem isBlank_of_gt {char : Char} (large : 32 < char.toNat) : isBlank char = false := by
  refine decide_eq_false ?_
  rw [UInt32.le_iff_toNat_le]
  exact Nat.not_le.mpr large

theorem isBlank_of_isAlphanum {char : Char} (alphanum : char.isAlphanum = true) :
    isBlank char = false := by
  have ranges : ((decide (65 ≤ char.val ∧ char.val ≤ 90) || 97 ≤ char.val && char.val ≤ 122) ||
      48 ≤ char.val && char.val ≤ 57) = true := alphanum
  simp only [Bool.or_eq_true, Bool.and_eq_true, decide_eq_true_eq,
    UInt32.le_iff_toNat_le] at ranges
  refine isBlank_of_gt ?_
  have atLeast : 48 ≤ char.val.toNat := by
    rcases ranges with (upper | lower) | digit
    · exact le_trans (by decide) upper.1
    · exact le_trans (by decide) lower.1
    · exact digit.1
  exact Nat.lt_of_lt_of_le (by decide) atLeast

theorem isBlank_of_isLowerAlphanum {char : Char} (alphanum : isLowerAlphanum char = true) :
    isBlank char = false := by
  simp only [isLowerAlphanum, Bool.or_eq_true, Bool.and_eq_true, decide_eq_true_eq,
    Char.le_def, UInt32.le_iff_toNat_le] at alphanum
  refine isBlank_of_gt ?_
  have atLeast : 48 ≤ char.val.toNat := by
    rcases alphanum with letter | digit
    · exact le_trans (by decide) letter.1
    · exact digit.1
  exact Nat.lt_of_lt_of_le (by decide) atLeast

/-- A character of a list without blanks is no blank. -/
theorem isBlank_of_all {chars : List Char} (solid : chars.all (fun char => !isBlank char) = true)
    {char : Char} (member : char ∈ chars) : isBlank char = false := by
  have kept := List.all_eq_true.mp solid char member
  simpa using kept

theorem isBlank_of_isEmailAtomChar {char : Char} (atom : isEmailAtomChar char = true) :
    isBlank char = false := by
  simp only [isEmailAtomChar, Bool.or_eq_true, decide_eq_true_eq] at atom
  rcases atom with (alphanum | punctuation) | other
  · exact isBlank_of_isLowerAlphanum alphanum
  · exact isBlank_of_all (by decide) punctuation
  · refine isBlank_of_gt ?_
    simp only [List.mem_cons, List.not_mem_nil, or_false] at other
    omega

theorem isBlank_of_isDomainLabel {label : List Char} (valid : isDomainLabel label = true)
    {char : Char} (member : char ∈ label) : isBlank char = false := by
  cases label with
  | nil => exact absurd member List.not_mem_nil
  | cons first rest =>
      simp only [isDomainLabel, Bool.and_eq_true, List.all_eq_true, Bool.or_eq_true,
        decide_eq_true_eq] at valid
      rcases List.mem_cons.mp member with rfl | later
      · exact isBlank_of_isLowerAlphanum valid.1.1
      · rcases valid.2 char later with alphanum | rfl
        · exact isBlank_of_isLowerAlphanum alphanum
        · decide

/-- The characters of a valid username are no blanks. -/
theorem trim_of_isValidUsername {username : String} (valid : isValidUsername username = true) :
    trim username = username := by
  simp only [isValidUsername, Bool.and_eq_true, List.all_eq_true] at valid
  refine trim_eq_self fun char member => ?_
  have allowed := valid.1.1 char member
  simp only [isUsernameChar, Bool.or_eq_true, decide_eq_true_eq] at allowed
  rcases allowed with alphanum | punctuation
  · exact isBlank_of_isAlphanum alphanum
  · exact isBlank_of_all (by decide) punctuation

/-- The characters of a valid email are no blanks. -/
theorem trim_of_isValidEmail {email : String} (valid : isValidEmail email = true) :
    trim email = email := by
  unfold isValidEmail at valid
  split at valid
  · rename_i localPart domain split
    simp only [Bool.and_eq_true, List.all_eq_true] at valid
    obtain ⟨⟨atoms, -⟩, labels⟩ := valid
    refine trim_eq_self fun char member => ?_
    rcases mem_splitOn '@' member with rfl | ⟨part, partMember, charMember⟩
    · decide
    rw [split, List.mem_pair] at partMember
    rcases mem_splitOn '.' charMember with rfl | ⟨piece, pieceMember, char_mem⟩
    · decide
    rcases partMember with rfl | rfl
    · exact isBlank_of_isEmailAtomChar ((atoms piece pieceMember).2 char char_mem)
    · exact isBlank_of_isDomainLabel (labels piece pieceMember) char_mem
  · cases valid

/-! ### What a valid user has -/

section Valid

variable {platform : Platform} {store : Store}

theorem isUsernameTaken_none_eq_false {username : String} :
    isUsernameTaken platform username none store = .ok false ↔
      ∀ user ∈ store.users.rows, platform.collate user.username ≠ platform.collate username := by
  rw [← findByUsername_eq_none, isUsernameTaken]
  cases findByUsername platform username store with
  | error thrown => exact iff_of_false nofun nofun
  | ok found => cases found <;> simp [Except.map]

theorem isEmailTaken_none_eq_false {email : String} :
    isEmailTaken platform email none store = .ok false ↔
      ∀ user ∈ store.users.rows, platform.collate user.email ≠ platform.collate email := by
  rw [← findByEmail_eq_none, isEmailTaken]
  cases findByEmail platform email store with
  | error thrown => exact iff_of_false nofun nofun
  | ok found => cases found <;> simp [Except.map]

theorem isEmailTaken_some_eq_false {email : String} {userId : Long} :
    isEmailTaken platform email (some userId) store = .ok false ↔
      ∀ user ∈ store.users.rows, platform.collate user.email = platform.collate email →
        user.id = userId := by
  simp [isEmailTaken, findUsersByEmailWithDifferentID, Table.select]

theorem checkEmailTaken_ok {email : String} {userId : Option Long} :
    checkEmailTaken platform email userId store = .ok () ↔
      isEmailTaken platform email userId store = .ok false := by
  rw [checkEmailTaken]
  rcases isEmailTaken platform email userId store with thrown | taken
  · exact iff_of_false nofun nofun
  · cases taken with
    | true => exact iff_of_false nofun nofun
    | false => exact iff_of_true rfl rfl

theorem checkTaken_ok {username email : String} {userId : Option Long} {isEdit : Bool} :
    checkTaken platform username email userId isEdit store = .ok () ↔
      (isEdit = false → isUsernameTaken platform username userId store = .ok false) ∧
        isEmailTaken platform email userId store = .ok false := by
  rw [checkTaken, ← checkEmailTaken_ok]
  cases isEdit with
  | true => simp
  | false =>
      rcases isUsernameTaken platform username userId store with thrown | taken
      · exact iff_of_false nofun fun both => absurd (both.1 rfl) nofun
      · cases taken with
        | true => exact iff_of_false nofun fun both => absurd (both.1 rfl) nofun
        | false => exact ⟨fun checked => ⟨fun _ => rfl, checked⟩, And.right⟩

/-- A user that passes has a valid email and, when it is new, a valid username, and neither is
taken. -/
theorem validateCreateUser_ok {user : UserInput} {isEdit : Bool}
    (valid : validateCreateUser platform user isEdit store = .ok ()) :
    (∃ email, user.email = some email ∧ isValidEmail (platform.toLowerCase email) = true ∧
      isEmailTaken platform (platform.toLowerCase email) user.id store = .ok false) ∧
    (isEdit = false → ∃ username, user.username = some username ∧
      isValidUsername username = true ∧
        isUsernameTaken platform username user.id store = .ok false) := by
  unfold validateCreateUser at valid
  split at valid
  · exact absurd valid throw_ne_ok
  rename_i usernameGiven
  cases givenEmail : user.email with
  | none =>
      simp only [UserInput.getEmail, givenEmail] at valid
      exact absurd valid throw_ne_ok
  | some email =>
      simp only [UserInput.getEmail, givenEmail] at valid
      change (if _ then _ else _) = _ at valid
      split at valid
      · exact absurd valid throw_ne_ok
      split at valid
      · exact absurd valid throw_ne_ok
      rename_i usernameShape
      split at valid
      · exact absurd valid throw_ne_ok
      rename_i emailShape
      obtain ⟨usernameFree, emailFree⟩ := checkTaken_ok.mp valid
      have emailValid : isValidEmail (platform.toLowerCase email) = true := by
        simpa using emailShape
      refine ⟨⟨email, rfl, emailValid, emailFree⟩, fun new => ?_⟩
      cases givenUsername : user.username with
      | none => simp [new, givenUsername, isEmpty] at usernameGiven
      | some username =>
          rw [givenUsername, Option.getD_some] at usernameFree usernameShape
          exact ⟨username, rfl, by simpa [new] using usernameShape, usernameFree new⟩

end Valid

end GraffiTab
