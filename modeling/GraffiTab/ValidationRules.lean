/-
This file asks whether the validation of a user is the list of its rules.

The rules are the two regular expressions of the code, the mandatory fields, and the two searches
for another account; the first rule that fails should decide the answer. The code meets another
exception where it should find a missing email: `getEmail` lower-cases an email that is not there.
And the search for a name that two accounts have already throws, instead of saying that the name
is taken.
-/

import GraffiTab.Library.Patterns
import GraffiTab.Validation

namespace GraffiTab

open Tables Patterns RegularExpression

/-! ### The two patterns -/

/-- The characters of a range in a class of a pattern. -/
def charRange (first last : Char) : List Char :=
  (List.range' first.toNat (last.toNat + 1 - first.toNat)).map Char.ofNat

def lowerAlphanums : List Char := charRange 'a' 'z' ++ charRange '0' '9'

def usernameChars : List Char :=
  charRange 'A' 'Z' ++ lowerAlphanums ++ ['-', '_', '.']

def emailAtomChars : List Char :=
  lowerAlphanums ++ "!#$%&*+/=?^_|~-".toList ++ [39, 96, 123, 125].map Char.ofNat

/-- The regular expression for usernames. -/
def usernamePattern : RegularExpression Char := oneOrMore (oneOf usernameChars)

/-- What stands between the dots of the domain. -/
def labelPattern : RegularExpression Char :=
  oneOf lowerAlphanums *
    Patterns.optional ((oneOf (lowerAlphanums ++ ['-'])).star * oneOf lowerAlphanums)

/-- The regular expression for emails. -/
def emailPattern : RegularExpression Char :=
  separated '.' (oneOrMore (oneOf emailAtomChars)) *
    (char '@' * separatedTwice '.' labelPattern)

section Patterns

variable {symbol : Char} {word : List Char}

/-- The range of two characters, given by their numbers. -/
theorem mem_charRange {first last : Char} (small : last.toNat < 55296)
    (ordered : first.toNat ≤ last.toNat) :
    symbol ∈ charRange first last ↔ first.toNat ≤ symbol.toNat ∧ symbol.toNat ≤ last.toNat := by
  rw [charRange, List.mem_map]
  constructor
  · rintro ⟨number, member, rfl⟩
    obtain ⟨atLeast, below⟩ := List.mem_range'_1.mp member
    have valid : number.isValidChar := .inl (by omega)
    have same : (Char.ofNat number).toNat = number := by
      rw [Char.ofNat, dif_pos valid]
      rfl
    rw [same]
    omega
  · rintro ⟨atLeast, atMost⟩
    exact ⟨symbol.toNat, List.mem_range'_1.mpr ⟨atLeast, by omega⟩, Char.ofNat_toNat symbol⟩

theorem mem_lowerAlphanums : symbol ∈ lowerAlphanums ↔ isLowerAlphanum symbol = true := by
  rw [lowerAlphanums, List.mem_append, mem_charRange (by decide) (by decide),
    mem_charRange (by decide) (by decide)]
  simp only [isLowerAlphanum, Bool.or_eq_true, Bool.and_eq_true, decide_eq_true_eq, Char.le_def,
    UInt32.le_iff_toNat_le]
  exact Iff.rfl

theorem mem_usernameChars : symbol ∈ usernameChars ↔ isUsernameChar symbol = true := by
  have upper : symbol ∈ charRange 'A' 'Z' ↔ symbol.isUpper = true := by
    rw [mem_charRange (by decide) (by decide)]
    show _ ↔ decide ('A'.toNat ≤ symbol.toNat ∧ symbol.toNat ≤ 'Z'.toNat) = true
    exact decide_eq_true_iff.symm
  have lower : symbol ∈ lowerAlphanums ↔ (symbol.isLower || symbol.isDigit) = true := by
    rw [mem_lowerAlphanums]
    exact Iff.rfl
  rw [usernameChars, List.mem_append, List.mem_append, upper, lower]
  show _ ↔ (((symbol.isUpper || symbol.isLower) || symbol.isDigit) || decide _) = true
  simp only [Bool.or_eq_true, decide_eq_true_eq, or_assoc]

theorem mem_emailAtomChars : symbol ∈ emailAtomChars ↔ isEmailAtomChar symbol = true := by
  have others : symbol ∈ [39, 96, 123, 125].map Char.ofNat ↔
      symbol.toNat ∈ [39, 96, 123, 125] := by
    rw [List.mem_map]
    constructor
    · rintro ⟨number, member, rfl⟩
      revert member
      simp only [List.mem_cons, List.not_mem_nil, or_false]
      rintro (rfl | rfl | rfl | rfl) <;> decide
    · exact fun member => ⟨symbol.toNat, member, Char.ofNat_toNat symbol⟩
  rw [emailAtomChars, List.mem_append, List.mem_append, mem_lowerAlphanums, others]
  simp only [isEmailAtomChar, Bool.or_eq_true, decide_eq_true_eq]

theorem mem_usernamePattern :
    word ∈ usernamePattern.matches' ↔ word ≠ [] ∧ word.all isUsernameChar = true := by
  rw [usernamePattern, mem_oneOrMore_oneOf, List.all_eq_true]
  simp only [mem_usernameChars]

theorem mem_atomPattern :
    word ∈ (oneOrMore (oneOf emailAtomChars)).matches' ↔
      (!word.isEmpty && word.all isEmailAtomChar) = true := by
  rw [mem_oneOrMore_oneOf, Bool.and_eq_true, List.all_eq_true, Bool.not_eq_true',
    List.isEmpty_eq_false_iff]
  simp only [mem_emailAtomChars]

/-- A label begins and ends with a letter or a digit. -/
theorem mem_labelPattern : word ∈ labelPattern.matches' ↔ isDomainLabel word = true := by
  have chars (rest : List Char) :
      (∀ symbol ∈ rest, symbol ∈ lowerAlphanums ++ ['-']) ↔
        (rest.all fun char => isLowerAlphanum char || char = '-') = true := by
    simp only [List.mem_append, mem_lowerAlphanums, List.mem_singleton, List.all_eq_true,
      Bool.or_eq_true, decide_eq_true_eq]
  rw [labelPattern, matches'_mul, Language.mem_mul]
  constructor
  · rintro ⟨head, headMatches, rest, restMatches, rfl⟩
    obtain ⟨first, firstMember, rfl⟩ := mem_oneOf.mp headMatches
    rw [mem_lowerAlphanums] at firstMember
    rw [List.singleton_append, isDomainLabel, firstMember, Bool.true_and, Bool.and_eq_true]
    rcases mem_optional.mp restMatches with rfl | twoMatches
    · exact ⟨firstMember, rfl⟩
    · rw [matches'_mul, Language.mem_mul] at twoMatches
      obtain ⟨middle, middleMatches, tail, tailMatches, rfl⟩ := twoMatches
      obtain ⟨last, lastMember, rfl⟩ := mem_oneOf.mp tailMatches
      have middleChars := mem_star_oneOf.mp middleMatches
      refine ⟨?_, (chars _).mp fun symbol member => ?_⟩
      · simpa [← mem_lowerAlphanums] using lastMember
      · rcases List.mem_append.mp member with inMiddle | isLast
        · exact middleChars symbol inMiddle
        · exact List.mem_append_left _ (List.mem_singleton.mp isLast ▸ lastMember)
  · intro valid
    cases word with
    | nil => exact absurd valid Bool.false_ne_true
    | cons first rest =>
        simp only [isDomainLabel, Bool.and_eq_true] at valid
        obtain ⟨⟨firstValid, lastValid⟩, restValid⟩ := valid
        refine ⟨[first], mem_oneOf.mpr ⟨first, mem_lowerAlphanums.mpr firstValid, rfl⟩, rest, ?_,
          rfl⟩
        rcases List.eq_nil_or_concat rest with rfl | ⟨middle, last, rfl⟩
        · exact mem_optional.mpr (.inl rfl)
        · refine mem_optional.mpr (.inr ?_)
          rw [matches'_mul, List.concat_eq_append] at *
          refine Language.append_mem_mul (mem_star_oneOf.mpr fun symbol member => ?_) ?_
          · exact (chars _).mpr restValid symbol (List.mem_append_left _ member)
          · refine mem_oneOf.mpr ⟨last, mem_lowerAlphanums.mpr ?_, rfl⟩
            simpa using lastValid

theorem mem_localPattern :
    word ∈ (separated '.' (oneOrMore (oneOf emailAtomChars))).matches' ↔
      ((word.splitOn '.').all fun atom => !atom.isEmpty && atom.all isEmailAtomChar) = true := by
  have free (atom : List Char) (matching : atom ∈ (oneOrMore (oneOf emailAtomChars)).matches') :
      '.' ∉ atom :=
    fun member => absurd ((mem_oneOrMore_oneOf.mp matching).2 '.' member) (by decide)
  rw [mem_separated free, List.all_eq_true]
  simp only [mem_atomPattern]

theorem mem_domainPattern :
    word ∈ (separatedTwice '.' labelPattern).matches' ↔
      2 ≤ (word.splitOn '.').length ∧ (word.splitOn '.').all isDomainLabel = true := by
  have free (label : List Char) (matching : label ∈ labelPattern.matches') : '.' ∉ label := by
    intro member
    rw [mem_labelPattern] at matching
    cases label with
    | nil => cases member
    | cons first rest =>
        simp only [isDomainLabel, Bool.and_eq_true, List.all_eq_true] at matching
        rcases List.mem_cons.mp member with rfl | later
        · exact absurd matching.1.1 (by decide)
        · exact absurd (matching.2 '.' later) (by decide)
  rw [mem_separatedTwice free, List.all_eq_true]
  simp only [mem_labelPattern]

/-- Neither part of an email that matches contains the `@`. -/
theorem at_notMem_local
    (matching : word ∈ (separated '.' (oneOrMore (oneOf emailAtomChars))).matches') :
    '@' ∉ word := by
  intro member
  rw [mem_localPattern, List.all_eq_true] at matching
  rcases mem_splitOn '.' member with isDot | ⟨atom, atomMember, inAtom⟩
  · exact absurd isDot (by decide)
  · have chars := (Bool.and_eq_true _ _ ▸ matching atom atomMember).2
    exact absurd (List.all_eq_true.mp chars '@' inAtom) (by decide)

theorem at_notMem_domain (matching : word ∈ (separatedTwice '.' labelPattern).matches') :
    '@' ∉ word := by
  intro member
  rw [mem_domainPattern, List.all_eq_true] at matching
  rcases mem_splitOn '.' member with isDot | ⟨label, labelMember, inLabel⟩
  · exact absurd isDot (by decide)
  have valid := matching.2 label labelMember
  cases label with
  | nil => cases inLabel
  | cons first rest =>
      simp only [isDomainLabel, Bool.and_eq_true, List.all_eq_true] at valid
      rcases List.mem_cons.mp inLabel with rfl | later
      · exact absurd valid.1.1 (by decide)
      · exact absurd (valid.2 '@' later) (by decide)

/-- An email matches exactly if it has one `@` between the two parts. -/
theorem mem_emailPattern :
    word ∈ emailPattern.matches' ↔ ∃ localPart domain, word.splitOn '@' = [localPart, domain] ∧
      localPart ∈ (separated '.' (oneOrMore (oneOf emailAtomChars))).matches' ∧
        domain ∈ (separatedTwice '.' labelPattern).matches' := by
  rw [emailPattern, matches'_mul, Language.mem_mul]
  constructor
  · rintro ⟨localPart, localMatches, tail, tailMatches, rfl⟩
    obtain ⟨domain, domainMatches, rfl⟩ := mem_char_mul.mp tailMatches
    refine ⟨localPart, domain, ?_, localMatches, domainMatches⟩
    have joined : localPart ++ '@' :: domain = ['@'].intercalate [localPart, domain] := by
      rw [intercalate_cons]
      simp
    rw [joined]
    refine List.splitOn_intercalate '@' (fun part member => ?_) (List.cons_ne_nil _ _)
    rcases List.mem_pair.mp member with rfl | rfl
    · exact at_notMem_local localMatches
    · exact at_notMem_domain domainMatches
  · rintro ⟨localPart, domain, split, localMatches, domainMatches⟩
    refine ⟨localPart, localMatches, '@' :: domain,
      mem_char_mul.mpr ⟨domain, domainMatches, rfl⟩, ?_⟩
    have joined : ['@'].intercalate (word.splitOn '@') = word := List.intercalate_splitOn '@'
    rw [← joined, split, intercalate_cons]
    simp

theorem isValidUsername_iff {username : String} :
    isValidUsername username = true ↔ username.toList ∈ usernamePattern.matches' ∧
      3 ≤ username.length ∧ username.length ≤ 25 := by
  have nonempty (long : 3 ≤ username.length) : username.toList ≠ [] := by
    rintro isEmpty
    rw [← String.length_toList, isEmpty] at long
    exact absurd long (by decide)
  rw [mem_usernamePattern, isValidUsername]
  simp only [Bool.and_eq_true, decide_eq_true_eq]
  constructor
  · exact fun valid => ⟨⟨nonempty valid.1.2, valid.1.1⟩, valid.1.2, valid.2⟩
  · rintro ⟨matching, long, short⟩
    exact ⟨⟨matching.2, long⟩, short⟩

theorem isValidEmail_iff {email : String} :
    isValidEmail email = true ↔ email.toList ∈ emailPattern.matches' := by
  rw [mem_emailPattern]
  simp only [mem_localPattern, mem_domainPattern]
  unfold isValidEmail
  split
  · rename_i localPart domain split
    simp only [split, Bool.and_eq_true, decide_eq_true_eq, List.cons.injEq, and_true]
    constructor
    · rintro ⟨⟨atoms, two⟩, labels⟩
      exact ⟨localPart, domain, ⟨rfl, rfl⟩, atoms, two, labels⟩
    · rintro ⟨_, _, ⟨rfl, rfl⟩, atoms, two, labels⟩
      exact ⟨⟨atoms, two⟩, labels⟩
  · rename_i notTwo
    exact iff_of_false Bool.false_ne_true fun ⟨localPart, domain, split, _⟩ =>
      notTwo localPart domain split

end Patterns

/-! ### The rules -/

/-- The rules of the validation, each with its result code. -/
inductive ValidationRule where
  | emptyMandatoryField | invalidUsername | invalidEmail | usernameAlreadyInUse
  | emailAlreadyInUse
  deriving DecidableEq, Repr

/-- The order in which the rules are asked. -/
def validationRules : List ValidationRule :=
  [.emptyMandatoryField, .invalidUsername, .invalidEmail, .usernameAlreadyInUse,
    .emailAlreadyInUse]

/-- What is thrown for the rule. -/
def ValidationRule.exception : ValidationRule → Throwable
  | .emptyMandatoryField =>
      validationErrorException .emptyMandatoryField "Empty mandatory field."
  | .invalidUsername => validationErrorException .invalidUsername "Invalid username"
  | .invalidEmail => validationErrorException .invalidEmail "Invalid email"
  | .usernameAlreadyInUse =>
      validationErrorException .usernameAlreadyInUse "Username already in use."
  | .emailAlreadyInUse => validationErrorException .emailAlreadyInUse "Email already in use."

section Rules

variable (platform : Platform)

/-- The email as it counts: in lower case. -/
def UserInput.lowerEmail (user : UserInput) : Option String := user.email.map platform.toLowerCase

/-- The value of the column belongs to an account other than that of the user. -/
def BelongsToAnother (column : User → String) (value : Option String) (userId : Option Long)
    (store : Store) : Prop :=
  ∃ row ∈ store.users.rows,
    value.map platform.collate = some (platform.collate (column row)) ∧ some row.id ≠ userId

instance (column : User → String) (value : Option String) (userId : Option Long)
    (store : Store) : Decidable (BelongsToAnother platform column value userId store) :=
  inferInstanceAs (Decidable (∃ row ∈ store.users.rows,
    value.map platform.collate = some (platform.collate (column row)) ∧ some row.id ≠ userId))

/-- The user meets the rule. -/
def ValidationRule.Holds (user : UserInput) (isEdit : Bool) (store : Store) :
    ValidationRule → Prop
  | .emptyMandatoryField =>
      isEmpty (user.lowerEmail platform) = false ∧ isEmpty user.firstName = false ∧
        isEmpty user.lastName = false ∧
          (isEdit = false → isEmpty user.username = false ∧ isEmpty user.password = false)
  | .invalidUsername =>
      isEdit = false → ∃ username ∈ user.username, username.toList ∈ usernamePattern.matches' ∧
        3 ≤ username.length ∧ username.length ≤ 25
  | .invalidEmail =>
      ∃ email ∈ user.lowerEmail platform, email.toList ∈ emailPattern.matches'
  | .usernameAlreadyInUse =>
      isEdit = false → ¬ BelongsToAnother platform User.username user.username user.id store
  | .emailAlreadyInUse =>
      ¬ BelongsToAnother platform User.email (user.lowerEmail platform) user.id store

instance (user : UserInput) (isEdit : Bool) (store : Store) :
    DecidablePred (ValidationRule.Holds platform user isEdit store)
  | .emptyMandatoryField => inferInstanceAs (Decidable (_ ∧ _ ∧ _ ∧ (_ → _ ∧ _)))
  | .invalidUsername => inferInstanceAs (Decidable (_ → ∃ username ∈ user.username, _))
  | .invalidEmail => inferInstanceAs (Decidable (∃ email ∈ user.lowerEmail platform, _))
  | .usernameAlreadyInUse => inferInstanceAs (Decidable (_ → ¬ BelongsToAnother ..))
  | .emailAlreadyInUse => inferInstanceAs (Decidable (¬ BelongsToAnother ..))

/-- The first rule that the user does not meet. -/
def firstFailingRule (user : UserInput) (isEdit : Bool) (store : Store) :
    Option ValidationRule :=
  validationRules.find? fun rule => ¬ rule.Holds platform user isEdit store

/-- The validation answers as the first failing rule says, and lets the user through when there
is none. -/
def ValidatesRightly (user : UserInput) (isEdit : Bool) (store : Store) : Prop :=
  validateCreateUser platform user isEdit store =
    match firstFailingRule platform user isEdit store with
    | none => .ok ()
    | some rule => .error rule.exception

end Rules

/-! ### The searches for another account -/

section Searches

variable (platform : Platform)

/-- At most one account has the value in the column. -/
def OneAccountWith (column : User → String) (value : Option String) (store : Store) : Prop :=
  ∀ first ∈ store.users.rows, ∀ second ∈ store.users.rows,
    value.map platform.collate = some (platform.collate (column first)) →
      value.map platform.collate = some (platform.collate (column second)) → first = second

/-- The searches that `validateCreateUser` makes without an identifier find one account at
most. -/
structure SearchesFindOne (user : UserInput) (isEdit : Bool) (store : Store) : Prop where
  username : isEdit = false → OneAccountWith platform User.username user.username store
  email : ValidationRule.Holds platform user isEdit store .usernameAlreadyInUse →
    OneAccountWith platform User.email (user.lowerEmail platform) store

variable {platform} {store : Store} {column : User → String} {value : String}

theorem map_isSome_uniqueResult {Row : Type} [DecidableEq Row] (rows : List Row) :
    (uniqueResult rows).map Option.isSome =
      if ∀ first ∈ rows, ∀ second ∈ rows, first = second then .ok (decide (rows ≠ []))
      else .error .nonUniqueResultException := by
  split
  · rename_i one
    obtain ⟨found, answer⟩ := uniqueResult_isOk one
    rw [answer]
    cases found with
    | none => rw [uniqueResult_eq_none.mp answer]; rfl
    | some row =>
        rw [decide_eq_true (List.ne_nil_of_mem (uniqueResult_eq_some.mp answer).1)]
        rfl
  · rename_i several
    cases answer : uniqueResult rows with
    | error thrown => rw [(uniqueResult_eq_error answer).1]; rfl
    | ok found =>
        refine absurd (fun first firstMember second secondMember => ?_) several
        cases found with
        | none => exact absurd (uniqueResult_eq_none.mp answer ▸ firstMember) List.not_mem_nil
        | some row =>
            have only := (uniqueResult_eq_some.mp answer).2
            rw [only first firstMember, only second secondMember]

theorem mem_select_collate {condition : User → Bool} {row : User} :
    (row ∈ store.users.select fun user =>
        platform.collate (column user) = platform.collate value && condition user) ↔
      row ∈ store.users.rows ∧
        (some value).map platform.collate = some (platform.collate (column row)) ∧
          condition row = true := by
  rw [Table.mem_select, Bool.and_eq_true, decide_eq_true_eq, Option.map_some, Option.some_inj,
    eq_comm]

/-- The search with an identifier finds whether the value belongs to another account. -/
theorem select_different {userId : Long} :
    (!(store.users.select fun user =>
      platform.collate (column user) = platform.collate value && user.id ≠ userId).isEmpty) =
        decide (BelongsToAnother platform column (some value) (some userId) store) := by
  rw [Bool.eq_iff_iff, decide_eq_true_eq, Bool.not_eq_true', List.isEmpty_eq_false_iff_exists_mem]
  refine exists_congr fun row => ?_
  rw [mem_select_collate, decide_eq_true_eq, Ne, Ne, Option.some_inj]

/-- The search without an identifier finds it as long as there is one account at most. -/
theorem uniqueResult_select :
    (OneAccountWith platform column (some value) store →
      (uniqueResult (store.users.select fun user =>
        platform.collate (column user) = platform.collate value)).map Option.isSome =
          .ok (decide (BelongsToAnother platform column (some value) none store))) ∧
    (¬ OneAccountWith platform column (some value) store →
      (uniqueResult (store.users.select fun user =>
        platform.collate (column user) = platform.collate value)).map Option.isSome =
          .error .nonUniqueResultException) := by
  have listed (row : User) : (row ∈ store.users.select fun user =>
      platform.collate (column user) = platform.collate value) ↔ row ∈ store.users.rows ∧
        (some value).map platform.collate = some (platform.collate (column row)) := by
    rw [Table.mem_select, decide_eq_true_eq, Option.map_some, Option.some_inj, eq_comm]
  rw [map_isSome_uniqueResult]
  refine ⟨fun one => ?_, fun several => if_neg fun same => several ?_⟩
  · rw [if_pos fun first firstMember second secondMember =>
      one first ((listed first).mp firstMember).1 second ((listed second).mp secondMember).1
        ((listed first).mp firstMember).2 ((listed second).mp secondMember).2]
    refine congrArg Except.ok (decide_eq_decide.mpr ?_)
    rw [← List.isEmpty_eq_false_iff, List.isEmpty_eq_false_iff_exists_mem]
    refine exists_congr fun row => (listed row).trans (and_congr_right fun _ => ?_)
    exact (and_iff_left (Option.some_ne_none row.id)).symm
  · exact fun first firstMember second secondMember firstHas secondHas =>
      same first ((listed first).mpr ⟨firstMember, firstHas⟩) second
        ((listed second).mpr ⟨secondMember, secondHas⟩)

/-- What the two searches of the validation return. -/
theorem isUsernameTaken_eq {userId : Option Long}
    (one : userId = none → OneAccountWith platform User.username (some value) store) :
    isUsernameTaken platform value userId store =
      .ok (decide (BelongsToAnother platform User.username (some value) userId store)) := by
  cases userId with
  | none => exact uniqueResult_select.1 (one rfl)
  | some userId => exact congrArg Except.ok select_different

theorem isEmailTaken_eq {userId : Option Long}
    (one : userId = none → OneAccountWith platform User.email (some value) store) :
    isEmailTaken platform value userId store =
      .ok (decide (BelongsToAnother platform User.email (some value) userId store)) := by
  cases userId with
  | none => exact uniqueResult_select.1 (one rfl)
  | some userId => exact congrArg Except.ok select_different

end Searches

/-! ### The answer of the validation -/

section Answer

variable {platform : Platform} {store : Store} {user : UserInput} {isEdit : Bool}

/-- The first rule that fails, when the ones before it hold. -/
theorem firstFailingRule_eq_some {earlier later : List ValidationRule} {rule : ValidationRule}
    (order : validationRules = earlier ++ rule :: later)
    (met : ∀ rule ∈ earlier, rule.Holds platform user isEdit store)
    (fails : ¬ rule.Holds platform user isEdit store) :
    firstFailingRule platform user isEdit store = some rule := by
  rw [firstFailingRule, order, List.find?_append, List.find?_eq_none.mpr, Option.none_or]
  · exact List.find?_cons_of_pos (decide_eq_true fails)
  · exact fun rule member => by simpa using met rule member

theorem firstFailingRule_eq_none
    (met : ∀ rule : ValidationRule, rule.Holds platform user isEdit store) :
    firstFailingRule platform user isEdit store = none :=
  List.find?_eq_none.mpr fun rule _ => by simpa using met rule

/-- An exception that no rule throws is no right answer. -/
theorem not_validatesRightly_of_error {thrown : Throwable}
    (answer : validateCreateUser platform user isEdit store = .error thrown)
    (foreign : ∀ rule : ValidationRule, rule.exception ≠ thrown) :
    ¬ ValidatesRightly platform user isEdit store := by
  intro rightly
  rw [ValidatesRightly, answer] at rightly
  split at rightly
  · cases rightly
  · exact foreign _ (Except.error.inj rightly).symm

/-- The validation of a user without an email. -/
theorem validateCreateUser_of_none (missing : user.email = none) :
    validateCreateUser platform user isEdit store =
      if !isEdit && isEmpty user.username then
        .error ValidationRule.emptyMandatoryField.exception
      else .error .nullPointerException := by
  unfold validateCreateUser
  rw [UserInput.getEmail, missing]
  rfl

section Given

variable {email : String} (given : user.email = some email)

include given

theorem holds_emptyMandatoryField :
    ValidationRule.Holds platform user isEdit store .emptyMandatoryField ↔
      (!isEdit && isEmpty user.username) = false ∧
        ((platform.toLowerCase email).isEmpty || isEmpty user.firstName ||
          isEmpty user.lastName || (!isEdit && isEmpty user.password)) = false := by
  rw [ValidationRule.Holds, UserInput.lowerEmail, given, Option.map_some]
  simp only [isEmpty, Bool.or_eq_false_iff]
  cases isEdit with
  | true => simp [and_assoc]
  | false => simp only [Bool.not_false, Bool.true_and, forall_const]; tauto

theorem holds_invalidEmail :
    ValidationRule.Holds platform user isEdit store .invalidEmail ↔
      (!isValidEmail (platform.toLowerCase email)) = false := by
  rw [ValidationRule.Holds, UserInput.lowerEmail, given, Bool.not_eq_false', isValidEmail_iff]
  simp

omit given in
/-- Of a user with a username, or of an edit. -/
theorem holds_invalidUsername (named : (!isEdit && isEmpty user.username) = false) :
    ValidationRule.Holds platform user isEdit store .invalidUsername ↔
      (!isEdit && !isValidUsername (user.username.getD "")) = false := by
  cases isEdit with
  | true => exact iff_of_true nofun rfl
  | false =>
      cases usernameGiven : user.username with
      | none => rw [usernameGiven] at named; cases named
      | some username =>
          simp [ValidationRule.Holds, usernameGiven, isValidUsername_iff]

/-- The validation of a user with an email. -/
theorem validateCreateUser_of_some :
    validateCreateUser platform user isEdit store =
      if ¬ ValidationRule.Holds platform user isEdit store .emptyMandatoryField then
        .error ValidationRule.emptyMandatoryField.exception
      else if ¬ ValidationRule.Holds platform user isEdit store .invalidUsername then
        .error ValidationRule.invalidUsername.exception
      else if ¬ ValidationRule.Holds platform user isEdit store .invalidEmail then
        .error ValidationRule.invalidEmail.exception
      else
        checkTaken platform (user.username.getD "") (platform.toLowerCase email) user.id isEdit
          store := by
  unfold validateCreateUser
  rw [UserInput.getEmail, given]
  simp only [holds_emptyMandatoryField given, holds_invalidEmail given, Bool.not_eq_false]
  cases named : !isEdit && isEmpty user.username with
  | true =>
      rw [if_pos rfl, if_pos (fun both => Bool.false_ne_true both.1.symm)]
      rfl
  | false =>
      simp only [holds_invalidUsername named, Bool.not_eq_false, true_and]
      rfl

theorem checkEmailTaken_of_one
    (one : user.id = none → OneAccountWith platform User.email (user.lowerEmail platform) store) :
    checkEmailTaken platform (platform.toLowerCase email) user.id store =
      if ValidationRule.Holds platform user isEdit store .emailAlreadyInUse then .ok ()
      else .error ValidationRule.emailAlreadyInUse.exception := by
  have lower : user.lowerEmail platform = some (platform.toLowerCase email) := by
    rw [UserInput.lowerEmail, given, Option.map_some]
  rw [lower] at one
  rw [checkEmailTaken, isEmailTaken_eq one]
  simp only [ValidationRule.Holds, lower]
  by_cases taken : BelongsToAnother platform User.email (some (platform.toLowerCase email))
      user.id store
  · rw [if_neg (not_not_intro taken), decide_eq_true taken]
    rfl
  · rw [if_pos taken, decide_eq_false taken]
    rfl

theorem checkEmailTaken_of_several (new : user.id = none)
    (several : ¬ OneAccountWith platform User.email (user.lowerEmail platform) store) :
    checkEmailTaken platform (platform.toLowerCase email) user.id store =
      .error .nonUniqueResultException := by
  rw [UserInput.lowerEmail, given, Option.map_some] at several
  have thrown : isEmailTaken platform (platform.toLowerCase email) none store = _ :=
    uniqueResult_select.2 several
  rw [new, checkEmailTaken, thrown]
  rfl

/-- The searches answer as the last two rules say when they find one account at most. -/
theorem checkTaken_of_searches (named : isEdit = false → user.username ≠ none)
    (searches : user.id = none → SearchesFindOne platform user isEdit store) :
    checkTaken platform (user.username.getD "") (platform.toLowerCase email) user.id isEdit
        store =
      if ¬ ValidationRule.Holds platform user isEdit store .usernameAlreadyInUse then
        .error ValidationRule.usernameAlreadyInUse.exception
      else if ¬ ValidationRule.Holds platform user isEdit store .emailAlreadyInUse then
        .error ValidationRule.emailAlreadyInUse.exception
      else .ok () := by
  rw [checkTaken, ite_not, ite_not]
  cases isEdit with
  | true =>
      have free : ValidationRule.Holds platform user true store .usernameAlreadyInUse :=
        fun created => absurd created.symm Bool.false_ne_true
      rw [if_pos rfl, if_pos free,
        checkEmailTaken_of_one given fun new => (searches new).email free]
  | false =>
      obtain ⟨username, usernameGiven⟩ := Option.ne_none_iff_exists'.mp (named rfl)
      have one (new : user.id = none) := (searches new).username rfl
      rw [usernameGiven] at one
      rw [if_neg Bool.false_ne_true, usernameGiven, Option.getD_some, isUsernameTaken_eq one]
      by_cases taken : BelongsToAnother platform User.username (some username) user.id store
      · have fails : ¬ ValidationRule.Holds platform user false store .usernameAlreadyInUse :=
          fun free => free rfl (usernameGiven ▸ taken)
        rw [if_neg fails, decide_eq_true taken]
        rfl
      · have free : ValidationRule.Holds platform user false store .usernameAlreadyInUse :=
          fun _ => usernameGiven ▸ taken
        rw [if_pos free, decide_eq_false taken,
          ← checkEmailTaken_of_one given fun new => (searches new).email free]
        rfl

/-- A search that finds two accounts throws. -/
theorem checkTaken_of_not_searches (named : isEdit = false → user.username ≠ none)
    (new : user.id = none) (several : ¬ SearchesFindOne platform user isEdit store) :
    checkTaken platform (user.username.getD "") (platform.toLowerCase email) user.id isEdit
      store = .error .nonUniqueResultException := by
  rw [checkTaken]
  cases isEdit with
  | true =>
      rw [if_pos rfl]
      refine checkEmailTaken_of_several given new fun one => several ?_
      exact ⟨fun created => absurd created.symm Bool.false_ne_true, fun _ => one⟩
  | false =>
      obtain ⟨username, usernameGiven⟩ := Option.ne_none_iff_exists'.mp (named rfl)
      rw [if_neg Bool.false_ne_true, usernameGiven, Option.getD_some]
      by_cases one : OneAccountWith platform User.username (some username) store
      · rw [isUsernameTaken_eq fun _ => one]
        by_cases taken : BelongsToAnother platform User.username (some username) user.id store
        · refine absurd ⟨fun _ => usernameGiven ▸ one, fun free => ?_⟩ several
          exact absurd (usernameGiven ▸ taken) (free rfl)
        · rw [decide_eq_false taken]
          refine checkEmailTaken_of_several given new fun oneEmail => several ?_
          exact ⟨fun _ => usernameGiven ▸ one, fun _ => oneEmail⟩
      · have thrown : isUsernameTaken platform username none store = _ :=
          uniqueResult_select.2 one
        rw [new, thrown]
        rfl

/-- A rule on the user's own fields that fails is found first. -/
theorem validatesRightly_of_field_fails
    (fails : ¬ ∀ rule ∈ [ValidationRule.emptyMandatoryField, .invalidUsername, .invalidEmail],
      ValidationRule.Holds platform user isEdit store rule) :
    ValidatesRightly platform user isEdit store := by
  rw [ValidatesRightly, validateCreateUser_of_some given]
  by_cases mandatory : ValidationRule.Holds platform user isEdit store .emptyMandatoryField
  swap
  · rw [if_pos mandatory, firstFailingRule_eq_some (List.nil_append _).symm nofun mandatory]
  by_cases username : ValidationRule.Holds platform user isEdit store .invalidUsername
  swap
  · have earlier := List.forall_mem_singleton.mpr mandatory
    rw [if_neg (not_not_intro mandatory), if_pos username,
      firstFailingRule_eq_some (List.singleton_append).symm earlier username]
  have earlier := List.forall_mem_cons.mpr ⟨mandatory, List.forall_mem_singleton.mpr username⟩
  have email : ¬ ValidationRule.Holds platform user isEdit store .invalidEmail := by
    intro holds
    refine fails (List.forall_mem_cons.mpr ⟨mandatory, ?_⟩)
    exact List.forall_mem_cons.mpr ⟨username, List.forall_mem_singleton.mpr holds⟩
  rw [if_neg (not_not_intro mandatory), if_neg (not_not_intro username), if_pos email,
    firstFailingRule_eq_some (show validationRules = [_, _] ++ _ from rfl) earlier email]

section Own

variable (own : ∀ rule ∈ [ValidationRule.emptyMandatoryField, .invalidUsername, .invalidEmail],
  ValidationRule.Holds platform user isEdit store rule)

include own

omit given in
theorem username_ne_none (created : isEdit = false) : user.username ≠ none := by
  intro missing
  have present := ((own _ List.mem_cons_self).2.2.2 created).1
  rw [missing] at present
  cases present

/-- With the rules on the user's own fields met, the searches are left. -/
theorem validateCreateUser_of_own :
    validateCreateUser platform user isEdit store =
      checkTaken platform (user.username.getD "") (platform.toLowerCase email) user.id isEdit
        store := by
  obtain ⟨mandatory, others⟩ := List.forall_mem_cons.mp own
  obtain ⟨username, others⟩ := List.forall_mem_cons.mp others
  rw [validateCreateUser_of_some given, if_neg (not_not_intro mandatory),
    if_neg (not_not_intro username),
    if_neg (not_not_intro (List.forall_mem_singleton.mp others))]

/-- When they find one account at most, they answer as the last two rules say. -/
theorem validatesRightly_of_searches
    (searches : user.id = none → SearchesFindOne platform user isEdit store) :
    ValidatesRightly platform user isEdit store := by
  rw [ValidatesRightly, validateCreateUser_of_own given own,
    checkTaken_of_searches given (username_ne_none own) searches]
  by_cases usernameFree : ValidationRule.Holds platform user isEdit store .usernameAlreadyInUse
  swap
  · rw [if_pos usernameFree,
      firstFailingRule_eq_some (show validationRules = [_, _, _] ++ _ from rfl) own usernameFree]
  rw [if_neg (not_not_intro usernameFree)]
  have earlier : ∀ rule ∈ [.emptyMandatoryField, .invalidUsername, .invalidEmail] ++
      [.usernameAlreadyInUse], ValidationRule.Holds platform user isEdit store rule :=
    List.forall_mem_append.mpr ⟨own, List.forall_mem_singleton.mpr usernameFree⟩
  by_cases emailFree : ValidationRule.Holds platform user isEdit store .emailAlreadyInUse
  · have all : ∀ rule ∈ validationRules, ValidationRule.Holds platform user isEdit store rule :=
      List.forall_mem_append.mpr ⟨earlier, List.forall_mem_singleton.mpr emailFree⟩
    rw [if_neg (not_not_intro emailFree), firstFailingRule_eq_none fun rule => ?_]
    exact all rule (by cases rule <;> decide)
  · rw [if_pos emailFree,
      firstFailingRule_eq_some (show validationRules = [_, _, _, _] ++ _ from rfl) earlier
        emailFree]

/-- With the rules on the user's own fields met, the searches decide. -/
theorem validatesRightly_iff_searches :
    ValidatesRightly platform user isEdit store ↔
      (user.id = none → SearchesFindOne platform user isEdit store) := by
  refine ⟨fun rightly => ?_, validatesRightly_of_searches given own⟩
  by_contra searches
  obtain ⟨new, several⟩ := Classical.not_imp.mp searches
  have answer := validateCreateUser_of_own given own
  rw [checkTaken_of_not_searches given (username_ne_none own) new several] at answer
  refine not_validatesRightly_of_error answer (fun rule => ?_) rightly
  cases rule <;> nofun

end Own

end Given

/-- The validation answers as its rules say exactly if the email is there when it is read and,
for a user without an identifier that meets the rules on its own fields, no search finds two
accounts. -/
theorem validatesRightly_iff :
    ValidatesRightly platform user isEdit store ↔
      (user.email = none → isEdit = false ∧ isEmpty user.username = true) ∧
        (user.id = none →
          (∀ rule ∈ [ValidationRule.emptyMandatoryField, .invalidUsername, .invalidEmail],
            ValidationRule.Holds platform user isEdit store rule) →
          SearchesFindOne platform user isEdit store) := by
  cases given : user.email with
  | none =>
      have fails : ¬ ValidationRule.Holds platform user isEdit store .emptyMandatoryField := by
        intro holds
        have present := holds.1
        rw [UserInput.lowerEmail, given] at present
        cases present
      by_cases unnamed : isEdit = false ∧ isEmpty user.username = true
      · refine iff_of_true ?_
          ⟨fun _ => unnamed, fun _ own => absurd (own _ List.mem_cons_self) fails⟩
        rw [ValidatesRightly, validateCreateUser_of_none given,
          firstFailingRule_eq_some (List.nil_append _).symm nofun fails, unnamed.1, unnamed.2]
        rfl
      · have thrown : validateCreateUser platform user isEdit store =
            .error .nullPointerException := by
          rw [validateCreateUser_of_none given, if_neg]
          simpa using unnamed
        refine iff_of_false (not_validatesRightly_of_error thrown fun rule => ?_)
          fun both => unnamed (both.1 rfl)
        cases rule <;> nofun
  | some email =>
      by_cases own : ∀ rule ∈ [ValidationRule.emptyMandatoryField, .invalidUsername,
          .invalidEmail], ValidationRule.Holds platform user isEdit store rule
      · rw [validatesRightly_iff_searches given own]
        exact ⟨fun searches => ⟨nofun, fun new _ => searches new⟩, fun both new => both.2 new own⟩
      · exact iff_of_true (validatesRightly_of_field_fails given own)
          ⟨nofun, fun _ holds => absurd holds own⟩

end Answer

/-- A new user without an email is met with the exception of `getEmail`. -/
theorem not_validatesRightly :
    ¬ ValidatesRightly (asciiPlatform .entry) { plainInput "banksy" with email := none } false
      .empty := by
  unfold ValidatesRightly
  decide

end GraffiTab
