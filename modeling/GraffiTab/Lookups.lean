/-
This file holds the queries by which the services find users and external accounts.

What lies below the code enters as a `Platform`: how Java lower-cases a text, which
texts the database takes for equal (the collations of its columns need not distinguish
letter cases or blanks at the end), and how the mapper renders `elements(mi)` in the
query for metadata. Of a platform only these laws are assumed: a text in lower case
stays as it is, lower-casing and trimming commute, and a stored text without blanks
around it that is equal to a text is equal to the trimmed text.
-/

import GraffiTab.Entities

namespace GraffiTab

open Tables

/-! ### Trimming -/

/-- The characters that `String.trim` removes at both ends. -/
def isBlank (char : Char) : Bool := char.val ≤ 32

/-- `String.trim`. -/
def trim (text : String) : String :=
  String.ofList ((text.toList.dropWhile isBlank).reverse.dropWhile isBlank).reverse

theorem trim_eq_self {text : String} (solid : ∀ char ∈ text.toList, isBlank char = false) :
    trim text = text := by
  have kept {chars : List Char} (all : ∀ char ∈ chars, isBlank char = false) :
      chars.dropWhile isBlank = chars := by
    cases chars with
    | nil => rfl
    | cons first rest =>
        rw [List.dropWhile_cons_of_neg]
        rw [all first List.mem_cons_self]
        exact Bool.false_ne_true
  rw [trim, kept solid, kept fun char member => solid char (List.mem_reverse.mp member),
    List.reverse_reverse, String.ofList_toList]

theorem mem_dropWhile_isBlank {chars : List Char} {char : Char} (solid : isBlank char = false) :
    char ∈ chars.dropWhile isBlank ↔ char ∈ chars := by
  induction chars with
  | nil => exact Iff.rfl
  | cons first rest inductionHypothesis =>
      by_cases blank : isBlank first = true
      · rw [List.dropWhile_cons_of_pos blank, inductionHypothesis, List.mem_cons]
        refine (or_iff_right fun same => ?_).symm
        rw [same, blank] at solid
        cases solid
      · rw [List.dropWhile_cons_of_neg blank]

/-- Trimming removes no other character. -/
theorem mem_trim {text : String} {char : Char} (solid : isBlank char = false) :
    char ∈ (trim text).toList ↔ char ∈ text.toList := by
  rw [trim, String.toList_ofList, List.mem_reverse, mem_dropWhile_isBlank solid, List.mem_reverse,
    mem_dropWhile_isBlank solid]

/-! ### The platform -/

/-- The two renderings of `:metadataValue in elements(mi)`: the value of the joined entry only,
or any value stored with the user. -/
inductive ElementsScope where
  | entry
  | collection
  deriving DecidableEq, Repr

/-- What the Java library, the database and the mapper decide. -/
structure Platform where
  /-- `String.toLowerCase`. -/
  toLowerCase : String → String
  toLowerCase_toLowerCase : ∀ text, toLowerCase (toLowerCase text) = toLowerCase text
  toLowerCase_trim : ∀ text, toLowerCase (trim text) = trim (toLowerCase text)
  /-- Texts with the same image are equal for the database, in the tables of users, sessions and
  devices (`utf8mb4_unicode_ci`). -/
  collate : String → String
  /-- Blanks around a text do not make it equal to another one without such blanks. -/
  collate_trim : ∀ stored text, trim stored = stored → collate stored = collate text →
    collate stored = collate (trim text)
  /-- Texts with the same image are equal for the database, in the tables of metadata and external
  accounts (`latin1`). -/
  collateLatin : String → String
  elementsScope : ElementsScope

theorem toLower_toLower (char : Char) : char.toLower.toLower = char.toLower := by
  unfold Char.toLower
  grind

theorem isBlank_toLower (char : Char) : isBlank char.toLower = isBlank char := by
  unfold isBlank Char.toLower
  split
  · rename_i upper
    have bounds : 65 ≤ char.val ∧ char.val ≤ 90 := upper
    have shift : ('a'.val - 'A'.val).toNat = 32 := rfl
    simp only [UInt32.le_iff_toNat_le, UInt32.toNat_add, UInt32.reduceToNat, shift] at bounds ⊢
    rw [decide_eq_false (by omega), decide_eq_false (by omega)]
  · rfl

/-- A platform whose letters are the ASCII letters and whose texts are equal as they stand. -/
def asciiPlatform (elementsScope : ElementsScope) : Platform where
  toLowerCase text := String.ofList (text.toList.map Char.toLower)
  toLowerCase_toLowerCase text := by
    rw [String.toList_ofList, List.map_map]
    refine congrArg String.ofList (List.map_congr_left fun char _ => ?_)
    exact toLower_toLower char
  toLowerCase_trim text := by
    have lowered : isBlank ∘ Char.toLower = isBlank := funext isBlank_toLower
    rw [trim, trim, String.toList_ofList, String.toList_ofList, List.dropWhile_map, lowered,
      ← List.map_reverse, List.dropWhile_map, lowered, List.map_reverse]
  collate text := text
  collate_trim stored text trimmed same := by
    rw [← same, trimmed]
  collateLatin text := text
  elementsScope := elementsScope

/-! ### Text -/

/-- `StringUtils.isEmpty`. -/
def isEmpty : Option String → Bool
  | none => true
  | some text => text.isEmpty

/-- `Character.isWhitespace`. -/
def Character.isWhitespace (symbol : Char) : Bool :=
  let code := symbol.toNat
  (9 ≤ code && code ≤ 13) || (28 ≤ code && code ≤ 32) || code = 0x1680 || code = 0x180e ||
    (0x2000 ≤ code && code ≤ 0x2006) || (0x2008 ≤ code && code ≤ 0x200a) || code = 0x2028 ||
    code = 0x2029 || code = 0x205f || code = 0x3000

theorem not_isWhitespace_of_isAlphanum {symbol : Char} (isAlphanum : symbol.isAlphanum = true) :
    Character.isWhitespace symbol = false := by
  have bounds : (65 ≤ symbol.toNat ∧ symbol.toNat ≤ 90 ∨ 97 ≤ symbol.toNat ∧ symbol.toNat ≤ 122) ∨
      48 ≤ symbol.toNat ∧ symbol.toNat ≤ 57 := by
    change (decide (65 ≤ symbol.toNat ∧ symbol.toNat ≤ 90) ||
      (decide (97 ≤ symbol.toNat) && decide (symbol.toNat ≤ 122)) || symbol.isDigit) = true
      at isAlphanum
    rw [Bool.or_eq_true, Bool.or_eq_true, Bool.and_eq_true, decide_eq_true_iff,
      decide_eq_true_iff, decide_eq_true_iff] at isAlphanum
    exact isAlphanum.imp id Char.isDigit_iff_toNat.mp
  unfold Character.isWhitespace
  grind

/-- `StringUtils.hasText` of a text that is there: some character is not white space. -/
def Text.hasText (text : List Char) : Bool :=
  text.any fun symbol => !Character.isWhitespace symbol

/-- `StringUtils.hasText`. -/
def hasText (text : Option String) : Bool := text.any fun text => Text.hasText text.toList

/-- The number that a list of decimal digits writes. -/
def parseDigits : List Char → Option Nat
  | [] => none
  | digits =>
      if digits.all Char.isDigit then
        some (digits.foldl (fun number digit => number * 10 + (digit.toNat - 48)) 0)
      else none

/-- `Long.parseLong`. -/
def parseLong (text : Option String) : Except Throwable Long :=
  let number : Option Int :=
    match text.map String.toList with
    | none => none
    | some ('-' :: digits) => (parseDigits digits).map fun value => -(value : Int)
    | some ('+' :: digits) => (parseDigits digits).map fun value => (value : Int)
    | some digits => (parseDigits digits).map fun value => (value : Int)
  match number with
  | some value =>
      if -9223372036854775808 ≤ value ∧ value ≤ 9223372036854775807 then .ok value
      else .error .numberFormatException
  | none => .error .numberFormatException

/-! ### Printed numbers -/

theorem parseDigits_toDigits (number : Nat) :
    parseDigits (Nat.toDigits 10 number) = some number := by
  have digits : (Nat.toDigits 10 number).all Char.isDigit = true :=
    List.all_eq_true.mpr fun char member =>
      Nat.isDigit_of_mem_toDigits (by decide) (by decide) member
  have value : (Nat.toDigits 10 number).foldl
      (fun number digit => number * 10 + (digit.toNat - 48)) 0 = number := by
    simp only [Nat.mul_comm _ 10]
    exact Nat.ofDigitChars_ten_toDigits
  cases written : Nat.toDigits 10 number with
  | nil => exact absurd written Nat.toDigits_ne_nil
  | cons first rest =>
      rw [written] at digits value
      simp only [parseDigits, digits, if_true, value]

theorem toList_toString_ofNat (number : Nat) :
    (toString (Int.ofNat number)).toList = Nat.toDigits 10 number :=
  Nat.toList_repr

theorem toList_toString_negSucc (number : Nat) :
    (toString (Int.negSucc number)).toList = '-' :: Nat.toDigits 10 (number + 1) := by
  rw [show toString (Int.negSucc number) = "-" ++ (number + 1).repr from rfl,
    String.toList_append, Nat.toList_repr]
  rfl

/-- A number that is read is written with a sign or without one. -/
theorem parseLong_ok {text : String} {value : Long} (parsed : parseLong (some text) = .ok value) :
    (∃ digits number, text.toList = '-' :: digits ∧ parseDigits digits = some number ∧
        value = -(number : Int)) ∨
      (∃ digits number, text.toList = '+' :: digits ∧ parseDigits digits = some number ∧
        value = number) ∨
      ∃ number, parseDigits text.toList = some number ∧ value = number := by
  have ofMap {digits : List Char} {sign : Int → Int} {read : Int}
      (isRead : Option.map sign (do return (← parseDigits digits : Int)) = some read) :
      ∃ number : Nat, parseDigits digits = some number ∧ read = sign number := by
    cases isNumber : parseDigits digits with
    | none =>
        rw [isNumber] at isRead
        cases isRead
    | some number =>
        rw [isNumber] at isRead
        exact ⟨number, rfl, (Option.some.inj isRead).symm⟩
  simp only [parseLong, Option.map_some] at parsed
  split at parsed
  · rename_i read isRead
    split at parsed
    · obtain rfl := Except.ok.inj parsed
      split at isRead
      · cases isRead
      · rename_i digits written
        obtain ⟨number, isNumber, same⟩ := ofMap isRead
        exact .inl ⟨digits, number, Option.some.inj written, isNumber, same⟩
      · rename_i digits written
        obtain ⟨number, isNumber, same⟩ := ofMap isRead
        exact .inr (.inl ⟨digits, number, Option.some.inj written, isNumber, same⟩)
      · rename_i digits _ _ written
        obtain ⟨number, isNumber, same⟩ := ofMap isRead
        exact .inr (.inr ⟨number, Option.some.inj written ▸ isNumber, same⟩)
    · cases parsed
  · cases parsed

theorem isDigit_of_toDigits_eq_cons {number : Nat} {first : Char} {rest : List Char}
    (written : Nat.toDigits 10 number = first :: rest) : first.isDigit = true :=
  Nat.isDigit_of_mem_toDigits (by decide) (by decide) (written ▸ List.mem_cons_self)

/-- A printed number is read as it was, when it is in the range of the type. -/
theorem parseLong_toString {number value : Long}
    (parsed : parseLong (some (toString number)) = .ok value) : value = number := by
  cases number with
  | ofNat number =>
      rcases parseLong_ok parsed with ⟨digits, read, written, -⟩ | ⟨digits, read, written, -⟩ |
        ⟨read, isRead, same⟩
      · rw [toList_toString_ofNat] at written
        exact absurd (isDigit_of_toDigits_eq_cons written) (by decide)
      · rw [toList_toString_ofNat] at written
        exact absurd (isDigit_of_toDigits_eq_cons written) (by decide)
      · rw [toList_toString_ofNat, parseDigits_toDigits] at isRead
        rw [same, ← Option.some.inj isRead]
        rfl
  | negSucc number =>
      rcases parseLong_ok parsed with ⟨digits, read, written, isRead, same⟩ |
        ⟨digits, read, written, -⟩ | ⟨read, isRead, -⟩
      · rw [toList_toString_negSucc] at written
        rw [← (List.cons.inj written).2, parseDigits_toDigits] at isRead
        rw [same, ← Option.some.inj isRead]
        rfl
      · rw [toList_toString_negSucc] at written
        exact absurd (List.cons.inj written).1 (by decide)
      · rw [toList_toString_negSucc] at isRead
        simp [parseDigits] at isRead

/-! ### Queries for users -/

/-- `UserService.findUserById`. -/
def findUserById (id : Long) (store : Store) : Option User := store.users.find id

section Users

variable (platform : Platform)

/-- The texts are equal for the database, in the tables of users, sessions and devices. -/
abbrev SameText (first second : String) : Prop :=
  platform.collate first = platform.collate second

def findByUsername (username : String) (store : Store) : Except Throwable (Option User) :=
  uniqueResult <| store.users.select fun user =>
    platform.collate user.username = platform.collate username

def findByEmail (email : String) (store : Store) : Except Throwable (Option User) :=
  uniqueResult <| store.users.select fun user =>
    platform.collate user.email = platform.collate email

def findUsersByUsernameWithDifferentId (username : String) (userId : Long) (store : Store) :
    List User :=
  store.users.select fun user =>
    platform.collate user.username = platform.collate username && user.id ≠ userId

def findUsersByEmailWithDifferentID (email : String) (userId : Long) (store : Store) :
    List User :=
  store.users.select fun user =>
    platform.collate user.email = platform.collate email && user.id ≠ userId

def findByUsernameOrEmail (usernameOrEmail : String) (store : Store) :
    Except Throwable (Option User) :=
  if usernameOrEmail.toList.contains '@' then
    findByEmail platform (platform.toLowerCase usernameOrEmail) store
  else findByUsername platform usernameOrEmail store

/-- The query for metadata takes the texts for equal. -/
abbrev SameToken (first second : String) : Prop :=
  platform.collateLatin first = platform.collateLatin second

/-- The condition of the query for metadata on one user. -/
def hasMetadataValue (key value : String) (user : User) : Bool :=
  match platform.elementsScope with
  | .entry =>
      (user.metadataItems.lookup key).any fun stored => SameToken platform stored value
  | .collection =>
      (user.metadataItems.lookup key).isSome &&
        user.metadataItems.entries.any fun item => SameToken platform item.2 value

def findUsersWithMetadataValues (key value : String) (store : Store) :
    Except Throwable (Option User) :=
  uniqueResult <| store.users.select (hasMetadataValue platform key value)

end Users

/-! ### Queries for external accounts -/

/-- The row that links the user to an account of the given network. -/
def findExternalProvider (userId : Long) (type : ExternalProviderType) (store : Store) :
    Except Throwable (Option ExternalProvider) :=
  uniqueResult <| store.externalProviders.select fun provider =>
    provider.externalProviderType = type && provider.userId = userId

/-- The users joined with the rows for the external account, one for each row. -/
def usersWithExternalProvider (platform : Platform) (type : ExternalProviderType)
    (externalUserId : String) (store : Store) : List User :=
  (store.externalProviders.select fun provider =>
    provider.externalProviderType = type &&
      platform.collateLatin provider.externalUserId =
        platform.collateLatin externalUserId).filterMap
    fun provider => store.users.find provider.userId

def findUserWithExternalProvider (platform : Platform) (type : ExternalProviderType)
    (externalUserId : String) (store : Store) : Except Throwable (Option User) :=
  uniqueResult (usersWithExternalProvider platform type externalUserId store)

/-! ### What the queries answer -/

section Answers

variable {platform : Platform} {store : Store}

theorem findByUsername_eq_some {username : String} {user : User}
    (found : findByUsername platform username store = .ok (some user)) :
    user ∈ store.users.rows ∧ platform.collate user.username = platform.collate username := by
  have member := (uniqueResult_eq_some.mp found).1
  simpa using Table.mem_select.mp member

theorem findByEmail_eq_some {email : String} {user : User}
    (found : findByEmail platform email store = .ok (some user)) :
    user ∈ store.users.rows ∧ platform.collate user.email = platform.collate email := by
  have member := (uniqueResult_eq_some.mp found).1
  simpa using Table.mem_select.mp member

theorem findByUsername_eq_none {username : String} :
    findByUsername platform username store = .ok none ↔
      ∀ user ∈ store.users.rows, platform.collate user.username ≠ platform.collate username := by
  rw [findByUsername, uniqueResult_eq_none]
  simp [Table.select]

theorem findByEmail_eq_none {email : String} :
    findByEmail platform email store = .ok none ↔
      ∀ user ∈ store.users.rows, platform.collate user.email ≠ platform.collate email := by
  rw [findByEmail, uniqueResult_eq_none]
  simp [Table.select]

theorem mem_of_findByUsernameOrEmail {usernameOrEmail : String} {user : User}
    (found : findByUsernameOrEmail platform usernameOrEmail store = .ok (some user)) :
    user ∈ store.users.rows := by
  unfold findByUsernameOrEmail at found
  split at found
  · exact (findByEmail_eq_some found).1
  · exact (findByUsername_eq_some found).1

/-- The text names the user, by the username or the email. -/
def User.isNamed (platform : Platform) (usernameOrEmail : String) (user : User) : Bool :=
  if usernameOrEmail.toList.contains '@' then
    platform.collate user.email = platform.collate (platform.toLowerCase usernameOrEmail)
  else platform.collate user.username = platform.collate usernameOrEmail

/-- A user is found when it is the only one that the text names. -/
theorem findByUsernameOrEmail_eq_some {usernameOrEmail : String} {user : User} :
    findByUsernameOrEmail platform usernameOrEmail store = .ok (some user) ↔
      (user ∈ store.users.rows ∧ user.isNamed platform usernameOrEmail = true) ∧
        ∀ other ∈ store.users.rows, other.isNamed platform usernameOrEmail = true →
          other = user := by
  unfold findByUsernameOrEmail User.isNamed
  split
  · rw [findByEmail, uniqueResult_eq_some, Table.mem_select]
    simp only [Table.mem_select, and_imp]
  · rw [findByUsername, uniqueResult_eq_some, Table.mem_select]
    simp only [Table.mem_select, and_imp]

theorem findUsersWithMetadataValues_eq_some {key value : String} {user : User} :
    findUsersWithMetadataValues platform key value store = .ok (some user) ↔
      (user ∈ store.users.rows ∧ hasMetadataValue platform key value user = true) ∧
        ∀ other ∈ store.users.rows, hasMetadataValue platform key value other = true →
          other = user := by
  rw [findUsersWithMetadataValues, uniqueResult_eq_some, Table.mem_select]
  simp only [Table.mem_select, and_imp]

theorem mem_usersWithExternalProvider {type : ExternalProviderType} {externalUserId : String}
    {user : User} :
    user ∈ usersWithExternalProvider platform type externalUserId store ↔
      ∃ provider ∈ store.externalProviders.rows, provider.externalProviderType = type ∧
        platform.collateLatin provider.externalUserId = platform.collateLatin externalUserId ∧
          store.users.find provider.userId = some user := by
  simp [usersWithExternalProvider, Table.mem_select, and_assoc]

theorem findUserWithExternalProvider_eq_some {type : ExternalProviderType}
    {externalUserId : String} {user : User}
    (found : findUserWithExternalProvider platform type externalUserId store = .ok (some user)) :
    user ∈ store.users.rows ∧
      ∃ provider ∈ store.externalProviders.rows, provider.externalProviderType = type ∧
        platform.collateLatin provider.externalUserId = platform.collateLatin externalUserId ∧
          provider.userId = user.id := by
  obtain ⟨provider, member, sameType, sameId, owner⟩ :=
    mem_usersWithExternalProvider.mp (uniqueResult_eq_some.mp found).1
  have ownerId : user.id = provider.userId := Table.id_of_find owner
  exact ⟨Table.mem_of_find owner, provider, member, sameType, sameId, ownerId.symm⟩

theorem findExternalProvider_eq_some {userId : Long} {type : ExternalProviderType}
    {provider : ExternalProvider}
    (found : findExternalProvider userId type store = .ok (some provider)) :
    provider ∈ store.externalProviders.rows ∧ provider.externalProviderType = type ∧
      provider.userId = userId := by
  have member := Table.mem_select.mp (uniqueResult_eq_some.mp found).1
  simpa using member

theorem findExternalProvider_eq_none {userId : Long} {type : ExternalProviderType} :
    findExternalProvider userId type store = .ok none ↔
      ∀ provider ∈ store.externalProviders.rows, provider.externalProviderType = type →
        provider.userId ≠ userId := by
  rw [findExternalProvider, uniqueResult_eq_none]
  simp [Table.select]

end Answers

end GraffiTab
