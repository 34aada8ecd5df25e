/-
This file is about texts that are written field by field, and about reading them.

A field has tokens, each with a value, and it reads a token in front of a text, if what stands
behind the token does not continue it. A list of fields reads one token after the other. Where
each field is followed by what stops it, the fields read exactly the texts that have a token of
each field, and in one way only. Decimal numbers are such a field, which is stopped by what is no
digit, and so are names, of which the longest is read.
-/

import Mathlib.Algebra.Group.Nat.Defs
import Mathlib.Data.List.Basic
import Mathlib.Data.List.TakeWhile

namespace TextFields

universe u v w

variable {Letter : Type u} {Value : Type v}

/-! ### Fields -/

/-- The tokens of a field with their values, what may stand behind a token, and how the field
reads a token in front of a text. -/
structure Field (Letter : Type u) (Value : Type v) where
  Token : List Letter → Value → Prop
  Stops : List Letter → Prop
  read : List Letter → Option (Value × List Letter)
  sound : ∀ {text value rest}, read text = some (value, rest) →
    ∃ token, text = token ++ rest ∧ Token token value
  complete : ∀ {token value rest}, Token token value → Stops rest →
    read (token ++ rest) = some (value, rest)

variable {field : Field Letter Value} {fields : List (Field Letter Value)}
  {text rest : List Letter} {values : List Value}

/-- The text has a token of each field, with the values. -/
inductive Written : List (Field Letter Value) → List Letter → List Value → Prop
  | nil : Written [] [] []
  | cons {field : Field Letter Value} {fields : List (Field Letter Value)} {token : List Letter}
      {value : Value} {text : List Letter} {values : List Value} (first : field.Token token value)
      (others : Written fields text values) :
      Written (field :: fields) (token ++ text) (value :: values)

/-- Reads a token of each field. -/
def readAll : List (Field Letter Value) → List Letter → Option (List Value × List Letter)
  | [], text => some ([], text)
  | field :: fields, text =>
      (field.read text).bind fun (value, rest) =>
        (readAll fields rest).map fun (values, rest) => (value :: values, rest)

/-- What is written behind each field stops it. -/
def Chained : List (Field Letter Value) → Prop
  | [] => True
  | field :: fields =>
      (∀ text values, Written fields text values → field.Stops text) ∧ Chained fields

/-- Each value is that of a token of one of the fields. -/
theorem Written.mem {value : Value} (written : Written fields text values)
    (member : value ∈ values) : ∃ field ∈ fields, ∃ token, field.Token token value := by
  induction written with
  | nil => cases member
  | cons isToken others inductionHypothesis =>
      rcases List.mem_cons.mp member with rfl | member
      · exact ⟨_, List.mem_cons_self, _, isToken⟩
      · obtain ⟨field, inFields, isToken⟩ := inductionHypothesis member
        exact ⟨field, List.mem_cons_of_mem _ inFields, isToken⟩

/-- What is written with one field in some place is also written with another one there that has
the same token. -/
theorem Written.replace {front behind : List (Field Letter Value)} {first : Field Letter Value}
    (written : Written (front ++ first :: behind) text values) :
    ∃ before token value after, values = before ++ value :: after ∧ first.Token token value ∧
      (∃ frontText, Written front frontText before) ∧
        ∀ (second : Field Letter Value) (other : Value), second.Token token other →
          Written (front ++ second :: behind) text (before ++ other :: after) := by
  induction front generalizing text values with
  | nil =>
      cases written with
      | cons isToken others =>
          exact ⟨[], _, _, _, rfl, isToken, ⟨[], .nil⟩, fun _ _ replaced => .cons replaced others⟩
  | cons field front inductionHypothesis =>
      cases written with
      | cons isToken others =>
          obtain ⟨before, token, value, after, rfl, replaced, ⟨_, inFront⟩, written⟩ :=
            inductionHypothesis others
          exact ⟨_ :: before, token, value, after, rfl, replaced, ⟨_, .cons isToken inFront⟩,
            fun second other isSecond => .cons isToken (written second other isSecond)⟩

/-- What is written ends with a token of the last field. -/
theorem Written.last {front : List (Field Letter Value)}
    (written : Written (front ++ [field]) text values) :
    ∃ before token value, text = before ++ token ∧ field.Token token value := by
  induction front generalizing text values with
  | nil =>
      cases written with
      | cons isToken others =>
          cases others
          exact ⟨[], _, _, List.append_nil _, isToken⟩
  | cons first front inductionHypothesis =>
      cases written with
      | cons isToken others =>
          obtain ⟨before, token, value, rfl, isLast⟩ := inductionHypothesis others
          exact ⟨_ ++ before, token, value, (List.append_assoc ..).symm, isLast⟩

theorem readAll_cons :
    readAll (field :: fields) text = some (values, rest) ↔
      ∃ value between others, field.read text = some (value, between) ∧
        readAll fields between = some (others, rest) ∧ values = value :: others := by
  simp only [readAll, Option.bind_eq_some_iff, Option.map_eq_some_iff, Prod.exists, Prod.mk.injEq]
  constructor
  · rintro ⟨value, between, isRead, others, _, areRead, rfl, rfl⟩
    exact ⟨value, between, others, isRead, areRead, rfl⟩
  · rintro ⟨value, between, others, isRead, areRead, rfl⟩
    exact ⟨value, between, isRead, others, rest, areRead, rfl, rfl⟩

theorem readAll_append {first second : List (Field Letter Value)} :
    readAll (first ++ second) text = some (values, rest) ↔
      ∃ firstValues between secondValues, readAll first text = some (firstValues, between) ∧
        readAll second between = some (secondValues, rest) ∧
          values = firstValues ++ secondValues := by
  induction first generalizing text values with
  | nil =>
      constructor
      · exact fun areRead => ⟨[], text, values, rfl, areRead, rfl⟩
      · rintro ⟨_, _, _, none, areRead, rfl⟩
        obtain ⟨rfl, rfl⟩ := Prod.mk.inj (Option.some.inj none)
        exact areRead
  | cons field fields inductionHypothesis =>
      simp only [List.cons_append, readAll_cons, inductionHypothesis]
      constructor
      · rintro ⟨value, behind, _, isRead, ⟨others, between, second, areRead, restRead, rfl⟩, rfl⟩
        exact ⟨value :: others, between, second, ⟨value, behind, others, isRead, areRead, rfl⟩,
          restRead, rfl⟩
      · rintro ⟨_, between, second, ⟨value, behind, others, isRead, areRead, rfl⟩, restRead, rfl⟩
        exact ⟨value, behind, _, isRead, ⟨others, between, second, areRead, restRead, rfl⟩, rfl⟩

theorem readAll_sound (areRead : readAll fields text = some (values, rest)) :
    ∃ front, text = front ++ rest ∧ Written fields front values := by
  induction fields generalizing text values with
  | nil =>
      obtain ⟨rfl, rfl⟩ := Prod.mk.inj (Option.some.inj areRead)
      exact ⟨[], rfl, .nil⟩
  | cons field fields inductionHypothesis =>
      obtain ⟨value, between, others, isRead, restRead, rfl⟩ := readAll_cons.mp areRead
      obtain ⟨token, rfl, isToken⟩ := field.sound isRead
      obtain ⟨front, rfl, written⟩ := inductionHypothesis restRead
      exact ⟨token ++ front, (List.append_assoc token front rest).symm, .cons isToken written⟩

theorem readAll_complete (chained : Chained fields) (written : Written fields text values) :
    readAll fields text = some (values, []) := by
  induction written with
  | nil => rfl
  | cons isToken others inductionHypothesis =>
      exact readAll_cons.mpr ⟨_, _, _, Field.complete _ isToken (chained.1 _ _ others),
        inductionHypothesis chained.2, rfl⟩

/-- Chained fields read the texts that are written in them. -/
theorem readAll_eq_some_iff (chained : Chained fields) :
    readAll fields text = some (values, []) ↔ Written fields text values := by
  refine ⟨fun areRead => ?_, readAll_complete chained⟩
  obtain ⟨front, rfl, written⟩ := readAll_sound areRead
  rw [List.append_nil]
  exact written

/-! ### Composed fields -/

section Composed

variable {First Second : Type v}

/-- A token of the first field, and one of the second behind it. -/
def Field.pair (first : Field Letter First) (second : Field Letter Second)
    (combine : First → Second → Value)
    (chained : ∀ token value rest, second.Token token value → second.Stops rest →
      first.Stops (token ++ rest)) : Field Letter Value where
  Token token value := ∃ front back firstValue secondValue, token = front ++ back ∧
    first.Token front firstValue ∧ second.Token back secondValue ∧
      value = combine firstValue secondValue
  Stops := second.Stops
  read text :=
    (first.read text).bind fun (firstValue, between) =>
      (second.read between).map fun (secondValue, rest) => (combine firstValue secondValue, rest)
  sound := by
    intro text value rest isRead
    obtain ⟨⟨firstValue, between⟩, firstRead, isRead⟩ := Option.bind_eq_some_iff.mp isRead
    obtain ⟨⟨secondValue, _⟩, secondRead, same⟩ := Option.map_eq_some_iff.mp isRead
    obtain ⟨rfl, rfl⟩ := Prod.mk.inj same
    obtain ⟨front, rfl, isFirst⟩ := first.sound firstRead
    obtain ⟨back, rfl, isSecond⟩ := second.sound secondRead
    exact ⟨front ++ back, (List.append_assoc _ _ _).symm, front, back, firstValue, secondValue,
      rfl, isFirst, isSecond, rfl⟩
  complete := by
    rintro _ _ rest ⟨front, back, firstValue, secondValue, rfl, isFirst, isSecond, rfl⟩ stops
    rw [List.append_assoc, first.complete isFirst (chained _ _ _ isSecond stops)]
    exact Option.map_eq_some_iff.mpr ⟨_, second.complete isSecond stops, rfl⟩

/-- The field with other values. -/
def Field.map {First : Type w} (field : Field Letter First) (toValue : First → Value) :
    Field Letter Value where
  Token token value := ∃ first, field.Token token first ∧ value = toValue first
  Stops := field.Stops
  read text := (field.read text).map fun (first, rest) => (toValue first, rest)
  sound := by
    intro text value rest isRead
    obtain ⟨⟨first, _⟩, firstRead, same⟩ := Option.map_eq_some_iff.mp isRead
    obtain ⟨rfl, rfl⟩ := Prod.mk.inj same
    obtain ⟨token, split, isToken⟩ := field.sound firstRead
    exact ⟨token, split, first, isToken, rfl⟩
  complete := by
    rintro token _ rest ⟨first, isToken, rfl⟩ stops
    rw [field.complete isToken stops]
    rfl

/-- The tokens of the field whose values are admitted. -/
def Field.admitting (field : Field Letter Value) (admitted : Value → Bool) :
    Field Letter Value where
  Token token value := field.Token token value ∧ admitted value = true
  Stops := field.Stops
  read text := (field.read text).filter fun (value, _) => admitted value
  sound := by
    intro text value rest isRead
    obtain ⟨isRead, isAdmitted⟩ := Option.filter_eq_some_iff.mp isRead
    obtain ⟨token, split, isToken⟩ := field.sound isRead
    exact ⟨token, split, isToken, isAdmitted⟩
  complete := by
    rintro token value rest ⟨isToken, isAdmitted⟩ stops
    rw [field.complete isToken stops]
    exact if_pos isAdmitted

/-- A token of the first field if the text begins with a letter of some kind, and otherwise one of
the second field. -/
def Field.choose (begins : Letter → Bool) (first second : Field Letter Value)
    (ofFirst : ∀ token value, first.Token token value →
      ∃ letter others, token = letter :: others ∧ begins letter = true)
    (ofSecond : ∀ token value rest, second.Token token value → second.Stops rest →
      (token ++ rest).head?.any begins = false) : Field Letter Value where
  Token token value := first.Token token value ∨ second.Token token value
  Stops text := first.Stops text ∧ second.Stops text
  read text := if text.head?.any begins then first.read text else second.read text
  sound := by
    intro text value rest isRead
    split at isRead
    · obtain ⟨token, split, isToken⟩ := first.sound isRead
      exact ⟨token, split, .inl isToken⟩
    · obtain ⟨token, split, isToken⟩ := second.sound isRead
      exact ⟨token, split, .inr isToken⟩
  complete := by
    rintro token value rest (isToken | isToken) ⟨firstStops, secondStops⟩
    · obtain ⟨letter, others, rfl, isBegin⟩ := ofFirst _ _ isToken
      rw [← first.complete isToken firstStops]
      exact if_pos isBegin
    · rw [ofSecond _ _ _ isToken secondStops, ← second.complete isToken secondStops]
      rfl

/-- Nothing, at the end of the text. -/
def nothing (value : Value) : Field Letter Value where
  Token token read := token = [] ∧ read = value
  Stops text := text = []
  read text := some (value, text)
  sound := by
    intro text read rest isRead
    obtain ⟨rfl, rfl⟩ := Prod.mk.inj (Option.some.inj isRead)
    exact ⟨[], rfl, rfl, rfl⟩
  complete := by
    rintro _ _ rest ⟨rfl, rfl⟩ -
    rfl

/-- A token of the field, if the text goes on with a letter that begins one. -/
def Field.optional (begins : Letter → Bool) (field : Field Letter Value) (missing : Value)
    (ofField : ∀ token value, field.Token token value →
      ∃ letter others, token = letter :: others ∧ begins letter = true) : Field Letter Value :=
  Field.choose begins field (nothing missing) ofField (by
    rintro _ _ _ ⟨rfl, -⟩ rfl
    rfl)

end Composed

/-! ### Literals -/

section Literals

variable [DecidableEq Letter]

/-- One of some letters. -/
def oneOf (letters : List Letter) (value : Value) : Field Letter Value where
  Token token read := (∃ letter, token = [letter] ∧ letter ∈ letters) ∧ read = value
  Stops _ := True
  read text :=
    match text with
    | [] => none
    | first :: rest => if first ∈ letters then some (value, rest) else none
  sound := by
    intro text read rest isRead
    cases text with
    | nil => cases isRead
    | cons first others =>
        dsimp only at isRead
        split at isRead
        · rename_i member
          obtain ⟨rfl, rfl⟩ := Prod.mk.inj (Option.some.inj isRead)
          exact ⟨[first], rfl, ⟨first, rfl, member⟩, rfl⟩
        · cases isRead
  complete := by
    rintro _ _ rest ⟨⟨letter, rfl, member⟩, rfl⟩ -
    exact if_pos member

/-- The letter itself, with a value that says nothing. -/
def literal (letter : Letter) (value : Value) : Field Letter Value := oneOf [letter] value

theorem written_literal {letter : Letter} {value : Value}
    (written : Written (literal letter value :: fields) text values) :
    ∃ others, text = letter :: others := by
  cases written with
  | cons isToken _ =>
      obtain ⟨⟨_, rfl, same⟩, -⟩ := isToken
      rw [List.mem_singleton.mp same]
      exact ⟨_, rfl⟩

end Literals

/-! ### Numbers -/

/-- At most so many digits, and at least one, that denote the number. -/
structure IsNumber (longest : Nat) (token : List Char) (number : Nat) : Prop where
  nonempty : token ≠ []
  short : token.length ≤ longest
  digits : ∀ digit ∈ token, digit.isDigit = true
  denotes : Nat.ofDigitChars 10 token 0 = number

/-- The text does not begin with a digit. -/
def StopsNumber (text : List Char) : Prop := ∀ letter ∈ text.head?, letter.isDigit = false

/-- The digits in front of the text, and at most so many of them. -/
def readNumber (longest : Nat) (text : List Char) : Option (Nat × List Char) :=
  let digits := (text.take longest).takeWhile Char.isDigit
  if digits = [] then none
  else some (Nat.ofDigitChars 10 digits 0, text.drop digits.length)

theorem readNumber_sound {longest number : Nat} {text rest : List Char}
    (isRead : readNumber longest text = some (number, rest)) :
    ∃ token, text = token ++ rest ∧ IsNumber longest token number := by
  unfold readNumber at isRead
  dsimp only at isRead
  split at isRead
  · cases isRead
  · rename_i nonempty
    obtain ⟨rfl, rfl⟩ := Prod.mk.inj (Option.some.inj isRead)
    have front : (text.take longest).takeWhile Char.isDigit <+: text :=
      (List.takeWhile_prefix _).trans (List.take_prefix _ _)
    have short : ((text.take longest).takeWhile Char.isDigit).length ≤ (text.take longest).length :=
      (List.takeWhile_prefix _).length_le
    exact ⟨_, List.prefix_iff_eq_append.mp front |>.symm, nonempty,
      short.trans (List.length_take_le _ _), fun _ member => List.mem_takeWhile_imp member, rfl⟩

theorem readNumber_complete {longest number : Nat} {token rest : List Char}
    (isNumber : IsNumber longest token number) (stops : StopsNumber rest) :
    readNumber longest (token ++ rest) = some (number, rest) := by
  have stopped : (rest.take (longest - token.length)).takeWhile Char.isDigit = [] := by
    cases rest with
    | nil => rw [List.take_nil, List.takeWhile_nil]
    | cons first others =>
        cases longest - token.length with
        | zero => rfl
        | succ more =>
            rw [List.take_succ_cons, List.takeWhile_cons_of_neg]
            exact Bool.eq_false_iff.mp (stops first rfl)
  have digits : ((token ++ rest).take longest).takeWhile Char.isDigit = token := by
    rw [List.take_append, List.take_of_length_le isNumber.short,
      List.takeWhile_append_of_pos isNumber.digits, stopped, List.append_nil]
  unfold readNumber
  rw [digits, if_neg isNumber.nonempty, isNumber.denotes, List.drop_left]

/-- A decimal number of at most so many digits. -/
def number (longest : Nat) (toValue : Nat → Value) : Field Char Value :=
  Field.map ⟨IsNumber longest, StopsNumber, readNumber longest, readNumber_sound,
    readNumber_complete⟩ toValue

/-- A number with a sign, or without one. -/
inductive IsSignedNumber (longest : Nat) : List Char → Int → Prop
  | unsigned {token : List Char} {number : Nat} (isNumber : IsNumber longest token number) :
      IsSignedNumber longest token number
  | positive {token : List Char} {number : Nat} (isNumber : IsNumber longest token number) :
      IsSignedNumber longest ('+' :: token) number
  | negative {token : List Char} {number : Nat} (isNumber : IsNumber longest token number) :
      IsSignedNumber longest ('-' :: token) (-number)

/-- The number in front of the text, with its sign. -/
def readSignedNumber (longest : Nat) (text : List Char) : Option (Int × List Char) :=
  if text.head? = some '-' then
    (readNumber longest text.tail).map fun (number, rest) => (-number, rest)
  else
    (readNumber longest (if text.head? = some '+' then text.tail else text)).map
      fun (number, rest) => (number, rest)

theorem readSignedNumber_sound {longest : Nat} {number : Int} {text rest : List Char}
    (isRead : readSignedNumber longest text = some (number, rest)) :
    ∃ token, text = token ++ rest ∧ IsSignedNumber longest token number := by
  unfold readSignedNumber at isRead
  split at isRead
  · rename_i sign
    obtain ⟨others, rfl⟩ := List.head?_eq_some_iff.mp sign
    obtain ⟨⟨digits, _⟩, numberRead, same⟩ := Option.map_eq_some_iff.mp isRead
    obtain ⟨rfl, rfl⟩ := Prod.mk.inj same
    obtain ⟨token, split, isNumber⟩ := readNumber_sound numberRead
    exact ⟨'-' :: token, congrArg (List.cons '-') split, .negative isNumber⟩
  · obtain ⟨⟨digits, _⟩, numberRead, same⟩ := Option.map_eq_some_iff.mp isRead
    obtain ⟨rfl, rfl⟩ := Prod.mk.inj same
    obtain ⟨token, split, isNumber⟩ := readNumber_sound numberRead
    split at split
    · rename_i sign
      obtain ⟨others, rfl⟩ := List.head?_eq_some_iff.mp sign
      exact ⟨'+' :: token, congrArg (List.cons '+') split, .positive isNumber⟩
    · exact ⟨token, split, .unsigned isNumber⟩

theorem IsNumber.begins {longest number : Nat} {token : List Char}
    (isNumber : IsNumber longest token number) :
    ∃ letter others, token = letter :: others ∧ letter.isDigit = true := by
  cases token with
  | nil => exact absurd rfl isNumber.nonempty
  | cons letter others => exact ⟨letter, others, rfl, isNumber.digits letter List.mem_cons_self⟩

theorem IsNumber.ends {longest number : Nat} {token : List Char}
    (isNumber : IsNumber longest token number) :
    ∃ others letter, token = others ++ [letter] ∧ letter.isDigit = true := by
  obtain ⟨others, letter, rfl⟩ := List.eq_nil_or_concat token |>.resolve_left isNumber.nonempty
  rw [List.concat_eq_append] at isNumber ⊢
  exact ⟨others, letter, rfl, isNumber.digits letter List.mem_concat_self⟩

theorem IsNumber.head?_ne {longest number : Nat} {token rest : List Char} {letter : Char}
    (isNumber : IsNumber longest token number) (noDigit : letter.isDigit = false) :
    (token ++ rest).head? ≠ some letter := by
  obtain ⟨first, others, rfl, isDigit⟩ := isNumber.begins
  intro same
  rw [Option.some.inj same, noDigit] at isDigit
  cases isDigit

theorem readSignedNumber_complete {longest : Nat} {number : Int} {token rest : List Char}
    (isNumber : IsSignedNumber longest token number) (stops : StopsNumber rest) :
    readSignedNumber longest (token ++ rest) = some (number, rest) := by
  unfold readSignedNumber
  cases isNumber with
  | unsigned isNumber =>
      rw [if_neg (isNumber.head?_ne rfl), if_neg (isNumber.head?_ne rfl),
        readNumber_complete isNumber stops]
      rfl
  | positive isNumber =>
      rw [List.cons_append, List.head?_cons, if_neg (show ¬ some '+' = some '-' by decide),
        if_pos rfl, List.tail_cons, readNumber_complete isNumber stops]
      rfl
  | negative isNumber =>
      rw [List.cons_append, List.head?_cons, if_pos rfl, List.tail_cons,
        readNumber_complete isNumber stops]
      rfl

def signedNumber (longest : Nat) (toValue : Int → Value) : Field Char Value :=
  Field.map ⟨IsSignedNumber longest, StopsNumber, readSignedNumber longest,
    readSignedNumber_sound, readSignedNumber_complete⟩ toValue

/-- The number of the two digits in front of the text. -/
def readTwoDigits : List Char → Option (Nat × List Char)
  | first :: second :: rest =>
      if first.isDigit && second.isDigit then some (Nat.ofDigitChars 10 [first, second] 0, rest)
      else none
  | _ => none

/-- Two digits that denote the number. -/
def IsTwoDigits (token : List Char) (number : Nat) : Prop :=
  token.length = 2 ∧ IsNumber 2 token number

theorem readTwoDigits_sound {number : Nat} {text rest : List Char}
    (isRead : readTwoDigits text = some (number, rest)) :
    ∃ token, text = token ++ rest ∧ IsTwoDigits token number := by
  unfold readTwoDigits at isRead
  split at isRead
  · rename_i first second others
    split at isRead
    · rename_i digits
      obtain ⟨firstDigit, secondDigit⟩ := Bool.and_eq_true_iff.mp digits
      obtain ⟨rfl, rfl⟩ := Prod.mk.inj (Option.some.inj isRead)
      refine ⟨[first, second], rfl, rfl, List.cons_ne_nil _ _, Nat.le_refl 2, ?_, rfl⟩
      rintro digit (_ | ⟨_, _ | ⟨_, none⟩⟩)
      · exact firstDigit
      · exact secondDigit
      · cases none
    · cases isRead
  · cases isRead

theorem readTwoDigits_complete {number : Nat} {token rest : List Char}
    (isNumber : IsTwoDigits token number) :
    readTwoDigits (token ++ rest) = some (number, rest) := by
  obtain ⟨two, isNumber⟩ := isNumber
  obtain ⟨first, second, rfl⟩ := List.length_eq_two.mp two
  have digits : (first.isDigit && second.isDigit) = true :=
    Bool.and_eq_true_iff.mpr ⟨isNumber.digits first List.mem_cons_self,
      isNumber.digits second (List.mem_cons_of_mem _ List.mem_cons_self)⟩
  rw [List.cons_append, List.singleton_append, readTwoDigits, if_pos digits, isNumber.denotes]

/-- A number of two digits. -/
def twoDigits (toValue : Nat → Value) : Field Char Value :=
  Field.map ⟨IsTwoDigits, fun _ => True, readTwoDigits, readTwoDigits_sound,
    fun isNumber _ => readTwoDigits_complete isNumber⟩ toValue

/-- The decimal digits of a number, with zeros in front up to the width. -/
def padded (width number : Nat) : List Char := (Nat.toDigits 10 number).leftpad width '0'

/-- A number that fits is written with at least one digit. -/
theorem isNumber_padded {width longest number : Nat} (wide : width ≤ longest)
    (positive : 0 < longest) (small : number < 10 ^ longest) :
    IsNumber longest (padded width number) number := by
  constructor
  · intro empty
    exact Nat.toDigits_ne_nil (List.append_eq_nil_iff.mp empty).2
  · rw [padded, List.length_leftpad]
    exact Nat.max_le.mpr ⟨wide, (Nat.length_toDigits_le_iff (by decide) positive).mpr small⟩
  · intro digit member
    rcases List.mem_append.mp member with pad | inNumber
    · rw [List.eq_of_mem_replicate pad]
      rfl
    · exact Nat.isDigit_of_mem_toDigits (by decide) (by decide) inNumber
  · rw [padded, List.leftpad, Nat.ofDigitChars_append, Nat.ofDigitChars_replicate_zero,
      Nat.mul_zero, Nat.ofDigitChars_ten_toDigits]

/-! ### Names -/

/-- The longest name in front of the text, after the letters that have been passed. -/
def readName (valueOf : List Letter → Option Value) (passed : List Letter) :
    List Letter → Option (Value × List Letter)
  | [] => (valueOf passed).map fun value => (value, [])
  | letter :: rest =>
      (readName valueOf (passed ++ [letter]) rest).or
        ((valueOf passed).map fun value => (value, letter :: rest))

theorem readName_sound {valueOf : List Letter → Option Value} {value : Value}
    {passed text rest : List Letter} (isRead : readName valueOf passed text = some (value, rest)) :
    ∃ token, text = token ++ rest ∧ valueOf (passed ++ token) = some value := by
  induction text generalizing passed with
  | nil =>
      obtain ⟨_, named, same⟩ := Option.map_eq_some_iff.mp isRead
      obtain ⟨rfl, rfl⟩ := Prod.mk.inj same
      exact ⟨[], rfl, by rw [List.append_nil, named]⟩
  | cons letter text inductionHypothesis =>
      rcases Option.or_eq_some_iff.mp isRead with longer | ⟨-, here⟩
      · obtain ⟨token, rfl, named⟩ := inductionHypothesis longer
        exact ⟨letter :: token, rfl, by rw [List.append_cons, named]⟩
      · obtain ⟨_, named, same⟩ := Option.map_eq_some_iff.mp here
        obtain ⟨rfl, rfl⟩ := Prod.mk.inj same
        exact ⟨[], rfl, by rw [List.append_nil, named]⟩

/-- A name is read in front of a letter that no name has. -/
theorem readName_complete {valueOf : List Letter → Option Value} {value : Value}
    {passed token rest : List Letter} {separator : Letter}
    (separated : ∀ name value, valueOf name = some value → separator ∉ name)
    (named : valueOf (passed ++ token) = some value) :
    readName valueOf passed (token ++ separator :: rest) = some (value, separator :: rest) := by
  induction token generalizing passed with
  | nil =>
      have shortest : readName valueOf (passed ++ [separator]) rest = none := by
        refine Option.eq_none_iff_forall_ne_some.mpr fun ⟨other, behind⟩ isRead => ?_
        obtain ⟨token, -, longer⟩ := readName_sound isRead
        refine separated _ _ longer ?_
        rw [List.append_assoc]
        exact List.mem_append_right _ List.mem_cons_self
      rw [List.append_nil] at named
      rw [List.nil_append, readName, shortest, Option.none_or, named, Option.map_some]
  | cons letter token inductionHypothesis =>
      rw [List.append_cons] at named
      rw [List.cons_append, readName, inductionHypothesis named, Option.some_or]

/-- The names of some values, which a separator follows. -/
structure Names (Letter : Type u) (Value : Type v) (separator : Letter) where
  valueOf : List Letter → Option Value
  separated : ∀ name value, valueOf name = some value → separator ∉ name

def Names.reader {separator : Letter} {Other : Type v} (names : Names Letter Other separator)
    (toValue : Other → Value) : Field Letter Value :=
  Field.map
    { Token := fun token other => names.valueOf token = some other
      Stops := fun text => text.head? = some separator
      read := readName names.valueOf []
      sound := readName_sound
      complete := fun named stops => by
        obtain ⟨others, rfl⟩ := List.head?_eq_some_iff.mp stops
        exact readName_complete names.separated named }
    toValue

end TextFields
