/-
This file models how dates are written in answers and read from requests.

A date is printed in UTC by one pattern. Eight patterns are tried for reading, with and without a
weekday, with and without seconds, and for a year of four or of two digits, and the first one that
accepts the whole text decides. The elements of a pattern are those of the date library: a year of
four digits may be written with fewer digits, more of them, or a sign; a year of two digits is the
one next to the year in which the formatters were made; a zone is an offset in hours and maybe
minutes, seconds and a fraction, or the letter Z for none. The names of the weekdays and months are
those of the locale.
-/

import GraffiTab.Library.Calendar
import GraffiTab.Library.TextFields

namespace GraffiTab

open Calendar TextFields

/-! ### Offsets of time zones -/

section Offsets

/-- The tokens of the field begin with a digit. -/
def BeginsWithDigit (field : Field Char Nat) : Prop :=
  ∀ token value, field.Token token value →
    ∃ letter others, token = letter :: others ∧ letter.isDigit = true

/-- Two digits up to the greatest number, with what is written behind them. -/
def offsetPart (largest millis : Nat) (behind : Field Char Nat) : Field Char Nat :=
  ((twoDigits id).admitting (· ≤ largest)).pair behind (fun number more => number * millis + more)
    fun _ _ _ _ _ => trivial

theorem offsetPart_begins (largest millis : Nat) (behind : Field Char Nat) :
    BeginsWithDigit (offsetPart largest millis behind) := by
  rintro _ _ ⟨front, back, _, _, rfl, ⟨⟨number, isNumber, -⟩, -⟩, -, -⟩
  obtain ⟨letter, others, rfl, isDigit⟩ := isNumber.2.begins
  exact ⟨letter, others ++ back, rfl, isDigit⟩

/-- The field behind one of the marks. -/
def marked (marks : List Char) (field : Field Char Nat) : Field Char Nat :=
  (oneOf marks ()).pair field (fun _ value => value) fun _ _ _ _ _ => trivial

theorem marked_begins {marks : List Char} {field : Field Char Nat} {token : List Char}
    {value : Nat} (isToken : (marked marks field).Token token value) :
    ∃ letter others, token = letter :: others ∧ letter ∈ marks := by
  obtain ⟨_, back, _, _, rfl, ⟨⟨letter, rfl, member⟩, -⟩, -, -⟩ := isToken
  exact ⟨letter, back, rfl, member⟩

/-- What may be left out at the end: with separators it stands behind a mark, and otherwise it
begins with a digit. -/
def trailing (separators : Bool) (marks : List Char) (field : Field Char Nat)
    (begins : BeginsWithDigit field) : Field Char Nat :=
  match separators with
  | false => field.optional Char.isDigit 0 begins
  | true =>
      (marked marks field).optional (fun letter => letter ∈ marks) 0 fun _ _ isToken => by
        obtain ⟨letter, others, rfl, member⟩ := marked_begins isToken
        exact ⟨letter, others, rfl, decide_eq_true member⟩

/-- Tenths of a second, hundredths or thousandths. -/
def IsFraction (token : List Char) (millis : Nat) : Prop :=
  ∃ number, IsNumber 3 token number ∧ millis = number * 10 ^ (3 - token.length)

def fraction : Field Char Nat where
  Token := IsFraction
  Stops := StopsNumber
  read text := (readNumber 3 text).map fun (number, rest) =>
    (number * 10 ^ (3 - (text.length - rest.length)), rest)
  sound := by
    intro text millis rest isRead
    obtain ⟨⟨number, _⟩, numberRead, same⟩ := Option.map_eq_some_iff.mp isRead
    obtain ⟨rfl, rfl⟩ := Prod.mk.inj same
    obtain ⟨token, rfl, isNumber⟩ := readNumber_sound numberRead
    refine ⟨token, rfl, number, isNumber, ?_⟩
    rw [List.length_append, Nat.add_sub_cancel]
  complete := by
    rintro token _ rest ⟨number, isNumber, rfl⟩ stops
    have length : (token ++ rest).length - rest.length = token.length := by
      rw [List.length_append, Nat.add_sub_cancel]
    rw [readNumber_complete isNumber stops]
    exact congrArg (fun used => some (number * 10 ^ (3 - used), rest)) length

theorem fraction_begins : BeginsWithDigit fraction := by
  rintro token _ ⟨number, isNumber, -⟩
  exact isNumber.begins

def offsetSeconds (separators : Bool) : Field Char Nat :=
  offsetPart 59 1000 (trailing separators ['.', ','] fraction fraction_begins)

def offsetMinutes (separators : Bool) : Field Char Nat :=
  offsetPart 59 60000 (trailing separators [':'] (offsetSeconds separators)
    (offsetPart_begins _ _ _))

/-- A colon behind the hours decides that there are separators. -/
def offsetBehindHours : Field Char Nat :=
  (marked [':'] (offsetMinutes true)).choose (fun letter => letter = ':')
    ((offsetMinutes false).optional Char.isDigit 0 (offsetPart_begins _ _ _))
    (fun _ _ isToken => by
      obtain ⟨letter, others, rfl, member⟩ := marked_begins isToken
      exact ⟨letter, others, rfl, decide_eq_true (List.mem_singleton.mp member)⟩)
    (by
      rintro _ _ _ (isToken | ⟨rfl, -⟩) ⟨-, rfl⟩
      · obtain ⟨letter, others, rfl, isDigit⟩ := offsetPart_begins _ _ _ _ _ isToken
        refine decide_eq_false fun isColon => ?_
        rw [isColon] at isDigit
        cases isDigit
      · rfl)

section Signs

variable {Value : Type}

/-- An offset in milliseconds behind its sign. -/
def signedOffset (sign : Char) (toValue : Nat → Value) : Field Char Value :=
  (oneOf [sign] ()).pair (offsetPart 23 3600000 offsetBehindHours) (fun _ millis => toValue millis)
    fun _ _ _ _ _ => trivial

theorem signedOffset_begins {sign : Char} {toValue : Nat → Value} {token : List Char}
    {value : Value} (isToken : (signedOffset sign toValue).Token token value) :
    ∃ others, token = sign :: others := by
  obtain ⟨_, back, _, _, rfl, ⟨⟨letter, rfl, member⟩, -⟩, -, -⟩ := isToken
  rw [List.mem_singleton.mp member]
  exact ⟨back, rfl⟩

def numericOffset (toValue : Int → Value) : Field Char Value :=
  (signedOffset '-' fun millis => toValue (-millis)).choose (fun letter => letter = '-')
    (signedOffset '+' fun millis => toValue millis)
    (fun _ _ isToken => by
      obtain ⟨others, rfl⟩ := signedOffset_begins isToken
      exact ⟨'-', others, rfl, rfl⟩)
    (by
      rintro _ _ _ isToken -
      obtain ⟨others, rfl⟩ := signedOffset_begins isToken
      rfl)

/-- The letter for the offset zero. -/
def offsetLetter (toValue : Int → Value) : Field Char Value := oneOf ['Z', 'z'] (toValue 0)

/-- `TimeZoneOffset.parseInto`: the letter is looked for before the sign. -/
def timeZoneOffset (toValue : Int → Value) : Field Char Value :=
  (offsetLetter toValue).choose (fun letter => letter ∈ ['Z', 'z']) (numericOffset toValue)
    (by
      rintro _ _ ⟨⟨letter, rfl, member⟩, -⟩
      exact ⟨letter, [], rfl, decide_eq_true member⟩)
    (by
      rintro _ _ _ (isToken | isToken) -
      · obtain ⟨others, rfl⟩ := signedOffset_begins isToken
        rfl
      · obtain ⟨others, rfl⟩ := signedOffset_begins isToken
        rfl)

end Signs

end Offsets

/-! ### The date library -/

/-- The names that a locale has for the numbers from one on: those that are accepted, and the one
that is printed. A name has no digit in front, and not the separator that the patterns put behind
it. -/
structure TextNames (last : Int) (separator : Char) extends Names Char Int separator where
  textOf : Int → List Char
  bounds : ∀ name value, valueOf name = some value → 1 ≤ value ∧ value ≤ last
  begins : ∀ name value, valueOf name = some value →
    ∃ letter others, name = letter :: others ∧ letter.isDigit = false
  valueOf_textOf : ∀ value, 1 ≤ value → value ≤ last → valueOf (textOf value) = some value

section Tables

/-- The forms in which a name is accepted: its first three letters or all of them, as they are, in
lower case or in upper case. -/
def nameForms (name : List Char) : List (List Char) :=
  [name.take 3, (name.take 3).map Char.toLower, (name.take 3).map Char.toUpper, name,
    name.map Char.toLower, name.map Char.toUpper]

/-- The number of the name in the table that has the form, counted from one on. -/
def numberOfName (table : List (List Char)) (form : List Char) : Option Int :=
  (table.findIdx? fun name => (nameForms name).contains form).map fun index : Nat =>
    (index : Int) + 1

theorem numberOfName_eq_some {table : List (List Char)} {form : List Char} {value : Int}
    (found : numberOfName table form = some value) :
    (1 ≤ value ∧ value ≤ table.length) ∧ ∃ name ∈ table, form ∈ nameForms name := by
  obtain ⟨index, isFirst, rfl⟩ := Option.map_eq_some_iff.mp found
  obtain ⟨inTable, hasForm, -⟩ := List.findIdx?_eq_some_iff_getElem.mp isFirst
  exact ⟨by omega, table[index], List.getElem_mem _, List.contains_iff_mem.mp hasForm⟩

/-- The names of a table, of which the first three letters are printed. -/
def tableNames (table : List (List Char)) (separator : Char)
    (wellFormed : ∀ name ∈ table, ∀ form ∈ nameForms name,
      separator ∉ form ∧ form.head?.any (fun letter => !letter.isDigit) = true)
    (distinct : ∀ index : Fin table.length,
      numberOfName table (table[index].take 3) = some ((index.val : Int) + 1)) :
    TextNames table.length separator where
  valueOf := numberOfName table
  separated form value found := by
    obtain ⟨-, name, member, hasForm⟩ := numberOfName_eq_some found
    exact (wellFormed name member form hasForm).1
  textOf value := (table[(value - 1).toNat]?.getD []).take 3
  bounds form value found := (numberOfName_eq_some found).1
  begins form value found := by
    obtain ⟨-, name, member, hasForm⟩ := numberOfName_eq_some found
    have begun := (wellFormed name member form hasForm).2
    cases form with
    | nil => cases begun
    | cons letter others => exact ⟨letter, others, rfl, by simpa using begun⟩
  valueOf_textOf value first last := by
    have inTable : (value - 1).toNat < table.length := by omega
    rw [List.getElem?_eq_getElem inTable, Option.getD_some]
    refine (distinct ⟨(value - 1).toNat, inTable⟩).trans (congrArg some ?_)
    dsimp only
    omega

def englishWeekdays : TextNames 7 ',' :=
  tableNames
    ["Monday".toList, "Tuesday".toList, "Wednesday".toList, "Thursday".toList, "Friday".toList,
      "Saturday".toList, "Sunday".toList]
    ',' (by decide) (by decide)

def englishMonths : TextNames 12 ' ' :=
  tableNames
    ["January".toList, "February".toList, "March".toList, "April".toList, "May".toList,
      "June".toList, "July".toList, "August".toList, "September".toList, "October".toList,
      "November".toList, "December".toList]
    ' ' (by decide) (by decide)

end Tables

/-- The locale of the server, and the year in which the formatters were made. -/
structure JodaTime where
  weekdays : TextNames 7 ','
  months : TextNames 12 ' '
  currentYear : Int
  afterEpoch : 1970 ≤ currentYear

inductive DateTimeFieldType where
  | year
  | monthOfYear
  | dayOfMonth
  | dayOfWeek
  | hourOfDay
  | minuteOfHour
  | secondOfMinute
  deriving DecidableEq

/-- What an element of a pattern saves of the text that it has read. -/
inductive Saved where
  | literal
  | field (type : DateTimeFieldType) (value : Int)
  | offset (millis : Int)
  deriving DecidableEq

inductive Element where
  | dayOfWeekShortText
  | dayOfMonth
  | monthOfYearShortText
  | year
  | twoDigitYear
  | hourOfDay
  | minuteOfHour
  | secondOfMinute
  | timeZoneOffset
  | literal (letter : Char)
  deriving DecidableEq

/-- The pattern letters of the converter. -/
def element : List Char → Option Element
  | ['E', 'E', 'E'] => some .dayOfWeekShortText
  | ['d', 'd'] => some .dayOfMonth
  | ['M', 'M', 'M'] => some .monthOfYearShortText
  | ['y', 'y', 'y', 'y'] => some .year
  | ['y', 'y'] => some .twoDigitYear
  | ['H', 'H'] => some .hourOfDay
  | ['m', 'm'] => some .minuteOfHour
  | ['s', 's'] => some .secondOfMinute
  | ['Z'] => some .timeZoneOffset
  | [letter] => some (.literal letter)
  | _ => none

/-- `DateTimeFormat.forPattern`: a letter and its repetitions are an element. -/
def forPattern (pattern : String) : List Element :=
  (pattern.toList.splitBy fun first second => first = second).filterMap element

/-- The year of the century around the pivot that ends with the two digits. -/
def yearAround (pivot year : Int) : Int :=
  let low := pivot - 50
  let ending := low % 100
  year + low + (if year < ending then 100 else 0) - ending

/-- The value that is saved for a field of the calendar. -/
def fieldValue (type : DateTimeFieldType) (saved : List Saved) : Option Int :=
  saved.findSome? fun
    | .field other value => if other = type then some value else none
    | _ => none

def savedOffset (saved : List Saved) : Option Int :=
  saved.findSome? fun
    | .offset millis => some millis
    | _ => none

/-- The date of the saved fields, in the years that the library has. -/
def savedDate (saved : List Saved) : Option Date :=
  let year := (fieldValue .year saved).getD 2000
  if -292275054 ≤ year ∧ year ≤ 292278993 then
    Date.of? year ((fieldValue .monthOfYear saved).getD 1) ((fieldValue .dayOfMonth saved).getD 1)
  else none

/-- `DateTimeParserBucket.computeMillis`: the weekday is set after the date, in its week. -/
def computeMillis (saved : List Saved) : Option Int :=
  (savedDate saved).bind fun date =>
    let hour := (fieldValue .hourOfDay saved).getD 0
    let minute := (fieldValue .minuteOfHour saved).getD 0
    let second := (fieldValue .secondOfMinute saved).getD 0
    let dayNumber :=
      match fieldValue .dayOfWeek saved with
      | some weekday => withDayOfWeek date.dayNumber weekday
      | none => date.dayNumber
    if hour ≤ 23 ∧ minute ≤ 59 ∧ second ≤ 59 then
      some ((((dayNumber * 24 + hour) * 60 + minute) * 60 + second) * 1000 -
        (savedOffset saved).getD 0)
    else none

section Formatters

variable (joda : JodaTime)

def Element.field : Element → Field Char Saved
  | .dayOfWeekShortText => joda.weekdays.reader (.field .dayOfWeek)
  | .dayOfMonth => number 2 fun day => .field .dayOfMonth day
  | .monthOfYearShortText => joda.months.reader (.field .monthOfYear)
  | .year => signedNumber 9 (.field .year)
  | .twoDigitYear => twoDigits fun year => .field .year (yearAround (joda.currentYear - 30) year)
  | .hourOfDay => number 2 fun hour => .field .hourOfDay hour
  | .minuteOfHour => number 2 fun minute => .field .minuteOfHour minute
  | .secondOfMinute => number 2 fun second => .field .secondOfMinute second
  | .timeZoneOffset => GraffiTab.timeZoneOffset .offset
  | .literal letter => TextFields.literal letter .literal

/-- What an element prints of a time in UTC. -/
def Element.print (millis : Int) : Element → List Char
  | .dayOfWeekShortText => joda.weekdays.textOf (dayOfWeek (millis / 86400000))
  | .dayOfMonth => padded 2 (Date.ofDayNumber (millis / 86400000)).day.toNat
  | .monthOfYearShortText => joda.months.textOf (Date.ofDayNumber (millis / 86400000)).month
  | .year =>
      let year := (Date.ofDayNumber (millis / 86400000)).year
      if year < 0 then '-' :: padded 4 year.natAbs else padded 4 year.natAbs
  | .twoDigitYear => padded 2 ((Date.ofDayNumber (millis / 86400000)).year.natAbs % 100)
  | .hourOfDay => padded 2 (millis % 86400000 / 3600000).toNat
  | .minuteOfHour => padded 2 (millis % 3600000 / 60000).toNat
  | .secondOfMinute => padded 2 (millis % 60000 / 1000).toNat
  | .timeZoneOffset => ['+', '0', '0', '0', '0']
  | .literal letter => [letter]

/-- `DateTimeFormatter.parseDateTime`: the pattern must take the whole text. -/
def parseDateTime (pattern text : String) : Option Int :=
  match readAll ((forPattern pattern).map (Element.field joda)) text.toList with
  | some (saved, []) => computeMillis saved
  | _ => none

end Formatters

/-! ### The converter -/

/-- A time in milliseconds, with the offset that its zone has then. -/
structure DateTime where
  millis : Int
  zoneOffset : Int
  zoneExists : -86400000 < zoneOffset ∧ zoneOffset < 86400000

/-- The year in the zone of the time. -/
def DateTime.year (dateTime : DateTime) : Int :=
  (Date.ofDayNumber ((dateTime.millis + dateTime.zoneOffset) / 86400000)).year

structure IllegalArgumentException where
  message : String
  deriving DecidableEq

def rfc822DateFormat : String := "EEE, dd MMM yyyy HH:mm:ss Z"

def rfc822ParseSpec : List String := [
  "EEE, dd MMM yyyy HH:mm:ss Z",
  "EEE, dd MMM yyyy HH:mm Z",
  "dd MMM yyyy HH:mm Z",
  "dd MMM yyyy HH:mm:ss Z",
  "EEE, dd MMM yy HH:mm:ss Z",
  "EEE, dd MMM yy HH:mm Z",
  "dd MMM yy HH:mm Z",
  "dd MMM yy HH:mm:ss Z"]

section Converter

variable (joda : JodaTime)

def format (dateTime : Option DateTime) (pattern : String) : Option String :=
  dateTime.map fun dateTime =>
    String.ofList ((forPattern pattern).flatMap (Element.print joda dateTime.millis))

/-- The first pattern that accepts the text decides. -/
def parseRfc822Date (datetimeString : String) : Except IllegalArgumentException Int :=
  match rfc822ParseSpec.findSome? fun pattern => parseDateTime joda pattern datetimeString with
  | some dateTime => .ok dateTime
  | none => .error ⟨datetimeString ++ " is not an RFC822 date."⟩

def convertTo (source : Option DateTime) : Option String := format joda source rfc822DateFormat

def convertFrom (source : String) : Except IllegalArgumentException Int :=
  parseRfc822Date joda source

end Converter

end GraffiTab
