/-
This file asks whether dates are read as they were written.

A date that is printed is read back as its second: the first pattern accepts it, also where the
year in UTC is the one before the year 0, or has five digits. A text is read by the first pattern
that accepts it, and the patterns differ in the weekday and the seconds, so that no two of them
with the same kind of year accept one text. But the patterns for years of four digits come first,
and they take a year of two digits as it stands: such a date is in the first century, and the
patterns for years of two digits are never used. And every pattern takes the letter Z where a
numeric offset should stand.
-/

import GraffiTab.DateFormats

namespace GraffiTab

open Calendar TextFields

/-! ### Elements that stop each other -/

/-- The elements behind an element begin with what stops it. -/
def Element.allows : Element → List Element → Bool
  | .literal _, _ => true
  | .timeZoneOffset, behind => behind.isEmpty
  | .dayOfWeekShortText, behind => behind.head? = some (.literal ',')
  | .monthOfYearShortText, behind => behind.head? = some (.literal ' ')
  | _, behind =>
      match behind.head? with
      | some (.literal letter) => !letter.isDigit
      | _ => false

def stopEachOther : List Element → Bool
  | [] => true
  | element :: behind => element.allows behind && stopEachOther behind

section Separation

variable {joda : JodaTime} {elements behind : List Element} {text : List Char}
  {values : List Saved}

theorem trailing_stops {separators : Bool} {marks : List Char} {field : Field Char Nat}
    {begins : BeginsWithDigit field} (stops : field.Stops []) :
    (trailing separators marks field begins).Stops [] := by
  cases separators <;> exact ⟨stops, rfl⟩

theorem offsetMinutes_stops (separators : Bool) : (offsetMinutes separators).Stops [] :=
  trailing_stops (trailing_stops (fun _ missing => nomatch missing))

theorem timeZoneOffset_stops {Value : Type} (toValue : Int → Value) :
    (timeZoneOffset toValue).Stops [] :=
  have behindHours : offsetBehindHours.Stops [] :=
    ⟨offsetMinutes_stops true, offsetMinutes_stops false, rfl⟩
  ⟨trivial, behindHours, behindHours⟩

section Ends

variable {field behind : Field Char Nat} {token : List Char} {value : Nat}

def EndsWithDigit (token : List Char) : Prop :=
  ∃ others letter, token = others ++ [letter] ∧ letter.isDigit = true

theorem EndsWithDigit.append (ends : EndsWithDigit token) (front : List Char) :
    EndsWithDigit (front ++ token) := by
  obtain ⟨others, letter, rfl, isDigit⟩ := ends
  exact ⟨front ++ others, letter, (List.append_assoc ..).symm, isDigit⟩

theorem offsetPart_ends {largest millis : Nat}
    (behindEnds : ∀ token value, behind.Token token value → token = [] ∨ EndsWithDigit token)
    (isToken : (offsetPart largest millis behind).Token token value) : EndsWithDigit token := by
  obtain ⟨front, back, _, _, rfl, ⟨⟨number, isNumber, -⟩, -⟩, isBehind, -⟩ := isToken
  rcases behindEnds _ _ isBehind with rfl | ends
  · rw [List.append_nil]
    exact isNumber.2.ends
  · exact ends.append front

theorem marked_ends {marks : List Char}
    (fieldEnds : ∀ token value, field.Token token value → EndsWithDigit token)
    (isToken : (marked marks field).Token token value) : EndsWithDigit token := by
  obtain ⟨front, back, _, _, rfl, -, isBack, -⟩ := isToken
  exact (fieldEnds _ _ isBack).append front

theorem trailing_ends {separators : Bool} {marks : List Char} {begins : BeginsWithDigit field}
    (fieldEnds : ∀ token value, field.Token token value → EndsWithDigit token) (token : List Char)
    (value : Nat) (isToken : (trailing separators marks field begins).Token token value) :
    token = [] ∨ EndsWithDigit token := by
  cases separators with
  | false =>
      rcases isToken with isField | ⟨rfl, -⟩
      · exact .inr (fieldEnds _ _ isField)
      · exact .inl rfl
  | true =>
      rcases isToken with isMarked | ⟨rfl, -⟩
      · exact .inr (marked_ends fieldEnds isMarked)
      · exact .inl rfl

theorem offsetMinutes_ends {separators : Bool} (token : List Char) (value : Nat)
    (isToken : (offsetMinutes separators).Token token value) : EndsWithDigit token := by
  refine offsetPart_ends (trailing_ends fun _ _ isSeconds => ?_) isToken
  refine offsetPart_ends (trailing_ends fun _ _ isFraction => ?_) isSeconds
  obtain ⟨number, isNumber, -⟩ := isFraction
  exact isNumber.ends

theorem offsetBehindHours_ends (token : List Char) (value : Nat)
    (isToken : offsetBehindHours.Token token value) : token = [] ∨ EndsWithDigit token := by
  rcases isToken with isMarked | isMinutes | ⟨rfl, -⟩
  · exact .inr (marked_ends offsetMinutes_ends isMarked)
  · exact .inr (offsetMinutes_ends _ _ isMinutes)
  · exact .inl rfl

/-- A numeric offset ends with a digit. -/
theorem numericOffset_ends {Value : Type} {toValue : Int → Value} {value : Value}
    (isToken : (numericOffset toValue).Token token value) : EndsWithDigit token := by
  rcases isToken with isSigned | isSigned
  all_goals
    obtain ⟨front, back, _, _, rfl, -, isBack, -⟩ := isSigned
    exact (offsetPart_ends offsetBehindHours_ends isBack).append front

end Ends

/-- What is written in elements that begin with a literal begins with its letter. -/
theorem head?_of_written {letter : Char} (isHead : behind.head? = some (.literal letter))
    (written : Written (behind.map (Element.field joda)) text values) :
    text.head? = some letter := by
  obtain ⟨others, rfl⟩ := List.head?_eq_some_iff.mp isHead
  obtain ⟨rest, rfl⟩ := written_literal written
  rfl

theorem Element.stops_of_allows {element : Element} (allows : element.allows behind = true)
    (written : Written (behind.map (Element.field joda)) text values) :
    (element.field joda).Stops text := by
  have stopsNumber (isLiteral : (match behind.head? with
      | some (.literal letter) => !letter.isDigit
      | _ => false) = true) : StopsNumber text := by
    split at isLiteral
    · rename_i letter isHead
      intro first isFirst
      rw [head?_of_written isHead written] at isFirst
      obtain rfl := Option.some.inj isFirst
      simpa using isLiteral
    · cases isLiteral
  cases element with
  | dayOfWeekShortText => exact head?_of_written (of_decide_eq_true allows) written
  | monthOfYearShortText => exact head?_of_written (of_decide_eq_true allows) written
  | dayOfMonth => exact stopsNumber allows
  | year => exact stopsNumber allows
  | hourOfDay => exact stopsNumber allows
  | minuteOfHour => exact stopsNumber allows
  | secondOfMinute => exact stopsNumber allows
  | twoDigitYear => exact trivial
  | literal letter => exact trivial
  | timeZoneOffset =>
      obtain rfl := List.isEmpty_iff.mp allows
      cases written
      exact timeZoneOffset_stops _

theorem chained_of_stopEachOther (stop : stopEachOther elements = true) :
    Chained (elements.map (Element.field joda)) := by
  induction elements with
  | nil => exact trivial
  | cons element behind inductionHypothesis =>
      obtain ⟨allows, stop⟩ := Bool.and_eq_true_iff.mp stop
      exact ⟨fun _ _ written => element.stops_of_allows allows written,
        inductionHypothesis stop⟩

end Separation

/-! ### The patterns of the converter -/

/-- The elements up to the year. -/
def upToYear (weekday : Bool) : List Element :=
  (if weekday then [.dayOfWeekShortText, .literal ',', .literal ' '] else []) ++
    [.dayOfMonth, .literal ' ', .monthOfYearShortText, .literal ' ']

/-- The elements from the year up to the minute. -/
def upToMinute (yearElement : Element) : List Element :=
  [yearElement, .literal ' ', .hourOfDay, .literal ':', .minuteOfHour]

def behindMinute (seconds : Bool) : List Element :=
  (if seconds then [.literal ':', .secondOfMinute] else []) ++ [.literal ' ', .timeZoneOffset]

def layout (weekday seconds : Bool) (yearElement : Element) : List Element :=
  upToYear weekday ++ (upToMinute yearElement ++ behindMinute seconds)

/-- The patterns for years of four digits, and for years of two. -/
def fourDigitPatterns : List String := rfc822ParseSpec.take 4

def twoDigitPatterns : List String := rfc822ParseSpec.drop 4

theorem forPattern_fourDigitPatterns : fourDigitPatterns.map forPattern =
    [layout true true .year, layout true false .year, layout false false .year,
      layout false true .year] := by
  rfl

theorem forPattern_twoDigitPatterns : twoDigitPatterns.map forPattern =
    [layout true true .twoDigitYear, layout true false .twoDigitYear,
      layout false false .twoDigitYear, layout false true .twoDigitYear] := by
  rfl

theorem upToYear_ne : ∀ weekday, ∀ element ∈ upToYear weekday,
    element ≠ .year ∧ element ≠ .twoDigitYear := by
  decide

theorem forPattern_of_fourDigit {pattern : String} (member : pattern ∈ fourDigitPatterns) :
    ∃ weekday seconds, forPattern pattern = layout weekday seconds .year := by
  have isLayout : forPattern pattern ∈ fourDigitPatterns.map forPattern :=
    List.mem_map_of_mem member
  rw [forPattern_fourDigitPatterns] at isLayout
  simp only [List.mem_cons, List.not_mem_nil, or_false] at isLayout
  rcases isLayout with same | same | same | same <;> exact ⟨_, _, same⟩

/-- Each pattern for years of two digits has a counterpart for years of four digits. -/
theorem forPattern_of_twoDigit {pattern : String} (member : pattern ∈ twoDigitPatterns) :
    ∃ weekday seconds, forPattern pattern = layout weekday seconds .twoDigitYear ∧
      ∃ counterpart ∈ fourDigitPatterns,
        forPattern counterpart = layout weekday seconds .year := by
  have isLayout : forPattern pattern ∈ twoDigitPatterns.map forPattern :=
    List.mem_map_of_mem member
  rw [forPattern_twoDigitPatterns] at isLayout
  have counterpart (weekday seconds : Bool) : ∃ counterpart ∈ fourDigitPatterns,
      forPattern counterpart = layout weekday seconds .year := by
    refine List.mem_map.mp ?_
    rw [forPattern_fourDigitPatterns]
    revert weekday seconds
    decide
  simp only [List.mem_cons, List.not_mem_nil, or_false] at isLayout
  rcases isLayout with same | same | same | same <;> exact ⟨_, _, same, counterpart _ _⟩

theorem stopEachOther_forPattern :
    ∀ pattern ∈ rfc822ParseSpec, stopEachOther (forPattern pattern) = true := by
  decide

/-! ### What is written in a pattern -/

section Patterns

variable (joda : JodaTime)

/-- The text is written in the elements, which save the values of its tokens. -/
def IsWritten (elements : List Element) (text : String) (saved : List Saved) : Prop :=
  Written (elements.map (Element.field joda)) text.toList saved

/-- The field of an element, where the offset is written in one of its two ways. -/
def Element.fieldWith (offset : Field Char Saved) : Element → Field Char Saved
  | .timeZoneOffset => offset
  | element => element.field joda

/-- The text is written in the elements, and the offset in this way. -/
def IsWrittenWith (offset : Field Char Saved) (elements : List Element) (text : String)
    (saved : List Saved) : Prop :=
  Written (elements.map (Element.fieldWith joda offset)) text.toList saved

/-- The text has the shape of the pattern: its offset is numeric. -/
def HasShape (pattern text : String) (saved : List Saved) : Prop :=
  IsWrittenWith joda (numericOffset .offset) (forPattern pattern) text saved

variable {joda}
variable {elements : List Element} {text : String} {saved other : List Saved}

/-- Every pattern ends with the offset, and has no other. -/
theorem forPattern_endsWithOffset : ∀ pattern ∈ rfc822ParseSpec,
    (forPattern pattern).dropLast ++ [.timeZoneOffset] = forPattern pattern ∧
      Element.timeZoneOffset ∉ (forPattern pattern).dropLast := by
  decide

theorem map_fieldWith {offset : Field Char Saved} (absent : .timeZoneOffset ∉ elements) :
    elements.map (Element.fieldWith joda offset) = elements.map (Element.field joda) := by
  refine List.map_congr_left fun element member => ?_
  cases element with
  | timeZoneOffset => exact absurd member absent
  | _ => rfl

/-- Whatever is written in a pattern has its shape, or the letter for its offset. -/
theorem isWritten_iff {pattern : String} (inSpec : pattern ∈ rfc822ParseSpec) :
    IsWritten joda (forPattern pattern) text saved ↔
      IsWrittenWith joda (offsetLetter .offset) (forPattern pattern) text saved ∨
        HasShape joda pattern text saved := by
  obtain ⟨isAppend, absent⟩ := forPattern_endsWithOffset pattern inSpec
  unfold HasShape IsWrittenWith IsWritten
  rw [← isAppend, List.map_append, List.map_append, List.map_append, map_fieldWith absent,
    map_fieldWith absent]
  constructor
  · intro written
    obtain ⟨before, token, value, after, rfl, isToken, -, replaced⟩ := written.replace
    rcases isToken with isLetter | isNumeric
    · exact .inl (replaced _ _ isLetter)
    · exact .inr (replaced _ _ isNumeric)
  · rintro (written | written)
    · obtain ⟨before, token, value, after, rfl, isLetter, -, replaced⟩ := written.replace
      exact replaced (timeZoneOffset .offset) value (.inl isLetter)
    · obtain ⟨before, token, value, after, rfl, isNumeric, -, replaced⟩ := written.replace
      exact replaced (timeZoneOffset .offset) value (.inr isNumeric)

theorem HasShape.isWritten {pattern : String} (inSpec : pattern ∈ rfc822ParseSpec)
    (hasShape : HasShape joda pattern text saved) :
    IsWritten joda (forPattern pattern) text saved :=
  (isWritten_iff inSpec).mpr (.inr hasShape)

theorem parseDateTime_eq_some {pattern : String} (member : pattern ∈ rfc822ParseSpec)
    {instant : Int} :
    parseDateTime joda pattern text = some instant ↔
      ∃ saved, IsWritten joda (forPattern pattern) text saved ∧
        computeMillis saved = some instant := by
  have reads (saved : List Saved) :
      readAll ((forPattern pattern).map (Element.field joda)) text.toList = some (saved, []) ↔
        IsWritten joda (forPattern pattern) text saved :=
    readAll_eq_some_iff (chained_of_stopEachOther (stopEachOther_forPattern pattern member))
  unfold parseDateTime
  simp only [← reads]
  constructor
  · intro parsed
    split at parsed
    · rename_i saved isRead
      exact ⟨saved, isRead, parsed⟩
    · cases parsed
  · rintro ⟨saved, isRead, computed⟩
    rw [isRead]
    exact computed

/-- A text does not begin both with a weekday and with a day. -/
theorem weekday_unique {first second : Bool} {firstBehind secondBehind : List Element}
    (written : IsWritten joda (upToYear first ++ firstBehind) text saved)
    (otherWritten : IsWritten joda (upToYear second ++ secondBehind) text other) :
    first = second := by
  have notBoth {firstBehind secondBehind : List Element} {saved other : List Saved}
      (written : IsWritten joda (upToYear true ++ firstBehind) text saved)
      (otherWritten : IsWritten joda (upToYear false ++ secondBehind) text other) : False := by
    unfold IsWritten at written otherWritten
    generalize text.toList = letters at written otherWritten
    obtain ⟨letter, isHead, isDigit⟩ : ∃ letter, letters.head? = some letter ∧
        letter.isDigit = true := by
      cases otherWritten with
      | cons isNumber _ =>
          obtain ⟨_, isNumber, -⟩ := isNumber
          obtain ⟨letter, others, rfl, isDigit⟩ := isNumber.begins
          exact ⟨letter, rfl, isDigit⟩
    cases written with
    | cons isName _ =>
        obtain ⟨_, named, -⟩ := isName
        obtain ⟨first, others, rfl, noDigit⟩ := joda.weekdays.begins _ _ named
        rw [Option.some.inj isHead, isDigit] at noDigit
        cases noDigit
  cases first <;> cases second
  · rfl
  · exact (notBoth otherWritten written).elim
  · exact (notBoth written otherWritten).elim
  · rfl

/-- Behind the minute stands a colon, or a blank. -/
theorem seconds_unique {weekday first second : Bool} {yearElement : Element}
    (separate : stopEachOther (layout weekday first yearElement) = true)
    (otherSeparate : stopEachOther (layout weekday second yearElement) = true)
    (written : IsWritten joda (layout weekday first yearElement) text saved)
    (otherWritten : IsWritten joda (layout weekday second yearElement) text other) :
    first = second := by
  have behind {seconds : Bool} {saved : List Saved}
      (separate : stopEachOther (layout weekday seconds yearElement) = true)
      (written : IsWritten joda (layout weekday seconds yearElement) text saved) :
      ∃ values between, readAll ((upToYear weekday ++ upToMinute yearElement).map
        (Element.field joda)) text.toList = some (values, between) ∧
          between.head? = some (if seconds then ':' else ' ') := by
    have areRead := readAll_complete (chained_of_stopEachOther separate) written
    rw [layout, ← List.append_assoc, List.map_append] at areRead
    obtain ⟨values, between, _, areRead, restRead, -⟩ := readAll_append.mp areRead
    obtain ⟨front, rfl, written⟩ := readAll_sound restRead
    rw [List.append_nil] at areRead
    refine ⟨values, front, areRead, ?_⟩
    cases seconds <;> exact head?_of_written rfl written
  obtain ⟨_, between, areRead, isHead⟩ := behind separate written
  obtain ⟨_, _, otherRead, otherHead⟩ := behind otherSeparate otherWritten
  obtain ⟨-, rfl⟩ := Prod.mk.inj (Option.some.inj (areRead.symm.trans otherRead))
  rw [isHead] at otherHead
  revert otherHead
  cases first <;> cases second <;> decide

/-- A text that two patterns for years of four digits accept is read alike by them. -/
theorem layout_unique {pattern second : String} (member : pattern ∈ fourDigitPatterns)
    (secondMember : second ∈ fourDigitPatterns)
    (written : IsWritten joda (forPattern pattern) text saved)
    (otherWritten : IsWritten joda (forPattern second) text other) :
    forPattern pattern = forPattern second := by
  have separate := stopEachOther_forPattern pattern (List.mem_of_mem_take member)
  have otherSeparate := stopEachOther_forPattern second (List.mem_of_mem_take secondMember)
  obtain ⟨weekday, seconds, isLayout⟩ := forPattern_of_fourDigit member
  obtain ⟨_, _, otherLayout⟩ := forPattern_of_fourDigit secondMember
  rw [isLayout] at written separate ⊢
  rw [otherLayout] at otherWritten otherSeparate ⊢
  obtain rfl := weekday_unique written otherWritten
  rw [seconds_unique separate otherSeparate written otherWritten]

end Patterns

/-! ### Dates and times -/

/-- A day, and a time of it. -/
structure Moment where
  date : Date
  hour : Int
  minute : Int
  second : Int
  timeExists : hour ≤ 23 ∧ minute ≤ 59 ∧ second ≤ 59

/-- The time in milliseconds, if the day is the one with the number. -/
def Moment.millisOn (moment : Moment) (dayNumber : Int) : Int :=
  (((dayNumber * 24 + moment.hour) * 60 + moment.minute) * 60 + moment.second) * 1000

/-- The fields of the calendar are those of the day and the time; a field that is missing has its
default. -/
structure Moment.IsSaved (moment : Moment) (saved : List Saved) : Prop where
  year : (fieldValue .year saved).getD 2000 = moment.date.year
  month : (fieldValue .monthOfYear saved).getD 1 = moment.date.month
  day : (fieldValue .dayOfMonth saved).getD 1 = moment.date.day
  hour : (fieldValue .hourOfDay saved).getD 0 = moment.hour
  minute : (fieldValue .minuteOfHour saved).getD 0 = moment.minute
  second : (fieldValue .secondOfMinute saved).getD 0 = moment.second
  yearExists : -292275054 ≤ moment.date.year ∧ moment.date.year ≤ 292278993

/-- The number of the day that is read: the weekday is looked for in the week of the date. -/
def Moment.dayRead (moment : Moment) (saved : List Saved) : Int :=
  match fieldValue .dayOfWeek saved with
  | some weekday => withDayOfWeek moment.date.dayNumber weekday
  | none => moment.date.dayNumber

theorem computeMillis_eq_some {saved : List Saved} {instant : Int} :
    computeMillis saved = some instant ↔
      ∃ moment : Moment, moment.IsSaved saved ∧
        instant = moment.millisOn (moment.dayRead saved) - (savedOffset saved).getD 0 := by
  constructor
  · intro computed
    obtain ⟨date, isDate, computed⟩ := Option.bind_eq_some_iff.mp computed
    dsimp only [savedDate] at isDate
    dsimp only at computed
    split at isDate
    · rename_i yearExists
      obtain ⟨year, month, day⟩ := Date.of?_eq_some.mp isDate
      split at computed
      · rename_i timeExists
        obtain rfl := Option.some.inj computed
        rw [← year] at yearExists
        exact ⟨⟨date, _, _, _, timeExists⟩, ⟨year.symm, month.symm, day.symm, rfl, rfl, rfl,
          yearExists⟩, rfl⟩
      · cases computed
    · cases isDate
  · rintro ⟨moment, isSaved, rfl⟩
    simp only [computeMillis, savedDate, isSaved.year, isSaved.month, isSaved.day, isSaved.hour,
      isSaved.minute, isSaved.second, if_pos isSaved.yearExists, if_pos moment.timeExists,
      Date.of?_self]
    rfl

/-- The fields denote the instant: the day and the time exist, and the weekday is that of the
day. -/
def Denotes (saved : List Saved) (instant : Int) : Prop :=
  ∃ moment : Moment, moment.IsSaved saved ∧
    (∀ weekday, fieldValue .dayOfWeek saved = some weekday →
      dayOfWeek moment.date.dayNumber = weekday) ∧
      instant = moment.millisOn moment.date.dayNumber - (savedOffset saved).getD 0

theorem Denotes.computeMillis_eq {saved : List Saved} {instant : Int}
    (denotes : Denotes saved instant) : computeMillis saved = some instant := by
  obtain ⟨moment, isSaved, agrees, rfl⟩ := denotes
  refine computeMillis_eq_some.mpr ⟨moment, isSaved, ?_⟩
  unfold Moment.dayRead
  split
  · rename_i weekday isWeekday
    rw [← agrees weekday isWeekday, withDayOfWeek_self]
  · rfl

/-! ### Years of two digits -/

section Years

theorem yearAround_spec (pivot : Int) {year : Int} (notNegative : 0 ≤ year)
    (short : year < 100) :
    pivot - 50 ≤ yearAround pivot year ∧ yearAround pivot year % 100 = year := by
  dsimp only [yearAround]
  split <;> omega

/-- In the first century a month is not shorter than in a year that ends with the same digits. -/
theorem daysInMonth_le {full year : Int} (notNegative : 0 ≤ year) (short : year < 100)
    (ending : full % 100 = year) (month : Int) :
    daysInMonth full month ≤ daysInMonth year month := by
  have leap : isLeapYear full = true → isLeapYear year = true := by
    rw [isLeapYear_iff, isLeapYear_iff]
    omega
  unfold daysInMonth
  split
  · revert leap
    cases isLeapYear full <;> cases isLeapYear year <;> decide
  · exact Int.le_refl _

/-- The same day and month of a year in the first century, which is some centuries earlier. -/
theorem exists_early {date : Date} {year : Int} (notNegative : 0 ≤ year) (short : year < 100)
    (ending : date.year % 100 = year) (late : 1000 ≤ date.year) :
    ∃ early : Date, early.year = year ∧ early.month = date.month ∧ early.day = date.day ∧
      early.dayNumber + 6 < date.dayNumber := by
  have dayExists := date.dayExists
  let early : Date := ⟨year, date.month, date.day, date.monthExists, dayExists.1,
    dayExists.2.trans (daysInMonth_le notNegative short ending _)⟩
  let first : Date := ⟨100, 1, 1, by decide, by decide⟩
  let last : Date := ⟨999, 1, 1, by decide, by decide⟩
  have before : early.dayNumber < first.dayNumber := Date.dayNumber_lt short
  have between : first.dayNumber + 6 < last.dayNumber := by decide
  have after : last.dayNumber < date.dayNumber := Date.dayNumber_lt (Int.lt_of_add_one_le late)
  exact ⟨early, rfl, rfl, rfl, by omega⟩

theorem digit_le {letter : Char} (isDigit : letter.isDigit = true) : letter.toNat - 48 ≤ 9 := by
  have bound : letter.toNat ≤ 57 := (Char.isDigit_iff_toNat.mp isDigit).2
  omega

theorem lt_of_isTwoDigits {token : List Char} {number : Nat} (digits : IsTwoDigits token number) :
    number < 100 := by
  obtain ⟨two, isNumber⟩ := digits
  obtain ⟨first, second, rfl⟩ := List.length_eq_two.mp two
  have firstDigit := digit_le (isNumber.digits first List.mem_cons_self)
  have secondDigit := digit_le
    (isNumber.digits second (List.mem_cons_of_mem _ List.mem_cons_self))
  rw [← isNumber.denotes, Nat.ofDigitChars_cons, Nat.ofDigitChars_cons, Nat.ofDigitChars_nil]
  show 10 * (10 * 0 + (first.toNat - 48)) + (second.toNat - 48) < 100
  omega

end Years

section Swallowing

variable {joda : JodaTime} {element : Element} {token : List Char} {value : Saved}
  {before after : List Saved}

theorem ne_year_of_token (notYear : element ≠ .year) (notTwoDigits : element ≠ .twoDigitYear)
    (isToken : (element.field joda).Token token value) (year : Int) :
    value ≠ .field .year year := by
  intro isYear
  subst isYear
  cases element with
  | year => exact notYear rfl
  | twoDigitYear => exact notTwoDigits rfl
  | dayOfWeekShortText | dayOfMonth | monthOfYearShortText | hourOfDay | minuteOfHour
  | secondOfMinute =>
      obtain ⟨_, _, same⟩ := isToken
      cases same
  | timeZoneOffset =>
      rcases isToken with ⟨-, same⟩ | ⟨_, _, _, _, _, _, _, same⟩ | ⟨_, _, _, _, _, _, _, same⟩ <;>
        cases same
  | literal letter =>
      obtain ⟨_, same⟩ := isToken
      cases same

theorem fieldValue_replace {type : DateTimeFieldType} (notYear : type ≠ .year)
    (year other : Int) :
    fieldValue type (before ++ .field .year year :: after) =
      fieldValue type (before ++ .field .year other :: after) := by
  simp only [fieldValue, List.findSome?_append, List.findSome?_cons, if_neg (Ne.symm notYear)]

theorem savedOffset_replace (year other : Int) :
    savedOffset (before ++ .field .year year :: after) =
      savedOffset (before ++ .field .year other :: after) := by
  simp only [savedOffset, List.findSome?_append, List.findSome?_cons]

theorem fieldValue_year (absent : ∀ year, Saved.field .year year ∉ before) (year : Int) :
    fieldValue .year (before ++ .field .year year :: after) = some year := by
  have notBefore : fieldValue .year before = none := by
    refine List.findSome?_eq_none_iff.mpr fun saved member => ?_
    split
    · rename_i type value
      refine if_neg fun isYear => ?_
      rw [isYear] at member
      exact absent value member
    · rfl
  have isAppend : fieldValue .year (before ++ .field .year year :: after) =
      (fieldValue .year before).or (fieldValue .year (.field .year year :: after)) :=
    List.findSome?_append
  rw [isAppend, notBefore, Option.none_or]
  rfl

end Swallowing

/-! ### The texts that are read rightly -/

section Parsing

variable (joda : JodaTime)

/-- Written in the shape of the pattern, the text denotes the instant. -/
def DenotesIn (pattern text : String) (instant : Int) : Prop :=
  ∃ saved, HasShape joda pattern text saved ∧ Denotes saved instant

/-- The text has a date and a time that exist, and the letter for its offset. -/
def HasOffsetLetter (text : String) : Prop :=
  ∃ pattern ∈ rfc822ParseSpec, ∃ saved,
    IsWrittenWith joda (offsetLetter .offset) (forPattern pattern) text saved ∧
      ∃ moment : Moment, moment.IsSaved saved

/-- A text is read as what it denotes in the shape in which it is written, that is in one for years
of two digits if it is written in one; and what is written in no shape with a date and a time that
exist is refused. -/
structure ParsesRightly (text : String) : Prop where
  twoDigitYears : ∀ pattern ∈ twoDigitPatterns, ∀ instant, DenotesIn joda pattern text instant →
    parseRfc822Date joda text = .ok instant
  otherYears : (∀ pattern ∈ twoDigitPatterns, ∀ saved, ¬ HasShape joda pattern text saved) →
    ∀ pattern ∈ fourDigitPatterns, ∀ instant, DenotesIn joda pattern text instant →
      parseRfc822Date joda text = .ok instant
  noPattern : (∀ pattern ∈ rfc822ParseSpec, ∀ saved, HasShape joda pattern text saved →
      ∀ moment : Moment, ¬ moment.IsSaved saved) →
    parseRfc822Date joda text = .error ⟨text ++ " is not an RFC822 date."⟩

variable {joda}
variable {text : String} {saved : List Saved} {instant : Int}

/-- A year of two digits can stand in a pattern for years of four digits, which saves it as it
stands. -/
theorem written_as_fourDigit {weekday seconds : Bool}
    (written : IsWritten joda (layout weekday seconds .twoDigitYear) text saved) :
    ∃ (before after : List Saved) (digits : Nat), digits < 100 ∧
      (∀ year, Saved.field .year year ∉ before) ∧
        saved = before ++ .field .year (yearAround (joda.currentYear - 30) digits) :: after ∧
          IsWritten joda (layout weekday seconds .year) text
            (before ++ .field .year digits :: after) := by
  unfold IsWritten layout upToMinute at written ⊢
  rw [List.map_append, List.cons_append, List.map_cons] at written ⊢
  obtain ⟨before, token, value, after, rfl, isToken, ⟨_, inFront⟩, replaced⟩ := written.replace
  obtain ⟨digits, isTwoDigits, rfl⟩ := isToken
  refine ⟨before, after, digits, lt_of_isTwoDigits isTwoDigits, fun year member => ?_, rfl,
    replaced _ _ ?_⟩
  · obtain ⟨field, inFields, _, isToken⟩ := inFront.mem member
    obtain ⟨element, inFront, rfl⟩ := List.mem_map.mp inFields
    obtain ⟨notYear, notTwoDigits⟩ := upToYear_ne weekday element inFront
    exact ne_year_of_token notYear notTwoDigits isToken year rfl
  · obtain ⟨two, isNumber⟩ := isTwoDigits
    exact ⟨digits, .unsigned ⟨isNumber.nonempty, by omega, isNumber.digits, isNumber.denotes⟩, rfl⟩

theorem Moment.millisOn_lt (moment : Moment) {first second : Int} (earlier : first < second) :
    moment.millisOn first < moment.millisOn second := by
  unfold millisOn
  omega

/-- With the year as it stands, the fields have an earlier instant. -/
theorem Denotes.earlier {before after : List Saved} {digits : Nat} {year : Int}
    (short : digits < 100) (absent : ∀ year, Saved.field .year year ∉ before)
    (late : 1000 ≤ year) (ending : year % 100 = digits)
    (denotes : Denotes (before ++ .field .year year :: after) instant) :
    ∃ earlier, computeMillis (before ++ .field .year digits :: after) = some earlier ∧
      earlier < instant := by
  obtain ⟨moment, isSaved, agrees, rfl⟩ := denotes
  have isYear := isSaved.year
  rw [fieldValue_year absent, Option.getD_some] at isYear
  subst isYear
  obtain ⟨early, isYear, month, day, muchEarlier⟩ := exists_early (Int.natCast_nonneg digits)
    (Int.ofNat_lt.mpr short) ending late
  let earlier : Moment := { moment with date := early }
  have isSavedEarlier : earlier.IsSaved (before ++ .field .year digits :: after) := by
    constructor
    · rw [fieldValue_year absent, Option.getD_some]
      exact isYear.symm
    · rw [fieldValue_replace (by decide), isSaved.month]
      exact month.symm
    · rw [fieldValue_replace (by decide), isSaved.day]
      exact day.symm
    · rw [fieldValue_replace (by decide), isSaved.hour]
    · rw [fieldValue_replace (by decide), isSaved.minute]
    · rw [fieldValue_replace (by decide), isSaved.second]
    · show -292275054 ≤ early.year ∧ early.year ≤ 292278993
      omega
  have dayRead : earlier.dayRead (before ++ .field .year digits :: after) <
      moment.date.dayNumber := by
    unfold Moment.dayRead
    rw [fieldValue_replace (by decide)]
    split
    · rename_i weekday isWeekday
      refine Int.lt_of_le_of_lt (withDayOfWeek_le ?_) muchEarlier
      rw [← agrees weekday isWeekday]
      exact (dayOfWeek_bounds _).2
    · show early.dayNumber < moment.date.dayNumber
      omega
  refine ⟨_, computeMillis_eq_some.mpr ⟨earlier, isSavedEarlier, rfl⟩, ?_⟩
  rw [savedOffset_replace]
  exact Int.sub_lt_sub_right (moment.millisOn_lt dayRead) _

/-- A pattern for years of four digits that accepts a text decides. -/
theorem parseRfc822Date_of_fourDigit {pattern : String} (member : pattern ∈ fourDigitPatterns)
    (parsed : parseDateTime joda pattern text = some instant) :
    parseRfc822Date joda text = .ok instant := by
  have inSpec {pattern : String} (member : pattern ∈ fourDigitPatterns) :
      pattern ∈ rfc822ParseSpec := List.mem_of_mem_take member
  obtain ⟨found, isFound⟩ := Option.isSome_iff_exists.mp
    (List.findSome?_isSome_iff.mpr ⟨pattern, member, by rw [parsed]; rfl⟩ :
      (fourDigitPatterns.findSome? fun pattern => parseDateTime joda pattern text).isSome = true)
  obtain ⟨first, firstMember, firstParsed⟩ := List.exists_of_findSome?_eq_some isFound
  obtain ⟨_, written, -⟩ := (parseDateTime_eq_some (inSpec member)).mp parsed
  obtain ⟨_, firstWritten, -⟩ := (parseDateTime_eq_some (inSpec firstMember)).mp firstParsed
  have same : parseDateTime joda first text = parseDateTime joda pattern text := by
    unfold parseDateTime
    rw [layout_unique firstMember member firstWritten written]
  rw [firstParsed, parsed] at same
  have all : (rfc822ParseSpec.findSome? fun pattern => parseDateTime joda pattern text) =
      some instant := by
    rw [← List.take_append_drop 4 rfc822ParseSpec, List.findSome?_append]
    unfold fourDigitPatterns at isFound
    rw [isFound, same]
    rfl
  rw [parseRfc822Date, all]

/-- A text with the letter for its offset has no shape: what it ends with is no digit. -/
theorem not_hasShape_of_offsetLetter {pattern second : String} (inSpec : pattern ∈ rfc822ParseSpec)
    (secondInSpec : second ∈ rfc822ParseSpec)
    (written : IsWrittenWith joda (offsetLetter .offset) (forPattern pattern) text saved)
    {other : List Saved} : ¬ HasShape joda second text other := by
  intro hasShape
  obtain ⟨isAppend, -⟩ := forPattern_endsWithOffset pattern inSpec
  obtain ⟨secondIsAppend, -⟩ := forPattern_endsWithOffset second secondInSpec
  rw [IsWrittenWith, ← isAppend, List.map_append] at written
  rw [HasShape, IsWrittenWith, ← secondIsAppend, List.map_append] at hasShape
  obtain ⟨front, _, _, isText, ⟨zero, rfl, isZero⟩, -⟩ := written.last
  obtain ⟨before, token, _, isTextToo, isNumeric⟩ := hasShape.last
  obtain ⟨others, letter, isEnd, isDigit⟩ := (numericOffset_ends isNumeric).append before
  rw [← isTextToo, isText] at isEnd
  obtain ⟨-, same⟩ := List.append_inj' isEnd rfl
  obtain rfl := List.singleton_inj.mp same
  rcases List.mem_pair.mp isZero with rfl | rfl <;> cases isDigit

/-- A text is refused exactly if no pattern reads it. -/
theorem parseRfc822Date_eq_error_iff :
    parseRfc822Date joda text = .error ⟨text ++ " is not an RFC822 date."⟩ ↔
      ∀ pattern ∈ rfc822ParseSpec, parseDateTime joda pattern text = none := by
  rw [← List.findSome?_eq_none_iff, parseRfc822Date]
  cases rfc822ParseSpec.findSome? fun pattern => parseDateTime joda pattern text with
  | none => exact iff_of_true rfl rfl
  | some dateTime => exact iff_of_false nofun nofun

/-- What is written with a year of two digits is swallowed by the pattern for years of four digits,
which reads it as a year of the first century. -/
theorem ParsesRightly.not_denotesIn (rightly : ParsesRightly joda text) {pattern : String}
    (member : pattern ∈ twoDigitPatterns) : ¬ DenotesIn joda pattern text instant := by
  rintro ⟨saved, hasShape, denotes⟩
  have parsed := rightly.twoDigitYears pattern member instant ⟨saved, hasShape, denotes⟩
  have written := hasShape.isWritten (List.mem_of_mem_drop member)
  obtain ⟨weekday, seconds, isLayout, counterpart, inPatterns, isCounterpart⟩ :=
    forPattern_of_twoDigit member
  rw [isLayout] at written
  obtain ⟨before, after, digits, short, absent, rfl, asItStands⟩ := written_as_fourDigit written
  have afterEpoch := joda.afterEpoch
  obtain ⟨late, ending⟩ := yearAround_spec (joda.currentYear - 30)
    (Int.natCast_nonneg digits) (Int.ofNat_lt.mpr short)
  obtain ⟨earlier, computed, isEarlier⟩ := denotes.earlier short absent (by omega) ending
  rw [← isCounterpart] at asItStands
  have swallowed := parseRfc822Date_of_fourDigit inPatterns
    ((parseDateTime_eq_some (List.mem_of_mem_take inPatterns)).mpr ⟨_, asItStands, computed⟩)
  rw [swallowed] at parsed
  exact Int.ne_of_lt isEarlier (Except.ok.inj parsed)

/-- A text with the letter for its offset has no shape, and is read. -/
theorem ParsesRightly.not_hasOffsetLetter (rightly : ParsesRightly joda text) :
    ¬ HasOffsetLetter joda text := by
  rintro ⟨pattern, member, saved, written, moment, isSaved⟩
  have refused := rightly.noPattern fun second secondMember other hasShape =>
    (not_hasShape_of_offsetLetter member secondMember written hasShape).elim
  have computed := computeMillis_eq_some.mpr ⟨moment, isSaved, rfl⟩
  have parsed := (parseDateTime_eq_some member).mpr
    ⟨saved, (isWritten_iff member).mpr (.inl written), computed⟩
  rw [parseRfc822Date_eq_error_iff.mp refused pattern member] at parsed
  cases parsed

/-- A text is read rightly exactly if it denotes nothing in the shapes for years of two digits and
has no letter for its offset. -/
theorem parsesRightly_iff : ParsesRightly joda text ↔
    (∀ pattern ∈ twoDigitPatterns, ∀ instant, ¬ DenotesIn joda pattern text instant) ∧
      ¬ HasOffsetLetter joda text := by
  refine ⟨fun rightly =>
    ⟨fun _ member _ => rightly.not_denotesIn member, rightly.not_hasOffsetLetter⟩, ?_⟩
  rintro ⟨denotesNothing, noLetter⟩
  constructor
  case twoDigitYears =>
    intro pattern member instant denotes
    exact (denotesNothing pattern member instant denotes).elim
  case otherYears =>
    rintro - pattern member instant ⟨saved, hasShape, denotes⟩
    have inSpec := List.mem_of_mem_take member
    exact parseRfc822Date_of_fourDigit member ((parseDateTime_eq_some inSpec).mpr
      ⟨saved, hasShape.isWritten inSpec, denotes.computeMillis_eq⟩)
  case noPattern =>
    intro noPattern
    refine parseRfc822Date_eq_error_iff.mpr fun pattern member => ?_
    refine Option.eq_none_iff_forall_ne_some.mpr fun instant parsed => ?_
    obtain ⟨saved, written, computed⟩ := (parseDateTime_eq_some member).mp parsed
    obtain ⟨moment, isSaved, -⟩ := computeMillis_eq_some.mp computed
    rcases (isWritten_iff member).mp written with withLetter | hasShape
    · exact noLetter ⟨pattern, member, saved, withLetter, moment, isSaved⟩
    · exact noPattern pattern member saved hasShape moment isSaved

end Parsing

/-! ### The round trip -/

section RoundTrip

variable (joda : JodaTime)

/-- A date that is written is read back as its second. -/
def ConvertsBack : Prop :=
  ∀ dateTime : DateTime, 0 ≤ dateTime.year → dateTime.year ≤ 9999 →
    ∃ text, convertTo joda (some dateTime) = some text ∧
      convertFrom joda text = .ok (dateTime.millis - dateTime.millis % 1000)

/-- The time in UTC that an element prints a part of. -/
def Moment.ofMillis (millis : Int) : Moment where
  date := Date.ofDayNumber (millis / 86400000)
  hour := millis % 86400000 / 3600000
  minute := millis % 3600000 / 60000
  second := millis % 60000 / 1000
  timeExists := by omega

/-- What an element saves of the text that it has printed. -/
def Element.saved (millis : Int) : Element → Saved
  | .dayOfWeekShortText => .field .dayOfWeek (dayOfWeek (millis / 86400000))
  | .dayOfMonth => .field .dayOfMonth (Moment.ofMillis millis).date.day
  | .monthOfYearShortText => .field .monthOfYear (Moment.ofMillis millis).date.month
  | .year | .twoDigitYear => .field .year (Moment.ofMillis millis).date.year
  | .hourOfDay => .field .hourOfDay (Moment.ofMillis millis).hour
  | .minuteOfHour => .field .minuteOfHour (Moment.ofMillis millis).minute
  | .secondOfMinute => .field .secondOfMinute (Moment.ofMillis millis).second
  | .timeZoneOffset => .offset 0
  | .literal _ => .literal

variable {joda}

/-- Two digits are read as the number that they print. -/
theorem number_token {value : Int} (notNegative : 0 ≤ value) (short : value < 100)
    (type : DateTimeFieldType) :
    (number 2 fun read => Saved.field type read).Token (padded 2 value.toNat)
      (.field type value) := by
  refine ⟨value.toNat, isNumber_padded (Nat.le_refl 2) (by decide) (by omega), ?_⟩
  exact congrArg (Saved.field type) (Int.toNat_of_nonneg notNegative).symm

theorem year_token {year : Int} (small : year.natAbs < 10 ^ 9) :
    IsSignedNumber 9 (if year < 0 then '-' :: padded 4 year.natAbs else padded 4 year.natAbs)
      year := by
  have isNumber : IsNumber 9 (padded 4 year.natAbs) year.natAbs :=
    isNumber_padded (by decide) (by decide) small
  split
  · have isNegative := IsSignedNumber.negative isNumber
    rw [show -(year.natAbs : Int) = year by omega] at isNegative
    exact isNegative
  · have isUnsigned := IsSignedNumber.unsigned isNumber
    rw [show (year.natAbs : Int) = year by omega] at isUnsigned
    exact isUnsigned

/-- Every element but a year of two digits prints a token. -/
theorem Element.print_token {element : Element} {millis : Int}
    (notTwoDigits : element ≠ .twoDigitYear)
    (small : (Moment.ofMillis millis).date.year.natAbs < 10 ^ 9) :
    (element.field joda).Token (element.print joda millis) (element.saved millis) := by
  cases element with
  | dayOfWeekShortText =>
      obtain ⟨first, last⟩ := dayOfWeek_bounds (millis / 86400000)
      exact ⟨_, joda.weekdays.valueOf_textOf _ first last, rfl⟩
  | dayOfMonth =>
      obtain ⟨first, last⟩ := (Moment.ofMillis millis).date.dayExists
      refine number_token (Int.le_trans (by decide) first) (Int.lt_of_le_of_lt last ?_) _
      unfold daysInMonth
      split
      · split <;> decide
      · split <;> decide
  | monthOfYearShortText =>
      obtain ⟨first, last⟩ := (Moment.ofMillis millis).date.monthExists
      exact ⟨_, joda.months.valueOf_textOf _ first last, rfl⟩
  | year => exact ⟨_, year_token small, rfl⟩
  | twoDigitYear => exact absurd rfl notTwoDigits
  | hourOfDay => exact number_token (by omega) (by omega) _
  | minuteOfHour => exact number_token (by omega) (by omega) _
  | secondOfMinute => exact number_token (by omega) (by omega) _
  | timeZoneOffset =>
      have isRead : (Element.field joda .timeZoneOffset).read ['+', '0', '0', '0', '0'] =
          some (Saved.offset 0, []) := by rfl
      obtain ⟨token, split, isToken⟩ := Field.sound _ isRead
      rw [List.append_nil] at split
      subst split
      exact isToken
  | literal letter => exact ⟨⟨letter, rfl, List.mem_cons_self⟩, rfl⟩

theorem written_print {elements : List Element} {millis : Int}
    (noTwoDigits : .twoDigitYear ∉ elements)
    (small : (Moment.ofMillis millis).date.year.natAbs < 10 ^ 9) :
    Written (elements.map (Element.field joda)) (elements.flatMap (Element.print joda millis))
      (elements.map (Element.saved millis)) := by
  induction elements with
  | nil => exact .nil
  | cons element elements inductionHypothesis =>
      rw [List.mem_cons, not_or] at noTwoDigits
      exact .cons (Element.print_token (Ne.symm noTwoDigits.1) small)
        (inductionHypothesis noTwoDigits.2)

/-- The printed elements denote the second of the time. -/
theorem denotes_saved {millis : Int} (small : (Moment.ofMillis millis).date.year.natAbs < 100000) :
    Denotes ((forPattern rfc822DateFormat).map (Element.saved millis))
      (millis - millis % 1000) := by
  refine ⟨Moment.ofMillis millis, ⟨rfl, rfl, rfl, rfl, rfl, rfl, by omega⟩, ?_, ?_⟩
  · intro weekday isWeekday
    obtain rfl : dayOfWeek (millis / 86400000) = weekday := Option.some.inj isWeekday
    exact congrArg dayOfWeek (dayNumber_ofDayNumber _)
  · show _ = (Moment.ofMillis millis).millisOn (Date.ofDayNumber (millis / 86400000)).dayNumber - 0
    rw [dayNumber_ofDayNumber]
    show _ = (((millis / 86400000 * 24 + millis % 86400000 / 3600000) * 60 +
      millis % 3600000 / 60000) * 60 + millis % 60000 / 1000) * 1000 - 0
    omega

/-- The year in UTC is at most one away from that in the zone. -/
theorem DateTime.year_utc (dateTime : DateTime) (notNegative : 0 ≤ dateTime.year)
    (fourDigits : dateTime.year ≤ 9999) :
    (Moment.ofMillis dateTime.millis).date.year.natAbs < 100000 := by
  obtain ⟨begun, ends⟩ :=
    yearOf_spec ((dateTime.millis + dateTime.zoneOffset) / 86400000 + epoch)
  obtain ⟨begunInUtc, endsInUtc⟩ := yearOf_spec (dateTime.millis / 86400000 + epoch)
  have zoneExists := dateTime.zoneExists
  change (0 : Int) ≤ yearOf _ at notNegative
  change yearOf _ ≤ 9999 at fourDigits
  show (yearOf (dateTime.millis / 86400000 + epoch)).natAbs < 100000
  unfold daysBeforeYear at begun ends begunInUtc endsInUtc
  omega

theorem convertsBack : ConvertsBack joda := by
  intro dateTime notNegative fourDigits
  have small := dateTime.year_utc notNegative fourDigits
  have isFirst : rfc822DateFormat ∈ fourDigitPatterns := List.mem_cons_self
  refine ⟨_, rfl, parseRfc822Date_of_fourDigit isFirst ?_⟩
  refine (parseDateTime_eq_some List.mem_cons_self).mpr
    ⟨_, ?_, (denotes_saved small).computeMillis_eq⟩
  unfold IsWritten
  rw [String.toList_ofList]
  exact written_print (by decide) (by omega)

end RoundTrip

/-! ### Dates in the requests and answers -/

/-- Dates are read back as they were written, and a text is read rightly exactly if it denotes
nothing in the shapes for years of two digits and has no letter for its offset. -/
theorem convertsBack_and_parsesRightly_iff (joda : JodaTime) :
    ConvertsBack joda ∧
      ∀ text, ParsesRightly joda text ↔
        (∀ pattern ∈ twoDigitPatterns, ∀ instant, ¬ DenotesIn joda pattern text instant) ∧
          ¬ HasOffsetLetter joda text :=
  ⟨convertsBack, fun _ => parsesRightly_iff⟩

/-- English names, and formatters of the year 2017. -/
def englishIn2017 : JodaTime := ⟨englishWeekdays, englishMonths, 2017, by decide⟩

example : parseRfc822Date englishIn2017 "05 Sep 2017 10:00 Z" = .ok 1504605600000 := by
  decide

/-- The year 17 of the text is taken for the year 17, and not for 2017. -/
theorem not_parsesRightly : ¬ ParsesRightly englishIn2017 "05 Sep 17 10:00 +0000" := by
  intro rightly
  let saved : List Saved := [.field .dayOfMonth 5, .literal, .field .monthOfYear 9, .literal,
    .field .year 2017, .literal, .field .hourOfDay 10, .literal, .field .minuteOfHour 0, .literal,
    .offset 0]
  have hasShape : HasShape englishIn2017 "dd MMM yy HH:mm Z" "05 Sep 17 10:00 +0000" saved := by
    obtain ⟨front, isFront, written⟩ := readAll_sound (show readAll
      ((forPattern "dd MMM yy HH:mm Z").map
        (Element.fieldWith englishIn2017 (numericOffset .offset))) "05 Sep 17 10:00 +0000".toList =
          some (saved, []) by decide)
    rw [List.append_nil] at isFront
    rwa [HasShape, IsWrittenWith, isFront]
  have denotes : Denotes saved 1504605600000 :=
    ⟨⟨⟨2017, 9, 5, by decide, by decide⟩, 10, 0, 0, by decide⟩,
      ⟨rfl, rfl, rfl, rfl, rfl, rfl, by decide⟩, (fun _ missing => nomatch missing), by decide⟩
  have parsed := rightly.twoDigitYears "dd MMM yy HH:mm Z" (by decide) _ ⟨saved, hasShape, denotes⟩
  have inFirstCentury : parseRfc822Date englishIn2017 "05 Sep 17 10:00 +0000" =
      .ok (-61609298400000) := by decide
  rw [inFirstCentury] at parsed
  exact absurd (Except.ok.inj parsed) (by decide)

end GraffiTab
