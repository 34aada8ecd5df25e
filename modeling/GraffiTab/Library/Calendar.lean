/-
This file is about the dates of the Gregorian calendar, extended to all years.

A date stands for a day, and days are numbered from the first of January 1970 on. The number
of a date counts the days of the years and of the months before it; the other way round the
year is found with an estimate that is at most one year too early, and the date that is found
has the number. A week begins on Monday, and a weekday can be set within the week of a day.
-/

import Mathlib.Tactic.IntervalCases

namespace Calendar

/-! ### Years -/

def isLeapYear (year : Int) : Bool :=
  year % 4 = 0 && (year % 100 ≠ 0 || year % 400 = 0)

def daysInYear (year : Int) : Int := if isLeapYear year then 366 else 365

/-- The days from the beginning of the year 1 to the beginning of the year. -/
def daysBeforeYear (year : Int) : Int :=
  365 * (year - 1) + (year - 1) / 4 - (year - 1) / 100 + (year - 1) / 400

/-- The year of a day that is counted from the beginning of the year 1. -/
def yearOf (day : Int) : Int :=
  let estimate := 400 * day / 146097 + 1
  if daysBeforeYear (estimate + 1) ≤ day then estimate + 1 else estimate

theorem isLeapYear_iff {year : Int} :
    isLeapYear year = true ↔ year % 4 = 0 ∧ (year % 100 ≠ 0 ∨ year % 400 = 0) := by
  simp [isLeapYear]

theorem daysBeforeYear_succ (year : Int) :
    daysBeforeYear (year + 1) = daysBeforeYear year + daysInYear year := by
  have leap : isLeapYear year = true ↔ year % 4 = 0 ∧ (year % 100 ≠ 0 ∨ year % 400 = 0) :=
    isLeapYear_iff
  unfold daysInYear daysBeforeYear
  split
  · rename_i isLeap
    have := leap.mp isLeap
    omega
  · rename_i common
    have := mt leap.mpr common
    omega

/-- The year of a day is the one that begins before the day and ends after it. -/
theorem yearOf_spec (day : Int) :
    daysBeforeYear (yearOf day) ≤ day ∧ day < daysBeforeYear (yearOf day + 1) := by
  have notLate : daysBeforeYear (400 * day / 146097 + 1) ≤ day := by
    unfold daysBeforeYear
    omega
  have notEarly : day < daysBeforeYear (400 * day / 146097 + 1 + 1 + 1) := by
    unfold daysBeforeYear
    omega
  dsimp only [yearOf]
  split_ifs with begun
  · exact ⟨begun, notEarly⟩
  · exact ⟨notLate, not_le.mp begun⟩

/-! ### Months -/

def daysInMonth (year month : Int) : Int :=
  if month = 2 then (if isLeapYear year then 29 else 28)
  else if month = 4 ∨ month = 6 ∨ month = 9 ∨ month = 11 then 30 else 31

/-- What February lacks to 30 days. -/
def februaryLack (year : Int) : Int := if isLeapYear year then 1 else 2

/-- The days of a year before the month. -/
def daysBeforeMonth (year month : Int) : Int :=
  (367 * month - 362) / 12 - if month ≤ 2 then 0 else februaryLack year

/-- The month of a day that is counted from the beginning of the year. -/
def monthOf (year day : Int) : Int :=
  (12 * (day + if day < daysBeforeMonth year 3 then 0 else februaryLack year) + 373) / 367

theorem daysBeforeMonth_succ (year : Int) {month : Int} (first : 1 ≤ month) (last : month ≤ 12) :
    daysBeforeMonth year (month + 1) = daysBeforeMonth year month + daysInMonth year month := by
  unfold daysBeforeMonth daysInMonth februaryLack
  interval_cases month <;> split_ifs <;> omega

theorem daysBeforeMonth_last (year : Int) : daysBeforeMonth year 13 = daysInYear year := by
  unfold daysBeforeMonth februaryLack daysInYear
  split_ifs <;> omega

theorem monthOf_spec {year day : Int} (notBefore : 0 ≤ day) (notAfter : day < daysInYear year) :
    (1 ≤ monthOf year day ∧ monthOf year day ≤ 12) ∧
      daysBeforeMonth year (monthOf year day) ≤ day ∧
        day < daysBeforeMonth year (monthOf year day + 1) := by
  unfold daysInYear at notAfter
  unfold monthOf daysBeforeMonth februaryLack
  split_ifs at notAfter ⊢ <;> omega

/-! ### Dates -/

structure Date where
  year : Int
  month : Int
  day : Int
  monthExists : 1 ≤ month ∧ month ≤ 12
  dayExists : 1 ≤ day ∧ day ≤ daysInMonth year month

/-- The number of the first of January 1970, counted from the beginning of the year 1. -/
def epoch : Int := 719162

/-- The days from the first of January 1970 to the date. -/
def Date.dayNumber (date : Date) : Int :=
  daysBeforeYear date.year + daysBeforeMonth date.year date.month + (date.day - 1) - epoch

/-- The day counted from the beginning of its year. -/
def dayOfYear (number : Int) : Int :=
  number + epoch - daysBeforeYear (yearOf (number + epoch))

theorem dayOfYear_bounds (number : Int) :
    0 ≤ dayOfYear number ∧ dayOfYear number < daysInYear (yearOf (number + epoch)) := by
  obtain ⟨begun, ends⟩ := yearOf_spec (number + epoch)
  rw [daysBeforeYear_succ] at ends
  unfold dayOfYear
  omega

/-- The date of the day with the number. -/
def Date.ofDayNumber (number : Int) : Date where
  year := yearOf (number + epoch)
  month := monthOf (yearOf (number + epoch)) (dayOfYear number)
  day := dayOfYear number - daysBeforeMonth (yearOf (number + epoch))
    (monthOf (yearOf (number + epoch)) (dayOfYear number)) + 1
  monthExists := (monthOf_spec (dayOfYear_bounds number).1 (dayOfYear_bounds number).2).1
  dayExists := by
    obtain ⟨⟨first, last⟩, begun, ends⟩ :=
      monthOf_spec (dayOfYear_bounds number).1 (dayOfYear_bounds number).2
    rw [daysBeforeMonth_succ _ first last] at ends
    omega

theorem dayNumber_ofDayNumber (number : Int) : (Date.ofDayNumber number).dayNumber = number := by
  simp only [Date.dayNumber, Date.ofDayNumber]
  unfold dayOfYear
  omega

/-- The days of the year before a date are fewer than those of the year. -/
theorem Date.dayOfYear_bounds (date : Date) :
    0 ≤ daysBeforeMonth date.year date.month + (date.day - 1) ∧
      daysBeforeMonth date.year date.month + (date.day - 1) < daysInYear date.year := by
  obtain ⟨year, month, day, ⟨first, last⟩, ⟨firstDay, lastDay⟩⟩ := date
  rw [← daysBeforeMonth_last]
  unfold daysInMonth at lastDay
  unfold daysBeforeMonth februaryLack
  dsimp only at *
  interval_cases month <;> split_ifs at lastDay ⊢ <;> omega

/-- Dates in a later year have greater numbers. -/
theorem Date.dayNumber_lt {first second : Date} (earlier : first.year < second.year) :
    first.dayNumber < second.dayNumber := by
  have firstBounds := first.dayOfYear_bounds
  have secondBounds := second.dayOfYear_bounds
  have next := daysBeforeYear_succ first.year
  have ordered : daysBeforeYear (first.year + 1) ≤ daysBeforeYear second.year := by
    unfold daysBeforeYear
    omega
  unfold Date.dayNumber
  omega

/-- The date with the three numbers, if there is one. -/
def Date.of? (year month day : Int) : Option Date :=
  if exists_ : (1 ≤ month ∧ month ≤ 12) ∧ 1 ≤ day ∧ day ≤ daysInMonth year month then
    some ⟨year, month, day, exists_.1, exists_.2⟩
  else none

theorem Date.of?_self (date : Date) : Date.of? date.year date.month date.day = some date :=
  dif_pos ⟨date.monthExists, date.dayExists⟩

theorem Date.of?_eq_some {year month day : Int} {date : Date} :
    Date.of? year month day = some date ↔
      date.year = year ∧ date.month = month ∧ date.day = day := by
  constructor
  · intro found
    unfold Date.of? at found
    split at found
    · obtain rfl := Option.some.inj found
      exact ⟨rfl, rfl, rfl⟩
    · cases found
  · rintro ⟨rfl, rfl, rfl⟩
    exact date.of?_self

/-- The same day some months earlier, or the last day of that month. -/
def Date.minusMonths (date : Date) (months : Int) : Date :=
  let total := 12 * date.year + (date.month - 1) - months
  let year := total / 12
  let month := total % 12 + 1
  { year
    month
    day := min date.day (daysInMonth year month)
    monthExists := by omega
    dayExists := by
      have positive : 1 ≤ daysInMonth (total / 12) (total % 12 + 1) := by
        unfold daysInMonth
        split_ifs <;> omega
      exact ⟨le_min date.dayExists.1 positive, min_le_right _ _⟩ }

/-! ### Weeks -/

/-- The weekday of a day, from 1 for Monday to 7 for Sunday. -/
def dayOfWeek (number : Int) : Int := (number + 3) % 7 + 1

theorem dayOfWeek_bounds (number : Int) : 1 ≤ dayOfWeek number ∧ dayOfWeek number ≤ 7 := by
  unfold dayOfWeek
  omega

/-- The day of the same week that is the weekday. -/
def withDayOfWeek (number weekday : Int) : Int := number - dayOfWeek number + weekday

theorem withDayOfWeek_self (number : Int) : withDayOfWeek number (dayOfWeek number) = number := by
  unfold withDayOfWeek
  omega

theorem withDayOfWeek_le {number weekday : Int} (last : weekday ≤ 7) :
    withDayOfWeek number weekday ≤ number + 6 := by
  have bounds := dayOfWeek_bounds number
  unfold withDayOfWeek
  omega

end Calendar
