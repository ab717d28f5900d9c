namespace Conformance
namespace Calendar

/-!
# Dates of the proleptic Gregorian calendar

A date is a year, a month and a day.  Years before the first count down through
zero.  Only dates that exist are values of the type, and years stay within the
range that a day count of 32 bits allows.
-/

/-- Whether a year has a 29th of February. -/
def isLeapYear (year : Int) : Bool :=
  year % 4 = 0 && (year % 100 ≠ 0 || year % 400 = 0)

/-- The count of days in a month. -/
def daysInMonth (year : Int) (month : Nat) : Nat :=
  if month = 2 then (if isLeapYear year then 29 else 28)
  else if month = 4 || month = 6 || month = 9 || month = 11 then 30
  else if 1 ≤ month && month ≤ 12 then 31
  else 0

/-- The first year of the range. -/
def firstYear : Int := -262143

/-- The last year of the range. -/
def lastYear : Int := 262142

/-- Whether three numbers form a date. -/
def isDate (year : Int) (month day : Nat) : Bool :=
  firstYear ≤ year && year ≤ lastYear && 1 ≤ day && day ≤ daysInMonth year month

/-- A date. -/
structure Date where
  year : Int
  month : Nat
  day : Nat
  isReal : isDate year month day = true

/-- The date that three numbers form. -/
def Date.ofNumbers? (year : Int) (month day : Nat) : Option Date :=
  if isReal : isDate year month day then some ⟨year, month, day, isReal⟩ else none

/-- The days of the week, Monday first. -/
inductive Weekday where
  | monday
  | tuesday
  | wednesday
  | thursday
  | friday
  | saturday
  | sunday
deriving DecidableEq, Repr

/-- The weekday with a number, counted from Monday as zero. -/
def Weekday.ofNumber (number : Nat) : Weekday :=
  match number % 7 with
  | 0 => .monday
  | 1 => .tuesday
  | 2 => .wednesday
  | 3 => .thursday
  | 4 => .friday
  | 5 => .saturday
  | _ => .sunday

/-- The count of days from the first day of March of year zero.  Years begin in
March here, so that the leap day comes last. -/
def Date.dayNumber (date : Date) : Int :=
  let year := if date.month ≤ 2 then date.year - 1 else date.year
  let month : Int := if date.month ≤ 2 then date.month + 9 else date.month - 3
  365 * year + year / 4 - year / 100 + year / 400 + (153 * month + 2) / 5 + (date.day - 1)

/-- The weekday of a date.  The first of March of year zero was a Wednesday. -/
def Date.weekday (date : Date) : Weekday :=
  .ofNumber ((date.dayNumber + 2) % 7).toNat

end Calendar
end Conformance
