import ParcelStatus.Text.Digit

/-!
# Calendar dates

Dates of the Gregorian calendar and their numbering by days.

* `Date` — a date of the years 1 to 9999 that the calendar has; an impossible one cannot be built;
* `dayNumber` — days are numbered from 1 at 1 January of the year 1, for any year;
* `dateOfNumber` — the year, month and day of a day number;
* `Date.iso` — the ten-character form `YYYY-MM-DD`;
* `Date.ofNumber?` — the date of a day number.
-/

namespace ParcelStatus

open Text

/-! ## Months and years -/

/-- Every fourth year, of the hundredth years only every fourth. -/
def isLeapYear (year : Int) : Bool := year % 4 = 0 && (year % 100 ≠ 0 || year % 400 = 0)

def daysInMonth (year : Int) (month : Nat) : Nat :=
  match month with
  | 2 => if isLeapYear year then 29 else 28
  | 4 | 6 | 9 | 11 => 30
  | _ => 31

/-- The days of a common year before a month. -/
def commonDaysBefore (month : Nat) : Nat :=
  match month with
  | 1 => 0 | 2 => 31 | 3 => 59 | 4 => 90 | 5 => 120 | 6 => 151
  | 7 => 181 | 8 => 212 | 9 => 243 | 10 => 273 | 11 => 304 | _ => 334

/-- The days of a year before a month. -/
def daysBeforeMonth (year : Int) (month : Nat) : Nat :=
  commonDaysBefore month + (if 2 < month && isLeapYear year then 1 else 0)

/-- The days before a year, counted from the year 1. -/
def daysBeforeYear (year : Int) : Int :=
  let y := year - 1
  y * 365 + y / 4 - y / 100 + y / 400

def dayNumber (year : Int) (month day : Nat) : Int :=
  daysBeforeYear year + daysBeforeMonth year month + day

/-- The month and day of a day of a year, which counts from zero: the last month that does not
begin behind it. -/
def monthAndDay (year : Int) (dayOfYear : Nat) : Nat × Nat :=
  let month := ([12, 11, 10, 9, 8, 7, 6, 5, 4, 3, 2].find? fun m =>
    daysBeforeMonth year m ≤ dayOfYear).getD 1
  (month, dayOfYear - daysBeforeMonth year month + 1)

/-- The year, month and day of a day number. Years repeat every 146097 days; within that span
each century but the last has 36524, within a century each four years but perhaps the last have
1461, and within these each year but perhaps the last has 365. -/
def dateOfNumber (n : Int) : Int × Nat × Nat :=
  let days := n - 1
  let span := days / 146097
  let inSpan := days % 146097
  let century := min (inSpan / 36524) 3
  let inCentury := inSpan - century * 36524
  let four := inCentury / 1461
  let inFour := inCentury % 1461
  let one := min (inFour / 365) 3
  let year := span * 400 + century * 100 + four * 4 + one + 1
  let (month, day) := monthAndDay year (inFour - one * 365).toNat
  (year, month, day)

/-! ## Dates -/

/-- The calendar has this date, in the years 1 to 9999. -/
def isRealDate (year month day : Nat) : Bool :=
  1 ≤ year && year ≤ 9999 && 1 ≤ month && month ≤ 12 && 1 ≤ day && day ≤ daysInMonth year month

/-- A date of the years 1 to 9999. -/
structure Date where
  year : Nat
  /-- The month, from 1. -/
  month : Nat
  /-- The day of the month, from 1. -/
  day : Nat
  /-- The calendar has the date. -/
  real : isRealDate year month day = true
deriving DecidableEq, Repr

namespace Date

/-- The date of a year, month and day, if the calendar has it. -/
def of? (year month day : Nat) : Option Date :=
  if h : isRealDate year month day then some ⟨year, month, day, h⟩ else none

def number (d : Date) : Int := dayNumber d.year d.month d.day

/-- The form `YYYY-MM-DD`. -/
def iso (d : Date) : Text :=
  padZeros 4 (ofNat d.year) ++ '-' :: padZeros 2 (ofNat d.month) ++ '-' :: padZeros 2 (ofNat d.day)

/-- The date of a day number, if it is one of the years 1 to 9999. -/
def ofNumber? (n : Int) : Option Date :=
  let (year, month, day) := dateOfNumber n
  of? year.toNat month day

end Date

end ParcelStatus
