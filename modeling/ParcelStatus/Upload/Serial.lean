import ParcelStatus.Calendar.Moment
import ParcelStatus.Number.Shortest

/-!
# Serial numbers of dates

Workbooks store a date as the count of days since 30 December 1899, the time of day as the fraction
of a day. There was no 29 February 1900, but its number is passed over: the days before 1 March 1900
are stored one number lower. A number below one is a time of day alone. Numbers are rounded to 53
bits in every step, and a date that is read back is rounded to milliseconds.

* `serial` — the number of a date;
* `dateText` — the text of a date that is stored and read back.
-/

namespace ParcelStatus.Upload

open Text

/-- The day of the number zero, 30 December 1899. -/
def firstDay : Int := 693594

/-- The first number that stands for its own day, the one of 1 March 1900 less one. -/
def firstTrueNumber : Int := 60

/-- A finite number as a fraction. -/
def fraction? : Binary64 → Option (Int × Nat)
  | .finite negative m e =>
    let (num, den) := Binary64.ratio m e
    some (if negative then -(num : Int) else num, den)
  | _ => none

/-- The nearest number to a fraction. -/
def nearest (num : Int) (den : Nat) : Binary64 := .ofRatio (num < 0) num.natAbs den

/-- The rounded sum of a whole number and a number. -/
def addRounded (n : Int) (x : Binary64) : Binary64 :=
  match fraction? x with
  | some (num, den) => nearest (n * den + num) den
  | none => x

/-- The rounded product of a number and a whole number. -/
def mulRounded (x : Binary64) (n : Int) : Binary64 :=
  match fraction? x with
  | some (num, den) => nearest (num * n) den
  | none => x

/-- The rounded quotient of a number and a positive whole number. -/
def divRounded (x : Binary64) (n : Nat) : Binary64 :=
  match fraction? x with
  | some (num, den) => nearest num (den * n)
  | none => x

def daySeconds : Nat := 86400

/-- The significant digits of a stored number. -/
def storedDigits : Nat := 16

/-- A time of day as a fraction of a day. -/
def dayFraction (c : Clock) : Binary64 :=
  let seconds := (c.hour * 60 + c.minute) * 60 + c.second
  divRounded (addRounded seconds (nearest c.micros 1000000)) daySeconds

/-- The number of a date. -/
def serial (m : Moment) : Binary64 :=
  let day := m.localDay - firstDay
  addRounded (if 0 < day ∧ day ≤ firstTrueNumber then day - 1 else day) (dayFraction m.clock)

/-- The whole days of a number, and the milliseconds of what is left. -/
def daysAndMillis (num : Int) (den : Nat) : Int × Nat :=
  let left := mulRounded (mulRounded (nearest (num % den) den) daySeconds) 1000
  let millis := match fraction? left with
    | some (num, den) => Binary64.roundQuotient num.natAbs den
    | none => 0
  (num / den, millis)

/-- The text of a date that is stored and read back: the time of day alone, or date and time. -/
def dateText (m : Moment) : Text :=
  match fraction? ((serial m).keepDigits storedDigits) with
  | none => []
  | some (num, den) =>
    let (day, millis) := daysAndMillis num den
    if day = 0 ∧ millis < daySeconds * 1000 then (Clock.ofMicros (millis * 1000)).iso
    else
      let day := if 0 < num ∧ num < firstTrueNumber * den then day + 1 else day
      ({ instant := (firstDay + day - epochDay) * dayLength + millis * 1000 } : Moment).shown

end ParcelStatus.Upload
