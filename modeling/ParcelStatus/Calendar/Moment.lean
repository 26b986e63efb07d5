import ParcelStatus.Calendar.Date

/-!
# Moments

Points in time with the clock that named them. Time is counted in microseconds from the start of
1970 in universal time.

* `Moment` — an instant, and the offset and the zone of a clock;
* `Moment.isBefore` — the order of moments: by what the clock shows in one zone, otherwise by their
  instants;
* `Moment.iso` — the form `YYYY-MM-DDTHH:MM:SS+HH:MM`, with six digits of a second's fraction when
  it is not zero;
* `Moment.universal` — the moment of an instant on the universal clock, refused when its year is
  not one of 1 to 9999.
-/

namespace ParcelStatus

open Text

/-- The microseconds of a second. -/
def secondLength : Int := 1000000

/-- The microseconds of a day. -/
def dayLength : Int := 86400 * secondLength

/-- The day number of 1 January 1970. -/
def epochDay : Int := 719163

/-- A time of day. -/
structure Clock where
  hour : Nat := 0
  minute : Nat := 0
  second : Nat := 0
  /-- The microseconds behind the second. -/
  micros : Nat := 0
deriving DecidableEq, Repr

namespace Clock

/-- The clock shows this time at some point of a day. -/
def isReal (c : Clock) : Bool := c.hour < 24 && c.minute < 60 && c.second < 60

/-- The microseconds since midnight. -/
def sinceMidnight (c : Clock) : Int :=
  ((c.hour * 60 + c.minute) * 60 + c.second : Nat) * secondLength + c.micros

/-- The time at a count of microseconds since midnight. -/
def ofMicros (n : Nat) : Clock :=
  let s := n / 1000000
  { hour := s / 3600, minute := s / 60 % 60, second := s % 60, micros := n % 1000000 }

/-- The form `HH:MM:SS`, with six more digits when the fraction is not zero. -/
def iso (c : Clock) : Text :=
  padZeros 2 (ofNat c.hour) ++ ':' :: padZeros 2 (ofNat c.minute) ++ ':'
    :: padZeros 2 (ofNat c.second)
    ++ (if c.micros = 0 then [] else '.' :: padZeros 6 (ofNat c.micros))

end Clock

/-- An instant and the clock that names it. Times are in microseconds. -/
structure Moment where
  /-- The time since the start of 1970 in universal time. -/
  instant : Int
  /-- How far the clock is ahead of universal time. -/
  offset : Int := 0
  /-- The zone of the clock, if that is one whose clocks are set forward and back. In an hour that
  such a clock shows twice, the offset tells which of the two is meant. -/
  zone : Option Text := none
deriving DecidableEq, Repr

/-- Why an instant has no date. -/
inductive DateFault where
  /-- Its year is not one of 1 to 9999. -/
  | yearOutOfRange (year : Int)
deriving DecidableEq, Repr

/-- The wording of a date fault. -/
def DateFault.message : DateFault → Text
  | .yearOutOfRange year => "year ".toList ++ ofInt year ++ " is out of range".toList

namespace Moment

/-- The start of 1970. -/
def epoch : Moment := { instant := 0 }

/-- What the clock shows, as the time since it showed the start of 1970. -/
def shownTime (m : Moment) : Int := m.instant + m.offset

/-- The first moment comes before the second. Two moments of one zone are compared by what its clock
shows, whichever of the two showings of a repeated hour is meant, and all others by their instants. -/
def isBefore (a b : Moment) : Bool :=
  if a.zone.isSome && a.zone = b.zone then a.shownTime < b.shownTime else a.instant < b.instant

/-- The instant at which a clock with an offset shows a date and time. -/
def instantOf (day : Int) (clock : Clock) (offset : Int) : Int :=
  (day - epochDay) * dayLength + clock.sinceMidnight - offset

/-- The number of the day on the moment's own clock. -/
def localDay (m : Moment) : Int := m.shownTime / dayLength + epochDay

/-- The time of day on the moment's own clock. -/
def clock (m : Moment) : Clock := .ofMicros (m.shownTime % dayLength).toNat

/-- The year on the universal clock. -/
def yearOf (instant : Int) : Int := (dateOfNumber (instant / dayLength + epochDay)).1

/-- The moment of an instant on the universal clock. -/
def universal (instant : Int) : Except DateFault Moment :=
  let year := yearOf instant
  if 1 ≤ year ∧ year ≤ 9999 then .ok { instant } else .error (.yearOutOfRange year)

/-- The date on the moment's own clock in the form `YYYY-MM-DD`. -/
def isoDate (m : Moment) : Text :=
  let (year, month, day) := dateOfNumber m.localDay
  padZeros 4 (ofInt year) ++ '-' :: padZeros 2 (ofNat month) ++ '-' :: padZeros 2 (ofNat day)

/-- An offset in the form `+HH:MM`, with seconds and their fraction when they are not zero. -/
def isoOffset (offset : Int) : Text :=
  let c := Clock.ofMicros offset.natAbs
  (if offset < 0 then '-' else '+') :: padZeros 2 (ofNat c.hour) ++ ':'
    :: padZeros 2 (ofNat c.minute)
    ++ (if c.second = 0 ∧ c.micros = 0 then []
        else ':' :: padZeros 2 (ofNat c.second)
          ++ (if c.micros = 0 then [] else '.' :: padZeros 6 (ofNat c.micros)))

/-- The form `YYYY-MM-DDTHH:MM:SS+HH:MM`. -/
def iso (m : Moment) : Text := m.isoDate ++ 'T' :: m.clock.iso ++ isoOffset m.offset

/-- Date and time with a space between them, as tables show a date cell. -/
def shown (m : Moment) : Text := m.isoDate ++ ' ' :: m.clock.iso

end Moment

end ParcelStatus
