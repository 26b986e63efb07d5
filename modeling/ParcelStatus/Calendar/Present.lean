import ParcelStatus.Calendar.Moment

/-!
# The present

Some date texts leave a part of what they mean to the time at which they are read: two digits of a
year, a time of day without a date, the words for the present itself. That time is carried as a
class, so that whatever reads dates depends on it without naming it in between.

* `Present` — the time at which texts are read;
* `Present.date`, `Present.year` — its date on its own clock.
-/

namespace ParcelStatus

/-- The time at which texts are read. -/
class Present where
  /-- The present moment on the clock of the place. -/
  now : Moment

namespace Present

/-- Year, month and day on the clock of the place. -/
def date [Present] : Nat × Nat × Nat :=
  let (year, month, day) := dateOfNumber now.localDay
  (year.toNat, month, day)

/-- The year on the clock of the place. -/
def year [Present] : Nat := date.1

/-- A present for samples: midday of 1 July 2026. -/
@[reducible] def sample : Present where
  now := { instant := 1782907200000000 }

end Present

end ParcelStatus
