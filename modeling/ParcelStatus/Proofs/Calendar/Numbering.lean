import ParcelStatus.Calendar.Moment
import ParcelStatus.Proofs.Calendar.Days

/-!
# Dates and times of instants

An instant is a day and a time of day. The date of the day and the time on the clock name both of
them, so they name the instant.

* `dateOfNumber_eq` — a day number is a year and a day of that year;
* `monthAndDay_real` — a day of a year is a day of one of its months;
* `Date.exists_ofNumber` — the date of a day number, in the years that dates have;
* `Moment.instantOf_clock` — the clock of a moment and its offset name its instant;
* `Moment.iso_universal` — the written form of an instant is that of its date and its time of day.
-/

namespace ParcelStatus

open Text

/-! ## Years -/

theorem isLeapYear_iff {year : Int} :
    isLeapYear year = true ↔ year % 4 = 0 ∧ (year % 100 ≠ 0 ∨ year % 400 = 0) := by
  simp [isLeapYear]

/-- A day number is a year and a day of that year, which counts from zero. -/
theorem dateOfNumber_eq (n : Int) :
    ∃ (year : Int) (day : Nat), dateOfNumber n = (year, monthAndDay year day) ∧
      day < daysInYear year ∧ daysBeforeYear year + day + 1 = n := by
  -- The parts that the number is cut into, as the definition names them.
  let days := n - 1
  let span := days / 146097
  let inSpan := days % 146097
  let century := min (inSpan / 36524) 3
  let inCentury := inSpan - century * 36524
  let four := inCentury / 1461
  let inFour := inCentury % 1461
  let one := min (inFour / 365) 3
  let year := span * 400 + century * 100 + four * 4 + one + 1
  have positive : 0 ≤ inFour - one * 365 := by omega
  refine ⟨year, (inFour - one * 365).toNat, rfl, ?_, ?_⟩
  · unfold daysInYear
    by_cases leap : isLeapYear year = true
    · rw [if_pos leap]
      omega
    · rw [if_neg leap]
      rw [isLeapYear_iff] at leap
      -- Only the last of four years has a day more, and it is a leap year unless it ends one of
      -- the first three centuries of a span, which are a day shorter.
      by_contra longer
      have lastOne : one = 3 := by omega
      have mod4 : year % 4 = 0 := by omega
      have fourBounds : 0 ≤ four ∧ four ≤ 24 := by omega
      rcases eq_or_ne four 24 with lastFour | inner
      · have lastCentury : century = 3 := by omega
        omega
      · have mod100 : year % 100 = four * 4 + 4 := by omega
        omega
  · have before : daysBeforeYear year =
        (year - 1) * 365 + (year - 1) / 4 - (year - 1) / 100 + (year - 1) / 400 := rfl
    have fours : (year - 1) / 4 = span * 100 + century * 25 + four := by omega
    have hundreds : (year - 1) / 100 = span * 4 + century := by omega
    have spans : (year - 1) / 400 = span := by omega
    rw [before, fours, hundreds, spans, Int.toNat_of_nonneg positive]
    omega

/-! ## Months -/

/-- A search downwards from a number to two, where one is known to fit, ends at the last number that
fits. -/
theorem find?_downwards (fits : Nat → Bool) (one : fits 1 = true) (k : Nat) :
    ∃ m, (((List.range' 2 k).reverse.find? fits).getD 1) = m ∧ (1 ≤ m ∧ m ≤ k + 1) ∧
      fits m = true ∧ (m ≤ k → fits (m + 1) = false) := by
  induction k with
  | zero => exact ⟨1, rfl, by omega, one, by omega⟩
  | succ k ih =>
    have front : (List.range' 2 (k + 1)).reverse = (k + 2) :: (List.range' 2 k).reverse := by
      rw [List.range'_concat, List.reverse_concat]
      congr 1
      omega
    rw [front]
    cases last : fits (k + 2) with
    | true => exact ⟨k + 2, by simp [last], by omega, last, by omega⟩
    | false =>
      obtain ⟨m, found, bounds, fit, next⟩ := ih
      refine ⟨m, by simpa [last] using found, by omega, fit, fun within => ?_⟩
      rcases Nat.lt_or_eq_of_le bounds.2 with less | same
      · exact next (by omega)
      · rw [same]
        exact last

/-- A day of a year is a day of one of its months. -/
theorem monthAndDay_real {year : Int} {day : Nat} (inYear : day < daysInYear year) :
    ∃ month dayOfMonth, monthAndDay year day = (month, dayOfMonth) ∧ (1 ≤ month ∧ month ≤ 12) ∧
      (1 ≤ dayOfMonth ∧ dayOfMonth ≤ daysInMonth year month) ∧
      daysBeforeMonth year month + dayOfMonth = day + 1 := by
  have january : daysBeforeMonth year 1 = 0 := rfl
  obtain ⟨month, found, bounds, begun, next⟩ :=
    find?_downwards (fun m => decide (daysBeforeMonth year m ≤ day)) (by simp [january]) 11
  have begun : daysBeforeMonth year month ≤ day := of_decide_eq_true begun
  have inMonth : day < daysBeforeMonth year month + daysInMonth year month := by
    rcases Nat.lt_or_eq_of_le bounds.2 with before | december
    · have later := of_decide_eq_false (next (by omega))
      rw [daysBeforeMonth_succ year bounds.1 before] at later
      omega
    · have december : month = 12 := december
      have whole := daysBeforeMonth_december year
      rw [← december] at whole
      omega
  refine ⟨month, day - daysBeforeMonth year month + 1, ?_, bounds, by omega, by omega⟩
  rw [← found]
  rfl

/-! ## Dates -/

/-- The date of a day number whose year is one of 1 to 9999. -/
theorem Date.exists_ofNumber {n : Int} (first : 1 ≤ (dateOfNumber n).1)
    (last : (dateOfNumber n).1 ≤ 9999) :
    ∃ d : Date, dateOfNumber n = ((d.year : Int), d.month, d.day) ∧ d.number = n := by
  obtain ⟨year, day, parts, inYear, number⟩ := dateOfNumber_eq n
  obtain ⟨month, dayOfMonth, monthParts, months, days, inMonth⟩ := monthAndDay_real inYear
  rw [parts, monthParts] at first last ⊢
  obtain ⟨y, rfl⟩ := Int.eq_ofNat_of_zero_le (by omega : 0 ≤ year)
  have real : isRealDate y month dayOfMonth = true :=
    isRealDate_iff.2 ⟨by omega, months, days⟩
  refine ⟨⟨y, month, dayOfMonth, real⟩, rfl, ?_⟩
  show dayNumber y month dayOfMonth = n
  unfold dayNumber
  omega

/-! ## Moments -/

theorem Clock.sinceMidnight_ofMicros (n : Nat) : (Clock.ofMicros n).sinceMidnight = n := by
  simp only [Clock.ofMicros, Clock.sinceMidnight, secondLength]
  omega

theorem Clock.ofMicros_real {n : Nat} (inDay : n < 86400000000) :
    (Clock.ofMicros n).isReal = true ∧ (Clock.ofMicros n).micros < 1000000 := by
  have hour : n / 1000000 / 3600 < 24 := by omega
  have minute : n / 1000000 / 60 % 60 < 60 := by omega
  have second : n / 1000000 % 60 < 60 := by omega
  have micros : n % 1000000 < 1000000 := by omega
  simp [Clock.ofMicros, Clock.isReal, hour, minute, second, micros]

namespace Moment

/-- An instant is what the moment's own clock shows, less how far that clock is ahead. -/
theorem instantOf_clock (m : Moment) : instantOf m.localDay m.clock m.offset = m.instant := by
  have length : dayLength = 86400000000 := rfl
  rw [instantOf, localDay, clock, shownTime, Clock.sinceMidnight_ofMicros, length]
  omega

/-- The written form of an instant on the universal clock names its day and its time of day, and
these name the instant. -/
theorem iso_universal {instant : Int} (first : 1 ≤ yearOf instant) (last : yearOf instant ≤ 9999) :
    ∃ (d : Date) (c : Clock), (c.isReal = true ∧ c.micros < 1000000) ∧
      instantOf d.number c 0 = instant ∧
      ({ instant } : Moment).iso = d.iso ++ 'T' :: (c.iso ++ "+00:00".toList) := by
  obtain ⟨d, parts, number⟩ := Date.exists_ofNumber first last
  have length : dayLength = 86400000000 := rfl
  have inDay : (instant % dayLength).toNat < 86400000000 := by
    rw [length]
    omega
  refine ⟨d, .ofMicros (instant % dayLength).toNat, Clock.ofMicros_real inDay, ?_, ?_⟩
  · rw [instantOf, number, Clock.sinceMidnight_ofMicros, length]
    omega
  · have offset : isoOffset 0 = "+00:00".toList := by decide
    have shown : ({ instant } : Moment).shownTime = instant := Int.add_zero instant
    rw [iso, offset, isoDate, localDay, clock, shown, parts]
    simp only [Date.iso, ofInt, List.append_assoc, List.cons_append]

end Moment

end ParcelStatus
