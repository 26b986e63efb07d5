import ParcelStatus.Calendar.Date
import Mathlib.Order.Monotone.Basic
import Mathlib.Data.Nat.Basic
import Mathlib.Tactic.IntervalCases

/-!
# The order of days

Dates are ordered by year, month and day, and each day but the last of all has a next one. The
numbers of days follow both: the earlier date has the smaller number, and the next date has the
next number. So the days from one date to another can be counted on their numbers.

* `Date.Before` — one date stands before another in the calendar;
* `Date.next?`, `Date.later?` — the next day, and the day some days later;
* `Date.number_lt_iff`, `Date.number_inj` — numbers tell dates and their order;
* `Date.later?_eq_some_iff` — so many days later is a number greater by so much.
-/

namespace ParcelStatus

/-! ## Months and years -/

theorem isRealDate_iff {year month day : Nat} :
    isRealDate year month day = true ↔
      (1 ≤ year ∧ year ≤ 9999) ∧ (1 ≤ month ∧ month ≤ 12) ∧
        1 ≤ day ∧ day ≤ daysInMonth year month := by
  simp only [isRealDate, Bool.and_eq_true, decide_eq_true_eq, and_assoc]

def daysInYear (year : Int) : Nat := if isLeapYear year then 366 else 365

theorem daysInMonth_bounds (year : Int) (month : Nat) :
    28 ≤ daysInMonth year month ∧ daysInMonth year month ≤ 31 := by
  unfold daysInMonth
  split
  · cases isLeapYear year <;> decide
  all_goals decide

theorem daysBeforeMonth_succ (year : Int) {month : Nat} (first : 1 ≤ month) (last : month < 12) :
    daysBeforeMonth year (month + 1) = daysBeforeMonth year month + daysInMonth year month := by
  unfold daysBeforeMonth daysInMonth
  cases isLeapYear year <;> interval_cases month <;> rfl

theorem daysBeforeMonth_december (year : Int) :
    daysBeforeMonth year 12 + daysInMonth year 12 = daysInYear year := by
  unfold daysBeforeMonth daysInMonth daysInYear
  cases isLeapYear year <;> rfl

theorem daysBeforeMonth_mono (year : Int) {m n : Nat} (first : 1 ≤ m) (ordered : m ≤ n)
    (last : n ≤ 12) : daysBeforeMonth year m ≤ daysBeforeMonth year n := by
  induction n, ordered using Nat.le_induction with
  | base => exact le_rfl
  | succ n between ih =>
    rw [daysBeforeMonth_succ year (by omega) (by omega)]
    exact (ih (by omega)).trans (Nat.le_add_right _ _)

theorem daysBeforeYear_succ (year : Int) :
    daysBeforeYear (year + 1) = daysBeforeYear year + daysInYear year := by
  have before (y : Int) :
      daysBeforeYear y = (y - 1) * 365 + (y - 1) / 4 - (y - 1) / 100 + (y - 1) / 400 := rfl
  rw [before, before]
  by_cases leap : isLeapYear year = true
  · simp only [daysInYear, if_pos leap]
    simp only [isLeapYear, Bool.and_eq_true, Bool.or_eq_true, decide_eq_true_eq, ne_eq] at leap
    omega
  · simp only [daysInYear, if_neg leap]
    simp only [isLeapYear, Bool.and_eq_true, Bool.or_eq_true, decide_eq_true_eq, ne_eq] at leap
    omega

theorem daysBeforeYear_mono {year later : Int} (ordered : year ≤ later) :
    daysBeforeYear year ≤ daysBeforeYear later := by
  have step (y : Int) : daysBeforeYear y ≤ daysBeforeYear (y + 1) := by
    rw [daysBeforeYear_succ]
    omega
  exact monotone_int_of_le_succ step ordered

namespace Date

/-! ## Dates of numbers -/

variable {d e : Date}

theorem of?_eq_some_iff {year month day : Nat} :
    of? year month day = some d ↔ d.year = year ∧ d.month = month ∧ d.day = day := by
  unfold of?
  constructor
  · intro found
    split at found
    · cases found
      exact ⟨rfl, rfl, rfl⟩
    · simp at found
  · rintro ⟨rfl, rfl, rfl⟩
    rw [dif_pos d.real]

theorem of?_eq_none_iff {year month day : Nat} :
    of? year month day = none ↔ ¬isRealDate year month day = true := by
  simp [of?]

theorem real_iff (d : Date) :
    (1 ≤ d.year ∧ d.year ≤ 9999) ∧ (1 ≤ d.month ∧ d.month ≤ 12) ∧
      1 ≤ d.day ∧ d.day ≤ daysInMonth d.year d.month :=
  isRealDate_iff.1 d.real

/-- The first date stands before the second in the calendar. -/
def Before (d e : Date) : Prop :=
  d.year < e.year ∨ d.year = e.year ∧ (d.month < e.month ∨ d.month = e.month ∧ d.day < e.day)

theorem before_or_eq_or_before (d e : Date) : d.Before e ∨ d = e ∨ e.Before d := by
  rcases d with ⟨year, month, day, real⟩
  rcases e with ⟨year', month', day', real'⟩
  simp only [Before, Date.mk.injEq]
  omega

/-- A day of a month stands within its year. -/
theorem day_in_year (d : Date) :
    daysBeforeMonth d.year d.month + d.day ≤ daysInYear d.year := by
  obtain ⟨-, ⟨first, last⟩, -, inMonth⟩ := d.real_iff
  have december := daysBeforeMonth_december d.year
  rcases last.lt_or_eq with before | december'
  · have next := daysBeforeMonth_succ d.year first before
    have rest := daysBeforeMonth_mono d.year (by omega : 1 ≤ d.month + 1) before (le_refl 12)
    omega
  · rw [december'] at inMonth ⊢
    omega

theorem number_lt_of_before (earlier : d.Before e) : d.number < e.number := by
  obtain ⟨-, ⟨first, -⟩, -, inMonth⟩ := d.real_iff
  obtain ⟨-, ⟨-, last⟩, positive, -⟩ := e.real_iff
  unfold number dayNumber
  rcases earlier with years | ⟨sameYear, months | ⟨sameMonth, days⟩⟩
  · have inYear := d.day_in_year
    have next := daysBeforeYear_succ d.year
    have rest := daysBeforeYear_mono (by omega : (d.year : Int) + 1 ≤ e.year)
    omega
  · rw [← sameYear]
    have next := daysBeforeMonth_succ d.year first (by omega)
    have rest := daysBeforeMonth_mono d.year (by omega : 1 ≤ d.month + 1) months last
    omega
  · rw [← sameYear, ← sameMonth]
    omega

theorem number_lt_iff : d.number < e.number ↔ d.Before e := by
  refine ⟨fun less => ?_, number_lt_of_before⟩
  rcases before_or_eq_or_before d e with earlier | same | later
  · exact earlier
  · rw [same] at less
    exact absurd less (lt_irrefl _)
  · exact absurd (number_lt_of_before later) (by omega)

theorem number_inj : d.number = e.number ↔ d = e := by
  refine ⟨fun same => ?_, fun same => by rw [same]⟩
  rcases before_or_eq_or_before d e with earlier | same' | later
  · exact absurd (number_lt_of_before earlier) (by omega)
  · exact same'
  · exact absurd (number_lt_of_before later) (by omega)

/-! ## Counting days -/

/-- The next day: in the month of the date, or the first of the next month, or of the next year. -/
def next? (d : Date) : Option Date :=
  (of? d.year d.month (d.day + 1)).or
    ((of? d.year (d.month + 1) 1).or (of? (d.year + 1) 1 1))

/-- The day so many days later, each the next one of the last. -/
def later? : Nat → Date → Option Date
  | 0, d => some d
  | k + 1, d => d.next?.bind (later? k)

theorem not_next_in_month (last : of? d.year d.month (d.day + 1) = none) :
    d.day = daysInMonth d.year d.month := by
  obtain ⟨years, months, -, inMonth⟩ := d.real_iff
  rw [of?_eq_none_iff, isRealDate_iff] at last
  by_contra other
  exact last ⟨years, months, by omega, by omega⟩

theorem not_next_in_year (last : of? d.year (d.month + 1) 1 = none) : d.month = 12 := by
  obtain ⟨years, ⟨first, within⟩, -⟩ := d.real_iff
  rw [of?_eq_none_iff, isRealDate_iff] at last
  by_contra other
  have days := daysInMonth_bounds d.year (d.month + 1)
  exact last ⟨years, by omega, le_rfl, by omega⟩

theorem number_of_next? (next : d.next? = some e) : e.number = d.number + 1 := by
  obtain ⟨-, ⟨first, last⟩, -, -⟩ := d.real_iff
  unfold number dayNumber
  rw [next?, Option.or_eq_some_iff, Option.or_eq_some_iff] at next
  rcases next with inMonth | ⟨lastDay, inYear | ⟨lastMonth, nextYear⟩⟩
  · obtain ⟨year, month, day⟩ := of?_eq_some_iff.1 inMonth
    rw [year, month, day]
    omega
  · obtain ⟨year, month, day⟩ := of?_eq_some_iff.1 inYear
    have real := (isRealDate_iff.1 e.real).2.1.2
    have days := daysBeforeMonth_succ d.year first (by omega)
    have full := not_next_in_month lastDay
    rw [year, month, day]
    omega
  · obtain ⟨year, month, day⟩ := of?_eq_some_iff.1 nextYear
    have december := daysBeforeMonth_december d.year
    have days := daysBeforeYear_succ d.year
    have full := not_next_in_month lastDay
    have month' := not_next_in_year lastMonth
    have january : daysBeforeMonth (d.year + 1) 1 = 0 := rfl
    rw [month'] at full ⊢
    rw [year, month, day]
    push_cast
    omega

/-- The one date without a next day is the last of all. -/
theorem number_le_of_next?_eq_none (last : d.next? = none) (e : Date) : e.number ≤ d.number := by
  rw [next?, Option.or_eq_none_iff, Option.or_eq_none_iff] at last
  obtain ⟨lastDay, lastMonth, nextYear⟩ := last
  have day := not_next_in_month lastDay
  have month := not_next_in_year lastMonth
  have year : 9999 ≤ d.year := by
    rw [of?_eq_none_iff, isRealDate_iff] at nextYear
    by_contra other
    have days := daysInMonth_bounds (d.year + 1 : Nat) 1
    exact nextYear ⟨by omega, by omega, le_rfl, by omega⟩
  obtain ⟨⟨-, years⟩, ⟨-, months⟩, -, days⟩ := e.real_iff
  by_contra more
  rcases number_lt_iff.1 (not_le.1 more) with later | ⟨sameYear, later | ⟨sameMonth, later⟩⟩
  · omega
  · omega
  · rw [← sameYear, ← sameMonth] at days
    omega

/-- So many days later is the date whose number is greater by so much. -/
theorem later?_eq_some_iff {k : Nat} : later? k d = some e ↔ e.number = d.number + k := by
  induction k generalizing d with
  | zero => simp [later?, number_inj, eq_comm]
  | succ k ih =>
    rw [later?]
    cases next : d.next? with
    | none =>
      have last := number_le_of_next?_eq_none next e
      simp only [Option.bind_none, reduceCtorEq, false_iff]
      omega
    | some d' =>
      have step := number_of_next? next
      rw [Option.bind_some, ih]
      omega

example : ((⟨2024, 2, 28, by decide⟩ : Date).later? 2).map Date.iso = some "2024-03-01".toList := by
  decide

end Date

end ParcelStatus
