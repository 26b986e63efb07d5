import ParcelStatus.Tracking.Event
import ParcelStatus.Proofs.Outcome

/-!
# Values that can be dates

A value is read as a date unless it names an instant whose year is not one of 1 to 9999.

* `Datable` — the value names such an instant, or none at all;
* `readDate_returns_iff` — the values that are read;
* `readDate_eq_error_iff` — the fault of the others;
* `readDate_eq_ok_iff` — what is read: the instant that is named, or the start of 1970;
* `Moment.IsRead` — a date on the universal clock that can be written;
* `RestsOn` — work that succeeds when some values can be dates, and has no other way to fail.
-/

namespace ParcelStatus

open Outcome

/-- The year has four digits and is not zero. -/
def IsWritableYear (year : Int) : Prop := 1 ≤ year ∧ year ≤ 9999

instance (year : Int) : Decidable (IsWritableYear year) :=
  inferInstanceAs (Decidable (1 ≤ year ∧ year ≤ 9999))

/-- The value names no instant, or one of the years 1 to 9999. -/
def Datable [Present] (v : Json) : Prop :=
  ∀ instant, instantOfJson? v = some instant → IsWritableYear (Moment.yearOf instant)

namespace Moment

theorem universal_of_writable {instant : Int} (h : IsWritableYear (yearOf instant)) :
    universal instant = .ok { instant } :=
  if_pos h

theorem universal_of_not_writable {instant : Int} (h : ¬IsWritableYear (yearOf instant)) :
    universal instant = .error (.yearOutOfRange (yearOf instant)) :=
  if_neg h

end Moment

theorem readDate_of_some [Present] {v : Json} {instant : Int}
    (h : instantOfJson? v = some instant) : readDate v = Moment.universal instant := by
  rw [readDate, h]

theorem readDate_of_none [Present] {v : Json} (h : instantOfJson? v = none) :
    readDate v = .ok .epoch := by
  rw [readDate, h]

theorem readDate_eq_error_iff [Present] {v : Json} {fault : DateFault} :
    readDate v = .error fault ↔
      ∃ instant, instantOfJson? v = some instant ∧ ¬IsWritableYear (Moment.yearOf instant) ∧
        fault = .yearOutOfRange (Moment.yearOf instant) := by
  cases named : instantOfJson? v with
  | none => simp [readDate_of_none named]
  | some instant =>
    rw [readDate_of_some named]
    by_cases year : IsWritableYear (Moment.yearOf instant)
    · simp [Moment.universal_of_writable year, year]
    · simp [Moment.universal_of_not_writable year, year, eq_comm]

theorem readDate_eq_ok_iff [Present] {v : Json} {m : Moment} :
    readDate v = .ok m ↔
      (∃ instant, instantOfJson? v = some instant ∧ IsWritableYear (Moment.yearOf instant) ∧
        m = { instant }) ∨ instantOfJson? v = none ∧ m = .epoch := by
  cases named : instantOfJson? v with
  | none => simp [readDate_of_none named, eq_comm]
  | some instant =>
    rw [readDate_of_some named]
    by_cases year : IsWritableYear (Moment.yearOf instant)
    · simp [Moment.universal_of_writable year, year, eq_comm]
    · simp [Moment.universal_of_not_writable year, year]

/-- A date as it is read: on the universal clock, in a year that can be written. -/
structure Moment.IsRead (m : Moment) : Prop where
  year : IsWritableYear (yearOf m.instant)
  offset : m.offset = 0
  zoneless : m.zone = none

theorem isRead_of_readDate [Present] {v : Json} {m : Moment} (read : readDate v = .ok m) :
    m.IsRead := by
  rcases readDate_eq_ok_iff.1 read with ⟨instant, -, year, rfl⟩ | ⟨-, rfl⟩
  · exact ⟨year, rfl, rfl⟩
  · -- What is no date counts as the start of 1970.
    exact ⟨by decide, rfl, rfl⟩

theorem readDate_returns_iff [Present] {v : Json} : (∃ m, readDate v = .ok m) ↔ Datable v := by
  constructor
  · rintro ⟨m, read⟩ instant named
    by_contra year
    rw [readDate_eq_error_iff.2 ⟨instant, named, year, rfl⟩] at read
    cases read
  · intro datable
    cases read : readDate v with
    | ok m => exact ⟨m, rfl⟩
    | error fault =>
      obtain ⟨instant, named, year, -⟩ := readDate_eq_error_iff.1 read
      exact absurd (datable instant named) year

/-- A fault of a date tells that its value is not datable. -/
theorem not_datable_of_fault [Present] {v : Json} {fault : DateFault}
    (h : readDate v = .error fault) : ¬Datable v := by
  obtain ⟨instant, named, year, -⟩ := readDate_eq_error_iff.1 h
  exact fun datable => year (datable instant named)

/-! ## Work that rests on dates -/

variable {α β : Type}

/-- The work rests on these values: all of them can be dates when it succeeds, and the fault that
it fails with is that of one of them. -/
structure RestsOn [Present] (work : Except DateFault α) (values : List Json) : Prop where
  /-- Success tells that all values can be dates. -/
  datable : ∀ x, work = .ok x → ∀ v ∈ values, Datable v
  fault : ∀ fault, work = .error fault → ∃ v ∈ values, readDate v = .error fault

theorem RestsOn.returns_iff [Present] {work : Except DateFault α} {values : List Json}
    (h : RestsOn work values) : (∃ x, work = .ok x) ↔ ∀ v ∈ values, Datable v := by
  constructor
  · rintro ⟨x, returns⟩
    exact h.datable x returns
  · intro datable
    cases done : work with
    | ok x => exact ⟨x, rfl⟩
    | error fault =>
      obtain ⟨v, member, fails⟩ := h.fault fault done
      exact absurd (datable v member) (not_datable_of_fault fails)

theorem restsOn_ok [Present] (x : α) : RestsOn (.ok x) [] where
  datable := by simp
  fault := by simp

theorem restsOn_readDate [Present] (v : Json) : RestsOn (readDate v) [v] where
  datable m read := by simpa using readDate_returns_iff.1 ⟨m, read⟩
  fault fault fails := ⟨v, List.mem_singleton_self v, fails⟩

theorem RestsOn.map [Present] {work : Except DateFault α} {values : List Json}
    (h : RestsOn work values) (f : α → β) : RestsOn (work.map f) values := by
  cases work with
  | ok x => exact ⟨fun _ _ => h.datable x rfl, by simp⟩
  | error e => exact ⟨by simp, fun fault fails => h.fault fault (by simpa using fails)⟩

theorem RestsOn.bind [Present] {work : Except DateFault α} {f : α → Except DateFault β}
    {values later : List Json} (h : RestsOn work values)
    (next : ∀ x, work = .ok x → RestsOn (f x) later) : RestsOn (work >>= f) (values ++ later) := by
  cases work with
  | error e =>
    refine ⟨by simp, fun fault fails => ?_⟩
    rw [error_bind] at fails
    cases fails
    obtain ⟨v, member, bad⟩ := h.fault e rfl
    exact ⟨v, List.mem_append_left later member, bad⟩
  | ok x =>
    refine ⟨fun y returns v member => ?_, fun fault fails => ?_⟩
    · rcases List.mem_append.1 member with member | member
      · exact h.datable x rfl v member
      · exact (next x rfl).datable y returns v member
    · obtain ⟨v, member, bad⟩ := (next x rfl).fault fault fails
      exact ⟨v, List.mem_append_right values member, bad⟩

theorem RestsOn.bind_ok [Present] {work : Except DateFault α} {f : α → Except DateFault β}
    {values : List Json} (h : RestsOn work values) (next : ∀ x, ∃ y, f x = .ok y) :
    RestsOn (work >>= f) values := by
  rw [← List.append_nil values]
  refine h.bind fun x _ => ?_
  obtain ⟨y, done⟩ := next x
  rw [done]
  exact restsOn_ok y

/-- Only which values there are counts. -/
theorem RestsOn.congr [Present] {work : Except DateFault α} {values others : List Json}
    (h : RestsOn work values) (same : ∀ v, v ∈ values ↔ v ∈ others) : RestsOn work others where
  datable x returns v member := h.datable x returns v ((same v).2 member)
  fault fault fails := by
    obtain ⟨v, member, bad⟩ := h.fault fault fails
    exact ⟨v, (same v).1 member, bad⟩

theorem restsOn_mapM [Present] {f : α → Except DateFault β} {values : α → List Json}
    (each : ∀ x, RestsOn (f x) (values x)) (xs : List α) :
    RestsOn (xs.mapM f) (xs.flatMap values) := by
  induction xs with
  | nil => exact restsOn_ok []
  | cons x xs ih =>
    rw [List.mapM_cons, List.flatMap_cons]
    exact (each x).bind fun y _ => ih.bind_ok fun ys => ⟨y :: ys, rfl⟩

end ParcelStatus
