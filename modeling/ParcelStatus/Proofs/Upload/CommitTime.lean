import ParcelStatus.Proofs.Upload.DateText
import ParcelStatus.Proofs.Upload.Shipments

/-!
# Times of cells

The time of a shipment is read by its form alone. Two rows of digits, or three, with colons between
them are kept, whether a day has that hour and minute or not; a cell of another form counts as
midnight. So a time is real unless the cell has the form of a time and names none of a day.

* `TimeOfDay`, `NamesTimeOfDay`, `HasClockForm` — real times, the texts that name one, and the texts
  that look like one;
* `readCommitTime_of_clockForm`, `readCommitTime_of_short`, `readCommitTime_of_other` — what is made
  of the content of a cell;
* `TellsTime`, `tellsTime_timeOf_iff` — a cell comes to a real time unless it only looks like one;
* `shipmentRows_readsTime` — the times of a sheet, cell by cell;
* `impossible_time_kept` — an hour that no day has is kept.
-/

namespace ParcelStatus.Upload

open Text

/-! ## Real times -/

/-- Hour, minute and second of a day, each in two digits of ASCII, with colons between them. -/
def TimeOfDay (t : Text) : Prop :=
  ∃ hs ms ss h m s, t = hs ++ ':' :: (ms ++ ':' :: ss) ∧
    (WritesNumber [2] hs h ∧ h < 24) ∧ (WritesNumber [2] ms m ∧ m < 60) ∧
    (WritesNumber [2] ss s ∧ s < 60) ∧ ∀ c ∈ hs ++ ms ++ ss, c.isDigit = true

/-- The text is a real time, with its seconds or without them. -/
def NamesTimeOfDay (t : Text) : Prop := TimeOfDay t ∨ TimeOfDay (t ++ ":00".toList)

/-- Digits with colons between them, with seconds or without them. -/
def HasClockForm (t : Text) : Prop := ClockForm t ∨ ClockForm (t ++ ":00".toList)

theorem timeOfDay_iso {c : Clock} (real : c.isReal = true) (whole : c.micros = 0) :
    TimeOfDay c.iso := by
  simp only [Clock.isReal, Bool.and_eq_true, decide_eq_true_eq] at real
  obtain ⟨⟨hour, minute⟩, second⟩ := real
  have pair {n : Nat} (small : n < 100) : WritesNumber [2] (padZeros 2 (ofNat n)) n :=
    writesNumber_padZeros (by decide) small
  refine ⟨_, _, _, c.hour, c.minute, c.second, ?_, ⟨pair (by omega), hour⟩,
    ⟨pair (by omega), minute⟩, ⟨pair (by omega), second⟩, ?_⟩
  · simp [Clock.iso, whole]
  · simp only [List.mem_append, or_assoc]
    rintro ch (inHour | inMinute | inSecond)
    · exact isDigit_of_mem_padZeros_ofNat inHour
    · exact isDigit_of_mem_padZeros_ofNat inMinute
    · exact isDigit_of_mem_padZeros_ofNat inSecond

theorem timeOfDay_midnight : TimeOfDay midnight := timeOfDay_iso (c := {}) rfl rfl

theorem TimeOfDay.clockForm {t : Text} (time : TimeOfDay t) : ClockForm t := by
  obtain ⟨hs, ms, ss, h, m, s, rfl, ⟨⟨two, hours⟩, -⟩, ⟨⟨two', minutes⟩, -⟩, ⟨⟨two'', seconds⟩, -⟩,
    -⟩ := time
  simp only [List.mem_singleton] at two two' two''
  obtain ⟨h₁, h₂, rfl⟩ := List.length_eq_two.1 two
  obtain ⟨m₁, m₂, rfl⟩ := List.length_eq_two.1 two'
  obtain ⟨s₁, s₂, rfl⟩ := List.length_eq_two.1 two''
  refine ⟨h₁, h₂, m₁, m₂, s₁, s₂, rfl, ?_⟩
  have digits := List.forall_mem_append.2 ⟨isDecimal_of_digitsValue? hours,
    List.forall_mem_append.2 ⟨isDecimal_of_digitsValue? minutes, isDecimal_of_digitsValue? seconds⟩⟩
  exact digits

/-! ## The content of a cell -/

section Content

variable {t : Text}

theorem length_of_clockForm (form : ClockForm t) : t.length = 8 := by
  obtain ⟨_, _, _, _, _, _, rfl, -⟩ := form
  rfl

theorem readCommitTime_of_clockForm (form : ClockForm t) : readCommitTime t = t := by
  have long := length_of_clockForm form
  obtain ⟨_, _, _, _, _, _, rfl, digits⟩ := form
  simp only [List.forall_mem_cons] at digits
  simp [readCommitTime, isClockShape, clockPair?, digits]

theorem readCommitTime_of_short (form : ClockForm (t ++ ":00".toList)) :
    readCommitTime t = t ++ ":00".toList := by
  obtain ⟨a, b, c, d, e, f, whole, digits⟩ := form
  obtain ⟨rfl, -⟩ : t = [a, b, ':', c, d] ∧ ":00".toList = [':', e, f] :=
    List.append_inj' whole rfl
  simp only [List.forall_mem_cons] at digits
  simp [readCommitTime, isClockShape, clockPair?, digits]

theorem readCommitTime_of_other (trimmed : Trimmed t) (other : ¬HasClockForm t) :
    readCommitTime t = midnight := by
  have shape : isClockShape t = false := by
    rw [← Bool.not_eq_true]
    intro shape
    exact other ((forms_of_isClockShape trimmed.getLast?_ne_lineFeed shape).imp_right And.right)
  simp [readCommitTime, shape]

/-- What looks like a time comes to a real time when it names one. -/
theorem timeOfDay_readCommitTime_iff (form : HasClockForm t) :
    TimeOfDay (readCommitTime t) ↔ NamesTimeOfDay t := by
  rcases form with long | short
  · rw [readCommitTime_of_clockForm long]
    refine ⟨.inl, fun names => names.elim id fun completed => ?_⟩
    -- It has seconds already, so with more of them it is too long.
    have tooLong := length_of_clockForm completed.clockForm
    have length := length_of_clockForm long
    simp [length] at tooLong
  · rw [readCommitTime_of_short short]
    refine ⟨.inr, fun names => names.elim (fun whole => ?_) id⟩
    have length := length_of_clockForm whole.clockForm
    have tooLong := length_of_clockForm short
    simp [length] at tooLong

end Content

/-! ## Cells -/

/-- The time is real, and midnight where the content of a cell names none. -/
structure TellsTime (content : Option Text) (time : Text) : Prop where
  real : TimeOfDay time
  unnamed : (∀ t, content = some t → ¬NamesTimeOfDay t) → time = midnight

/-- The time that a shipment is given for the content of a cell. -/
def timeOf (content : Option Text) : Text := (content.map readCommitTime).getD midnight

/-- The content of a cell comes to a real time unless it has the form of a time and is none. -/
theorem tellsTime_timeOf_iff {content : Option Text} (trimmed : TrimmedIfAny content) :
    TellsTime content (timeOf content) ↔
      ∀ t, content = some t → HasClockForm t → NamesTimeOfDay t := by
  constructor
  · rintro tells t rfl form
    exact (timeOfDay_readCommitTime_iff form).1 tells.real
  · intro sound
    cases content with
    | none => exact ⟨timeOfDay_midnight, fun _ => rfl⟩
    | some t =>
      by_cases form : HasClockForm t
      · have names := sound t rfl form
        exact ⟨(timeOfDay_readCommitTime_iff form).2 names,
          fun unnamed => absurd names (unnamed t rfl)⟩
      · have midnight' : timeOf (some t) = midnight :=
          readCommitTime_of_other (trimmed t rfl) form
        exact ⟨midnight' ▸ timeOfDay_midnight, fun _ => midnight'⟩

/-! ## Sheets -/

/-- What the time of a shipment is, for the content of its cell. -/
structure ReadsTime (content : Option Text) (time : Text) : Prop where
  tells : TellsTime content time ↔ ∀ t, content = some t → HasClockForm t → NamesTimeOfDay t
  kept : ∀ t, content = some t → ClockForm t → time = t
  completed : ∀ t, content = some t → ClockForm (t ++ ":00".toList) → time = t ++ ":00".toList
  other : (∀ t, content = some t → ¬HasClockForm t) → time = midnight

theorem readsTime_timeOf {content : Option Text} (trimmed : TrimmedIfAny content) :
    ReadsTime content (timeOf content) where
  tells := tellsTime_timeOf_iff trimmed
  kept := by
    rintro t rfl form
    exact readCommitTime_of_clockForm form
  completed := by
    rintro t rfl form
    exact readCommitTime_of_short form
  other none_ := by
    cases content with
    | none => rfl
    | some t => exact readCommitTime_of_other (trimmed t rfl) (none_ t rfl)

theorem commitTime_eq_timeOf (columns : FieldColumns) (today : Date) (r : Row) :
    (ShipmentRow.ofRow columns today r).commitTime = timeOf (contentAt r columns.time) := rfl

/-- The rows of a sheet with anything but blanks, from the place of the data on. -/
def shippedRows (s : Sheet) (layout : Layout) (header : Int) : List Row :=
  dataRows (rowsFrom s (header + layout.dataStart))

/-- Each shipment has a real time unless its cell has the form of a time and names none of a day;
what has the form is kept, with its seconds completed. -/
theorem shipmentRows_readsTime (s : Sheet) (layout : Layout) (today : Date) (header : Int) :
    List.Forall₂ (fun r row => row = .ofRow layout.columns today r ∧
        ReadsTime (contentAt r layout.columns.time) row.commitTime)
      (shippedRows s layout header) (shipmentRows s layout today header) := by
  have rows : shipmentRows s layout today header =
      (shippedRows s layout header).map (.ofRow layout.columns today) := rfl
  rw [rows, List.forall₂_map_right_iff, List.forall₂_same]
  intro r _
  rw [commitTime_eq_timeOf]
  exact ⟨rfl, readsTime_timeOf (trimmedIfAny_contentAt r layout.columns.time)⟩

/-- A shipment due in the sixty-first minute of the hour behind the last of the day. -/
def lateRow : Row := [some "794600000001".toList, none, none, none, none, some "25:61".toList]

theorem not_timeOfDay_late : ¬TimeOfDay "25:61:00".toList := by
  rintro ⟨hs, ms, ss, h, m, s, whole, ⟨⟨two, hours⟩, inDay⟩, -⟩
  obtain ⟨a, b, rfl⟩ := List.length_eq_two.1 (List.mem_singleton.1 two)
  have front : ['2', '5'] = [a, b] := congrArg (List.take 2) whole
  have written : digitsValue? ['2', '5'] = some 25 := by decide
  rw [← front, written] at hours
  cases hours
  omega

/-- A time that no day has is kept, so not every time of a sheet is real. -/
theorem impossible_time_kept :
    (ShipmentRow.ofRow Layout.yaqui2.columns leapDay lateRow).commitTime = "25:61:00".toList ∧
      ¬∀ (s : Sheet) (layout : Layout) (today : Date) (header : Int),
        List.Forall₂ (fun r row => TellsTime (contentAt r layout.columns.time) row.commitTime)
          (shippedRows s layout header) (shipmentRows s layout today header) := by
  have late : (ShipmentRow.ofRow Layout.yaqui2.columns leapDay lateRow).commitTime =
      "25:61:00".toList := by decide +kernel
  refine ⟨late, fun all => not_timeOfDay_late ?_⟩
  have told := all [[some "Guia".toList], lateRow] .yaqui2 leapDay 0
  have shipped : shippedRows [[some "Guia".toList], lateRow] .yaqui2 0 = [lateRow] := by
    decide +kernel
  have rows : shipmentRows [[some "Guia".toList], lateRow] .yaqui2 leapDay 0 =
      [.ofRow Layout.yaqui2.columns leapDay lateRow] := by decide +kernel
  rw [shipped, rows, List.forall₂_cons, late] at told
  exact told.1.real

end ParcelStatus.Upload
