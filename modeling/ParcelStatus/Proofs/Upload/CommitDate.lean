import ParcelStatus.Proofs.Text.Digits
import ParcelStatus.Proofs.Calendar.Days
import ParcelStatus.Upload.Shipment
import Mathlib.Data.List.Basic
import Mathlib.Data.List.TakeWhile

/-!
# Dates of cells

A cell names a date in one of two forms: month, day and year with slashes between them and nothing
else, or year, month and day with hyphens between them and anything behind them.

* `SlashForm`, `HyphenForm`, `NamesDate` — the two forms;
* `readCommitDate?_eq_some_iff` — the reader finds the dates that the forms name;
* `isoForm_iso` — the written form of a date has ten characters, its digits and two hyphens.
-/

namespace ParcelStatus.Upload

open Text

/-! ## The two forms -/

/-- A number in one of these counts of decimal digits. -/
def WritesNumber (counts : List Nat) (t : Text) (n : Nat) : Prop :=
  t.length ∈ counts ∧ digitsValue? t = some n

/-- Month, day and year with slashes between them, the month and the day in one digit or two. -/
def SlashForm (t : Text) (year month day : Nat) : Prop :=
  ∃ ms ds ys, t = ms ++ '/' :: (ds ++ '/' :: ys) ∧
    WritesNumber [1, 2] ms month ∧ WritesNumber [1, 2] ds day ∧ WritesNumber [4] ys year

/-- Year, month and day with hyphens between them, and anything behind them. -/
def HyphenForm (t : Text) (year month day : Nat) : Prop :=
  ∃ ys ms ds rest, t = ys ++ '-' :: (ms ++ '-' :: (ds ++ rest)) ∧
    WritesNumber [4] ys year ∧ WritesNumber [2] ms month ∧ WritesNumber [2] ds day

/-- The text is one of the two forms of the date. -/
def NamesDate (t : Text) (d : Date) : Prop :=
  SlashForm t d.year d.month d.day ∨ HyphenForm t d.year d.month d.day

/-! ## Slashes -/

theorem spanDigits_append {ds r : Text} (decimal : ∀ c ∈ ds, isDecimal c = true)
    (stop : ∀ c ∈ r.head?, isDecimal c = false) : Numeral.spanDigits (ds ++ r) = (ds, r) := by
  rw [Numeral.spanDigits, List.takeWhile_append_of_pos decimal, List.dropWhile_append_of_pos decimal]
  cases r with
  | nil => simp
  | cons c r => simp [stop c rfl]

theorem numberBeforeSlash?_eq_some_iff {t r : Text} {n : Nat} :
    numberBeforeSlash? t = some (n, r) ↔ ∃ ds, t = ds ++ '/' :: r ∧ WritesNumber [1, 2] ds n := by
  have slash : isDecimal '/' = false := by decide
  constructor
  · intro found
    have whole : (Numeral.spanDigits t).1 ++ (Numeral.spanDigits t).2 = t :=
      List.takeWhile_append_dropWhile
    unfold numberBeforeSlash? at found
    rcases span : Numeral.spanDigits t with ⟨ds, behind⟩
    simp only [span] at found whole
    split at found
    · split_ifs at found with count
      obtain ⟨m, value, same⟩ := Option.map_eq_some_iff.1 found
      cases same
      exact ⟨ds, whole.symm, by simpa using count, value⟩
    · simp at found
  · rintro ⟨ds, rfl, count, value⟩
    have counted : ds.length = 1 ∨ ds.length = 2 := by simpa using count
    unfold numberBeforeSlash?
    rw [spanDigits_append (isDecimal_of_digitsValue? value) (by simpa using slash)]
    simp [counted, value]

/-- Where no line feed ends the text, the pattern with slashes is the form with slashes. -/
theorem slashDate?_eq_some_iff {t : Text} (noFeed : t.getLast? ≠ some '\n') {year month day : Nat} :
    slashDate? t = some (year, month, day) ↔ SlashForm t year month day := by
  constructor
  · intro found
    simp only [slashDate?, Option.bind_eq_bind, Option.bind_eq_some_iff] at found
    obtain ⟨⟨m, behind⟩, first, ⟨d, rest⟩, second, y, value, found⟩ := found
    obtain ⟨ms, rfl, months⟩ := numberBeforeSlash?_eq_some_iff.1 first
    obtain ⟨ds, rfl, days⟩ := numberBeforeSlash?_eq_some_iff.1 second
    have whole : (Numeral.spanDigits rest).1 ++ (Numeral.spanDigits rest).2 = rest :=
      List.takeWhile_append_dropWhile
    rcases span : Numeral.spanDigits rest with ⟨ys, ending⟩
    simp only [span] at value found whole
    subst whole
    split_ifs at found with shape
    obtain ⟨count, rfl | rfl⟩ := shape
    · cases found
      rw [List.append_nil]
      exact ⟨ms, ds, ys, rfl, months, days, by simpa using count, value⟩
    · -- The pattern lets a last line feed pass.
      have ends : ms ++ '/' :: (ds ++ '/' :: (ys ++ ['\n'])) =
          (ms ++ '/' :: (ds ++ '/' :: ys)) ++ ['\n'] := by simp
      rw [ends, List.getLast?_concat] at noFeed
      exact absurd rfl noFeed
  · rintro ⟨ms, ds, ys, rfl, months, days, years⟩
    have month' : numberBeforeSlash? (ms ++ '/' :: (ds ++ '/' :: ys)) =
        some (month, ds ++ '/' :: ys) := numberBeforeSlash?_eq_some_iff.2 ⟨ms, rfl, months⟩
    have day' : numberBeforeSlash? (ds ++ '/' :: ys) = some (day, ys) :=
      numberBeforeSlash?_eq_some_iff.2 ⟨ds, rfl, days⟩
    have count : ys.length = 4 := by simpa using years.1
    have year' : Numeral.spanDigits ys = (ys, []) := by
      have span := spanDigits_append (r := []) (isDecimal_of_digitsValue? years.2) (by simp)
      rwa [List.append_nil] at span
    simp [slashDate?, month', day', year', years.2, count]

/-! ## Hyphens -/

theorem hyphenDate?_eq_some_iff {t : Text} {year month day : Nat} :
    hyphenDate? t = some (year, month, day) ↔ HyphenForm t year month day := by
  constructor
  · intro found
    unfold hyphenDate? at found
    split at found
    · simp only [Option.bind_eq_bind, Option.bind_eq_some_iff, Option.pure_def, Option.some.injEq,
        Prod.mk.injEq] at found
      obtain ⟨y, years, m, months, d, days, rfl, rfl, rfl⟩ := found
      exact ⟨_, _, _, _, rfl, ⟨by simp, years⟩, ⟨by simp, months⟩, ⟨by simp, days⟩⟩
    · simp at found
  · rintro ⟨ys, ms, ds, rest, rfl, ⟨four, years⟩, ⟨two, months⟩, ⟨two', days⟩⟩
    simp only [List.mem_singleton] at four two two'
    obtain ⟨y₁, ys, rfl⟩ := List.exists_cons_of_length_eq_add_one four
    obtain ⟨y₂, y₃, y₄, rfl⟩ := List.length_eq_three.1 (Nat.succ.inj four)
    obtain ⟨m₁, m₂, rfl⟩ := List.length_eq_two.1 two
    obtain ⟨d₁, d₂, rfl⟩ := List.length_eq_two.1 two'
    simp [hyphenDate?, years, months, days]

/-! ## Both -/

/-- A number of four digits stands before no slash. -/
theorem slashDate?_of_hyphenForm {t : Text} {year month day : Nat}
    (form : HyphenForm t year month day) : slashDate? t = none := by
  obtain ⟨ys, ms, ds, rest, rfl, ⟨-, years⟩, -⟩ := form
  have hyphen : isDecimal '-' = false := by decide
  have noSlash : numberBeforeSlash? (ys ++ '-' :: (ms ++ '-' :: (ds ++ rest))) = none := by
    unfold numberBeforeSlash?
    rw [spanDigits_append (isDecimal_of_digitsValue? years) (by simpa using hyphen)]
    rfl
  simp [slashDate?, noSlash]

/-- The reader finds the real dates that the two forms name. -/
theorem readCommitDate?_eq_some_iff {t : Text} (noFeed : t.getLast? ≠ some '\n') {d : Date} :
    readCommitDate? t = some d ↔ NamesDate t d := by
  unfold readCommitDate? NamesDate
  rw [← slashDate?_eq_some_iff noFeed]
  cases slashes : slashDate? t with
  | some numbers =>
    obtain ⟨year, month, day⟩ := numbers
    -- With slashes the text is not looked at again, and it has no other form.
    have noHyphens : ¬HyphenForm t d.year d.month d.day := by
      intro form
      rw [slashDate?_of_hyphenForm form] at slashes
      simp at slashes
    simp only [Date.of?_eq_some_iff, Option.some.injEq, Prod.mk.injEq, noHyphens, or_false]
    tauto
  | none =>
    rw [← hyphenDate?_eq_some_iff]
    cases hyphenDate? t with
    | none => simp
    | some numbers =>
      obtain ⟨year, month, day⟩ := numbers
      simp only [Date.of?_eq_some_iff, Option.some.injEq, Prod.mk.injEq, reduceCtorEq, false_or]
      tauto

/-! ## The written form -/

/-- Ten characters: the digits of the year, the month and the day, all of them of ASCII, with hyphens
between them. -/
def IsoForm (t : Text) (d : Date) : Prop :=
  ∃ ys ms ds, t = ys ++ '-' :: (ms ++ '-' :: ds) ∧
    WritesNumber [4] ys d.year ∧ WritesNumber [2] ms d.month ∧ WritesNumber [2] ds d.day ∧
    ∀ c ∈ ys ++ ms ++ ds, c.isDigit = true

theorem writesNumber_padZeros {width n : Nat} (positive : 0 < width) (fits : n < 10 ^ width) :
    WritesNumber [width] (padZeros width (ofNat n)) n :=
  ⟨List.mem_singleton.2 (length_padZeros_ofNat positive fits), digitsValue?_padZeros_ofNat width n⟩

theorem isoForm_iso (d : Date) : IsoForm d.iso d := by
  obtain ⟨⟨-, year⟩, ⟨-, month⟩, -, day⟩ := d.real_iff
  have days := (daysInMonth_bounds d.year d.month).2
  refine ⟨padZeros 4 (ofNat d.year), padZeros 2 (ofNat d.month), padZeros 2 (ofNat d.day), ?_,
    writesNumber_padZeros (by omega) (by omega), writesNumber_padZeros (by omega) (by omega),
    writesNumber_padZeros (by omega) (by omega), ?_⟩
  · simp [Date.iso]
  · intro c member
    rcases List.mem_append.1 member with front | inDay
    · rcases List.mem_append.1 front with inYear | inMonth
      · exact isDigit_of_mem_padZeros_ofNat inYear
      · exact isDigit_of_mem_padZeros_ofNat inMonth
    · exact isDigit_of_mem_padZeros_ofNat inDay

end ParcelStatus.Upload
