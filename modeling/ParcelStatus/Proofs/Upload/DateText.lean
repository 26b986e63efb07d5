import ParcelStatus.Proofs.Upload.CommitDate

/-!
# Written dates of cells

The date of a cell is written down in one form, whichever of the two forms the cell has. The written
form is itself one of the two, so it is left as it is, and every date of the calendar is found in
both.

* `normalizedDate?` — the date of a cell in the written form;
* `hyphenForm_iso_append`, `slashForm_slashText` — the two forms of every date;
* `readCommitDate?_of_namesDate` — a text of one of the two forms gives its date;
* `normalizedDate?_normal` — which texts are dates, what is written for them, and that this is a
  normal form.
-/

namespace ParcelStatus.Upload

open Text

/-- The date of a cell in the written form. -/
def normalizedDate? (t : Text) : Option Text := (readCommitDate? t).map Date.iso

/-! ## Texts of a date -/

variable {t : Text} {d : Date}

/-- A text with slashes ends in a digit. -/
theorem SlashForm.getLast?_ne_lineFeed {year month day : Nat} (form : SlashForm t year month day) :
    t.getLast? ≠ some '\n' := by
  obtain ⟨ms, ds, ys, rfl, -, -, count, value⟩ := form
  have some_ : ys ≠ [] := by
    rintro rfl
    exact absurd count (by decide)
  have whole : ms ++ '/' :: (ds ++ '/' :: ys) = (ms ++ '/' :: (ds ++ ['/'])) ++ ys := by simp
  rw [whole, List.getLast?_append_of_ne_nil _ some_]
  intro feed
  have decimal := isDecimal_of_digitsValue? value '\n' (List.mem_of_getLast? feed)
  exact absurd decimal (by decide)

/-- Behind a date with hyphens there may stand anything, a line feed as well. -/
theorem readCommitDate?_of_hyphenForm (form : HyphenForm t d.year d.month d.day) :
    readCommitDate? t = some d := by
  unfold readCommitDate?
  rw [slashDate?_of_hyphenForm form, hyphenDate?_eq_some_iff.2 form]
  exact Date.of?_eq_some_iff.2 ⟨rfl, rfl, rfl⟩

theorem readCommitDate?_of_namesDate (names : NamesDate t d) : readCommitDate? t = some d := by
  rcases names with slashes | hyphens
  · exact (readCommitDate?_eq_some_iff slashes.getLast?_ne_lineFeed).2 (.inl slashes)
  · exact readCommitDate?_of_hyphenForm hyphens

theorem hyphenForm_iso_append (d : Date) (rest : Text) :
    HyphenForm (d.iso ++ rest) d.year d.month d.day := by
  obtain ⟨ys, ms, ds, whole, years, months, days, -⟩ := isoForm_iso d
  refine ⟨ys, ms, ds, rest, ?_, years, months, days⟩
  rw [whole]
  simp

theorem length_iso (d : Date) : d.iso.length = 10 := by
  obtain ⟨ys, ms, ds, whole, ⟨years, -⟩, ⟨months, -⟩, ⟨days, -⟩, -⟩ := isoForm_iso d
  rw [List.mem_singleton] at years months days
  rw [whole]
  simp [years, months, days]

/-- A number below a hundred, as it is or with a zero in front if it has one digit. -/
def shortSpellings (n : Nat) : List Text := [ofNat n, padZeros 2 (ofNat n)]

theorem writesNumber_shortSpellings {n : Nat} (fits : n < 100) (spelled : t ∈ shortSpellings n) :
    WritesNumber [1, 2] t n := by
  have some_ : 0 < (ofNat n).length := List.length_pos_of_ne_nil Nat.toDigits_ne_nil
  have short : (ofNat n).length ≤ 2 := (Nat.length_toDigits_le_iff (by decide) (by decide)).2 fits
  have padded : (padZeros 2 (ofNat n)).length = 2 := length_padZeros_ofNat (by decide) fits
  rcases List.mem_pair.1 spelled with rfl | rfl
  · exact ⟨List.mem_pair.2 (by omega), digitsValue?_ofNat n⟩
  · exact ⟨List.mem_pair.2 (.inr padded), digitsValue?_padZeros_ofNat 2 n⟩

/-- Month, day and year with slashes between them, from spellings of the month and the day. -/
def slashText (d : Date) (month day : Text) : Text :=
  month ++ '/' :: (day ++ '/' :: padZeros 4 (ofNat d.year))

theorem slashForm_slashText {month day : Text} (months : month ∈ shortSpellings d.month)
    (days : day ∈ shortSpellings d.day) : SlashForm (slashText d month day) d.year d.month d.day := by
  obtain ⟨⟨-, year⟩, ⟨-, month'⟩, -, day'⟩ := d.real_iff
  have longest := (daysInMonth_bounds d.year d.month).2
  exact ⟨month, day, _, rfl, writesNumber_shortSpellings (by omega) months,
    writesNumber_shortSpellings (by omega) days, writesNumber_padZeros (by decide) (by omega)⟩

/-! ## The normal form -/

theorem normalizedDate?_eq_some_iff (noFeed : t.getLast? ≠ some '\n') {s : Text} :
    normalizedDate? t = some s ↔ ∃ d, NamesDate t d ∧ s = d.iso := by
  rw [normalizedDate?, Option.map_eq_some_iff]
  simp only [readCommitDate?_eq_some_iff noFeed, eq_comm]

theorem normalizedDate?_of_namesDate (names : NamesDate t d) : normalizedDate? t = some d.iso := by
  rw [normalizedDate?, readCommitDate?_of_namesDate names, Option.map_some]

theorem normalizedDate?_iso_append (d : Date) (rest : Text) :
    normalizedDate? (d.iso ++ rest) = some d.iso :=
  normalizedDate?_of_namesDate (.inr (hyphenForm_iso_append d rest))

theorem normalizedDate?_again {s : Text} (found : normalizedDate? t = some s) :
    normalizedDate? s = some s := by
  obtain ⟨d, -, rfl⟩ := Option.map_eq_some_iff.1 found
  have whole := normalizedDate?_iso_append d []
  rwa [List.append_nil] at whole

/-- The numbers that make up a date. -/
theorem exists_date_iff {year month day : Nat} :
    (∃ d : Date, d.year = year ∧ d.month = month ∧ d.day = day) ↔
      (1 ≤ year ∧ year ≤ 9999) ∧ (1 ≤ month ∧ month ≤ 12) ∧
        1 ≤ day ∧ day ≤ daysInMonth year month := by
  rw [← isRealDate_iff]
  constructor
  · rintro ⟨d, rfl, rfl, rfl⟩
    exact d.real
  · intro real
    exact ⟨⟨year, month, day, real⟩, rfl, rfl, rfl⟩

/-- A text that no line feed ends is a date exactly when it has one of the two forms, with numbers
that the calendar has, and then its ten characters of ASCII are written. What is written is left as it
is when it is read again. Every date is written for its own text with anything behind it, and for its
text with slashes, whether month and day have a zero in front or not. -/
theorem normalizedDate?_normal :
    (∀ t, t.getLast? ≠ some '\n' → ∀ s,
        normalizedDate? t = some s ↔ ∃ d, NamesDate t d ∧ s = d.iso) ∧
      (∀ year month day, (∃ d : Date, d.year = year ∧ d.month = month ∧ d.day = day) ↔
        (1 ≤ year ∧ year ≤ 9999) ∧ (1 ≤ month ∧ month ≤ 12) ∧
          1 ≤ day ∧ day ≤ daysInMonth year month) ∧
      (∀ d : Date, IsoForm d.iso d ∧ d.iso.length = 10) ∧
      (∀ t s, normalizedDate? t = some s → normalizedDate? s = some s) ∧
      ∀ d : Date, (∀ rest, normalizedDate? (d.iso ++ rest) = some d.iso) ∧
        ∀ month ∈ shortSpellings d.month, ∀ day ∈ shortSpellings d.day,
          normalizedDate? (slashText d month day) = some d.iso := by
  refine ⟨?_, ?_, ?_, ?_, ?_⟩
  · intro t noFeed s
    exact normalizedDate?_eq_some_iff noFeed
  · intro year month day
    exact exists_date_iff
  · intro d
    exact ⟨isoForm_iso d, length_iso d⟩
  · intro t s found
    exact normalizedDate?_again found
  · intro d
    refine ⟨normalizedDate?_iso_append d, ?_⟩
    intro month months day days
    exact normalizedDate?_of_namesDate (.inl (slashForm_slashText months days))

/-- The last of February in a leap year. -/
def leapDay : Date := ⟨2024, 2, 29, rfl⟩

/-- The day is written for a text with an Arabic digit in it; a year later there is no such day. -/
theorem normalizedDate?_normal_of_leapDay :
    "٢/29/2024".toList.getLast? ≠ some '\n' ∧ NamesDate "٢/29/2024".toList leapDay ∧
      normalizedDate? "٢/29/2024".toList = some "2024-02-29".toList ∧
      normalizedDate? "2024-02-29".toList = some "2024-02-29".toList ∧
      normalizedDate? "2/29/2024".toList = some "2024-02-29".toList ∧
      normalizedDate? "2/29/2025".toList = none := by
  obtain ⟨dates, -, -, again, texts⟩ := normalizedDate?_normal
  have noFeed : "٢/29/2024".toList.getLast? ≠ some '\n' := by decide
  have names : NamesDate "٢/29/2024".toList leapDay :=
    .inl ⟨"٢".toList, "29".toList, "2024".toList, rfl, ⟨by decide, by decide⟩,
      ⟨by decide, by decide⟩, ⟨by decide, by decide⟩⟩
  have written : leapDay.iso = "2024-02-29".toList := by decide
  have found : normalizedDate? "٢/29/2024".toList = some "2024-02-29".toList :=
    (dates _ noFeed _).2 ⟨leapDay, names, written.symm⟩
  have unpadded := (texts leapDay).2 "2".toList (by decide) "29".toList (by decide)
  rw [written] at unpadded
  exact ⟨noFeed, names, found, again _ _ found, unpadded, by decide⟩

end ParcelStatus.Upload
