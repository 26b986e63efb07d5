import ParcelStatus.Proofs.Calendar.Stamp
import Mathlib.Data.List.Nodup
import Mathlib.Data.List.Perm.Subperm

/-!
# Recognising the numbers of a date text

A regular date text is read by looking for the spellings of its parts among its tokens. Which token
a spelling takes depends on the values, since a month and an hour may be the same number. The count
does not: a spelling takes one token and finds at least one part with every number that it takes, so
once six numbers are recognised all six numbered parts are found.

* `DigitFirst.placeOf?` — a number is no word;
* `proper_of_mem_spellings` — what the spellings of a reading have in common;
* `Recognition.Counted` — the invariant of the search, and `Recognition.counted_ofReading`, that it
  holds at the end of it;
* `Recognition.Counted.has` — with six numbers, all of them recognised, every numbered part is
  found.
-/

namespace ParcelStatus.Calendar

open Text

/-! ## Numbers are no words -/

/-- The text begins with a digit of ASCII. -/
def DigitFirst (t : Text) : Prop := ∃ c r, t = c :: r ∧ c.isDigit = true

theorem DigitRow.digitFirst {t : Text} {width n : Nat} (row : DigitRow t width n) :
    DigitFirst t := by
  obtain ⟨c, ds, rfl⟩ := List.exists_cons_of_ne_nil row.ne_nil
  exact ⟨c, ds, rfl, row.digits c List.mem_cons_self⟩

theorem DigitFirst.append {t : Text} (first : DigitFirst t) (r : Text) : DigitFirst (t ++ r) := by
  obtain ⟨c, ds, rfl, digit⟩ := first
  exact ⟨c, ds ++ r, rfl, digit⟩

theorem DigitFirst.lower {t : Text} (first : DigitFirst t) : DigitFirst (lower t) := by
  obtain ⟨c, ds, rfl, digit⟩ := first
  obtain ⟨notSigma, own⟩ : c ≠ capitalSigma ∧ lowerChar c = [c] :=
    of_isDigit (fun d => d ≠ capitalSigma ∧ lowerChar d = [d]) (by decide +kernel) digit
  refine ⟨c, lowerFrom (if isPassed c then false else isCased c) ds, ?_, digit⟩
  simp [Text.lower, lowerFrom, notSigma, own]

/-- No name begins with a digit. -/
def areWords (names : List (List String)) : Bool :=
  names.all fun ns => ns.all fun n => !(n.toList.head?.map Char.isDigit).getD false

theorem DigitFirst.placeOf? {t : Text} (first : DigitFirst t) {names : List (List String)}
    (words : areWords names = true) : placeOf? names t = none := by
  obtain ⟨c, r, same, digit⟩ := first.lower
  rw [Calendar.placeOf?, List.findIdx?_eq_none_iff]
  intro ns inNames
  rw [List.any_eq_false]
  intro name inRow
  have word := List.all_eq_true.1 (List.all_eq_true.1 words ns inNames) name inRow
  rw [same, decide_eq_true_eq]
  intro spelled
  rw [spelled] at word
  simp [digit] at word

theorem DigitFirst.monthOf? {t : Text} (first : DigitFirst t) : monthOf? t = none := by
  rw [Calendar.monthOf?, first.placeOf? (by decide)]
  rfl

theorem DigitFirst.isFiller {t : Text} (first : DigitFirst t) : isFiller t = false := by
  rw [Calendar.isFiller, first.placeOf? (by decide)]
  rfl

/-! ## Recognised numbers -/

/-- The parts that are written as numbers. -/
def numberedParts : List Part := [.year, .month, .day, .hour, .minute, .second]

/-- The token is a number. -/
def isNumber (token : Text) : Bool := (Amount.ofToken? token).isSome

/-- The slot holds a number that is recognised. -/
def Slot.isKnownNumber (slot : Slot) : Bool := slot.known && isNumber slot.token

/-- What every spelling of a reading has: its parts are different ones, and without a numbered part
among them it is a word. -/
structure Spelling.Proper (s : Spelling) : Prop where
  nodup : s.parts.Nodup
  wordy : s.parts.any numberedParts.contains = true ∨ ¬DigitFirst s.text

theorem DigitFirst.padZeros {t : Text} (first : DigitFirst t) (width : Nat) :
    DigitFirst (padZeros width t) := by
  unfold Text.padZeros
  cases width - t.length with
  | zero => exact first
  | succ n => exact ⟨'0', _, rfl, by decide⟩

theorem digitFirst_ofNat (n : Nat) : DigitFirst (ofNat n) := by
  obtain ⟨c, ds, same⟩ := List.exists_cons_of_ne_nil (show ofNat n ≠ [] from Nat.toDigits_ne_nil)
  exact ⟨c, ds, same, isDigit_of_mem_ofNat (same ▸ List.mem_cons_self)⟩

theorem DigitFirst.spelledAs {t : Text} (first : DigitFirst t) (width : Nat) :
    DigitFirst (spelledAs width t) := by
  unfold Calendar.spelledAs
  split
  next a _ =>
    split
    · exact first.padZeros width
    · exact ((digitFirst_ofNat a.whole).padZeros 2).append _
  next => exact first.padZeros width

theorem not_digitFirst_of_head? {t : Text} (word : t.head?.any Char.isDigit = false) :
    ¬DigitFirst t := by
  rintro ⟨c, r, rfl, digit⟩
  simp [digit] at word

theorem not_digitFirst_weekday (place : Nat) (long : Bool) :
    ¬DigitFirst (nameAt weekdayNames place long) := by
  apply not_digitFirst_of_head?
  rcases Nat.lt_or_ge place 7 with day | beyond
  · have known : ∀ place < 7, ∀ long,
        (nameAt weekdayNames place long).head?.any Char.isDigit = false := by
      decide
    exact known place day long
  · have noName : weekdayNames[place]? = none := List.getElem?_eq_none beyond
    simp [nameAt, noName]

theorem proper_of_mem_spellings {r : Reading} {s : Spelling} (member : s ∈ spellings r) :
    s.Proper := by
  have number {ps : List Part} (nodup : ps.Nodup) (some_ : ps.any numberedParts.contains = true)
      (t : Text) (w : Nat) : Spelling.Proper ⟨ps, t, w⟩ := ⟨nodup, .inl some_⟩
  have word (p : Part) {t : Text} (word : ¬DigitFirst t) : Spelling.Proper ⟨[p], t, 0⟩ :=
    ⟨List.nodup_singleton p, .inr word⟩
  simp only [spellings, List.mem_append, List.mem_cons, List.not_mem_nil, or_false] at member
  rcases member with (numbers | zone) | rfl | rfl | rfl
  · rcases numbers with rfl | rfl | rfl | rfl | rfl | rfl | rfl | rfl | rfl | rfl | rfl | rfl |
      rfl | rfl | rfl
    all_goals exact number (by decide) (by decide) _ _
  · split at zone
    · obtain rfl := List.mem_singleton.1 zone
      exact word .zone (not_digitFirst_of_head? (by decide))
    · cases zone
  · exact word .weekday (not_digitFirst_weekday _ _)
  · exact word .weekday (not_digitFirst_weekday _ _)
  · refine word .half (not_digitFirst_of_head? ?_)
    split <;> decide

namespace Recognition

/-- A spelling marks one slot, which was not known before and whose token is of its form. -/
theorem mark?_eq_some {s : Spelling} {slots marked : List Slot}
    (found : mark? s slots = some marked) :
    ∃ before slot behind, slots = before ++ slot :: behind ∧
      marked = before ++ { slot with known := true } :: behind ∧
      slot.known = false ∧ spelledAs s.width slot.token = s.text := by
  induction slots generalizing marked with
  | nil => cases found
  | cons first rest ih =>
    rw [mark?] at found
    split at found
    next here =>
      obtain ⟨unknown, spelled⟩ : first.known = false ∧ spelledAs s.width first.token = s.text := by
        simpa using here
      cases found
      exact ⟨[], first, rest, rfl, rfl, unknown, spelled⟩
    next =>
      obtain ⟨later, inRest, rfl⟩ := Option.map_eq_some_iff.1 found
      obtain ⟨before, slot, behind, rfl, rfl, unknown, spelled⟩ := ih inRest
      exact ⟨first :: before, slot, behind, rfl, rfl, unknown, spelled⟩

/-- What holds while spellings are looked for: no part is found twice, and as many numbered parts
are found as numbers are recognised. -/
structure Counted (ts : List Text) (g : Recognition) : Prop where
  tokens : g.slots.map Slot.token = ts
  nodup : g.found.Nodup
  counted : g.slots.countP Slot.isKnownNumber ≤ g.found.countP numberedParts.contains

variable {ts : List Text} {g : Recognition}

theorem Counted.withSpelling (counted : Counted ts g)
    (digits : ∀ t ∈ ts, isNumber t = true → DigitFirst t) {s : Spelling} (proper : s.Proper) :
    Counted ts (g.withSpelling s) := by
  unfold Recognition.withSpelling
  split
  next => exact counted
  next fresh =>
    split
    next slots marked =>
      obtain ⟨before, slot, behind, same, rfl, unknown, spelled⟩ := mark?_eq_some marked
      have member : slot.token ∈ ts := by simp [← counted.tokens, same]
      have fresh : ∀ p ∈ s.parts, p ∉ g.found := by simpa using fresh
      have nodup : (s.parts ++ g.found).Nodup :=
        List.nodup_append'.2 ⟨proper.nodup, counted.nodup, fun p => fresh p⟩
      -- The slot that is marked adds one number at most, and then a numbered part is found with it.
      have one : isNumber slot.token = true → 1 ≤ s.parts.countP numberedParts.contains := by
        intro number
        rcases proper.wordy with numbered | word
        · exact List.one_le_countP_iff.2 (by simpa using numbered)
        · exact absurd (spelled ▸ (digits _ member number).spelledAs s.width) word
      refine ⟨?_, nodup, ?_⟩
      · simp [← counted.tokens, same]
      · have less := counted.counted
        simp only [same, List.countP_append, List.countP_cons, Slot.isKnownNumber, unknown,
          Bool.false_and, Bool.true_and] at less ⊢
        split
        next number =>
          have := one number
          simp only [Bool.false_eq_true, if_false] at less
          omega
        next =>
          simp only [Bool.false_eq_true, if_false] at less
          omega
    next => exact counted

/-- The recognition by any list of spellings. -/
theorem Counted.foldl (counted : Counted ts g)
    (digits : ∀ t ∈ ts, isNumber t = true → DigitFirst t) {ss : List Spelling}
    (proper : ∀ s ∈ ss, s.Proper) : Counted ts (ss.foldl Recognition.withSpelling g) := by
  induction ss generalizing g with
  | nil => exact counted
  | cons s ss ih =>
    obtain ⟨first, rest⟩ := List.forall_mem_cons.1 proper
    exact ih (counted.withSpelling digits first) rest

theorem counted_ofReading (r : Reading)
    (digits : ∀ t ∈ ts, isNumber t = true → DigitFirst t) : Counted ts (ofReading r ts) := by
  have start : Counted ts ⟨ts.map (⟨·, false⟩), []⟩ := by
    refine ⟨by simp [Function.comp_def], List.nodup_nil, ?_⟩
    simp [List.countP_map, Function.comp_def, Slot.isKnownNumber]
  exact start.foldl digits fun s => proper_of_mem_spellings

/-- With six numbers in the text, all of them recognised, every numbered part is found. -/
theorem Counted.has (counted : Counted ts g) (six : ts.countP isNumber = 6)
    (known : ∀ slot ∈ g.slots, isNumber slot.token = true → slot.known = true) {p : Part}
    (numbered : p ∈ numberedParts) : g.has p = true := by
  have all : g.slots.countP Slot.isKnownNumber = 6 := by
    rw [← six, ← counted.tokens, List.countP_map]
    refine List.countP_congr fun slot member => ?_
    have recognised := known slot member
    simp only [Slot.isKnownNumber, Bool.and_eq_true, Function.comp_apply]
    exact ⟨And.right, fun number => ⟨recognised number, number⟩⟩
  have some_ : (g.found.filter numberedParts.contains).Subperm numberedParts :=
    List.Nodup.subperm (counted.nodup.filter _) fun q member => by
      simpa using (List.mem_filter.1 member).2
  have length : numberedParts.length ≤ (g.found.filter numberedParts.contains).length := by
    rw [← List.countP_eq_length_filter]
    exact all.ge.trans counted.counted
  have member := (some_.perm_of_length_le length).mem_iff.2 numbered
  simpa [Recognition.has] using (List.mem_filter.1 member).1

end Recognition

end ParcelStatus.Calendar
