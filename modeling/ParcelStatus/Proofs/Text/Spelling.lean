import ParcelStatus.Text.Case
import ParcelStatus.Proofs.Text.Phrase

/-!
# Spellings of codes

Codes are compared trimmed and in upper case, so two spellings of a code that differ in the case of
ASCII letters and in the blanks around it come to the same.

* `SpelledAlike` — two such spellings;
* `upper_map_toLower` — upper case forgets the case of ASCII letters;
* `IsPlain`, `upper_eq_iff_of_plain` — and it forgets nothing else where a text becomes a word of
  plain characters;
* `SpelledAlike.normalizeCode_eq` — spellings of one code are one code when they are compared;
* `normalizeCode_cons` — a text that begins with a character of its own begins with it as a code.
-/

namespace ParcelStatus.Text

/-- Equal but for the case of ASCII letters and for the blanks at both ends. -/
def SpelledAlike (s t : Text) : Prop := (trim s).map Char.toLower = (trim t).map Char.toLower

instance (s t : Text) : Decidable (SpelledAlike s t) :=
  inferInstanceAs (Decidable ((trim s).map Char.toLower = (trim t).map Char.toLower))

/-! ## Case -/

theorem upperChar_toLower_of_ascii :
    ∀ n < 128, upperChar (Char.ofNat n).toLower = upperChar (Char.ofNat n) := by
  decide +kernel

theorem toLower_of_not_ascii {c : Char} (beyond : ¬c.toNat < 128) : c.toLower = c := by
  unfold Char.toLower
  split
  · rename_i capital
    have last : c.toNat ≤ 90 := capital.2
    omega
  · rfl

theorem upperChar_toLower (c : Char) : upperChar c.toLower = upperChar c := by
  by_cases ascii : c.toNat < 128
  · have known := upperChar_toLower_of_ascii c.toNat ascii
    rwa [Char.ofNat_toNat] at known
  · rw [toLower_of_not_ascii ascii]

theorem upper_map_toLower (t : Text) : upper (t.map Char.toLower) = upper t := by
  induction t with
  | nil => rfl
  | cons c r ih =>
    simp only [upper, List.map_cons, List.flatMap_cons] at ih ⊢
    rw [upperChar_toLower, ih]

theorem SpelledAlike.normalizeCode_eq {s t : Text} (alike : SpelledAlike s t) :
    normalizeCode s = normalizeCode t := by
  have same : (trim s).map Char.toLower = (trim t).map Char.toLower := alike
  calc normalizeCode s
      = upper ((trim s).map Char.toLower) := (upper_map_toLower (trim s)).symm
    _ = upper ((trim t).map Char.toLower) := by rw [same]
    _ = normalizeCode t := upper_map_toLower (trim t)

/-! ## Characters that are the upper case of ASCII alone -/

/-- The capitals with which the upper case of a character beyond ASCII begins. -/
def sharedCapitals : Text := "AFHIJSTWY".toList

/-- The character is in ASCII, and what it is the upper case of, or begins, is in ASCII too. -/
def IsPlain (d : Char) : Prop := (0 < d.toNat ∧ d.toNat < 128) ∧ d ∉ sharedCapitals

instance (d : Char) : Decidable (IsPlain d) :=
  inferInstanceAs (Decidable ((0 < d.toNat ∧ d.toNat < 128) ∧ d ∉ sharedCapitals))

theorem upperChar_of_ascii : ∀ n < 128, upperChar (Char.ofNat n) = [(Char.ofNat n).toUpper] ∧
    (Char.ofNat n).toUpper.toLower = (Char.ofNat n).toLower := by
  decide +kernel

theorem upperLong_head : ∀ p ∈ upperLong, ∀ n ∈ p.2.head?,
    128 ≤ n ∨ Char.ofNat n ∈ sharedCapitals := by
  decide +kernel

/-- A run that leads into ASCII has one character. -/
theorem upperRuns_first : ∀ r ∈ upperRuns, 128 ≤ r.first + r.shift ∨
    r.first = r.last ∧ Char.ofNat (r.first + r.shift).toNat ∈ sharedCapitals := by
  decide +kernel

theorem toNat_of_ofNat_eq {n : Nat} {d : Char} (same : Char.ofNat n = d) (positive : 0 < d.toNat) :
    n = d.toNat := by
  rw [← same] at positive ⊢
  by_cases valid : n.isValidChar
  · have number : Char.ofNat n = Char.ofNatAux n valid := dif_pos valid
    rw [number]
    rfl
  · have number : Char.ofNat n = '\x00' := dif_neg valid
    rw [number] at positive
    exact absurd positive (by decide)

theorem ascii_of_isPlain {c d : Char} (plain : IsPlain d)
    (first : (upperChar c).head? = some d) : c.toNat < 128 := by
  obtain ⟨⟨positive, ascii⟩, own⟩ := plain
  by_contra beyond
  unfold upperChar mapCase at first
  rw [if_neg beyond] at first
  split at first
  · rename_i n image found
    rw [List.head?_map, Option.map_eq_some_iff] at first
    obtain ⟨n, head, same⟩ := first
    have number := toNat_of_ofNat_eq same positive
    rcases upperLong_head _ (List.mem_of_find?_eq_some found) n head with high | shared
    · omega
    · rw [same] at shared
      exact own shared
  · split at first
    · rename_i n found
      obtain ⟨run, member, image⟩ := List.exists_of_findSome?_eq_some found
      have same : Char.ofNat n = d := Option.some.inj first
      have number := toNat_of_ofNat_eq same positive
      unfold CaseRun.image? at image
      split at image
      · rename_i inRun
        have shifted := Option.some.inj image
        rcases upperRuns_first run member with high | ⟨single, shared⟩
        · omega
        · have only : c.toNat = run.first := by omega
          rw [← only, shifted, same] at shared
          exact own shared
      · cases image
    · obtain rfl : c = d := Option.some.inj first
      exact beyond ascii

theorem upperChar_eq_of_isPlain {c d : Char} (plain : IsPlain d)
    (first : (upperChar c).head? = some d) : upperChar c = [d] ∧ c.toLower = d.toLower := by
  obtain ⟨image, lower⟩ := upperChar_of_ascii c.toNat (ascii_of_isPlain plain first)
  rw [Char.ofNat_toNat] at image lower
  rw [image] at first ⊢
  obtain rfl : c.toUpper = d := Option.some.inj first
  exact ⟨rfl, lower.symm⟩

theorem upperChar_ne_nil (c : Char) : upperChar c ≠ [] :=
  image_ne_nil (by decide) c

theorem map_toLower_of_upper_eq {t word : Text} (plain : ∀ d ∈ word, IsPlain d)
    (same : upper t = word) : t.map Char.toLower = word.map Char.toLower := by
  induction t generalizing word with
  | nil =>
    rw [← same]
    rfl
  | cons c r ih =>
    obtain ⟨d, more, image⟩ := List.exists_cons_of_ne_nil (upperChar_ne_nil c)
    have whole : upper (c :: r) = d :: (more ++ upper r) := by
      rw [upper, List.flatMap_cons, image]
      rfl
    rw [whole] at same
    subst same
    -- A plain character is the whole upper case of the one that it comes from.
    obtain ⟨alone, lower⟩ := upperChar_eq_of_isPlain (plain d List.mem_cons_self) (by rw [image]; rfl)
    obtain rfl : more = [] := by simpa [alone] using image
    have rest : r.map Char.toLower = (upper r).map Char.toLower :=
      ih (fun d member => plain d (List.mem_cons_of_mem _ member)) rfl
    rw [List.map_cons, lower, rest]
    rfl

/-- A text has a word of plain characters as its upper case when it is that word up to the case of
letters. -/
theorem upper_eq_iff_of_plain {t word : Text} (plain : ∀ d ∈ word, IsPlain d)
    (capital : upper word = word) :
    upper t = word ↔ t.map Char.toLower = word.map Char.toLower := by
  constructor
  · exact map_toLower_of_upper_eq plain
  · intro same
    rw [← upper_map_toLower, same, upper_map_toLower, capital]

/-! ## Blanks -/

theorem isBlank_toLower_of_ascii :
    ∀ n < 128, isBlank (Char.ofNat n).toLower = isBlank (Char.ofNat n) := by
  decide +kernel

theorem isBlank_toLower (c : Char) : isBlank c.toLower = isBlank c := by
  by_cases ascii : c.toNat < 128
  · have known := isBlank_toLower_of_ascii c.toNat ascii
    rwa [Char.ofNat_toNat] at known
  · rw [toLower_of_not_ascii ascii]

theorem trim_map_toLower (t : Text) : trim (t.map Char.toLower) = (trim t).map Char.toLower := by
  have blank : isBlank ∘ Char.toLower = isBlank := funext isBlank_toLower
  simp only [trim, trimRight, trimLeft, List.dropWhile_map, ← List.map_reverse, blank]

/-- Spellings that differ in the case of ASCII letters alone. -/
theorem SpelledAlike.of_map_toLower {s t : Text} (same : s.map Char.toLower = t.map Char.toLower) :
    SpelledAlike s t := by
  show (trim s).map Char.toLower = (trim t).map Char.toLower
  rw [← trim_map_toLower, ← trim_map_toLower, same]

/-! ## Beginnings -/

theorem trimRight_cons {c : Char} (solid : isBlank c = false) (r : Text) :
    trimRight (c :: r) = c :: trimRight r := by
  unfold trimRight
  rw [List.reverse_cons, List.dropWhile_append]
  split
  · rename_i empty
    simp only [List.isEmpty_iff] at empty
    simp [empty, solid]
  · simp

theorem trim_cons {c : Char} (solid : isBlank c = false) (r : Text) :
    trim (c :: r) = c :: trimRight r := by
  have front : trimLeft (c :: r) = c :: r := by simp [trimLeft, solid]
  rw [trim, front, trimRight_cons solid]

theorem normalizeCode_cons {c : Char} (solid : isBlank c = false) (own : upperChar c = [c])
    (r : Text) : normalizeCode (c :: r) = c :: upper (trimRight r) := by
  rw [normalizeCode, trim_cons solid]
  simp [upper, own]

end ParcelStatus.Text
