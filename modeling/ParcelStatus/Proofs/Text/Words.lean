import ParcelStatus.Proofs.Text.Columns

/-!
# Words and spaces

A line of words with blanks between them is split into these words again, however many blanks there
are.

* `Word` — a text that holds no blank;
* `Space` — the blanks between two words;
* `Spaced` — a line of words with blanks between them, and `Spaced.words`, that they are its words.
-/

namespace ParcelStatus.Text

/-! ## Words -/

/-- Not empty, and without blanks. -/
structure Word (t : Text) : Prop where
  nonempty : t ≠ []
  solid : ∀ c ∈ t, isBlank c = false

instance (t : Text) : Decidable (Word t) :=
  decidable_of_iff (t ≠ [] ∧ t.all (!isBlank ·) = true)
    (by
      simp only [List.all_eq_true, Bool.not_eq_true']
      exact ⟨fun ⟨nonempty, solid⟩ => ⟨nonempty, solid⟩, fun ⟨nonempty, solid⟩ => ⟨nonempty, solid⟩⟩)

/-- What stands between two words: one blank or more, none of which ends the line. -/
structure Space (t : Text) : Prop extends Margin t where
  nonempty : t ≠ []

instance (t : Text) : Decidable (Space t) :=
  decidable_of_iff (Margin t ∧ t ≠ [])
    ⟨fun ⟨margin, nonempty⟩ => ⟨margin, nonempty⟩, fun ⟨margin, nonempty⟩ => ⟨margin, nonempty⟩⟩

/-- The line is made of these words with blanks between them. -/
inductive Spaced : List Text → Text → Prop where
  | one {word : Text} : Word word → Spaced [word] word
  | cons {word space t : Text} {ws : List Text} :
    Word word → Space space → Spaced ws t → Spaced (word :: ws) (word ++ (space ++ t))

/-- What ends a line is a blank. -/
theorem isBlank_of_isLineEnd {c : Char} (ends : isLineEnd c = true) : isBlank c = true := by
  simp only [isLineEnd, Bool.or_eq_true, Bool.and_eq_true, decide_eq_true_eq, beq_iff_eq] at ends
  simp only [isBlank, Bool.or_eq_true, Bool.and_eq_true, decide_eq_true_eq, beq_iff_eq]
  omega

namespace Word

variable {t : Text} (word : Word t)

include word

theorem trimmed : Trimmed t where
  nonempty := word.nonempty
  first c head := word.solid c (List.mem_of_mem_head? head)
  last c final := word.solid c (List.mem_of_mem_getLast? final)

theorem oneLine : IsOneLine t := by
  intro c member
  have solid := word.solid c member
  cases ends : isLineEnd c with
  | false => rfl
  | true => rw [isBlank_of_isLineEnd ends] at solid; exact solid

/-- A word in front of a blank, or of nothing. -/
theorem words_append {r : Text} (apart : ∀ c ∈ r.head?, isBlank c = true) :
    words (t ++ r) = t :: words r := by
  obtain ⟨nonempty, solid⟩ := word
  induction t with
  | nil => exact absurd rfl nonempty
  | cons c t ih =>
    obtain ⟨first, rest⟩ := List.forall_mem_cons.1 solid
    cases t with
    | nil =>
      cases r with
      | nil => simp [words, first]
      | cons d r => simp [words, first, apart d rfl]
    | cons d t =>
      have inner := ih (List.cons_ne_nil d t) rest
      rw [List.cons_append] at inner
      rw [List.cons_append, List.cons_append, words, if_neg (by simp [first])]
      simp [rest d List.mem_cons_self, inner, consFirst]

end Word

theorem words_blanks_append {space : Text} (blank : ∀ c ∈ space, isBlank c = true) (r : Text) :
    words (space ++ r) = words r := by
  induction space with
  | nil => rfl
  | cons c space ih =>
    obtain ⟨first, rest⟩ := List.forall_mem_cons.1 blank
    rw [List.cons_append, ← ih rest, words.eq_def]
    exact if_pos first

/-! ## Lines of words -/

namespace Spaced

variable {ws : List Text} {t : Text}

theorem trimmed (spaced : Spaced ws t) : Trimmed t := by
  induction spaced with
  | one word => exact word.trimmed
  | cons word _ _ ih => exact word.trimmed.append ih _

theorem oneLine (spaced : Spaced ws t) : IsOneLine t := by
  induction spaced with
  | one word => exact word.oneLine
  | cons word space _ ih =>
    exact List.forall_mem_append.2 ⟨word.oneLine, List.forall_mem_append.2 ⟨space.oneLine, ih⟩⟩

theorem words (spaced : Spaced ws t) : words t = ws := by
  induction spaced with
  | @one word isWord =>
    have alone := isWord.words_append (r := []) (by simp)
    rwa [List.append_nil] at alone
  | @cons word space t ws isWord isSpace _ ih =>
    have apart : ∀ c ∈ (space ++ t).head?, isBlank c = true := by
      rw [List.head?_append_of_ne_nil _ isSpace.nonempty]
      exact fun c head => isSpace.blank c (List.mem_of_mem_head? head)
    rw [isWord.words_append apart, words_blanks_append isSpace.blank, ih]

/-- The line begins with its first word. -/
theorem exists_eq_append {word : Text} (spaced : Spaced (word :: ws) t) : ∃ r, t = word ++ r := by
  cases spaced with
  | one => exact ⟨[], (List.append_nil _).symm⟩
  | cons => exact ⟨_, rfl⟩

/-- Words that are joined by one space. -/
theorem of_join {space : Text} (isSpace : Space space) (some_ : ws ≠ [])
    (each : ∀ word ∈ ws, Word word) : Spaced ws (join space ws) := by
  induction ws with
  | nil => exact absurd rfl some_
  | cons word ws ih =>
    obtain ⟨first, rest⟩ := List.forall_mem_cons.1 each
    cases ws with
    | nil => exact .one first
    | cons next ws =>
      show Spaced _ (word ++ space ++ join space (next :: ws))
      rw [List.append_assoc]
      exact .cons first isSpace (ih (by simp) rest)

end Spaced

end ParcelStatus.Text
