import ParcelStatus.Proofs.Text.Lines
import ParcelStatus.Proofs.Text.Phrase
import Mathlib.Data.List.Chain

/-!
# Cells and gaps

A line of cells with gaps between them is split into these cells again: a cell has no two blanks in
a row, a gap has at least two.

* `Cell` — a text that can stand in one column;
* `Gap` — what stands between two columns;
* `Gapped` — a line of cells with gaps between them;
* `Gapped.columns_append` — the columns of a line of cells behind which something else follows.
-/

namespace ParcelStatus.Text

/-! ## Cells -/

/-- Of two characters that stand side by side one is no blank. -/
def HasSingleBlanks (t : Text) : Prop := t.IsChain fun c d => (isBlank c && isBlank d) = false

instance (t : Text) : Decidable (HasSingleBlanks t) :=
  inferInstanceAs (Decidable (t.IsChain _))

/-- A text that can stand in one column of a line. -/
structure Cell (t : Text) : Prop where
  trimmed : Trimmed t
  single : HasSingleBlanks t
  oneLine : IsOneLine t

instance (t : Text) : Decidable (Cell t) :=
  decidable_of_iff (Trimmed t ∧ HasSingleBlanks t ∧ IsOneLine t)
    ⟨fun ⟨trimmed, single, oneLine⟩ => ⟨trimmed, single, oneLine⟩,
      fun ⟨trimmed, single, oneLine⟩ => ⟨trimmed, single, oneLine⟩⟩

/-- What stands between two columns: two blanks or more, none of which ends the line. -/
structure Gap (t : Text) : Prop where
  wide : 2 ≤ t.length
  blank : ∀ c ∈ t, isBlank c = true
  oneLine : IsOneLine t

instance (t : Text) : Decidable (Gap t) :=
  decidable_of_iff (2 ≤ t.length ∧ t.all isBlank = true ∧ IsOneLine t)
    (by
      rw [List.all_eq_true]
      exact ⟨fun ⟨wide, blank, oneLine⟩ => ⟨wide, blank, oneLine⟩,
        fun ⟨wide, blank, oneLine⟩ => ⟨wide, blank, oneLine⟩⟩)

/-- A gap begins with two blanks. -/
theorem Gap.exists_eq_cons {t : Text} (gap : Gap t) : ∃ c d rest, t = c :: d :: rest := by
  match t, gap.wide with
  | c :: d :: rest, _ => exact ⟨c, d, rest, rfl⟩

/-- Blanks in front of a line. -/
structure Margin (t : Text) : Prop where
  blank : ∀ c ∈ t, isBlank c = true
  oneLine : IsOneLine t

instance (t : Text) : Decidable (Margin t) :=
  decidable_of_iff (t.all isBlank = true ∧ IsOneLine t)
    (by
      rw [List.all_eq_true]
      exact ⟨fun ⟨blank, oneLine⟩ => ⟨blank, oneLine⟩, fun ⟨blank, oneLine⟩ => ⟨blank, oneLine⟩⟩)

/-- The line is made of these cells with gaps between them. -/
inductive Gapped : List Text → Text → Prop where
  | one {cell : Text} : Cell cell → Gapped [cell] cell
  | cons {cell gap t : Text} {cells : List Text} :
    Cell cell → Gap gap → Gapped cells t → Gapped (cell :: cells) (cell ++ (gap ++ t))

/-! ## Columns -/

theorem columnsFrom_blanks {gap : Text} (blank : ∀ c ∈ gap, isBlank c = true) (r : Text) :
    columnsFrom true (gap ++ r) = columnsFrom true r := by
  induction gap with
  | nil => rfl
  | cons c gap ih =>
    obtain ⟨first, rest⟩ := List.forall_mem_cons.1 blank
    rw [← ih rest]
    simp [columnsFrom, first]

/-- Behind a gap the first character that is no blank begins a column. -/
theorem columnsFrom_solid {c : Char} (solid : isBlank c = false) (inGap : Bool) (r : Text) :
    columnsFrom inGap (c :: r) = columns (c :: r) := by
  simp [columns, columnsFrom, solid]

theorem columns_gap {gap : Text} (wide : Gap gap) (r : Text) :
    columns (gap ++ r) = [] :: columnsFrom true r := by
  obtain ⟨c, d, rest, rfl⟩ := wide.exists_eq_cons
  have blank := wide.blank
  have first : isBlank c = true := blank c (by simp)
  have second : isBlank d = true := blank d (by simp)
  have all : ∀ b ∈ d :: rest, isBlank b = true := fun b member => blank b (by simp [member])
  rw [← columnsFrom_blanks all r]
  simp [columns, columnsFrom, first, second]

/-- A text without two blanks in a row goes on to its last character, if that is no blank. -/
theorem columns_single_append {t r : Text} (single : HasSingleBlanks t)
    (last : ∀ c ∈ t.getLast?, isBlank c = false) {p : Text} {ps : List Text}
    (rest : columns r = p :: ps) : columns (t ++ r) = (t ++ p) :: ps := by
  induction t with
  | nil => exact rest
  | cons c t ih =>
    have inner : columns (t ++ r) = (t ++ p) :: ps :=
      ih (List.IsChain.of_cons single) fun d final => last d (getLast?_cons_of_eq_some final)
    rw [columns] at inner
    cases blank : isBlank c with
    | false => simp [columns, columnsFrom, blank, inner, consFirst]
    | true =>
      -- A blank is followed by a character of the text, which is no blank.
      cases t with
      | nil => exact absurd (last c rfl) (by simp [blank])
      | cons d t =>
        have solid : isBlank d = false := by simpa [blank] using (List.isChain_cons_cons.1 single).1
        rw [List.cons_append] at inner
        simp [columns, columnsFrom, blank, solid, consFirst] at inner ⊢
        simp [inner]

theorem columns_single {t : Text} (single : HasSingleBlanks t)
    (last : ∀ c ∈ t.getLast?, isBlank c = false) : columns t = [t] := by
  have whole := columns_single_append single last (r := []) (p := []) rfl
  simpa using whole

theorem Cell.columns {t : Text} (cell : Cell t) : columns t = [t] :=
  columns_single cell.single cell.trimmed.last

theorem Cell.columns_append {t gap : Text} (cell : Cell t) (wide : Gap gap) (r : Text) :
    Text.columns (t ++ (gap ++ r)) = t :: columnsFrom true r := by
  rw [columns_single_append cell.single cell.trimmed.last (columns_gap wide r), List.append_nil]

namespace Gapped

variable {cells : List Text} {t : Text}

theorem trimmed (gapped : Gapped cells t) : Trimmed t := by
  induction gapped with
  | one cell => exact cell.trimmed
  | cons cell _ _ ih => exact cell.trimmed.append ih _

theorem oneLine (gapped : Gapped cells t) : IsOneLine t := by
  induction gapped with
  | one cell => exact cell.oneLine
  | cons cell gap _ ih =>
    exact List.forall_mem_append.2 ⟨cell.oneLine, List.forall_mem_append.2 ⟨gap.oneLine, ih⟩⟩

theorem all_cells (gapped : Gapped cells t) : ∀ cell ∈ cells, Cell cell := by
  induction gapped with
  | one cell => exact List.forall_mem_cons.2 ⟨cell, by simp⟩
  | cons cell _ _ ih => exact List.forall_mem_cons.2 ⟨cell, ih⟩

/-- Each cell behind the first takes three characters at least, two of them for its gap. -/
theorem length_ge (gapped : Gapped cells t) :
    ∀ cell rest, cells = cell :: rest → cell.length + 3 * rest.length ≤ t.length := by
  induction gapped with
  | one cell =>
    rintro _ _ ⟨⟩
    exact Nat.le_refl _
  | @cons cell gap t cells _ wide behind ih =>
    rintro _ _ ⟨⟩
    obtain ⟨next, rest, rfl⟩ : ∃ next rest, cells = next :: rest := by
      cases behind with
      | one => exact ⟨_, _, rfl⟩
      | cons => exact ⟨_, _, rfl⟩
    have room := wide.wide
    have cell := behind.all_cells next List.mem_cons_self
    have some_ := List.length_pos_of_ne_nil cell.trimmed.nonempty
    have later := ih next rest rfl
    simp only [List.length_append, List.length_cons]
    omega

theorem trim_margin (gapped : Gapped cells t) {margin : Text} (blank : Margin margin) :
    trim (margin ++ t) = t := by
  rw [trim_blanks_append blank.blank, gapped.trimmed.trim_eq]

theorem columns_from_gap (gapped : Gapped cells t) (r : Text) :
    columnsFrom true (t ++ r) = columns (t ++ r) := by
  have trimmed := gapped.trimmed
  obtain ⟨c, rest, rfl⟩ := List.exists_cons_of_ne_nil trimmed.nonempty
  exact columnsFrom_solid (trimmed.first c rfl) true (rest ++ r)

/-- The columns of a line of cells behind which a gap and something else follow. -/
theorem columns_append (gapped : Gapped cells t) {gap : Text} (wide : Gap gap) (r : Text) :
    columns (t ++ (gap ++ r)) = cells ++ columnsFrom true r := by
  induction gapped with
  | one cell => exact cell.columns_append wide r
  | cons cell between rest ih =>
    rw [List.append_assoc, List.append_assoc, cell.columns_append between,
      rest.columns_from_gap, ih]
    rfl

theorem columns (gapped : Gapped cells t) : columns t = cells := by
  induction gapped with
  | one cell => exact cell.columns
  | cons cell between rest ih =>
    have behind := rest.columns_from_gap []
    rw [List.append_nil] at behind
    rw [cell.columns_append between, behind, ih]

/-- Cells that are joined by one gap. -/
theorem of_join {gap : Text} (wide : Gap gap) (some_ : cells ≠ [])
    (each : ∀ cell ∈ cells, Cell cell) : Gapped cells (join gap cells) := by
  induction cells with
  | nil => exact absurd rfl some_
  | cons cell cells ih =>
    obtain ⟨first, rest⟩ := List.forall_mem_cons.1 each
    cases cells with
    | nil => exact .one first
    | cons next cells =>
      show Gapped _ (cell ++ gap ++ join gap (next :: cells))
      rw [List.append_assoc]
      exact .cons first wide (ih (by simp) rest)

end Gapped

end ParcelStatus.Text
