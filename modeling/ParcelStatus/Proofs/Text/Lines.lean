import ParcelStatus.Text.Basic
import Mathlib.Data.List.Basic

/-!
# Lines of joined texts

Where two texts are put together at a line end, the lines of the whole are those of the parts. The
one exception is a return before a line feed, which are one line end only.

* `EndsLine` — the text is empty or its last character ends a line;
* `SplitsReturn` — the one exception;
* `lines_append` — the lines of two texts put together;
* `lines_append_line`, `lines_around` — a line in front of a text that begins with its end, and
  between two texts;
* `Lined` — a text that is made of these lines, by the line ends of any convention, and
  `Lined.lines_eq`, that they are its lines.
-/

namespace ParcelStatus.Text

theorem consFirst_append {c : Char} {ps qs : List Text} (h : ps ≠ []) :
    consFirst c (ps ++ qs) = consFirst c ps ++ qs := by
  cases ps with
  | nil => exact absurd rfl h
  | cons p ps => rfl

theorem consFirst_ne_nil (c : Char) (ps : List Text) : consFirst c ps ≠ [] := by
  cases ps <;> simp [consFirst]

/-- One character in front, unless it is a return that a line feed follows. -/
theorem lines_cons {c : Char} {r : Text} (h : ¬(c = '\r' ∧ r.head? = some '\n')) :
    lines (c :: r) = if isLineEnd c then [] :: lines r else consFirst c (lines r) := by
  rw [lines.eq_3]
  rintro r' rfl rfl
  exact h ⟨rfl, rfl⟩

theorem lines_ne_nil {t : Text} (h : t ≠ []) : lines t ≠ [] := by
  fun_cases lines t with
  | case1 => exact absurd rfl h
  | case2 => simp
  | case3 => simp
  | case4 => exact consFirst_ne_nil _ _

/-- The text is empty, or its last character ends a line. -/
def EndsLine (t : Text) : Prop := ∀ c ∈ t.getLast?, isLineEnd c = true

instance (t : Text) : Decidable (EndsLine t) :=
  decidable_of_iff (t.getLast?.all isLineEnd = true) (Option.all_eq_true isLineEnd t.getLast?)

theorem getLast?_cons_of_eq_some {c d : Char} {r : Text} (h : r.getLast? = some d) :
    (c :: r).getLast? = some d := by
  rw [List.getLast?_cons, h]
  rfl

theorem EndsLine.of_cons {c : Char} {r : Text} (h : EndsLine (c :: r)) : EndsLine r := by
  intro d hd
  exact h d (getLast?_cons_of_eq_some hd)

/-- The place between two texts falls between a return and its line feed. -/
def SplitsReturn (s t : Text) : Prop := s.getLast? = some '\r' ∧ t.head? = some '\n'

theorem SplitsReturn.cons {c : Char} {r t : Text} (h : SplitsReturn r t) :
    SplitsReturn (c :: r) t :=
  ⟨getLast?_cons_of_eq_some h.1, h.2⟩

/-- A return that a line feed follows in the joined text has it in the first part already. -/
theorem not_pair_of_join {c : Char} {r t : Text} (hjoin : ¬SplitsReturn (c :: r) t)
    (hne : ∀ r', c = '\r' → r = '\n' :: r' → False) :
    ¬(c = '\r' ∧ (r ++ t).head? = some '\n') := by
  rintro ⟨hc, hhead⟩
  cases r with
  | nil => exact hjoin ⟨by rw [hc]; rfl, hhead⟩
  | cons d r => exact hne r hc (by simpa using hhead)

/-- The lines of two texts that are put together at a line end. -/
theorem lines_append {s t : Text} (h : EndsLine s) (hjoin : ¬SplitsReturn s t) :
    lines (s ++ t) = lines s ++ lines t := by
  induction s using lines.induct with
  | case1 => rfl
  | case2 r ih =>
    have rest := ih h.of_cons.of_cons fun hr => hjoin hr.cons.cons
    simp only [List.cons_append, lines, rest]
  | case3 c r hne hend ih =>
    have rest := ih h.of_cons fun hr => hjoin hr.cons
    rw [List.cons_append, lines_cons (not_pair_of_join hjoin hne), lines.eq_3 c r hne,
      if_pos hend, if_pos hend, rest]
    rfl
  | case4 c r hne hend ih =>
    -- The last character ends a line and `c` does not, so something follows `c`.
    have hr : r ≠ [] := by
      rintro rfl
      exact hend (h c rfl)
    have rest := ih h.of_cons fun hr => hjoin hr.cons
    rw [List.cons_append, lines_cons (not_pair_of_join hjoin hne), lines.eq_3 c r hne,
      if_neg hend, if_neg hend, rest, consFirst_append (lines_ne_nil hr)]

/-! ## Single lines -/

/-- No character of the text ends a line. -/
def IsOneLine (t : Text) : Prop := ∀ c ∈ t, isLineEnd c = false

instance (t : Text) : Decidable (IsOneLine t) :=
  decidable_of_iff (t.all (!isLineEnd ·) = true) (by simp [IsOneLine])

/-- The text is empty or begins with a line end, so that a line can stand in front of it. -/
def FollowsLine (t : Text) : Prop := ∀ c ∈ t.head?, isLineEnd c = true

instance (t : Text) : Decidable (FollowsLine t) :=
  decidable_of_iff (t.head?.all isLineEnd = true) (Option.all_eq_true isLineEnd t.head?)

theorem lines_of_followsLine {t : Text} (follows : FollowsLine t) (some_ : t ≠ []) :
    lines t = [] :: (lines t).tail := by
  fun_cases lines t with
  | case1 => exact absurd rfl some_
  | case2 => rfl
  | case3 => rfl
  | case4 c r hne hend => exact absurd (follows c rfl) hend

/-- A line in front of a text that begins with its end. -/
theorem lines_append_line {line t : Text} (oneLine : IsOneLine line) (follows : FollowsLine t)
    (some_ : line ++ t ≠ []) : lines (line ++ t) = line :: (lines t).tail := by
  induction line with
  | nil => exact lines_of_followsLine follows some_
  | cons c line ih =>
    obtain ⟨first, rest⟩ := List.forall_mem_cons.1 oneLine
    have noReturn : ¬(c = '\r' ∧ (line ++ t).head? = some '\n') := by
      rintro ⟨rfl, -⟩
      exact absurd first (by decide)
    rw [List.cons_append, lines_cons noReturn, if_neg (by simp [first])]
    by_cases empty : line ++ t = []
    · obtain ⟨rfl, rfl⟩ := List.append_eq_nil_iff.1 empty
      rfl
    · rw [ih rest empty]
      rfl

/-- A line between a text that ends a line and one that begins with its end. -/
theorem lines_around {front line back : Text} (ends : EndsLine front) (oneLine : IsOneLine line)
    (some_ : line ≠ []) (follows : FollowsLine back) :
    lines (front ++ (line ++ back)) = lines front ++ line :: (lines back).tail := by
  have apart : ¬SplitsReturn front (line ++ back) := by
    rintro ⟨-, feed⟩
    rw [List.head?_append_of_ne_nil _ some_] at feed
    have solid := oneLine '\n' (List.mem_of_head? feed)
    exact absurd solid (by decide)
  have whole : line ++ back ≠ [] := by simp [some_]
  rw [lines_append ends apart, lines_append_line oneLine follows whole]

/-! ## Texts of lines -/

/-- What ends a line: one character, or a return with its line feed. -/
def IsLineEnding (t : Text) : Prop := t = ['\r', '\n'] ∨ ∃ c, isLineEnd c = true ∧ t = [c]

/-- The text is made of these lines. Each has a line end behind it; that of the last one may be
missing if the line is not empty. -/
inductive Lined : List Text → Text → Prop where
  | nil : Lined [] []
  | last {line : Text} : IsOneLine line → line ≠ [] → Lined [line] line
  | cons {line ending t : Text} {ls : List Text} : IsOneLine line → IsLineEnding ending →
    ¬SplitsReturn ending t → Lined ls t → Lined (line :: ls) (line ++ ending ++ t)

theorem IsLineEnding.lines_append {line ending : Text} (ends : IsLineEnding ending)
    (oneLine : IsOneLine line) : lines (line ++ ending) = [line] := by
  rcases ends with rfl | ⟨c, isEnd, rfl⟩
  · rw [lines_append_line oneLine (by decide) (by simp)]
    rfl
  · rw [lines_append_line oneLine (by simpa [FollowsLine] using isEnd) (by simp),
      lines_cons (by simp), if_pos isEnd]
    rfl

theorem IsLineEnding.endsLine {ending : Text} (ends : IsLineEnding ending) (line : Text) :
    EndsLine (line ++ ending) := by
  rcases ends with rfl | ⟨c, isEnd, rfl⟩
  · simp [EndsLine, isLineEnd]
  · simpa [EndsLine] using isEnd

theorem Lined.lines_eq {ls : List Text} {t : Text} (lined : Lined ls t) : lines t = ls := by
  induction lined with
  | nil => rfl
  | last oneLine some_ =>
    have alone := lines_append_line oneLine (show FollowsLine [] by decide) (by simpa using some_)
    rwa [List.append_nil] at alone
  | @cons line ending t ls oneLine ends apart _ ih =>
    have apart : ¬SplitsReturn (line ++ ending) t := by
      rintro ⟨isReturn, feed⟩
      refine apart ⟨?_, feed⟩
      rcases ends with rfl | ⟨c, -, rfl⟩
      · simp at isReturn
      · simpa using isReturn
    rw [lines_append (ends.endsLine line) apart, ends.lines_append oneLine, ih]
    rfl

/-- Lines that are joined by line feeds. -/
theorem Lined.of_join {ls : List Text} (oneLine : ∀ line ∈ ls, IsOneLine line)
    (last : ∀ line ∈ ls.getLast?, line ≠ []) : Lined ls (join ['\n'] ls) := by
  induction ls with
  | nil => exact .nil
  | cons line ls ih =>
    obtain ⟨first, rest⟩ := List.forall_mem_cons.1 oneLine
    cases ls with
    | nil => exact .last first (last line rfl)
    | cons next ls =>
      have ends : IsLineEnding ['\n'] := .inr ⟨'\n', by decide, rfl⟩
      exact .cons first ends (by simp [SplitsReturn]) (ih rest last)

end ParcelStatus.Text
