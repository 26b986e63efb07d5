import ParcelStatus.Proofs.Text.Margins
import ParcelStatus.Proofs.Text.Words

/-!
# Pieces of any line

Whatever a line holds, its words hold no blank; and if it is trimmed, each of its columns is, and
has no two blanks in a row. Pieces that are joined by single blanks are one piece again.

* `Bare` — no blanks at either end;
* `Piece` — trimmed, and no two blanks in a row;
* `word_of_mem_words`, `exists_words_eq_append` — the words of a text;
* `piece_of_mem_columns` — the columns of a trimmed text;
* `piece_join`, `bare_join` — pieces that are joined.
-/

namespace ParcelStatus.Text

/-! ## Texts without margins -/

/-- No blanks at either end; the text may be empty. -/
structure Bare (t : Text) : Prop where
  first : ∀ c ∈ t.head?, isBlank c = false
  last : ∀ c ∈ t.getLast?, isBlank c = false

theorem bare_nil : Bare [] := ⟨by simp, by simp⟩

theorem Trimmed.bare {t : Text} (trimmed : Trimmed t) : Bare t := ⟨trimmed.first, trimmed.last⟩

theorem Bare.trimmed {t : Text} (bare : Bare t) (some_ : t ≠ []) : Trimmed t :=
  ⟨some_, bare.first, bare.last⟩

theorem bare_trim (t : Text) : Bare (trim t) := by
  by_cases empty : trim t = []
  · rw [empty]
    exact bare_nil
  · exact (trimmed_trim empty).bare

/-! ## Pieces -/

/-- Trimmed, and without two blanks in a row. -/
structure Piece (t : Text) : Prop where
  trimmed : Trimmed t
  single : HasSingleBlanks t

/-- A character can stand in front where it is no blank or none follows. -/
theorem HasSingleBlanks.cons {t : Text} (single : HasSingleBlanks t) {c : Char}
    (apart : isBlank c = false ∨ ∀ d ∈ t.head?, isBlank d = false) :
    HasSingleBlanks (c :: t) := by
  refine List.IsChain.cons single fun d head => ?_
  rcases apart with solid | solid
  · rw [solid, Bool.false_and]
  · rw [solid d head, Bool.and_false]

theorem Word.piece {t : Text} (word : Word t) : Piece t where
  trimmed := word.trimmed
  single := by
    have apart : t.Pairwise fun c d => (isBlank c && isBlank d) = false := by
      refine List.pairwise_of_forall_mem_list fun c member d _ => ?_
      rw [word.solid c member, Bool.false_and]
    exact apart.isChain

/-- Pieces with one blank between them. -/
theorem Piece.append {s t : Text} (front : Piece s) (behind : Piece t) : Piece (s ++ ' ' :: t) where
  trimmed := front.trimmed.append behind.trimmed [' ']
  single := by
    refine List.IsChain.append front.single (behind.single.cons (.inr behind.trimmed.first)) ?_
    intro c final d _
    rw [front.trimmed.last c final, Bool.false_and]

theorem piece_join {ps : List Text} (some_ : ps ≠ []) (each : ∀ p ∈ ps, Piece p) :
    Piece (join [' '] ps) := by
  induction ps with
  | nil => exact absurd rfl some_
  | cons p ps ih =>
    obtain ⟨first, rest⟩ := List.forall_mem_cons.1 each
    cases ps with
    | nil => exact first
    | cons q ps =>
      rw [join_cons_cons, List.append_assoc]
      exact first.append (ih (List.cons_ne_nil q ps) rest)

/-- Pieces that are joined are bare and have no two blanks in a row, even if there are none. -/
theorem bare_join {ps : List Text} (each : ∀ p ∈ ps, Piece p) :
    Bare (join [' '] ps) ∧ HasSingleBlanks (join [' '] ps) := by
  by_cases empty : ps = []
  · subst empty
    exact ⟨bare_nil, .nil⟩
  · have piece := piece_join empty each
    exact ⟨piece.trimmed.bare, piece.single⟩

/-- What holds of a character alone, and of the first piece with it in front, holds of the pieces
that it is put in front of. -/
theorem forall_mem_consFirst {P : Text → Prop} {c : Char} {ps : List Text} (alone : P [c])
    (front : ∀ p ∈ ps.head?, P (c :: p)) (rest : ∀ p ∈ ps.tail, P p) :
    ∀ p ∈ consFirst c ps, P p := by
  cases ps with
  | nil => exact List.forall_mem_singleton.2 alone
  | cons p ps => exact List.forall_mem_cons.2 ⟨front p rfl, rest⟩

/-! ## Words -/

theorem word_of_mem_words (t : Text) : ∀ w ∈ words t, Word w := by
  have alone {c : Char} (solid : ¬isBlank c = true) : Word [c] :=
    ⟨by simp, by simpa using solid⟩
  fun_induction words t with
  | case1 => simp
  | case2 c r _ ih => exact ih
  | case3 c solid => exact List.forall_mem_singleton.2 (alone solid)
  | case4 c solid d r _ ih => exact List.forall_mem_cons.2 ⟨alone solid, ih⟩
  | case5 c solid d r _ ih =>
    refine forall_mem_consFirst (alone solid) (fun p head => ?_) fun p behind => ?_
    · have word := ih p (List.mem_of_mem_head? head)
      exact ⟨by simp, List.forall_mem_cons.2 ⟨by simpa using solid, word.solid⟩⟩
    · exact ih p (List.mem_of_mem_tail behind)

/-- A word in front of a text is the beginning of its first word. -/
theorem exists_words_eq_append {w : Text} (word : Word w) (r : Text) :
    ∃ more ws, words (w ++ r) = (w ++ more) :: ws := by
  have whole : Word (w ++ r.takeWhile (!isBlank ·)) := by
    refine ⟨by simp [word.nonempty], List.forall_mem_append.2 ⟨word.solid, fun c member => ?_⟩⟩
    simpa using List.mem_takeWhile_imp member
  have apart : ∀ c ∈ (r.dropWhile (!isBlank ·)).head?, isBlank c = true := by
    intro c head
    have stops := List.head?_dropWhile_not (!isBlank ·) r
    rw [Option.mem_def.1 head] at stops
    simpa using stops
  refine ⟨r.takeWhile (!isBlank ·), words (r.dropWhile (!isBlank ·)), ?_⟩
  rw [← whole.words_append apart, List.append_assoc, List.takeWhile_append_dropWhile]

/-! ## Columns -/

/-- What a column can go on with to its end. -/
structure Ending (t : Text) : Prop where
  single : HasSingleBlanks t
  last : ∀ c ∈ t.getLast?, isBlank c = false

/-- A column begins with a character that is no blank. -/
theorem Ending.piece {t : Text} (ending : Ending t) {c : Char} (solid : isBlank c = false) :
    Piece (c :: t) where
  trimmed := by
    refine ⟨by simp, by simpa using solid, fun d final => ?_⟩
    cases t with
    | nil => simpa [← Option.some.inj final] using solid
    | cons e t => exact ending.last d (by rwa [List.getLast?_cons_cons] at final)
  single := ending.single.cons (.inl solid)

theorem Piece.ending {t : Text} (piece : Piece t) : Ending t := ⟨piece.single, piece.trimmed.last⟩

/-- A single character in front of a piece, blank or not, leaves its end as it is. -/
theorem Piece.ending_cons {t : Text} (piece : Piece t) (c : Char) : Ending (c :: t) where
  single := piece.single.cons (.inr piece.trimmed.first)
  last := by
    obtain ⟨d, r, rfl⟩ := List.exists_cons_of_ne_nil piece.trimmed.nonempty
    rw [List.getLast?_cons_cons]
    exact piece.trimmed.last

/-- The first column of a text that ends in no blank is a piece where the text goes on behind a gap,
or begins with no blank, and an ending of one otherwise; all the others are pieces. -/
theorem columnsFrom_pieces (inGap : Bool) {t : Text} (some_ : t ≠ [])
    (last : ∀ c ∈ t.getLast?, isBlank c = false) :
    ∃ p ps, columnsFrom inGap t = p :: ps ∧ Ending p ∧
      ((inGap = true ∨ ∀ c ∈ t.head?, isBlank c = false) → Piece p) ∧ ∀ q ∈ ps, Piece q := by
  induction t generalizing inGap with
  | nil => exact absurd rfl some_
  | cons c r ih =>
    cases r with
    | nil =>
      have solid : isBlank c = false := last c rfl
      have piece : Piece [c] := (⟨.nil, by simp⟩ : Ending []).piece solid
      have cut : columnsFrom inGap [c] = [[c]] := by simp [columnsFrom, solid, consFirst]
      exact ⟨[c], [], cut, piece.ending, fun _ => piece, by simp⟩
    | cons d r =>
      have later (inGap : Bool) := ih inGap (List.cons_ne_nil d r)
        (fun e final => last e (by rwa [List.getLast?_cons_cons]))
      by_cases blank : isBlank c = true
      · have notFirst : ¬∀ b ∈ (c :: d :: r).head?, isBlank b = false := by simp [blank]
        cases inGap with
        | true =>
          obtain ⟨p, ps, cut, ending, first, rest⟩ := later true
          refine ⟨p, ps, ?_, ending, fun _ => first (.inl rfl), rest⟩
          rw [columnsFrom, if_pos blank, if_pos rfl, cut]
        | false =>
          by_cases wide : isBlank d = true
          · -- A gap begins here, and with it the first column is at its end.
            obtain ⟨p, ps, cut, -, first, rest⟩ := later true
            refine ⟨[], p :: ps, ?_, ⟨.nil, by simp⟩, ?_,
              List.forall_mem_cons.2 ⟨first (.inl rfl), rest⟩⟩
            · rw [columnsFrom, if_pos blank, if_neg Bool.false_ne_true, ← cut]
              simp only [wide, if_true]
            · rintro (⟨⟨⟩⟩ | first)
              exact absurd first notFirst
          · -- A single blank belongs to the column that goes on behind it.
            rw [Bool.not_eq_true] at wide
            obtain ⟨p, ps, cut, -, first, rest⟩ := later false
            have piece : Piece p := first (.inr (by simpa using wide))
            refine ⟨c :: p, ps, ?_, piece.ending_cons c, ?_, rest⟩
            · rw [columnsFrom, if_pos blank, if_neg Bool.false_ne_true]
              simp only [wide, Bool.false_eq_true, if_false, cut, consFirst]
            · rintro (⟨⟨⟩⟩ | first)
              exact absurd first notFirst
      · rw [Bool.not_eq_true] at blank
        obtain ⟨p, ps, cut, ending, -, rest⟩ := later false
        have piece := ending.piece blank
        refine ⟨c :: p, ps, ?_, piece.ending, fun _ => piece, rest⟩
        rw [columnsFrom, if_neg (by simp [blank]), cut]
        rfl

/-- Each column of a trimmed text is a piece; a text that is not trimmed can have empty ones. -/
theorem piece_of_mem_columns {t : Text} (trimmed : Trimmed t) : ∀ p ∈ columns t, Piece p := by
  obtain ⟨p, ps, cut, -, first, rest⟩ :=
    columnsFrom_pieces false trimmed.nonempty trimmed.last
  rw [columns, cut]
  exact List.forall_mem_cons.2 ⟨first (.inr trimmed.first), rest⟩

theorem columnsFrom_ne_nil (inGap : Bool) (t : Text) : columnsFrom inGap t ≠ [] := by
  fun_induction columnsFrom inGap t with
  | case2 _ _ _ ih => exact ih
  | case5 | case6 => exact consFirst_ne_nil _ _
  | _ => simp

theorem columns_ne_nil (t : Text) : columns t ≠ [] := columnsFrom_ne_nil false t

end ParcelStatus.Text
