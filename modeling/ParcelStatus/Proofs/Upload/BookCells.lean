import ParcelStatus.Proofs.Number.Whole
import ParcelStatus.Upload.Workbook
import Mathlib.Data.List.DropRight

/-!
# What a workbook keeps

A field that is written into a workbook and read out of it again. The cell keeps a text that fits
and has no carriage return; a text behind an equals sign becomes a formula, and the name of an error
becomes an error. Reading leaves out formulas and errors, and takes some texts for missing values. Of
an amount sixteen digits are left, and of a whole one all of them.

* `IsKept` — a text that a cell keeps as it is;
* `BookCell.Holds`, `ReadsAs`, `BookCell.Keeps` — what the cell of a field holds, what is read out of
  it, and both;
* `BookCell.toWorkbook_ofText` — the cell of a text is read like that of any workbook;
* `BookCell.ofNumber_ofInt` — a whole amount is kept;
* `readWorkbook_eq` — below a full header a sheet is read cell by cell.
-/

namespace ParcelStatus.Upload

open Text

/-! ## Fields -/

/-- A text that a workbook keeps as it is: it fits into a cell, has no carriage return, and is no
formula and not the name of an error. -/
structure IsKept (t : Text) : Prop where
  fits : t.length ≤ maxCellLength
  noReturn : '\r' ∉ t
  noFormula : ∀ c r, t ≠ '=' :: c :: r
  noError : t ∉ errorTexts

/-- What a cell holds of an amount: the number that sixteen digits leave, nothing if these put it
beyond all numbers, and a whole number as it is. -/
structure BookCell.HoldsAmount (x : Binary64) (c : BookCell) : Prop where
  digits : ∀ negative m e, x.keepDigits storedDigits = .finite negative m e →
    c = .number (.finite negative m e)
  beyond : ∀ negative, x.keepDigits storedDigits = .infinite negative → c = .missing
  whole : ∀ n : Int, n.natAbs < 2 ^ 53 → x = .ofInt n → c = .number (.ofInt n)

/-- What a cell holds of the value of a field: nothing of a missing one, the text of a text, and the
digits of an amount. -/
def BookCell.Holds (v : Json) (c : BookCell) : Prop :=
  match v with
  | .null => c = .missing
  | .str t => c.text? = some (universalNewlines (t.take maxCellLength)) ∧ (IsKept t → c = .text t)
  | .float (.finite negative m e) => HoldsAmount (.finite negative m e) c
  | .float _ => True
  | _ => False

/-- What is read of an amount: the text of the number that sixteen digits leave. -/
structure ReadsAmount (x : Binary64) (c : Cell) : Prop where
  digits : ∀ negative m e, x.keepDigits storedDigits = .finite negative m e →
    c = some (WorkbookCell.numberText (.finite negative m e))
  beyond : ∀ negative, x.keepDigits storedDigits = .infinite negative → c = none
  whole : ∀ n : Int, n.natAbs < 2 ^ 53 → x = .ofInt n → c = some (ofInt n)

/-- What is read of the value of a field: a text as the reader of workbooks takes it, which is the
text itself if the cell kept it and it does not stand for a missing value. -/
def ReadsAs (v : Json) (c : Cell) : Prop :=
  match v with
  | .null => c = none
  | .str t => c = (WorkbookCell.ofText (t.take maxCellLength)).toCell ∧
      (IsKept t → t ∉ missingTexts → c = some t)
  | .float (.finite negative m e) => ReadsAmount (.finite negative m e) c
  | .float _ => True
  | _ => False

/-- The cell of a field, as it is held and as it is read. -/
structure BookCell.Keeps (v : Json) (c : BookCell) : Prop where
  holds : c.Holds v
  reads : ReadsAs v c.toWorkbook.toCell

/-! ## Texts -/

theorem universalNewlines_of_no_return {t : Text} (noReturn : '\r' ∉ t) :
    universalNewlines t = t := by
  induction t with
  | nil => rfl
  | cons c t ih =>
    rw [List.mem_cons, not_or] at noReturn
    obtain ⟨first, rest⟩ := noReturn
    have other : ¬c = '\r' := Ne.symm first
    unfold universalNewlines
    split
    case h_1 empty => cases empty
    case h_2 r pair =>
      cases pair
      exact absurd rfl first
    case h_3 r _ same =>
      cases same
      rw [if_neg other, ih rest]

/-- The name of an error is read as one, and has no line ends. -/
theorem plain_of_errorText {t : Text} (named : t ∈ errorTexts) :
    WorkbookCell.ofText t = .error ∧ universalNewlines t = t := by
  simp only [errorTexts, List.mem_cons, List.not_mem_nil, or_false] at named
  rcases named with rfl | rfl | rfl | rfl | rfl | rfl | rfl <;> exact ⟨rfl, rfl⟩

namespace BookCell

/-- The cell of a text, by the text that fits. -/
theorem ofText_cases (t : Text) :
    (t.take maxCellLength = [] ∧ ofText t = .missing) ∨
    (∃ c r, t.take maxCellLength = '=' :: c :: r ∧ ofText t = .formula ('=' :: c :: r)) ∨
    (t.take maxCellLength ∈ errorTexts ∧ ofText t = .error (t.take maxCellLength)) ∨
    (t.take maxCellLength ≠ [] ∧ (∀ c r, t.take maxCellLength ≠ '=' :: c :: r) ∧
      t.take maxCellLength ∉ errorTexts ∧ ofText t = .text (t.take maxCellLength)) := by
  unfold ofText
  split
  case h_1 empty => exact .inl ⟨empty, rfl⟩
  case h_2 c r behind => exact .inr (.inl ⟨c, r, behind, rfl⟩)
  case h_3 some_ plain =>
    split
    case isTrue named => exact .inr (.inr (.inl ⟨List.contains_iff_mem.1 named, rfl⟩))
    case isFalse unnamed =>
      exact .inr (.inr (.inr ⟨some_, plain, fun named => unnamed (List.contains_iff_mem.2 named),
        rfl⟩))

/-- The cell of a text that a workbook stores is read like the cell of any text. -/
theorem toWorkbook_ofText (t : Text) :
    (ofText t).stored.toWorkbook = WorkbookCell.ofText (t.take maxCellLength) := by
  rcases ofText_cases t with ⟨fits, cell⟩ | ⟨c, r, fits, cell⟩ | ⟨named, cell⟩ |
    ⟨some_, plain, unnamed, cell⟩
  · rw [cell, fits]
    rfl
  · rw [cell, fits]
    rfl
  · rw [cell]
    exact (plain_of_errorText named).1.symm
  · rw [cell]
    unfold WorkbookCell.ofText
    split
    case h_1 empty => exact absurd empty some_
    case h_2 c r behind => exact absurd behind (plain c r)
    case h_3 => rw [if_neg (fun named => unnamed (List.contains_iff_mem.1 named))]; rfl

theorem ofText_of_kept {t : Text} (some_ : t ≠ []) (kept : IsKept t) :
    (ofText t).stored = .text t := by
  have whole : t.take maxCellLength = t := List.take_of_length_le kept.fits
  rcases ofText_cases t with ⟨fits, -⟩ | ⟨c, r, fits, -⟩ | ⟨named, -⟩ | ⟨-, -, -, cell⟩
  · exact absurd (whole ▸ fits) some_
  · exact absurd (whole ▸ fits) (kept.noFormula c r)
  · exact absurd (whole ▸ named) kept.noError
  · rw [cell, whole, stored, universalNewlines_of_no_return kept.noReturn]

theorem text?_ofText {t : Text} (some_ : t ≠ []) :
    (ofText t).stored.text? = some (universalNewlines (t.take maxCellLength)) := by
  rcases ofText_cases t with ⟨fits, -⟩ | ⟨c, r, fits, cell⟩ | ⟨named, cell⟩ | ⟨-, -, -, cell⟩
  · rcases List.take_eq_nil_iff.1 fits with zero | empty
    · cases zero
    · exact absurd empty some_
  · rw [cell, fits]
    rfl
  · rw [cell]
    exact congrArg some (plain_of_errorText named).2.symm
  · rw [cell]
    rfl

theorem keeps_ofText {t : Text} (some_ : t ≠ []) : Keeps (.str t) (ofText t).stored where
  holds := ⟨text?_ofText some_, ofText_of_kept some_⟩
  reads := by
    refine ⟨by rw [toWorkbook_ofText], fun kept named => ?_⟩
    rw [ofText_of_kept some_ kept]
    exact if_neg fun missing => named (List.contains_iff_mem.1 missing)

end BookCell

/-! ## Amounts -/

namespace BookCell

theorem ofNumber_of_digits {x : Binary64} {negative : Bool} {m : Nat} {e : Int}
    (left : x.keepDigits storedDigits = .finite negative m e) :
    ofNumber x = .number (.finite negative m e) := by
  cases x with
  | nan | infinite => cases left
  | finite => rw [ofNumber, left]

theorem ofNumber_of_beyond {negative negative' : Bool} {m : Nat} {e : Int}
    (left : (Binary64.finite negative m e).keepDigits storedDigits = .infinite negative') :
    ofNumber (.finite negative m e) = .missing := by
  rw [ofNumber, left]

/-- Of a whole amount nothing is lost. -/
theorem ofNumber_ofInt {n : Int} (small : n.natAbs < 2 ^ 53) :
    ofNumber (.ofInt n) = .number (.ofInt n) := by
  have kept := Binary64.keepDigits_ofInt small
  have whole := Binary64.toInt?_ofInt small
  cases same : Binary64.ofInt n with
  | nan | infinite =>
    rw [same] at whole
    cases whole
  | finite negative m e =>
    rw [same] at kept
    exact ofNumber_of_digits kept

theorem holdsAmount_ofNumber (negative : Bool) (m : Nat) (e : Int) :
    HoldsAmount (.finite negative m e) (ofNumber (.finite negative m e)) where
  digits _ _ _ left := ofNumber_of_digits left
  beyond _ left := ofNumber_of_beyond left
  whole n small same := by rw [same, ofNumber_ofInt small]

end BookCell

/-- A whole number is read without a point. -/
theorem WorkbookCell.numberText_ofInt {n : Int} (small : n.natAbs < 2 ^ 53) :
    numberText (.ofInt n) = ofInt n := by
  have kept : (Binary64.ofInt n).keepDigits storedDigits = .ofInt n :=
    Binary64.keepDigits_ofInt small
  have whole : (Binary64.ofInt n).toInt? = some n := Binary64.toInt?_ofInt small
  simp only [numberText, kept, whole]

theorem readsAmount_ofNumber (negative : Bool) (m : Nat) (e : Int) :
    ReadsAmount (.finite negative m e)
      (BookCell.ofNumber (.finite negative m e)).toWorkbook.toCell where
  digits _ _ _ left := by
    rw [BookCell.ofNumber_of_digits left]
    rfl
  beyond _ left := by
    rw [BookCell.ofNumber_of_beyond left]
    rfl
  whole n small same := by
    rw [same, BookCell.ofNumber_ofInt small, ← WorkbookCell.numberText_ofInt small]
    rfl

theorem BookCell.keeps_ofNumber (o : Option Binary64) :
    Keeps ((o.map Json.float).getD .null) ((o.map ofNumber).getD .missing).stored := by
  cases o with
  | none => exact ⟨rfl, rfl⟩
  | some x =>
    cases x with
    | nan | infinite => exact ⟨trivial, trivial⟩
    | finite negative m e =>
      have stored : (ofNumber (.finite negative m e)).stored = ofNumber (.finite negative m e) := by
        unfold ofNumber
        dsimp only
        split <;> rfl
      show Keeps (.float (.finite negative m e)) (ofNumber (.finite negative m e)).stored
      rw [stored]
      exact ⟨holdsAmount_ofNumber negative m e, readsAmount_ofNumber negative m e⟩

/-! ## Sheets -/

theorem dropEmptyEnd_eq (cells : List WorkbookCell) :
    dropEmptyEnd cells = cells.rdropWhile fun c => c = .empty :=
  rfl

theorem length_dropEmptyEnd_le (cells : List WorkbookCell) :
    (dropEmptyEnd cells).length ≤ cells.length :=
  (List.rdropWhile_prefix _ cells).length_le

/-- The end that a row loses is empty, so as cells of a sheet it is missing. -/
theorem map_toCell_dropEmptyEnd (cells : List WorkbookCell) :
    (dropEmptyEnd cells).map WorkbookCell.toCell ++
        List.replicate (cells.length - (dropEmptyEnd cells).length) none =
      cells.map WorkbookCell.toCell := by
  induction cells using List.reverseRecOn with
  | nil => rfl
  | append_singleton front last ih =>
    have cut : dropEmptyEnd (front ++ [last]) =
        if last = .empty then dropEmptyEnd front else front ++ [last] := by
      rw [dropEmptyEnd_eq, List.rdropWhile_concat, dropEmptyEnd_eq]
      simp only [decide_eq_true_eq]
    have shorter := length_dropEmptyEnd_le front
    by_cases empty : last = .empty
    · rw [cut, if_pos empty, List.map_append, ← ih, empty, List.append_assoc, List.length_append,
        List.length_singleton, Nat.succ_sub shorter, List.replicate_succ']
      rfl
    · rw [cut, if_neg empty, Nat.sub_self, List.replicate_zero, List.append_nil]

theorem dropEmptyEnd_ne_nil {cells : List WorkbookCell} (used : ∃ c ∈ cells, c ≠ .empty) :
    dropEmptyEnd cells ≠ [] := by
  obtain ⟨c, member, there⟩ := used
  intro nothing
  have empty := List.rdropWhile_eq_nil_iff.1 nothing c member
  exact there (of_decide_eq_true empty)

theorem foldl_max_of_le {width : Nat} {lengths : List Nat} (within : ∀ n ∈ lengths, n ≤ width) :
    lengths.foldl max width = width := by
  induction lengths with
  | nil => rfl
  | cons n lengths ih =>
    obtain ⟨first, rest⟩ := List.forall_mem_cons.1 within
    rw [List.foldl_cons, Nat.max_eq_left first, ih rest]

/-- Below a header whose last cell is not empty, a sheet is read cell by cell, if its rows are as long
as the header and none of them is empty. -/
theorem readWorkbook_eq {header : List WorkbookCell} {data : List (List WorkbookCell)}
    (full : dropEmptyEnd header = header) (named : header ≠ [])
    (aligned : ∀ row ∈ data, row.length = header.length)
    (used : ∀ row ∈ data, ∃ c ∈ row, c ≠ .empty) :
    readWorkbook (header :: data) = (header :: data).map fun row => row.map WorkbookCell.toCell := by
  -- No row is dropped, so the header makes the sheet as wide as its rows were.
  have kept : (((header :: data).map dropEmptyEnd).reverse.dropWhile List.isEmpty).reverse =
      (header :: data).map dropEmptyEnd := by
    refine List.rdropWhile_eq_self_iff.2 fun some_ => ?_
    have last := List.getLast_mem some_
    obtain ⟨row, member, same⟩ := List.mem_map.1 last
    rw [← same, List.isEmpty_iff]
    rcases List.mem_cons.1 member with rfl | member
    · rw [full]
      exact named
    · exact dropEmptyEnd_ne_nil (used row member)
  have width : ((((header :: data).map dropEmptyEnd).map fun row =>
      row.map WorkbookCell.toCell).map List.length).foldl max 0 = header.length := by
    rw [List.map_cons, full, List.map_cons, List.map_cons, List.foldl_cons, List.length_map,
      Nat.max_eq_right (Nat.zero_le _)]
    refine foldl_max_of_le fun n member => ?_
    simp only [List.map_map, List.mem_map, Function.comp_apply, List.length_map] at member
    obtain ⟨row, inside, rfl⟩ := member
    rw [← aligned row inside]
    exact length_dropEmptyEnd_le row
  rw [readWorkbook, kept, rectangular, width, List.map_map, List.map_map]
  refine List.map_congr_left fun row member => ?_
  have long : row.length = header.length := by
    rcases List.mem_cons.1 member with rfl | member
    · rfl
    · exact aligned row member
  show (dropEmptyEnd row).map WorkbookCell.toCell ++ List.replicate (header.length -
    ((dropEmptyEnd row).map WorkbookCell.toCell).length) none = _
  rw [List.length_map, ← long, map_toCell_dropEmptyEnd]

end ParcelStatus.Upload
