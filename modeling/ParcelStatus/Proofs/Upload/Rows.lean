import ParcelStatus.Upload.Intake
import ParcelStatus.Proofs.Outcome
import ParcelStatus.Proofs.Text.Phrase

/-!
# Rows of a sheet

What is read off a sheet once it is off the disk: which rows are blank, the layout that counts, the
place where data begins, and the shipments.

* `Row.isBlank_iff` — a row is blank when no cell of it has a text of anything but blanks;
* `shipmentRows_eq` — the shipments are those of the rows with data, in their order;
* `Intake.parse`, `Intake.outcome_read` — an upload comes to what its sheet comes to;
* `Intake.outcome_layoutOf` — the layout is the given one, or the one of the header.
-/

namespace ParcelStatus.Upload

open Text Outcome Log Journal

/-! ## Blank rows -/

theorem Cell.content_some (t : Text) :
    Cell.content (some t) = if trim t = [] then none else some (trim t) := by
  unfold Cell.content
  cases trimmed : trim t <;> simp [trimmed]

theorem Cell.content_eq_none_iff {c : Cell} :
    c.content = none ↔ ∀ t, c = some t → ∀ ch ∈ t, Text.isBlank ch = true := by
  cases c with
  | none => simp [Cell.content]
  | some t =>
    rw [Cell.content_some, ite_eq_left_iff, trim_eq_nil_iff]
    simp

/-- No cell of the row has a text of anything but blanks. -/
def Row.Blank (r : Row) : Prop := ∀ t, some t ∈ r → ∀ ch ∈ t, Text.isBlank ch = true

theorem Row.isBlank_iff {r : Row} : Row.isBlank r = true ↔ Row.Blank r := by
  simp only [Row.isBlank, List.all_eq_true, Cell.isBlank, Option.isNone_iff_eq_none,
    Cell.content_eq_none_iff, Row.Blank]
  constructor
  · intro blank t member
    exact blank (some t) member t rfl
  · rintro blank c member t rfl
    exact blank t member

/-- The rows with anything but blanks. -/
def dataRows (s : Sheet) : Sheet := s.filter fun r => !Row.isBlank r

theorem dataRows_eq_nil {s : Sheet} (blank : ∀ r ∈ s, Row.Blank r) : dataRows s = [] := by
  rw [dataRows, List.filter_eq_nil_iff]
  intro r member
  simp [Row.isBlank_iff.2 (blank r member)]

/-! ## Shipments -/

theorem rowsFrom_natCast (s : Sheet) (n : Nat) : rowsFrom s n = s.drop n := by
  have notNegative : ¬(n : Int) < 0 := by omega
  rw [rowsFrom, if_neg notNegative, Int.toNat_natCast]

theorem shipmentRows_eq (s : Sheet) (layout : Layout) (today : Date) (header : Nat) :
    shipmentRows s layout today header =
      (dataRows (s.drop (header + layout.dataStart))).map (.ofRow layout.columns today) := by
  rw [shipmentRows, ← Int.natCast_add, rowsFrom_natCast, dataRows]

namespace Intake

variable (p : Intake) (s : Sheet)

/-- The layout that counts for a sheet: the given one, or the one of its header. -/
def layoutFor? : Option Layout := p.layout.or (Layout.ofHeader? (headerRow s))

theorem outcome_layoutOf :
    (p.layoutOf s).outcome =
      (p.layoutFor? s).elim (.error (.unsupported ⟨headerRow s⟩)) .ok := by
  unfold layoutOf layoutFor?
  cases p.layout with
  | some l => rfl
  | none =>
    simp only [Layout.ofHeader, Option.none_or]
    cases Layout.ofHeader? (headerRow s) <;> rfl

/-- The place where the data of a sheet begins. -/
def dataPlace : Nat := (headerIndex s).getD 0 + (p.layoutFor? s).elim 1 Layout.dataStart

/-- The layout and the shipments of a sheet. -/
def parse : Except Fault (Layout × List ShipmentRow) :=
  (p.layoutOf s).outcome.map fun layout =>
    (layout, shipmentRows s layout p.today ((headerIndex s).getD 0))

theorem parse_eq :
    p.parse s = (p.layoutFor? s).elim (.error (.unsupported ⟨headerRow s⟩)) fun layout =>
      .ok (layout, (dataRows (s.drop (p.dataPlace s))).map (.ofRow layout.columns p.today)) := by
  have header : ((headerIndex s).getD 0 : Int) = ((headerIndex s).getD 0 : Nat) := by
    cases headerIndex s <;> rfl
  unfold parse dataPlace
  rw [outcome_layoutOf]
  cases p.layoutFor? s with
  | none => rfl
  | some layout =>
    simp only [Option.elim_some, map_ok]
    rw [header, shipmentRows_eq]

end Intake

/-- The path can be looked up and leads to a file with the sheet. -/
structure HoldsSheet (d : Disk) (input : Path) (s : Sheet) : Prop where
  short : d.isTooLong input = false
  sheet : readSheet d input = .ok s

theorem HoldsSheet.hasPath {d : Disk} {input : Path} {s : Sheet} (holds : HoldsSheet d input s) :
    d.hasPath input = true := by
  have sheet := holds.sheet
  unfold readSheet at sheet
  unfold Disk.hasPath
  cases found : d.find input with
  | nothing =>
    simp only [holds.short, found, Bool.false_eq_true, if_false] at sheet
    cases sheet
  | file contents => rfl
  | directory => rfl

/-- An upload comes to what its sheet comes to, wherever the sheet is kept. -/
theorem Intake.outcome_read (p : Intake) {d : Disk} {input : Path} {s : Sheet}
    (holds : HoldsSheet d input s) : (p.read d input).outcome = p.parse s := by
  unfold Intake.read Intake.parse
  simp only [holds.short, holds.hasPath, holds.sheet, Bool.not_true, Bool.false_eq_true, if_false,
    outcome_bind, outcome_pure, outcome_ofExcept, outcome_write, ok_bind]
  cases (p.layoutOf s).outcome <;> rfl

end ParcelStatus.Upload
