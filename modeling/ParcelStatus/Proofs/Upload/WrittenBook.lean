import ParcelStatus.Proofs.Upload.BookCells
import ParcelStatus.Proofs.Upload.Conversion
import ParcelStatus.Proofs.Upload.Shipments

/-!
# The workbook that is written

The sheet of shipments has the rows that are read off the upload, one below the other under the names
of the columns. A workbook keeps texts, the two columns of numbers among them, and missing cells as
they are, and of an amount it keeps sixteen significant digits. Read again, it gives the same rows.

* `formatColumn_eq` — a column of texts, down to the last row;
* `ShipmentRow.WrittenAs`, `ShipmentRow.ReadAs` — a shipment, its row and the row that is read;
* `readBack_of_bookOf` — the sheet that is read has the rows of the sheet that is written;
* `Intake.finish_of_ok`, `Intake.entries_of_read` — the work on an upload that is accepted;
* `Intake.convert_agrees` — sheet, marker, summary and log agree;
* `Intake.convert_rounds_amount` — an amount of seventeen digits.
-/

namespace ParcelStatus.Upload

open Text Log Journal Outcome

/-! ## Columns of texts -/

/-- A cell that is no number stays what it is as a text. -/
theorem FormattedCell.toText_eq {c : FormattedCell} (other : ∀ x, c.value ≠ .number x) :
    c.toText = { value := c.value, format := textFormat } := by
  unfold toText
  split
  case h_1 x same => exact absurd same (other x)
  case h_2 => rfl

theorem usedCount_eq {rows : List (List FormattedCell)}
    (used : ∀ row ∈ rows, ∃ c ∈ row, c.value ≠ .missing) : usedCount rows = rows.length := by
  have last : ∀ row ∈ rows.reverse, ¬(row.all fun c => c.value = .missing) = true := by
    intro row inside all
    obtain ⟨c, cell, there⟩ := used row (List.mem_reverse.1 inside)
    exact there (of_decide_eq_true (List.all_eq_true.1 all c cell))
  unfold usedCount
  cases reversed : rows.reverse with
  | nil =>
    rw [List.reverse_eq_nil_iff.1 reversed]
    rfl
  | cons row rest =>
    have first := last row (reversed ▸ List.mem_cons_self)
    rw [Bool.not_eq_true] at first
    simp only [List.dropWhile, first]
    rw [← reversed, List.length_reverse]

/-- Where no row is without a cell, the whole column below its name becomes texts. -/
theorem formatColumn_eq {header : List FormattedCell} {data : List (List FormattedCell)}
    {name : Text} {place : Nat} (named : columnPlace? (header :: data) name = some place)
    (used : ∀ row ∈ data, ∃ c ∈ row, c.value ≠ .missing) :
    formatColumn (header :: data) name =
      header :: data.map fun row => row.modify place .toText := by
  unfold formatColumn
  rw [named]
  show header :: ((data.take (usedCount data)).map _ ++ data.drop (usedCount data)) = _
  rw [usedCount_eq used, List.take_length, List.drop_length, List.append_nil]

/-! ## Rows -/

/-- A field and a cell of its column: the cell keeps the value, in the format of texts in the columns
of numbers that are texts. -/
structure FieldCell (field : Text × Json) (cell : FormattedCell) : Prop where
  value : cell.value.Keeps field.2
  format : cell.format = if field.1 ∈ textColumns then textFormat else generalFormat

theorem fieldCell_of_plain {name : Text} {v : Json} {c : BookCell} (keeps : c.Keeps v)
    (plain : name ∉ textColumns) : FieldCell (name, v) { value := c } where
  value := keeps
  format := (if_neg plain).symm

theorem keeps_ofText? {o : Option Text} (trimmed : TrimmedIfAny o) :
    BookCell.Keeps ((o.map Json.str).getD .null) (BookCell.ofText? o).stored := by
  cases o with
  | none => exact ⟨rfl, rfl⟩
  | some t => exact BookCell.keeps_ofText (trimmed t rfl).nonempty

theorem fieldCell_of_text {name : Text} {o : Option Text} (trimmed : TrimmedIfAny o)
    (column : name ∈ textColumns) :
    FieldCell (name, (o.map Json.str).getD .null)
      (FormattedCell.toText { value := (BookCell.ofText? o).stored }) := by
  have keeps := keeps_ofText? trimmed
  have other : ∀ x, (BookCell.ofText? o).stored ≠ .number x := by
    intro x number
    have holds := keeps.holds
    rw [number] at holds
    cases o with
    | none => cases holds
    | some t => cases holds.1
  rw [FormattedCell.toText_eq other]
  exact ⟨keeps, (if_pos column).symm⟩

namespace ShipmentRow

/-- The row of a shipment, cell by cell. -/
def WrittenAs (row : ShipmentRow) (cells : List FormattedCell) : Prop :=
  List.Forall₂ FieldCell row.toMembers cells

/-- The row of a shipment as it is read. -/
def ReadAs (row : ShipmentRow) (cells : Row) : Prop :=
  List.Forall₂ (fun field c => ReadsAs field.2 c) row.toMembers cells

/-- The cells of a shipment before its two numbers become texts. -/
def plainCells (row : ShipmentRow) : List FormattedCell :=
  row.bookCells.map fun c => { value := c.stored }

/-- The cells of a shipment as they are written. -/
def writtenCells (row : ShipmentRow) : List FormattedCell :=
  (row.plainCells.modify 0 .toText).modify 11 .toText

/-- No row is without a cell: its status is there. -/
theorem plainCells_used (row : ShipmentRow) : ∃ c ∈ row.plainCells, c.value ≠ .missing := by
  refine ⟨{ value := (BookCell.ofText row.status.text).stored }, ?_, ?_⟩
  · simp [plainCells, bookCells]
  · cases row.status <;> decide

theorem modify_plainCells_used (row : ShipmentRow) :
    ∃ c ∈ row.plainCells.modify 0 .toText, c.value ≠ .missing := by
  refine ⟨{ value := (BookCell.ofText row.status.text).stored }, ?_, ?_⟩
  · simp [plainCells, bookCells]
  · cases row.status <;> decide

theorem length_writtenCells (row : ShipmentRow) : row.writtenCells.length = 12 := by
  rw [writtenCells, List.length_modify, List.length_modify]
  rfl

/-- Nor does a row read as an empty one. -/
theorem writtenCells_used (row : ShipmentRow) :
    ∃ c ∈ row.writtenCells, c.value.toWorkbook ≠ .empty := by
  refine ⟨{ value := (BookCell.ofText row.status.text).stored }, ?_, ?_⟩
  · simp [writtenCells, plainCells, bookCells]
  · cases row.status <;> decide

/-- The row that is read. -/
def readCells (row : ShipmentRow) : Row :=
  row.writtenCells.map fun c => c.value.toWorkbook.toCell

theorem WrittenAs.readAs {row : ShipmentRow} (written : row.WrittenAs row.writtenCells) :
    row.ReadAs row.readCells := by
  rw [ReadAs, readCells, List.forall₂_map_right_iff]
  exact written.imp fun _ _ cell => cell.value.reads

theorem writtenAs_row {row : ShipmentRow} (texts : ∀ o ∈ row.texts, TrimmedIfAny o) :
    row.WrittenAs row.writtenCells := by
  simp only [ShipmentRow.texts, List.forall_mem_cons] at texts
  obtain ⟨tracking, name, address, city, zip, time, phone, consignment, -⟩ := texts
  have date : row.commitDate.iso ≠ [] := by
    obtain ⟨ys, ms, ds, same, -⟩ := isoForm_iso row.commitDate
    rw [same]
    exact List.append_ne_nil_of_right_ne_nil ys (List.cons_ne_nil _ _)
  have status : row.status.text ≠ [] := by cases row.status <;> decide
  have priority : row.priority.text ≠ [] := by cases row.priority <;> decide
  have text : ∀ {name o}, TrimmedIfAny o → name ∉ textColumns →
      FieldCell (name, (o.map Json.str).getD .null) { value := (BookCell.ofText? o).stored } :=
    fun trimmed plain => fieldCell_of_plain (keeps_ofText? trimmed) plain
  show List.Forall₂ FieldCell (_ :: _ :: _ :: _ :: _ :: _ :: _ :: _ :: _ :: _ :: _ :: _ :: [])
    (_ :: _ :: _ :: _ :: _ :: _ :: _ :: _ :: _ :: _ :: _ :: _ :: [])
  refine .cons (fieldCell_of_text tracking (by decide)) ?_
  refine .cons (text name (by decide)) (.cons (text address (by decide)) ?_)
  refine .cons (text city (by decide)) (.cons (text zip (by decide)) ?_)
  refine .cons (fieldCell_of_plain (BookCell.keeps_ofText date) (by decide)) ?_
  refine .cons (fieldCell_of_plain (BookCell.keeps_ofText (time _ rfl).nonempty) (by decide)) ?_
  refine .cons (text phone (by decide)) ?_
  refine .cons (fieldCell_of_plain (BookCell.keeps_ofText status) (by decide)) ?_
  refine .cons (fieldCell_of_plain (BookCell.keeps_ofText priority) (by decide)) ?_
  refine .cons (fieldCell_of_plain (BookCell.keeps_ofNumber row.paymentAmount) (by decide)) ?_
  exact .cons (fieldCell_of_text consignment (by decide)) .nil

end ShipmentRow

/-! ## The sheet -/

theorem storeRows_eq_ok {rows stored : List (List BookCell)} (ok : storeRows rows = .ok stored) :
    stored = rows.map fun row => row.map BookCell.stored := by
  unfold storeRows at ok
  split at ok
  · cases ok
  · cases ok
    rfl

/-- The names of the columns as cells. -/
def headerCells : List FormattedCell := columnNames.map fun name => { value := .text name }

/-- The columns of texts lie at the ends of the rows, and no row is without a cell. -/
theorem format_plainCells (rows : List ShipmentRow) :
    textColumns.foldl formatColumn (headerCells :: rows.map ShipmentRow.plainCells) =
      headerCells :: rows.map ShipmentRow.writtenCells := by
  have first (data : List (List FormattedCell)) :
      columnPlace? (headerCells :: data) "trackingNumber".toList = some 0 := by
    show headerCells.findIdx? _ = some 0
    decide
  have last (data : List (List FormattedCell)) :
      columnPlace? (headerCells :: data) "consNumber".toList = some 11 := by
    show headerCells.findIdx? _ = some 11
    decide
  rw [textColumns, List.foldl_cons, List.foldl_cons, List.foldl_nil]
  rw [formatColumn_eq (first _), List.map_map, formatColumn_eq (last _), List.map_map]
  · rfl
  · intro cells inside
    obtain ⟨row, -, rfl⟩ := List.mem_map.1 inside
    exact row.modify_plainCells_used
  · intro cells inside
    obtain ⟨row, -, rfl⟩ := List.mem_map.1 inside
    exact row.plainCells_used

theorem shipments_of_bookOf {rows : List ShipmentRow} {marker : Marker} {book : Book}
    (written : bookOf rows marker = .ok book) :
    book.shipments = headerCells :: rows.map ShipmentRow.writtenCells := by
  unfold bookOf at written
  simp only [bind_eq_ok_iff] at written
  obtain ⟨stored, shipments, about, -, same⟩ := written
  cases same
  rw [storeRows_eq_ok shipments, ← format_plainCells]
  simp only [List.map_cons, List.map_map]
  rfl

/-- The sheet that is read has the names of the columns and a row for each shipment. -/
theorem readBack_of_bookOf {rows : List ShipmentRow} {marker : Marker} {book : Book}
    (written : bookOf rows marker = .ok book) :
    book.readBack = columnNames.map some :: rows.map ShipmentRow.readCells := by
  have full : dropEmptyEnd (headerCells.map fun c => c.value.toWorkbook) =
      headerCells.map fun c => c.value.toWorkbook := by decide
  have named : headerCells.map (fun c => c.value.toWorkbook) ≠ [] := by decide
  have names : (headerCells.map fun c => c.value.toWorkbook).map WorkbookCell.toCell =
      columnNames.map some := by decide
  rw [Book.readBack, shipments_of_bookOf written, List.map_cons, readWorkbook_eq full named,
    List.map_cons, names, List.map_map, List.map_map]
  · rfl
  · intro cells inside
    simp only [List.map_map, List.mem_map, Function.comp_apply] at inside
    obtain ⟨row, -, rfl⟩ := inside
    rw [List.length_map, row.length_writtenCells]
    rfl
  · intro cells inside
    simp only [List.map_map, List.mem_map, Function.comp_apply] at inside
    obtain ⟨row, -, rfl⟩ := inside
    obtain ⟨c, cell, there⟩ := row.writtenCells_used
    exact ⟨_, List.mem_map_of_mem cell, there⟩

/-- What the sheet about an upload tells of its layout and its shipments. -/
structure MarkerTells (book : Book) (layout : Layout) (count : Nat) : Prop where
  sheet : ∃ names values, book.marker = [names, values] ∧
    names[3]? = some (.text "layout".toList) ∧ values[3]? = some (.text layout.tag) ∧
    names[5]? = some (.text "output_rows".toList) ∧ values[5]? = some (.number (.ofInt count))
  exact : count < 2 ^ 53 → (Binary64.ofInt count).toInt? = some (count : Int)

theorem marker_tells {rows : List ShipmentRow} {marker : Marker} {book : Book}
    (written : bookOf rows marker = .ok book) : MarkerTells book marker.layout marker.rowCount where
  sheet := by
    unfold bookOf at written
    simp only [bind_eq_ok_iff] at written
    obtain ⟨_, -, about, stored, same⟩ := written
    cases same
    rw [storeRows_eq_ok stored]
    refine ⟨_, _, rfl, rfl, ?_, rfl, rfl⟩
    cases marker.layout <;> rfl
  exact small := Binary64.toInt?_ofInt small

/-! ## The work on an upload -/

/-- Work with a result is done in both of its parts. -/
theorem bind_of_ok {ε α β : Type} {x : Journal ε α} {f : α → Journal ε β} {b : β}
    (done : (x >>= f).outcome = .ok b) :
    ∃ a, x.outcome = .ok a ∧ (f a).outcome = .ok b ∧
      (x >>= f).entries = x.entries ++ (f a).entries := by
  rw [outcome_bind] at done
  obtain ⟨a, first, rest⟩ := bind_eq_ok_iff.1 done
  exact ⟨a, first, rest, entries_bind_of_ok first f⟩

theorem unlessBarred_of_ok {α : Type} {barred : Bool} {f : Fault} {work : Journal Fault α} {a : α}
    (done : (unlessBarred barred f work).outcome = .ok a) :
    work.outcome = .ok a ∧ (unlessBarred barred f work).entries = work.entries := by
  cases barred with
  | true => cases done
  | false => exact ⟨done, rfl⟩

namespace Intake

variable {p : Intake} {d : Disk} {input parsed : Path} {timestamp : Text} {layout : Layout}
  {rows : List ShipmentRow} {summary : Summary} {book : Book}

/-- The entry that tells how many rows an upload has and how many shipments were read off them. -/
def countEntry (p : Intake) (l : Layout) (s : Sheet) (rows : List ShipmentRow) : Entry :=
  ⟨info, p.logger, "parse_by_layout(".toList ++ l.tag ++ "): ".toList ++ ofNat s.length
    ++ " -> ".toList ++ ofNat rows.length ++ " rows".toList⟩

/-- The entry that tells that the workbook was written. -/
def doneEntry (p : Intake) (parsed : Path) : Entry :=
  ⟨info, p.logger, "Wrote parsed workbook → ".toList ++ parsed.text⟩

/-- The row about an upload. -/
def markerOf (input parsed : Path) (timestamp : Text) (layout : Layout) (rows : List ShipmentRow) :
    Marker where
  inputName := input.name
  outputName := parsed.name
  layout := layout
  timestamp := timestamp
  rowCount := rows.length

theorem holdsSheet_of_read (read : (p.read d input).outcome = .ok (layout, rows)) :
    ∃ s, HoldsSheet d input s := by
  unfold Intake.read at read
  cases short : d.isTooLong input with
  | true =>
    rw [short] at read
    cases read
  | false =>
    cases there : d.hasPath input with
    | false =>
      rw [short, there] at read
      cases read
    | true =>
      cases sheet : readSheet d input with
      | ok s => exact ⟨s, short, sheet⟩
      | error f =>
        rw [short, there, sheet] at read
        cases read

theorem finish_of_ok
    (done : (p.finish d input parsed timestamp layout rows).outcome = .ok (summary, book)) :
    bookOf rows (markerOf input parsed timestamp layout rows) = .ok book ∧
    summary.layout = layout ∧ summary.rowCount = rows.length ∧
    (p.finish d input parsed timestamp layout rows).entries = [p.doneEntry parsed] := by
  unfold finish at done
  obtain ⟨done, entries₁⟩ := unlessBarred_of_ok done
  obtain ⟨d', -, done, entries₂⟩ := bind_of_ok done
  -- Nothing bars the work behind the directories: no null character, no length and no directory.
  obtain ⟨done, entries₃⟩ := unlessBarred_of_ok done
  obtain ⟨done, entries₄⟩ := unlessBarred_of_ok done
  obtain ⟨done, entries₅⟩ := unlessBarred_of_ok done
  obtain ⟨book', written, done, entries₆⟩ := bind_of_ok done
  obtain ⟨done, entries₇⟩ := unlessBarred_of_ok done
  cases done
  refine ⟨mapError_eq_ok_iff.1 written, rfl, rfl, ?_⟩
  rw [finish, entries₁, entries₂, entries₃, entries₄, entries₅, entries₆, entries₇]
  rfl

/-- The entries about an upload that is read: it is opened, its layout is told, and its rows are
counted. -/
theorem entries_of_read {s : Sheet} (holds : HoldsSheet d input s)
    (read : (p.read d input).outcome = .ok (layout, rows)) :
    ∃ opened told, (p.read d input).entries = [opened, told, p.countEntry layout s rows] := by
  rw [read_of_sheet holds] at read ⊢
  unfold tell at read ⊢
  obtain ⟨⟨⟩, -, read, entries⟩ := bind_of_ok read
  rw [entries]
  obtain ⟨l, laidOut, read, entries⟩ := bind_of_ok read
  rw [entries]
  cases read
  obtain ⟨told, only⟩ : ∃ told, (p.layoutOf s).entries = [told] := by
    unfold layoutOf
    split
    · exact ⟨_, rfl⟩
    · dsimp only
      split <;> exact ⟨_, rfl⟩
  rw [only]
  exact ⟨_, told, rfl⟩

/-- The shipments that are read off an upload have trimmed texts. -/
theorem texts_of_read {s : Sheet} (holds : HoldsSheet d input s)
    (read : (p.read d input).outcome = .ok (layout, rows)) :
    ∀ row ∈ rows, ∀ o ∈ row.texts, TrimmedIfAny o := by
  rw [p.outcome_read holds, parse_eq] at read
  cases known : p.layoutFor? s with
  | none =>
    rw [known] at read
    cases read
  | some l =>
    rw [known] at read
    cases read
    intro row inside
    obtain ⟨r, -, rfl⟩ := List.mem_map.1 inside
    exact texts_ofRow layout p.today r

end Intake

/-! ## Sheet, marker, summary and log -/

/-- What is written about an upload is told of the same shipments in the same order. -/
structure Agrees (p : Intake) (parsed : Path) (s : Sheet) (layout : Layout)
    (rows : List ShipmentRow) (summary : Summary) (book : Book) (entries : List Entry) : Prop where
  header : book.shipments.head? = some (columnNames.map fun name => { value := .text name })
  sheet : List.Forall₂ ShipmentRow.WrittenAs rows (book.shipments.drop 1)
  /-- Reading the workbook gives the names of the columns and the shipments. -/
  readBack : ∃ read, book.readBack = columnNames.map some :: read ∧
    List.Forall₂ ShipmentRow.ReadAs rows read
  marker : MarkerTells book layout rows.length
  laidOut : summary.layout = layout
  count : summary.rowCount = rows.length
  log : ∃ opened told, entries = [opened, told, p.countEntry layout s rows, p.doneEntry parsed]

/-- An upload that is accepted: its shipments are those that reading it gives, and the sheet, the
marker, the summary and the log agree on them. -/
theorem Intake.convert_agrees {p : Intake} {d : Disk} {input parsed : Path} {timestamp : Text}
    {summary : Summary} {book : Book}
    (accepted : (p.convert d input parsed timestamp).outcome = .ok (summary, book)) :
    ∃ s layout rows, readSheet d input = .ok s ∧ (p.read d input).outcome = .ok (layout, rows) ∧
      Agrees p parsed s layout rows summary book
        (p.convert d input parsed timestamp).entries := by
  rw [convert_eq] at accepted ⊢
  obtain ⟨⟨layout, rows⟩, read, done, entries⟩ := bind_of_ok accepted
  obtain ⟨s, holds⟩ := holdsSheet_of_read read
  obtain ⟨written, laidOut, count, wrote⟩ := finish_of_ok done
  obtain ⟨opened, told, before⟩ := entries_of_read holds read
  have shipments := shipments_of_bookOf written
  have cells (row : ShipmentRow) (inside : row ∈ rows) : row.WrittenAs row.writtenCells :=
    ShipmentRow.writtenAs_row (texts_of_read holds read row inside)
  refine ⟨s, layout, rows, holds.sheet, read, ?_, ?_, ⟨_, readBack_of_bookOf written, ?_⟩,
    marker_tells written, laidOut, count, ?_⟩
  · rw [shipments]
    rfl
  · rw [shipments]
    show List.Forall₂ ShipmentRow.WrittenAs rows (rows.map ShipmentRow.writtenCells)
    rw [List.forall₂_map_right_iff, List.forall₂_same]
    exact cells
  · rw [List.forall₂_map_right_iff, List.forall₂_same]
    exact fun row inside => (cells row inside).readAs
  · refine ⟨opened, told, ?_⟩
    rw [entries, before, wrote]
    rfl

/-- A file of comma-separated values in the layout `CABORCA`. -/
def amountUpload (rows : List String) : Disk :=
  let header := "h0,h1,Recip Addr,h3,h4,h5,h6,h7,Last Comm Scan,h9,h10"
  let text := join ['\n'] ((header :: rows).map String.toList)
  { files := [(["c.csv".toList], .octets (encode text))] }

/-- The intake of a day. -/
def dayIntake : Intake := { today := ⟨2025, 1, 15, by decide⟩ }

/-- The work on the file `c.csv`. -/
def converted (d : Disk) : Journal Fault (Summary × Book) :=
  dayIntake.convert d (.ofText "c.csv".toList) (.ofText "p.xlsx".toList) "now".toList

/-- A shipment with a long number and an amount, and one with nothing but a city. -/
def mixedUpload : Disk :=
  amountUpload ["00999888777666555444,Luis,,,,01/14/2020,,,COD 420.5,,10:00", ",,,Caborca,,,,,,,"]

theorem Intake.convert_agrees_of_mixed :
    ∃ summary book, (converted mixedUpload).outcome = .ok (summary, book) ∧
      summary.rowCount = 2 ∧
      ∃ s rows, Agrees dayIntake (.ofText "p.xlsx".toList) s .caborca rows summary book
        (converted mixedUpload).entries := by
  have accepts : (converted mixedUpload).outcome.toOption.map
      (fun done => (done.1.layout, done.1.rowCount)) = some (.caborca, 2) := by
    decide +kernel
  obtain ⟨⟨summary, book⟩, accepted, same⟩ := toOption_map_eq_some_iff.1 accepts
  obtain ⟨s, layout, rows, -, -, agrees⟩ := Intake.convert_agrees accepted
  have laidOut := agrees.laidOut
  simp only [Prod.mk.injEq] at same
  rw [same.1] at laidOut
  subst laidOut
  exact ⟨summary, book, accepted, same.2, s, rows, agrees⟩

/-- An amount of seventeen significant digits. -/
def longAmountUpload : Disk :=
  amountUpload ["999,Luis,Calle 2,Caborca,83600,01/14/2020,637,,COD 0.30000000000000004,,10:00"]

/-- The amount that is read off the upload is another number than that in its cell. -/
theorem Intake.convert_rounds_amount :
    ∃ summary book layout rows, (converted longAmountUpload).outcome = .ok (summary, book) ∧
      (dayIntake.read longAmountUpload (.ofText "c.csv".toList)).outcome = .ok (layout, rows) ∧
      ∃ x y : Binary64, rows.map ShipmentRow.paymentAmount = [some x] ∧
        book.shipments[1]?.bind (·[10]?) = some { value := .number y } ∧ y ≠ x := by
  have writes : (converted longAmountUpload).outcome.toOption.map
      (fun done => done.2.shipments[1]?.bind (·[10]?)) =
        some (some { value := .number (.finite false 5404319552844595 (-54)) }) := by
    decide +kernel
  have reads : (dayIntake.read longAmountUpload (.ofText "c.csv".toList)).outcome.toOption.map
      (fun done => done.2.map ShipmentRow.paymentAmount) =
        some [some (.finite false 5404319552844596 (-54))] := by
    decide +kernel
  obtain ⟨⟨summary, book⟩, accepted, cell⟩ := toOption_map_eq_some_iff.1 writes
  obtain ⟨⟨layout, rows⟩, read, amount⟩ := toOption_map_eq_some_iff.1 reads
  exact ⟨summary, book, layout, rows, accepted, read, _, _, amount, cell, by decide⟩

end ParcelStatus.Upload
