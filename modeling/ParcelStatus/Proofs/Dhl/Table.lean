import ParcelStatus.Proofs.Dhl.Rows
import ParcelStatus.Proofs.Tracking.Dates

/-!
# Tables of checkpoints

A table that is written out is read back: one event for each row, in the order of the rows, with the
cells of the row in their places.

* `readLines_table` — the lines of a table put the events of its rows behind those of the shipment;
* `shipmentsOf_of_table` — the shipments of a report that is one block with a table;
* `shipmentsOf_table` — a written table is read exactly when the dates of all its rows can be, and
  then gives the events of its rows.
-/

namespace ParcelStatus.Dhl

open Text Outcome

/-! ## Lines of a table -/

/-- The lines of a table, each with the event that it gives, leave the section as it is. -/
theorem readLines_table [Present] {awb : Text} {rows : List TableRow} {lines : List Text}
    (data : ∀ line ∈ lines, lineKind line = .data)
    (gives : List.Forall₂ (fun row line => eventOfLine awb line = row.read.map some) rows lines)
    {s : Shipment} (own : s.awb = awb) :
    lines.foldlM readLine (.events, s) =
      (rows.mapM TableRow.read).map fun events =>
        (.events, { s with events := s.events ++ events }) := by
  induction gives generalizing s with
  | nil => simp
  | @cons row line rows lines first rest ih =>
    obtain ⟨firstData, restData⟩ := List.forall_mem_cons.1 data
    rw [← own] at first
    rw [List.foldlM_cons, readLine_data_events s firstData, first, List.mapM_cons]
    cases row.read with
    | error fault => rfl
    | ok e =>
      show lines.foldlM readLine (.events, { s with events := s.events ++ [e] }) = _
      rw [ih restData (s := { s with events := s.events ++ [e] }) own]
      cases rows.mapM TableRow.read with
      | error fault => rfl
      | ok events => simp

/-- Lines of which none begins a block belong to the block before them. -/
theorem splitBlocks_of_data {lines : List Text} (data : ∀ line ∈ lines, lineKind line = .data) :
    splitBlocks lines = (lines, []) := by
  induction lines with
  | nil => rfl
  | cons line rest ih =>
    obtain ⟨first, behind⟩ := List.forall_mem_cons.1 data
    simp only [splitBlocks, ih behind, first]

/-- The first line of the block of a waybill. -/
def startLine (awb : Text) : Text := awbMark ++ ' ' :: awb

theorem lineKind_awbMark (t : Text) : lineKind (trim (awbMark ++ t)) = .awb (trim t) := by
  have mark : Trimmed awbMark := by decide
  rw [mark.trim_append]
  simp only [lineKind, dropPrefix?_append, trim_trimRight]

theorem lineKind_startLine (awb : Text) : lineKind (trim (startLine awb)) = .awb (trim awb) := by
  have blank : trim (' ' :: awb) = trim awb := trim_blanks_append blank_space awb
  rw [startLine, lineKind_awbMark, blank]

variable {awb heading report : Text} {rows : List TableRow} {written : List Text}

/-- The shipments of a report that is the table of one waybill. -/
theorem shipmentsOf_of_table [Present] (cell : Cell awb) (long : minNumberLength ≤ awb.length)
    (isHeading : lineKind (trim heading) = .events)
    (table : List.Forall₂ (fun row line => row.WrittenAs awb line) rows written)
    (plain : ∀ line ∈ written, PlainLine (trim line))
    (lined : Lined (startLine awb :: heading :: written) report) :
    shipmentsOf report = (rows.mapM TableRow.read).map fun events => [{ awb, events }] := by
  have data : ∀ line ∈ written.map trim, lineKind line = .data := by
    intro line member
    obtain ⟨raw, inTable, rfl⟩ := List.mem_map.1 member
    exact (plain raw inTable).data
  have gives : List.Forall₂ (fun row line => eventOfLine awb line = row.read.map some) rows
      (written.map trim) := by
    rw [List.forall₂_map_right_iff]
    refine List.forall₂_iff_get.2 ⟨table.length_eq, fun i inRows inTable => ?_⟩
    have row := (List.forall₂_iff_get.1 table).2 i inRows inTable
    exact row.eventOfLine long (plain _ (List.get_mem written _))
  have blocks : blocksOf report = [⟨awb, trim heading :: written.map trim⟩] := by
    rw [blocksOf, lined.lines_eq, List.map_cons, List.map_cons, splitBlocks,
      lineKind_startLine, cell.trimmed.trim_eq]
    simp [splitBlocks, splitBlocks_of_data data, isHeading]
  rw [shipmentsOf, blocks, List.mapM_cons, List.mapM_nil, Shipment.ofBlock, List.foldlM_cons]
  have opens : readLine (.other, { awb }) (trim heading) = .ok (.events, { awb }) := by
    simp only [readLine, isHeading]
  rw [opens, ok_bind, readLines_table data gives rfl]
  cases rows.mapM TableRow.read with
  | error fault => rfl
  | ok events => rfl

/-- A written table is read exactly when the dates of all its rows can be, and then it is the trail
of one shipment: an event for each row, with the cells of the row. -/
theorem shipmentsOf_table [Present] (cell : Cell awb) (long : minNumberLength ≤ awb.length)
    (isHeading : lineKind (trim heading) = .events)
    (table : List.Forall₂ (fun row line => row.WrittenAs awb line) rows written)
    (plain : ∀ line ∈ written, PlainLine (trim line))
    (lined : Lined (startLine awb :: heading :: written) report) :
    ((∃ shipments, shipmentsOf report = .ok shipments) ↔ ∀ row ∈ rows, Datable (.str row.date)) ∧
      ∀ shipments, shipmentsOf report = .ok shipments → ∃ events, shipments = [{ awb, events }] ∧
        List.Forall₂ (fun row e => ∃ date, readDate (.str row.date) = .ok date ∧
          e = row.event row.remarks date) rows events := by
  rw [shipmentsOf_of_table cell long isHeading table plain lined]
  constructor
  · have each (row : TableRow) : RestsOn row.read [.str row.date] := by
      unfold TableRow.read RowHead.read
      exact (restsOn_readDate (.str row.date)).map _
    rw [((restsOn_mapM each rows).map _).returns_iff, ← List.map_eq_flatMap, List.forall_mem_map]
  · intro shipments read
    obtain ⟨events, each, rfl⟩ := map_eq_ok_iff.1 read
    refine ⟨events, rfl, ?_⟩
    refine ((mapM_eq_ok_iff TableRow.read rows events).1 each).imp fun row e gives => ?_
    obtain ⟨date, dated, rfl⟩ := map_eq_ok_iff.1 gives
    exact ⟨date, dated, rfl⟩

/-! ## Tables of two rows -/

/-- The number of the waybill of the tables below. -/
def tableNumber : Text := "1234567890".toList

/-- The heading that reports have above their checkpoints. -/
def columnHeading : Text :=
  "AWB/PID     Orig  Dest  Facility  Route  Code  Date/Time         Data  Remark".toList

/-- A row of the table with two blanks between its cells. -/
def TableRow.line (row : TableRow) : Text :=
  join [' ', ' '] (tableNumber :: (row.columns ++ row.remarks))

/-- A row whose number is left blank. -/
def TableRow.shortLine (row : TableRow) : Text :=
  List.replicate 12 ' ' ++ join [' ', ' '] (row.columns ++ row.remarks)

/-- The report of a table with these lines. -/
def tableReport (lines : List Text) : Text :=
  join ['\n'] (startLine tableNumber :: columnHeading :: lines)

theorem TableRow.line_writtenAs (row : TableRow) : row.WrittenAs tableNumber row.line := by
  have each : ∀ t ∈ tableNumber :: (row.columns ++ row.remarks), Cell t :=
    List.forall_mem_cons.2 ⟨by decide, List.forall_mem_append.2 ⟨row.filled, row.remarked⟩⟩
  show row.WrittenAs tableNumber ([] ++ row.line)
  exact .full (by decide) (.of_join (by decide) (by simp) each)

theorem TableRow.shortLine_writtenAs {row : TableRow} (short : row.orig.length < minNumberLength) :
    row.WrittenAs tableNumber row.shortLine := by
  have each : ∀ t ∈ row.columns ++ row.remarks, Cell t :=
    List.forall_mem_append.2 ⟨row.filled, row.remarked⟩
  exact .blank (by decide) short (.of_join (by decide) (by simp [RowHead.columns]) each)

/-- A parcel that is picked up. -/
def pickedUp : TableRow where
  orig := "MEX".toList
  dest := "HMO".toList
  facility := "MEX".toList
  route := "R1".toList
  code := "PU".toList
  date := "2025-01-08 10:15".toList
  data := "Y".toList
  filled := by decide
  remarks := ["Shipment picked up".toList, "by hand".toList]
  remarked := by decide

/-- A parcel that is delivered, without a remark. -/
def delivered : TableRow where
  orig := "MEX".toList
  dest := "HMO".toList
  facility := "HMO".toList
  route := "R3".toList
  code := "FD".toList
  date := "2025-01-09 09:00".toList
  data := "Y".toList
  filled := by decide
  remarks := []
  remarked := by decide

/-- A row whose date names the year zero. -/
def yearZero : TableRow :=
  { delivered with
    date := "0000-01-01".toList
    filled := by decide }

attribute [local instance] Present.sample

/-- A table of two rows, the second without its number. -/
theorem shipmentsOf_table_of_two_rows :
    (∀ line ∈ [pickedUp.line, delivered.shortLine], PlainLine (trim line)) ∧
      ∃ shipments, shipmentsOf (tableReport [pickedUp.line, delivered.shortLine]) = .ok shipments ∧
        ∃ events, shipments = [{ awb := tableNumber, events }] ∧
          events.map (·.eventType) = ["PU".toList, "FD".toList] := by
  have plain : ∀ line ∈ [pickedUp.line, delivered.shortLine], PlainLine (trim line) := by
    decide +kernel
  have table : List.Forall₂ (fun row line => row.WrittenAs tableNumber line) [pickedUp, delivered]
      [pickedUp.line, delivered.shortLine] :=
    .cons pickedUp.line_writtenAs (.cons (TableRow.shortLine_writtenAs (by decide)) .nil)
  have lined : Lined
      (startLine tableNumber :: columnHeading :: [pickedUp.line, delivered.shortLine])
      (tableReport [pickedUp.line, delivered.shortLine]) := .of_join (by decide +kernel) (by decide)
  obtain ⟨returns, gives⟩ :=
    shipmentsOf_table (by decide) (by decide) (by decide +kernel) table plain lined
  have dates : ∀ row ∈ [pickedUp, delivered], Datable (.str row.date) := by
    have first : readDate (.str pickedUp.date) = .ok { instant := 1736331300000000 } := by decide +kernel
    have second : readDate (.str delivered.date) = .ok { instant := 1736413200000000 } := by decide +kernel
    simp only [List.forall_mem_cons, List.not_mem_nil, false_imp_iff, implies_true, and_true]
    exact ⟨readDate_returns_iff.1 ⟨_, first⟩, readDate_returns_iff.1 ⟨_, second⟩⟩
  obtain ⟨shipments, read⟩ := returns.2 dates
  obtain ⟨events, same, each⟩ := gives shipments read
  refine ⟨plain, shipments, read, events, same, ?_⟩
  cases each with
  | cons first rest =>
    cases rest with
    | cons second rest =>
      cases rest
      obtain ⟨_, -, rfl⟩ := first
      obtain ⟨_, -, rfl⟩ := second
      rfl

/-- A plain table that is not read at all, as one of its dates names the year zero. -/
theorem shipmentsOf_table_at_year_zero :
    List.Forall₂ (fun row line => row.WrittenAs tableNumber line) [pickedUp, yearZero]
        [pickedUp.line, yearZero.line] ∧
      (∀ line ∈ [pickedUp.line, yearZero.line], PlainLine (trim line)) ∧
      ∀ shipments, shipmentsOf (tableReport [pickedUp.line, yearZero.line]) ≠ .ok shipments := by
  refine ⟨.cons pickedUp.line_writtenAs (.cons yearZero.line_writtenAs .nil), by decide +kernel, ?_⟩
  intro shipments
  have fails : shipmentsOf (tableReport [pickedUp.line, yearZero.line]) =
      .error (.yearOutOfRange 0) := by decide +kernel
  rw [fails]
  simp

end ParcelStatus.Dhl
