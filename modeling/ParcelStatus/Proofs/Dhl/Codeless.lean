import ParcelStatus.Proofs.Dhl.Recording
import ParcelStatus.Proofs.Tracking.Dates

/-!
# Rows without a code

A column that is left blank has no width of its own: what stands behind it moves one column to the
left. A row whose code is blank still has enough columns to be read, and is read as a row with its
date for a code, its data for a date, and its remark for data.

* `CodelessRow`, `CodelessRow.shifted` — a row with a blank code, and the row it is taken for;
* `CodelessReport` — a report up to such a row, in the table of a waybill;
* `CodelessReport.lineEvent_line` — what the line of the row gives;
* `codeless_row_silent_iff` — the row gives no event exactly when its line is not plain, and the
  event that it gives otherwise.
-/

namespace ParcelStatus.Dhl

open Text Outcome

/-! ## Rows -/

/-- The columns of a checkpoint behind its number, all of them filled but the one of the code. -/
structure CodelessRow where
  orig : Text
  dest : Text
  facility : Text
  route : Text
  /-- The date and time, as they are written. -/
  date : Text
  data : Text
  remark : Text
  filled : ∀ t ∈ [orig, dest, facility, route, date, data, remark], Cell t

namespace CodelessRow

/-- The filled columns in their order. Only blanks stand between the route and the date. -/
def columns (row : CodelessRow) : List Text :=
  [row.orig, row.dest, row.facility, row.route, row.date, row.data, row.remark]

/-- The row with everything behind the blank code one column further left. -/
def shifted (row : CodelessRow) : RowHead where
  orig := row.orig
  dest := row.dest
  facility := row.facility
  route := row.route
  code := row.date
  date := row.data
  data := row.remark
  filled := row.filled

/-- The event that the row is taken for, on the date that its data is read as. Its code is the date
of the row, and nothing is left of the remark. -/
def mistaken (row : CodelessRow) (date : Moment) : TrackingEvent where
  description := []
  date
  eventType := row.date
  location := some row.facility

end CodelessRow

/-! ## Reports -/

/-- A report up to a row without a code, which stands in the table of a waybill and carries its
number. -/
structure CodelessReport where
  /-- What stands before the line of the row. -/
  front : Text
  margin : Text
  /-- The row as it is written. -/
  written : Text
  awb : Text
  row : CodelessRow
  endsLine : EndsLine front
  isMargin : Margin margin
  long : minNumberLength ≤ awb.length
  gapped : Gapped (awb :: row.columns) written
  inTable : standing ((lines front).map trim) = some (awb, .events)

namespace CodelessReport

variable (r : CodelessReport)

/-- The line of the row. -/
def line : Text := r.margin ++ r.written

theorem line_ne_nil : r.line ≠ [] := by
  simp [line, r.gapped.trimmed.nonempty]

theorem oneLine_line : IsOneLine r.line :=
  List.forall_mem_append.2 ⟨r.isMargin.oneLine, r.gapped.oneLine⟩

/-- The columns of the line are those of the shifted row. -/
theorem numberedColumns_line :
    numberedColumns r.awb (trim r.line) = r.awb :: (r.row.shifted.columns ++ []) := by
  rw [line, r.gapped.trim_margin r.isMargin, numberedColumns, r.gapped.columns]
  exact if_neg (Nat.not_lt.2 r.long)

/-- A plain line gives the event that the row is taken for. -/
theorem lineEvent_line [Present] (plain : PlainLine (trim r.line)) (s : Shipment)
    (own : s.awb = r.awb) : lineEvent (.events, s) (trim r.line) =
      (readDate (.str r.row.data)).map fun date => some (r.row.mistaken date) := by
  rw [lineEvent_of_table s plain.data, own,
    eventOfLine_of_columns r.numberedColumns_line plain.noRule, RowHead.read, map_map]
  rfl

end CodelessReport

/-- A row without a code gives no event exactly when its line is not plain. Otherwise its event
stands behind those of the report so far, whatever follows the row: a code that is the date of the
row, on the date that its data is read as. -/
theorem codeless_row_silent_iff [Present] (r : CodelessReport) {before : List Shipment}
    (read : shipmentsOf r.front = .ok before) :
    ((shipmentsOf (r.front ++ r.line)).map allEvents = .ok (allEvents before) ↔
        ¬PlainLine (trim r.line)) ∧
      (PlainLine (trim r.line) → ∀ back shipments, FollowsLine back →
        shipmentsOf (r.front ++ (r.line ++ back)) = .ok shipments →
        ∃ date later, readDate (.str r.row.data) = .ok date ∧
          allEvents shipments = allEvents before ++ r.row.mistaken date :: later) := by
  have ended := events_of_line r.endsLine r.oneLine_line r.line_ne_nil r.inTable read
  refine ⟨⟨fun silent plain => ?_, fun unplain => ?_⟩, fun plain back shipments follows whole => ?_⟩
  · rw [silent, r.lineEvent_line plain _ rfl, map_map] at ended
    obtain ⟨date, -, more⟩ := map_eq_ok_iff.1 ended.symm
    simp at more
  · rw [ended, lineEvent_of_not_plain unplain]
    simp
  · obtain ⟨e?, later, given, events⟩ := events_of_line_within r.endsLine r.oneLine_line
      r.line_ne_nil r.inTable read follows whole
    rw [r.lineEvent_line plain _ rfl] at given
    obtain ⟨date, dated, rfl⟩ := map_eq_ok_iff.1 given
    exact ⟨date, later, dated, events⟩

/-! ## A delivery without a code -/

/-- A delivery whose code was left blank. -/
def codelessDelivery : CodelessRow where
  orig := "MEX".toList
  dest := "HMO".toList
  facility := "HMO".toList
  route := "R3".toList
  date := "2025-01-09 09:00".toList
  data := "Y".toList
  remark := "Delivered".toList
  filled := by decide

/-- The table of this one row, with three blanks between its columns. -/
def codelessDeliveryReport : CodelessReport where
  front := "AWB : 9876543210\nAWB/PID  Orig\n".toList
  margin := [' ', ' ']
  written := join [' ', ' ', ' '] ("9876543210".toList :: codelessDelivery.columns)
  awb := "9876543210".toList
  row := codelessDelivery
  endsLine := by decide
  isMargin := by decide
  long := by decide
  gapped :=
    .of_join (by decide) (by simp) (List.forall_mem_cons.2 ⟨by decide, codelessDelivery.filled⟩)
  inTable := by decide +kernel

attribute [local instance] Present.sample

/-- The event of the row stands in front of that of the next row. -/
theorem codeless_row_silent_iff_of_delivery :
    shipmentsOf codelessDeliveryReport.front = .ok [{ awb := "9876543210".toList }] ∧
      PlainLine (trim codelessDeliveryReport.line) ∧
      ∃ shipments date later,
        shipmentsOf (codelessDeliveryReport.front ++ (codelessDeliveryReport.line ++
          "\n9876543210  MEX  HMO  HMO  R3  OK  2025-01-09 10:00  Y  Signed".toList)) =
            .ok shipments ∧
        allEvents shipments = codelessDelivery.mistaken date :: later := by
  have read : shipmentsOf codelessDeliveryReport.front = .ok [{ awb := "9876543210".toList }] := by
    decide +kernel
  have plain : PlainLine (trim codelessDeliveryReport.line) := by decide +kernel
  have reads : (shipmentsOf (codelessDeliveryReport.front ++ (codelessDeliveryReport.line ++
      "\n9876543210  MEX  HMO  HMO  R3  OK  2025-01-09 10:00  Y  Signed".toList))).map (fun _ => ()) =
        .ok () := by decide +kernel
  obtain ⟨shipments, whole, -⟩ := map_eq_ok_iff.1 reads
  obtain ⟨-, given⟩ := codeless_row_silent_iff codelessDeliveryReport read
  obtain ⟨date, later, -, events⟩ := given plain _ shipments (by decide) whole
  exact ⟨read, plain, shipments, date, later, whole, events⟩

/-- A delivery without a code is an event all the same, and its date is the code. -/
theorem codeless_row_recorded :
    shipmentsOf (codelessDeliveryReport.front ++ codelessDeliveryReport.line) =
      .ok [{ awb := "9876543210".toList,
             events := [{ description := [], date := .epoch,
                          eventType := "2025-01-09 09:00".toList,
                          location := some "HMO".toList }] }] := by
  decide +kernel

end ParcelStatus.Dhl
