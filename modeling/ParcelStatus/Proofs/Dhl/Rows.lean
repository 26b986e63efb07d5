import ParcelStatus.Proofs.Dhl.Checkpoints
import ParcelStatus.Proofs.Text.Columns

/-!
# Rows of checkpoints

A row of a table that is filled up to its data is read by its places: the code, the place and the
date are those of their columns, and what stands behind the data is the remark.

* `PlainLine` — a line that nothing takes for a rule, a heading or the start of a block;
* `NoHeading` — a line that is data, whatever section it stands in;
* `RowHead`, `TableRow` — the cells of a row, without and with its remark;
* `eventOfLine_of_columns` — the event of a line whose columns are those of a row;
* `TableRow.WrittenAs` — the lines that write a row, and `TableRow.WrittenAs.eventOfLine`, the event
  that they give.
-/

namespace ParcelStatus.Dhl

open Text Outcome

/-! ## Plain lines -/

/-- The trimmed line holds none of the phrases that make a line a rule, a heading or the start of a
block. -/
structure PlainLine (line : Text) : Prop where
  noRule : occursIn "-----".toList line = false
  noAddresses : (occursIn "Shipper".toList line && occursIn "Receiver".toList line) = false
  noHeading : (occursIn "AWB/PID".toList line && occursIn "Orig".toList line) = false
  noMark : ∀ mark ∈ [awbMark, shipperAccountMark, headerMark], mark.isPrefixOf line = false

instance (line : Text) : Decidable (PlainLine line) :=
  decidable_of_iff (occursIn "-----".toList line = false ∧
      (occursIn "Shipper".toList line && occursIn "Receiver".toList line) = false ∧
      (occursIn "AWB/PID".toList line && occursIn "Orig".toList line) = false ∧
      ∀ mark ∈ [awbMark, shipperAccountMark, headerMark], mark.isPrefixOf line = false)
    ⟨fun ⟨rule, addresses, heading, mark⟩ => ⟨rule, addresses, heading, mark⟩,
      fun ⟨rule, addresses, heading, mark⟩ => ⟨rule, addresses, heading, mark⟩⟩

/-- The trimmed line is no heading, and begins neither a block nor the accounts. -/
structure NoHeading (line : Text) : Prop where
  noMark : ∀ mark ∈ [awbMark, shipperAccountMark, headerMark], mark.isPrefixOf line = false
  noAddresses : (occursIn "Shipper".toList line && occursIn "Receiver".toList line) = false
  noTable : (occursIn "AWB/PID".toList line && occursIn "Orig".toList line) = false

theorem noHeading_iff {line : Text} : NoHeading line ↔
    (∀ mark ∈ [awbMark, shipperAccountMark, headerMark], mark.isPrefixOf line = false) ∧
      (occursIn "Shipper".toList line && occursIn "Receiver".toList line) = false ∧
      (occursIn "AWB/PID".toList line && occursIn "Orig".toList line) = false :=
  ⟨fun ⟨mark, addresses, table⟩ => ⟨mark, addresses, table⟩,
    fun ⟨mark, addresses, table⟩ => ⟨mark, addresses, table⟩⟩

instance (line : Text) : Decidable (NoHeading line) := decidable_of_iff _ noHeading_iff.symm

/-- Data is what is no heading. -/
theorem lineKind_eq_data_iff {line : Text} : lineKind line = .data ↔ NoHeading line := by
  have account (t : Text) : accountsOf t ≠ .data := by
    unfold accountsOf
    split <;> simp
  simp only [noHeading_iff, List.forall_mem_cons, List.not_mem_nil, false_imp_iff, implies_true,
    and_true]
  unfold lineKind dropPrefix?
  cases awbMark.isPrefixOf line with
  | true => simp
  | false =>
    cases headerMark.isPrefixOf line with
    | true => simp
    | false =>
      cases shipperAccountMark.isPrefixOf line with
      | true => simp [account]
      | false =>
        simp only [Bool.false_eq_true, if_false]
        split_ifs <;> simp_all

theorem PlainLine.data {line : Text} (plain : PlainLine line) : lineKind line = .data :=
  lineKind_eq_data_iff.2 ⟨plain.noMark, plain.noAddresses, plain.noHeading⟩

/-- Data that is not plain is a rule. -/
theorem rule_of_not_plain {line : Text} (kind : lineKind line = .data)
    (unplain : ¬PlainLine line) : occursIn "-----".toList line = true := by
  obtain ⟨noMark, addresses, table⟩ := lineKind_eq_data_iff.1 kind
  by_contra noRule
  exact unplain ⟨Bool.not_eq_true _ ▸ noRule, addresses, table, noMark⟩

/-! ## Rows -/

/-- The columns of a checkpoint behind its number, up to the one of data; all of them are filled. -/
structure RowHead where
  orig : Text
  dest : Text
  facility : Text
  route : Text
  code : Text
  /-- The date and time, as they are written. -/
  date : Text
  data : Text
  filled : ∀ t ∈ [orig, dest, facility, route, code, date, data], Cell t

/-- The columns in their order. -/
def RowHead.columns (h : RowHead) : List Text :=
  [h.orig, h.dest, h.facility, h.route, h.code, h.date, h.data]

/-- The event of a row on a date, with the columns of its remark. -/
def RowHead.event (h : RowHead) (remarks : List Text) (date : Moment) : TrackingEvent where
  description := join [' '] remarks
  date
  eventType := h.code
  location := some h.facility

/-- The event of a row with these columns of its remark. -/
def RowHead.read [Present] (h : RowHead) (remarks : List Text) : Except DateFault TrackingEvent :=
  (readDate (.str h.date)).map (h.event remarks)

/-- A line whose columns are those of a row is not passed over, unless it is a rule. -/
theorem not_skipped_of_columns {awb line : Text} {h : RowHead} {remarks : List Text}
    (columns : numberedColumns awb line = awb :: (h.columns ++ remarks))
    (noRule : occursIn "-----".toList line = false) :
    ¬(line = [] || occursIn "-----".toList line) = true := by
  have some_ : line ≠ [] := by
    rintro rfl
    have two : (numberedColumns awb []).length = 2 := rfl
    simp [columns, RowHead.columns] at two
  rw [noRule]
  simpa using some_

/-- A line whose columns are those of a row gives the event of the row. -/
theorem eventOfLine_of_columns [Present] {awb line : Text} {h : RowHead} {remarks : List Text}
    (columns : numberedColumns awb line = awb :: (h.columns ++ remarks))
    (noRule : occursIn "-----".toList line = false) :
    eventOfLine awb line = (h.read remarks).map some := by
  have read := not_skipped_of_columns columns noRule
  have code : h.code ≠ [] := (h.filled h.code (by simp)).trimmed.nonempty
  have facility : h.facility ≠ [] := (h.filled h.facility (by simp)).trimmed.nonempty
  rw [eventOfLine_of_numbered read, columns]
  simp only [RowHead.columns, List.cons_append, List.nil_append, code, facility, RowHead.read]
  cases readDate (.str h.date) <;> simp [RowHead.event]

/-- It is read for the date of the row. -/
theorem checkpointDate?_of_columns {awb line : Text} {h : RowHead} {remarks : List Text}
    (columns : numberedColumns awb line = awb :: (h.columns ++ remarks))
    (noRule : occursIn "-----".toList line = false) :
    checkpointDate? awb line = some h.date := by
  have read := not_skipped_of_columns columns noRule
  have code : h.code ≠ [] := (h.filled h.code (by simp)).trimmed.nonempty
  rw [checkpointDate?, if_neg read, columns]
  simp [RowHead.columns, code]

/-- A line that is not plain has no date. -/
theorem lineDates_of_not_plain {line : Text} (unplain : ¬PlainLine line) (awb : Text) :
    lineDates awb .events line = [] := by
  cases kind : lineKind line with
  | data =>
    have rule := rule_of_not_plain kind unplain
    simp [lineDates, kind, checkpointDate?, -String.reduceToList, rule]
  | _ => simp only [lineDates, kind]

/-! ## Rows as they are written -/

/-- A row of a table: the columns of its checkpoint, and those of its remark. -/
structure TableRow extends RowHead where
  remarks : List Text
  remarked : ∀ t ∈ remarks, Cell t

/-- The event of the row. -/
def TableRow.read [Present] (row : TableRow) : Except DateFault TrackingEvent :=
  row.toRowHead.read row.remarks

/-- The line writes the row in the table of a waybill: the number and all columns, or all but the
number, where the first column is too short to be taken for it. -/
inductive TableRow.WrittenAs (awb : Text) (row : TableRow) : Text → Prop where
  | full {margin t : Text} : Margin margin → Gapped (awb :: (row.columns ++ row.remarks)) t →
    WrittenAs awb row (margin ++ t)
  | blank {margin t : Text} : Margin margin → row.orig.length < minNumberLength →
    Gapped (row.columns ++ row.remarks) t → WrittenAs awb row (margin ++ t)

variable {awb line : Text} {row : TableRow}

theorem TableRow.WrittenAs.columns (long : minNumberLength ≤ awb.length)
    (written : row.WrittenAs awb line) :
    numberedColumns awb (trim line) = awb :: (row.columns ++ row.remarks) := by
  cases written with
  | full margin gapped =>
    rw [gapped.trim_margin margin, numberedColumns, gapped.columns]
    exact if_neg (Nat.not_lt.2 long)
  | blank margin short gapped =>
    rw [gapped.trim_margin margin, numberedColumns, gapped.columns]
    exact if_pos short

/-- The line of a row gives the event of the row. -/
theorem TableRow.WrittenAs.eventOfLine [Present] (long : minNumberLength ≤ awb.length)
    (written : row.WrittenAs awb line) (plain : PlainLine (trim line)) :
    Dhl.eventOfLine awb (trim line) = row.read.map some :=
  eventOfLine_of_columns (written.columns long) plain.noRule

end ParcelStatus.Dhl
