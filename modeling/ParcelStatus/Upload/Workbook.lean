import ParcelStatus.Number.Notation
import ParcelStatus.Upload.Serial
import ParcelStatus.Upload.Shipment

/-!
# Workbooks

Workbooks are read and written as tables of cells. Numbers keep sixteen significant digits, dates are
stored by their serial numbers, and line ends of every kind become line feeds. A text behind an
equals sign is a formula, whose value nobody computes, and some texts are the names of errors.

* `WorkbookCell`, `readWorkbook` — the cells of an upload's first sheet, and the sheet they make:
  everything is text, and the usual texts for missing values are missing cells;
* `Book`, `bookOf` — the workbook that is written: the shipments below their column names, and a
  sheet with one row about the upload;
* `Book.readBack` — the sheet that reading such a workbook gives;
* `formatColumn` — a column whose cells are texts, so that a long number keeps every digit;
* `IllegalText` — a text with a control character, which no workbook holds.
-/

namespace ParcelStatus.Upload

open Text

/-! ## Reading -/

/-- A cell of a workbook that is read. -/
inductive WorkbookCell where
  /-- Nothing, or a formula without a value. -/
  | empty
  | text (t : Text)
  | number (x : Binary64)
  /-- A truth value. -/
  | bool (b : Bool)
  /-- A date with a time of day. -/
  | date (m : Moment)
  /-- A value that could not be computed. -/
  | error
deriving DecidableEq, Repr

/-- The texts of values that could not be computed. -/
def errorTexts : List Text :=
  ["#NULL!".toList, "#DIV/0!".toList, "#VALUE!".toList, "#REF!".toList, "#NAME?".toList,
   "#NUM!".toList, "#N/A".toList]

/-- The texts that stand for a missing value. -/
def missingTexts : List Text :=
  ["".toList, "#N/A".toList, "#N/A N/A".toList, "#NA".toList, "-1.#IND".toList,
   "-1.#QNAN".toList, "-NaN".toList, "-nan".toList, "1.#IND".toList, "1.#QNAN".toList,
   "<NA>".toList, "N/A".toList, "NA".toList, "NULL".toList, "NaN".toList, "None".toList,
   "n/a".toList, "nan".toList, "null".toList]

namespace WorkbookCell

/-- The cell that a text makes: a text behind an equals sign is a formula. -/
def ofText (t : Text) : WorkbookCell :=
  match t with
  | [] => .empty
  | '=' :: _ :: _ => .empty
  | t => if errorTexts.contains t then .error else .text (universalNewlines t)

/-- The text of a number: a whole one without a point. -/
def numberText (x : Binary64) : Text :=
  let stored := x.keepDigits storedDigits
  match stored.toInt? with
  | some n => ofInt n
  | none => Notation.plain.write stored

/-- The cell of the sheet. -/
def toCell : WorkbookCell → Cell
  | .empty => none
  | .error => none
  | .text t => if missingTexts.contains t then none else some t
  | .number x => some (numberText x)
  | .bool true => some "True".toList
  | .bool false => some "False".toList
  | .date m => some (dateText m)

end WorkbookCell

/-- The cells without the empty ones at the end. -/
def dropEmptyEnd (cells : List WorkbookCell) : List WorkbookCell :=
  (cells.reverse.dropWhile (· = .empty)).reverse

/-- The sheet of a workbook: it ends at the last row and column that are used. -/
def readWorkbook (cells : List (List WorkbookCell)) : Sheet :=
  let rows := cells.map dropEmptyEnd
  let used := (rows.reverse.dropWhile List.isEmpty).reverse
  rectangular (used.map fun row => row.map WorkbookCell.toCell)

/-! ## Writing -/

/-- A cell of a workbook that is written. -/
inductive BookCell where
  /-- Nothing. -/
  | missing
  | text (t : Text)
  /-- A text behind an equals sign. -/
  | formula (t : Text)
  /-- The name of an error. -/
  | error (t : Text)
  | number (x : Binary64)
deriving DecidableEq, Repr

/-- The number format of cells that are given no other. -/
def generalFormat : Text := "General".toList

/-- The number format of texts. -/
def textFormat : Text := ['@']

/-- A cell with its number format. -/
structure FormattedCell where
  value : BookCell
  format : Text := generalFormat
deriving DecidableEq, Repr

/-- The workbook that is written for an upload. -/
structure Book where
  /-- The column names and the shipments. -/
  shipments : List (List FormattedCell)
  /-- The names and the values of the row about the upload. -/
  marker : List (List BookCell)
deriving DecidableEq, Repr

/-- A text with a character that no workbook holds. -/
structure IllegalText where
  text : Text
deriving DecidableEq, Repr

/-- The wording of the refusal. -/
def IllegalText.message (f : IllegalText) : Text :=
  f.text ++ " cannot be used in worksheets.".toList

/-- The most characters that a cell holds. -/
def maxCellLength : Nat := 32767

/-- A control character other than tab, line feed and return. -/
def isIllegal (c : Char) : Bool := c.toNat < 0x20 && c ≠ '\t' && c ≠ '\n' && c ≠ '\r'

namespace BookCell

/-- The cell of a text; the empty text leaves the cell empty. -/
def ofText (t : Text) : BookCell :=
  match t.take maxCellLength with
  | [] => .missing
  | '=' :: c :: r => .formula ('=' :: c :: r)
  | t => if errorTexts.contains t then .error t else .text t

/-- The cell of a text that may be missing. -/
def ofText? (t : Option Text) : BookCell := (t.map ofText).getD .missing

/-- The cell of a number: an infinity is written by its name. No number is left empty, and so is one
that its sixteen digits put beyond all numbers. -/
def ofNumber : Binary64 → BookCell
  | .nan => .missing
  | .infinite negative => .text (Notation.plain.write (.infinite negative))
  | .finite negative m e => match (Binary64.finite negative m e).keepDigits storedDigits with
    | .finite negative m e => .number (.finite negative m e)
    | _ => .missing

/-- The cell's text, if no workbook holds it. -/
def illegal? : BookCell → Option IllegalText
  | .text t | .formula t => if t.any isIllegal then some ⟨t⟩ else none
  | _ => none

/-- The cell as a workbook stores it. -/
def stored : BookCell → BookCell
  | .text t => .text (universalNewlines t)
  | .formula t => .formula (universalNewlines t)
  | cell => cell

/-- The text that stands in the cell. -/
def text? : BookCell → Option Text
  | .text t | .formula t | .error t => some t
  | _ => none

/-- The cell as it is read. -/
def toWorkbook : BookCell → WorkbookCell
  | .missing => .empty
  | .text t => .text t
  | .formula _ => .empty
  | .error _ => .error
  | .number x => .number x

/-- The whole number that a number is read back as. One of more than sixteen digits is written with
an exponent, and that makes it a number with a point. -/
def whole? (x : Binary64) : Option Int :=
  x.toInt?.filter fun n => n.natAbs < Nat.pow 10 storedDigits

/-- A number of the workbook as a text. -/
def numberText (x : Binary64) : Text := (whole? x).elim (Notation.plain.write x) ofInt

end BookCell

/-- The names of the columns of shipments, in order. -/
def columnNames : List Text :=
  ["trackingNumber".toList, "recipientName".toList, "recipientAddress".toList,
   "recipientCity".toList, "recipientZip".toList, "commitDate".toList, "commitTime".toList,
   "recipientPhone".toList, "status".toList, "priority".toList, "paymentAmount".toList,
   "consNumber".toList]

/-- The cells of a shipment in the order of the columns. -/
def ShipmentRow.bookCells (r : ShipmentRow) : List BookCell :=
  [.ofText? r.trackingNumber, .ofText? r.recipientName, .ofText? r.recipientAddress,
   .ofText? r.recipientCity, .ofText? r.recipientZip, .ofText r.commitDate.iso,
   .ofText r.commitTime, .ofText? r.recipientPhone, .ofText r.status.text,
   .ofText r.priority.text, (r.paymentAmount.map BookCell.ofNumber).getD .missing,
   .ofText? r.consNumber]

/-- The shipment as members of a JSON object. -/
def ShipmentRow.toMembers (r : ShipmentRow) : List (Text × Json) :=
  let text (t : Option Text) : Json := (t.map Json.str).getD .null
  columnNames.zip
    [text r.trackingNumber, text r.recipientName, text r.recipientAddress, text r.recipientCity,
     text r.recipientZip, .str r.commitDate.iso, .str r.commitTime, text r.recipientPhone,
     .str r.status.text, .str r.priority.text,
     (r.paymentAmount.map Json.float).getD .null, text r.consNumber]

/-- What the row about an upload tells. -/
structure Marker where
  /-- The name of the upload. -/
  inputName : Text
  /-- The name of the workbook. -/
  outputName : Text
  layout : Layout
  /-- When the workbook was written. -/
  timestamp : Text
  /-- The count of shipments. -/
  rowCount : Nat
deriving DecidableEq, Repr

/-- The names and the values of the row about an upload. -/
def Marker.rows (m : Marker) : List (List BookCell) :=
  [["_cse_marker".toList, "input_name".toList, "output_name".toList, "layout".toList,
    "timestamp_utc".toList, "output_rows".toList].map BookCell.ofText,
   [.ofText "ok".toList, .ofText m.inputName, .ofText m.outputName, .ofText m.layout.tag,
    .ofText m.timestamp, .number (.ofInt m.rowCount)]]

/-- The first cell, column by column, that no workbook holds. -/
def illegalByColumn? (rows : List (List BookCell)) : Option IllegalText :=
  (List.range columnNames.length).findSome? fun i =>
    rows.findSome? fun row => row[i]?.bind BookCell.illegal?

/-- The rows as a workbook stores them, unless it cannot hold one of their texts. -/
def storeRows (rows : List (List BookCell)) : Except IllegalText (List (List BookCell)) :=
  match illegalByColumn? rows with
  | some f => .error f
  | none => .ok (rows.map fun row => row.map BookCell.stored)

/-! ## Columns of texts -/

/-- The columns of numbers that are texts. -/
def textColumns : List Text := ["trackingNumber".toList, "consNumber".toList]

/-- The cell as a text in the format of texts; a missing one stays missing. -/
def FormattedCell.toText (c : FormattedCell) : FormattedCell :=
  match c.value with
  | .number x => { value := .text (BookCell.numberText x), format := textFormat }
  | value => { value, format := textFormat }

/-- The place of a column by its name in the first row. -/
def columnPlace? (rows : List (List FormattedCell)) (name : Text) : Option Nat :=
  (rows.headD []).findIdx? fun c => c.value = .text name

/-- How many rows there are up to the last one with a cell. -/
def usedCount (rows : List (List FormattedCell)) : Nat :=
  (rows.reverse.dropWhile fun row => row.all fun c => c.value = .missing).length

/-- The sheet with the cells of a column as texts, from the second row down to the last one with a
cell. -/
def formatColumn (rows : List (List FormattedCell)) (name : Text) : List (List FormattedCell) :=
  match rows, columnPlace? rows name with
  | header :: data, some place =>
    let used := usedCount data
    header :: (data.take used).map (fun row => row.modify place .toText) ++ data.drop used
  | rows, _ => rows

/-- The workbook of an upload. -/
def bookOf (rows : List ShipmentRow) (marker : Marker) : Except IllegalText Book := do
  let shipments ← storeRows (columnNames.map BookCell.ofText :: rows.map ShipmentRow.bookCells)
  let about ← storeRows marker.rows
  let sheet : List (List FormattedCell) := shipments.map fun row => row.map fun value => { value }
  return ⟨textColumns.foldl formatColumn sheet, about⟩

/-- The sheet that reading the workbook gives. -/
def Book.readBack (b : Book) : Sheet :=
  readWorkbook (b.shipments.map fun row => row.map fun c => c.value.toWorkbook)

/-- The number formats of the tracking and consignment numbers, one pair for each shipment. -/
def Book.numberFormats (b : Book) : List (Text × Text) :=
  let formatIn (name : Text) (row : List FormattedCell) : Text :=
    ((columnPlace? b.shipments name).bind fun place => row[place]?).elim generalFormat (·.format)
  (b.shipments.drop 1).map fun row =>
    (formatIn "trackingNumber".toList row, formatIn "consNumber".toList row)

end ParcelStatus.Upload
