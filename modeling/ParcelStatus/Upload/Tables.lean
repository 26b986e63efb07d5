import ParcelStatus.Calendar.Iso
import ParcelStatus.Json.Reader
import ParcelStatus.Text.Utf8
import ParcelStatus.Upload.Workbook

/-!
# Workbooks as tables

Workbooks go in and come out as tables of cells, written as a JSON object with the sheets by name
in their order. A date cell is an object whose one member `$datetime` is the date in its written
form.

* `WorkbookCell.ofJson` — the cell that a value stands for;
* `readTables?` — the cells of the first sheet in a file of tables;
* `Book.toJson` — the workbook of an upload, sheet by sheet.
-/

namespace ParcelStatus.Upload

open Text

/-- The date of a date cell. -/
def dateOfJson? : Json → Option Moment
  | .obj [(name, .str t)] => if name = "$datetime".toList then Moment.ofIso? t else none
  | _ => none

/-- The cell that a value stands for. -/
def WorkbookCell.ofJson (v : Json) : WorkbookCell :=
  match dateOfJson? v, v with
  | some m, _ => .date m
  | none, .str t => .ofText t
  | none, .int n => .number (.ofInt n)
  | none, .float x => .number x
  | none, .bool b => .bool b
  | none, _ => .empty

/-- The cells of the first sheet of an object of tables. -/
def cellsOfMembers (sheets : List (Text × Json)) : List (List WorkbookCell) :=
  match sheets with
  | (_, rows) :: _ => rows.items.map fun row => row.items.map WorkbookCell.ofJson
  | [] => []

/-- The cells of the first sheet in a file of tables. -/
def readTables? (file : List UInt8) : Option (List (List WorkbookCell)) :=
  match (decode file).toOption.bind fun t => (Json.read t).toOption with
  | some (.obj members) => some (cellsOfMembers members)
  | _ => none

/-- The value of a cell; formulas and errors stand for themselves. -/
def BookCell.toJson : BookCell → Json
  | .missing => .null
  | .text t | .formula t | .error t => .str t
  | .number x => (BookCell.whole? x).elim (.float x) .int

/-- The workbook of an upload: its two sheets, and the number formats of the tracking and
consignment numbers. -/
def Book.toJson (b : Book) : Json :=
  let table (rows : List (List BookCell)) : Json :=
    .arr (rows.map fun row => .arr (row.map BookCell.toJson))
  let shipments := b.shipments.map fun row => row.map FormattedCell.value
  .obj [("Shipments".toList, table shipments), ("Marker".toList, table b.marker),
    ("formats".toList, .arr (b.numberFormats.map fun (f, g) => .arr [.str f, .str g]))]

end ParcelStatus.Upload
