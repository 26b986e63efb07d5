import ParcelStatus.Disk.Basic
import ParcelStatus.Log.Journal
import ParcelStatus.Upload.Csv

/-!
# Taking in uploads

From an upload on disk to its shipments and to the workbook that is written beside it.

* `readSheet` — the sheet of a file, which is a comma-separated file or a workbook by its suffix;
* `Intake.read` — the layout and the shipments of an upload, with entries about the work;
* `Intake.convert` — the same with the workbook and a summary;
* `outputPaths`, `logPath` — where the workbook and the log of an upload go.
-/

namespace ParcelStatus.Upload

open Text Log

/-! ## Paths of the output -/

/-- The path of the log of an upload. -/
def logPath (input : Path) : Except NoNameFault Path := input.withSuffix? ".log".toList

/-- What is added to the stem of an upload for the name of its workbook. -/
def bookSuffix : Text := "_parsed.xlsx".toList

/-- Why an upload has no output paths. -/
inductive PathFault where
  /-- It does not exist. -/
  | missing (path : Path)
  /-- Its path is too long to be looked up. -/
  | tooLong (path : Path)
  /-- Its path has no name. -/
  | noName (fault : NoNameFault)

/-- The paths of the workbook and of the log of an upload. -/
def outputPaths (d : Disk) (input : Path) : Except PathFault (Path × Path) :=
  if d.isTooLong input then .error (.tooLong input)
  else if !d.hasPath input then .error (.missing input)
  else do
    let parsed ← (input.withName? (input.stem ++ bookSuffix)).mapError .noName
    let log ← (logPath input).mapError .noName
    return (parsed, log)

/-! ## Sheets on disk -/

/-- Why an upload cannot be processed. -/
inductive Fault where
  /-- There is no such file. -/
  | missing (path : Path)
  /-- The path is too long to be looked up. -/
  | tooLong (path : Path)
  /-- The path has a null character. -/
  | nullCharacter
  /-- The path leads through a file. -/
  | throughFile (path : Path)
  | directory (path : Path)
  /-- A comma-separated file is broken. -/
  | csv (fault : Csv.Fault)
  /-- A file that should be a workbook is none. -/
  | noWorkbook
  /-- No rule knows the header. -/
  | unsupported (fault : UnsupportedHeader)
  /-- The directory of the workbook cannot be made. -/
  | outputDirectory (fault : Disk.DirectoryFault)
  /-- A text does not go into a workbook. -/
  | illegal (fault : IllegalText)
  /-- A workbook has no name with this extension. -/
  | extension (extension : Text)

/-- The wording of a path fault. -/
def PathFault.message : PathFault → Text
  | .missing p => p.text
  | .tooLong p => (Disk.DirectoryFault.tooLong p).message
  | .noName f => f.message

/-- The extensions of workbooks. -/
def bookExtensions : List Text := [".xlsx".toList, ".xlsm".toList, ".xltx".toList, ".xltm".toList]

/-- The last dot of a name and what follows it, in small letters; dots that begin the name do not
count. -/
def extensionOf (name : Text) : Text :=
  let n := (name.takeWhile (· = '.')).length
  let r := name.drop n
  if r.contains '.' then lower ('.' :: (r.reverse.takeWhile (· ≠ '.')).reverse) else []

/-- The wording of the refusal of an extension. -/
def extensionRefusal (extension : Text) : Text :=
  if extension = ".xls".toList then
    "openpyxl does not support the old .xls file format, please use xlrd to read this file, or      convert it to the more recent .xlsx file format.".toList
  else if extension = ".xlsb".toList then
    "openpyxl does not support binary format .xlsb, please convert this file to .xlsx format if you      want to open it with openpyxl".toList
  else
    "openpyxl does not support ".toList ++ extension
      ++ " file format, please check you can open it with Excel first. Supported formats are: ".toList
      ++ join [','] bookExtensions

/-- The wording of a fault. -/
def Fault.message : Fault → Text
  | .missing p => p.text
  | .tooLong p => (Disk.DirectoryFault.tooLong p).message
  | .nullCharacter => "embedded null byte".toList
  | .throughFile p => (Disk.DirectoryFault.throughFile p).message
  | .outputDirectory f => f.message
  | .extension e => extensionRefusal e
  | .directory p => "[Errno 21] Is a directory: ".toList ++ quoted p.text
  | .csv f => f.message
  | .noWorkbook => "File is not a zip file".toList
  | .unsupported f => f.message
  | .illegal f => f.message

/-- The octets of a workbook where a comma-separated file is expected: those an archive begins
with. -/
def archiveOctets : List UInt8 := [0x50, 0x4b, 0x03, 0x04]

/-- The sheet of a file. -/
def readSheet (d : Disk) (input : Path) : Except Fault Sheet :=
  let isCsv : Bool := lower input.suffix = ".csv".toList
  if d.isTooLong input then .error (.tooLong input)
  else match d.find input, isCsv with
  | .nothing, _ => .error (.missing input)
  | .directory, _ => .error (.directory input)
  | .file (.octets os), true => (Csv.read os).mapError .csv
  | .file (.workbook _), true => (Csv.read archiveOctets).mapError .csv
  | .file (.octets _), false => .error .noWorkbook
  | .file (.workbook cells), false => .ok (readWorkbook cells)

/-! ## Intake -/

/-- The settings of an intake. -/
structure Intake where
  /-- The name of the logger. -/
  logger : Text := "carrier_status_engine".toList
  /-- The layout, if it is not to be detected. -/
  layout : Option Layout := none
  /-- The day of the upload. -/
  today : Date

/-- The summary of a processed upload. -/
structure Summary where
  /-- The path of the workbook. -/
  outputPath : Path
  layout : Layout
  /-- When the workbook was written. -/
  timestamp : Text
  /-- The count of shipments. -/
  rowCount : Nat
  columnCount : Nat
deriving DecidableEq, Repr

/-- The summary as members of a JSON object. -/
def Summary.toMembers (s : Summary) : List (Text × Json) :=
  [("output_path".toList, .str s.outputPath.text),
   ("layout".toList, .str s.layout.tag),
   ("timestamp_utc".toList, .str s.timestamp),
   ("output_shape".toList, .arr [.int s.rowCount, .int s.columnCount])]

namespace Intake

def layoutOf (p : Intake) (s : Sheet) : Journal Fault Layout :=
  match p.layout with
  | some l => do
    Journal.write info p.logger ("Layout forced: ".toList ++ l.tag)
    return l
  | none =>
    let header := headerRow s
    match Layout.ofHeader header with
    | .ok l => do
      Journal.write info p.logger ("Detected layout: ".toList ++ l.tag)
      return l
    | .error f => do
      Journal.write error p.logger
        ("Unsupported file format; header=".toList ++ quotedList header)
      Journal.fail (.unsupported f)

/-- The layout and the shipments of an upload. -/
def read (p : Intake) (d : Disk) (input : Path) : Journal Fault (Layout × List ShipmentRow) := do
  if d.isTooLong input then Journal.fail (.tooLong input)
  if !d.hasPath input then
    Journal.write error p.logger ("Input file does not exist: ".toList ++ input.text)
    Journal.fail (.missing input)
  let sheet ← .ofExcept (readSheet d input)
  Journal.write debug p.logger
    ("Opened upload: ".toList ++ input.name ++ " (rows=".toList ++ ofNat sheet.length
      ++ ", cols=".toList ++ ofNat (columnCount sheet) ++ [')'])
  let layout ← p.layoutOf sheet
  let rows := shipmentRows sheet layout p.today ((headerIndex sheet).getD 0)
  Journal.write info p.logger
    ("parse_by_layout(".toList ++ layout.tag ++ "): ".toList ++ ofNat sheet.length
      ++ " -> ".toList ++ ofNat rows.length ++ " rows".toList)
  return (layout, rows)

/-- The summary and the workbook of an upload that is written to a path at a time. -/
def convert (p : Intake) (d : Disk) (input parsed : Path) (timestamp : Text) :
    Journal Fault (Summary × Book) := do
  let (layout, rows) ← p.read d input
  if parsed.parent.text.contains '\x00' then Journal.fail .nullCharacter
  let d ← .ofExcept ((d.makeDirectories parsed.parent).mapError .outputDirectory)
  if parsed.text.contains '\x00' then Journal.fail .nullCharacter
  if d.isTooLong parsed then Journal.fail (.tooLong parsed)
  if d.hasDirectory parsed then Journal.fail (.directory parsed)
  let marker : Marker :=
    { inputName := input.name, outputName := parsed.name, layout, timestamp,
      rowCount := rows.length }
  let book ← .ofExcept ((bookOf rows marker).mapError .illegal)
  let extension := extensionOf parsed.name
  if !bookExtensions.contains extension then Journal.fail (.extension extension)
  Journal.write info p.logger ("Wrote parsed workbook → ".toList ++ parsed.text)
  return ({ outputPath := parsed, layout, timestamp, rowCount := rows.length,
            columnCount := columnNames.length }, book)

end Intake

end ParcelStatus.Upload
