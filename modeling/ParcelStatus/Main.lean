import ParcelStatus.Command.Run
import ParcelStatus.Json.Writer
import ParcelStatus.Upload.Tables
import Std.Time.DateTime.Timestamp

/-!
# The program

The outer layer of the command line: it looks at the disk, the environment and the clock, runs the
command as a function, and writes what the run leaves. Files whose names end in `.xlsx` hold their
tables as JSON.
-/

namespace ParcelStatus.Program

open Text

/-- The octets of a file on disk as contents. -/
def contentsOf (p : Path) (octets : List UInt8) : Contents :=
  if p.suffix = ".xlsx".toList then
    match Upload.readTables? octets with
    | some cells => .workbook cells
    | none => .octets octets
  else .octets octets

/-- The place of a path, seen from the working directory. -/
def placeFrom (current : Place) (p : Path) : Place :=
  let start := if p.root = [] then current else []
  p.parts.foldl (fun q part => if part = ['.', '.'] then q.dropLast else q ++ [part]) start

/-- The disk with what stands at a path. -/
def lookAt (d : Disk) (p : Path) : IO Disk := do
  let here ← IO.currentDir
  let path := here / String.ofList p.text
  if ← path.isDir then
    return { d with directories := placeFrom d.current p :: d.directories }
  else if ← path.pathExists then
    let octets ← IO.FS.readBinFile path
    return d.writeAt (placeFrom d.current p) (contentsOf p octets.toList)
  else return d

/-- The working directory and what stands at some paths. -/
def readDisk (paths : List Path) : IO Disk := do
  let here ← IO.currentDir
  let current := (Path.ofText here.toString.toList).parts
  let d : Disk := { directories := [current], current, absolute := true }
  paths.foldlM lookAt d

/-- The variables of the process, as the system lists them. -/
def readEnvironment : IO Settings.Environment := do
  let octets ← IO.FS.readBinFile "/proc/self/environ"
  let entries := splitOn '\x00' ((decode octets.toList).toOption.getD [])
  return entries.filterMap (splitAtFirst ['='])

/-- The microseconds since the start of 1970. -/
def readClock : IO Int := do
  let now ← Std.Time.Timestamp.now
  return now.toNanosecondsSinceUnixEpoch.val / 1000

/-- What a run starts from. -/
def observe (arguments : List Text) : IO Command.Situation := do
  let paths := (Settings.fileName :: arguments).map Path.ofText
  let now : Moment := { instant := ← readClock }
  let second : Moment := { instant := now.instant / secondLength * secondLength }
  let today := ((Date.ofIso? now.isoDate).orElse fun _ => Date.of? 1970 1 1).getD ⟨1, 1, 1, rfl⟩
  return {
    disk := ← readDisk paths
    env := ← readEnvironment
    present := ⟨now⟩
    today
    now := now.iso
    logTime := second.shown }

/-- Adds what the loggers wrote to a file. -/
def appendTo (place : Place) (t : Text) : IO Unit := do
  let handle ← IO.FS.Handle.mk (String.ofList ('/' :: join ['/'] place)) .append
  handle.putStr (String.ofList t)

/-- Writes the workbook of an upload. -/
def writeBook (path : Path) (book : Upload.Book) : IO Unit :=
  IO.FS.writeFile (String.ofList path.text) (String.ofList (book.toJson.write false))

/-- Writes what a run leaves. -/
def deliver (o : Command.Outcome) : IO Unit := do
  IO.eprint (String.ofList (o.registry.consoleText 0))
  for line in o.errors do
    IO.eprintln (String.ofList line)
  for place in o.registry.filePlaces do
    appendTo place ((o.registry.textAt? place).getD [])
  if let some (path, book) := o.book then
    writeBook path book
  IO.print (String.ofList o.output)

end ParcelStatus.Program

open ParcelStatus in
/-- The command line. -/
def main (arguments : List String) : IO UInt32 := do
  let arguments := arguments.map String.toList
  match Command.run (← Program.observe arguments) arguments with
  | .ok o =>
    Program.deliver o
    return UInt32.ofNat o.exit
  | .error crash =>
    IO.eprintln (String.ofList crash.message)
    return 1
