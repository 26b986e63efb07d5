import ParcelStatus.Disk.Basic
import ParcelStatus.Log.Level
import ParcelStatus.Log.Template

/-!
# Loggers

The loggers of the program by their names, the targets they write to, and what becomes of an entry.

A name with dots stands below the name in front of its last dot that has a logger, and in the end
below the nameless one. A logger writes an entry to its own targets and, while it passes entries
on, to those of the loggers above it. Targets are console streams and files; a file is begun with
the first entry that a target lets through, even if its form cannot show the entry, and one that
would grow too large is moved aside first.

* `Registry.configure` — gives a logger a level and the targets it lacks;
* `Registry.rotate` — moves a file aside, and those that were moved aside before it;
* `Registry.log` — one entry, through levels, targets and files;
* `Registry.textAt?`, `Registry.filePlaces` — the files that were written.
-/

namespace ParcelStatus.Log

open Text

/-! ## Targets -/

/-- Where a target writes. -/
inductive Destination where
  /-- A console stream by its number. -/
  | console (stream : Nat)
  /-- A file by its place, with the limit of its size and the count of files kept aside. -/
  | file (place : Place) (maxOctets backups : Int)
deriving DecidableEq, Repr

/-- A target of a logger. -/
structure Target where
  /-- Where it writes. -/
  destination : Destination
  /-- The least level that it writes. -/
  level : Level
  /-- The form of its lines. -/
  template : Text
  /-- The root of the absolute path of its file. -/
  root : Text := []
  /-- The number of the file that it has open. -/
  opened : Option Nat := none
deriving DecidableEq, Repr

/-- The absolute path of the file that the target writes to. -/
def Target.path? (t : Target) : Option Path :=
  match t.destination with
  | .file place _ _ => some ⟨t.root, place⟩
  | .console _ => none

structure Logger where
  /-- Its level; zero leaves the decision to the loggers above it. -/
  level : Level := .number 0
  /-- It passes entries on to the loggers above it. -/
  propagate : Bool := true
  /-- It has been configured. -/
  configured : Bool := false
  /-- Its targets in the order they were added. -/
  targets : List Target := []
deriving DecidableEq, Repr

/-- All loggers, and what they wrote. Files are known by numbers, because a file that is moved
while a target has it open stays open. -/
structure Registry where
  /-- What stood on disk before. -/
  disk : Disk := {}
  /-- The loggers by name. -/
  loggers : List (Text × Logger) := [([], { level := .number warning })]
  /-- The number of the console stream in use. -/
  stream : Nat := 0
  /-- What was written to console streams, in order. -/
  consoles : List (Nat × Text) := []
  /-- The files by their places. -/
  places : List (Place × Nat) := []
  /-- What was written to the files, by their numbers. -/
  files : List (Nat × Text) := []
  /-- How many octets the files had before, by their numbers. -/
  sizes : List (Nat × Nat) := []

namespace Registry

/-! ## Loggers by name -/

/-- The nameless logger is also called root. -/
def canonicalName (name : Text) : Text := if name = "root".toList then [] else name

/-- The logger of a name; a new one if there is none. -/
def logger (r : Registry) (name : Text) : Logger := (r.loggers.lookup name).getD {}

def setLogger (r : Registry) (name : Text) (l : Logger) : Registry :=
  { r with loggers := Table.assign name l r.loggers }

/-- The names above a name, the nearest first: what stands in front of each dot but one in front
of all, and the empty name. -/
def namesAbove (name : Text) : List Text :=
  if name = [] then []
  else
    let places := (List.range name.length).filter fun i => i ≠ 0 && name[i]? == some '.'
    places.reverse.map name.take ++ [[]]

/-- The loggers that exist above a name, the nearest first. -/
def above (r : Registry) (name : Text) : List Text :=
  (namesAbove name).filter fun n => (r.loggers.lookup n).isSome

/-- The level in force: the first that is not zero, upwards from the name. -/
def effectiveLevel (r : Registry) (name : Text) : Int :=
  ((name :: r.above name).findSome? fun n =>
    let l := (r.logger n).level.toInt
    if l = 0 then none else some l).getD 0

/-- The names whose targets get an entry: upwards as long as loggers pass entries on. -/
def receivers (r : Registry) : List Text → List Text
  | [] => []
  | n :: ns => if (r.logger n).propagate then n :: receivers r ns else [n]

/-! ## Configuration -/

/-- What a logger is asked to have. -/
structure Request where
  name : Text
  level : Level
  /-- A console target. -/
  console : Bool := true
  /-- A file target at this path. -/
  file : Option Path := none
  /-- Entries are passed on. -/
  propagate : Bool := false
  /-- The form of lines, or why there is none. -/
  template : Except TemplateFault Text
  /-- The limit of the size of the file. -/
  maxOctets : Int := 5000000
  /-- The count of files kept aside. -/
  backups : Int := 5

/-- The form of lines by default. -/
def defaultTemplate : Text := "%(asctime)s | %(levelname)s | %(name)s | %(message)s".toList

/-- Why a logger does not get all that it is asked to have. -/
inductive Fault where
  /-- There is no form of lines. -/
  | template (fault : TemplateFault)
  /-- The directory of the file cannot be made. -/
  | directory (fault : Disk.DirectoryFault)
deriving DecidableEq, Repr

/-- The wording of a fault. -/
def Fault.message : Fault → Text
  | .template f => f.message
  | .directory f => f.message

/-- The target writes to the console stream in use. -/
def isConsole (stream : Nat) (t : Target) : Bool := t.destination = .console stream

/-- The target writes to the file at an absolute path. -/
def isFile (path : Path) (t : Target) : Bool := t.path? = some path

/-- The targets with a console target on a stream, unless there is one. -/
def addConsole (stream : Nat) (level : Level) (template : Text) (ts : List Target) : List Target :=
  if ts.any (isConsole stream) then ts
  else ts ++ [{ destination := .console stream, level, template }]

def withLevel (q : Request) (l : Logger) : Logger :=
  { l with level := q.level, propagate := q.propagate }

/-- The logger with the console target of a request. -/
def withConsole (stream : Nat) (q : Request) (template : Text) (l : Logger) : Logger :=
  let l := withLevel q l
  if q.console then { l with targets := addConsole stream q.level template l.targets } else l

/-- What stands on disk by now. -/
def now (r : Registry) : Disk :=
  { r.disk with files := r.places.map (fun (p, _) => (p, Contents.octets [])) ++ r.disk.files }

/-- A file target at a path, unless there is one, with the directory that it needs. -/
def addFile (r : Registry) (q : Request) (template : Text) (path : Path) (ts : List Target) :
    Except Disk.DirectoryFault (Registry × List Target) :=
  let absolute := r.disk.absolutePath path
  if ts.any (isFile absolute) then .ok (r, ts)
  else do
    let d ← r.now.makeDirectories path.parent
    let target : Target :=
      { destination := .file absolute.parts q.maxOctets q.backups, level := q.level, template,
        root := absolute.root }
    return ({ r with disk := { r.disk with directories := d.directories } }, ts ++ [target])

/-- Gives a logger its level and the targets it lacks. It keeps what it got before a fault. -/
def configure (r : Registry) (q : Request) : Registry × Except Fault Unit :=
  let name := canonicalName q.name
  let l := r.logger name
  match q.template with
  | .error f => (r.setLogger name (withLevel q l), .error (.template f))
  | .ok template =>
    let l := withConsole r.stream q template l
    match q.file with
    | none => (r.setLogger name { l with configured := true }, .ok ())
    | some path =>
      match r.addFile q template path l.targets with
      | .error f => (r.setLogger name l, .error (.directory f))
      | .ok (r, targets) => (r.setLogger name { l with configured := true, targets }, .ok ())

/-! ## Files -/

/-- The number of a new file. -/
def freshFile (r : Registry) : Nat := r.files.length

/-- What was written to a file, by its number. -/
def contents (r : Registry) (file : Nat) : Text := (r.files.lookup file).getD []

/-- How many octets stand at a place on disk. -/
def sizeOnDisk (r : Registry) (place : Place) : Nat :=
  match r.disk.fileAt? place with
  | some (.octets os) => os.length
  | _ => 0

/-- How many octets a file had before, by its number. -/
def sizeBefore (r : Registry) (file : Nat) : Nat := (r.sizes.lookup file).getD 0

/-- A file with more text at its end. -/
def append (r : Registry) (file : Nat) (t : Text) : Registry :=
  { r with files := Table.assign file (r.contents file ++ t) r.files }

/-- Something stands at a place. -/
def isTaken (r : Registry) (place : Place) : Bool :=
  (r.now.fileAt? place).isSome || r.now.isDirectory place

/-- A file can stand at a place. -/
def allowsFile (r : Registry) (place : Place) : Bool :=
  match place.getLast? with
  | none => false
  | some name =>
    r.now.isDirectory place.dropLast && !r.now.isDirectory place
      && octetCount name ≤ Disk.longestName && !name.contains '\x00'

/-- The number of the file at a place, which is begun if there is none and one can stand there. What
stands there on disk is kept. -/
def openFile? (r : Registry) (place : Place) : Option (Nat × Registry) :=
  match r.places.lookup place with
  | some file => some (file, r)
  | none =>
    if r.allowsFile place then
      let file := r.freshFile
      some (file, { r with
        places := r.places ++ [(place, file)]
        files := r.files ++ [(file, [])]
        sizes := r.sizes ++ [(file, r.sizeOnDisk place)] })
    else none

/-- The place of a file that is kept aside. -/
def asidePlace (place : Place) (n : Nat) : Place :=
  place.dropLast ++ [place.getLast?.getD [] ++ '.' :: ofNat n]

/-- A place that is the source or lies in it, moved to the target. -/
def movePlace (source target place : Place) : Place :=
  if source.isPrefixOf place then target ++ place.drop source.length else place

/-- The registry without the file at a place, unless a directory stands there. -/
def remove? (r : Registry) (place : Place) : Option Registry :=
  if r.now.isDirectory place then none
  else some { r with
    places := r.places.filter fun (p, _) => p ≠ place
    disk := { r.disk with files := r.disk.files.filter fun (p, _) => p ≠ place } }

/-- What stands at a place moved to another one, where nothing stands. -/
def move (r : Registry) (source target : Place) : Registry :=
  { r with
    places := r.places.map fun (p, file) => (movePlace source target p, file)
    disk := { r.disk with
      files := r.disk.files.map fun (p, c) => (movePlace source target p, c)
      directories := r.disk.directories.map (movePlace source target) } }

/-- Moves the files kept aside up by one, the last one over the file behind it. With a directory in
the way it stops; the second part tells that it did not. -/
def moveAside (place : Place) : Nat → Registry → Registry × Bool
  | 0, r => (r, true)
  | n + 1, r =>
    let source := asidePlace place (n + 1)
    let target := asidePlace place (n + 2)
    if r.isTaken source then
      match r.remove? target with
      | some r => moveAside place n (r.move source target)
      | none => (r, false)
    else moveAside place n r

/-- Moves a file aside that would grow too large, if any are kept aside. With a directory in the way
it stops; the second part tells that it did not. -/
def rotate (r : Registry) (place : Place) (backups : Int) : Registry × Bool :=
  if backups ≤ 0 then (r, true)
  else
    match moveAside place (backups - 1).toNat r with
    | (r, false) => (r, false)
    | (r, true) =>
      match r.remove? (asidePlace place 1) with
      | some r => (if r.isTaken place then r.move place (asidePlace place 1) else r, true)
      | none => (r, false)

/-- A line at the end of a file. -/
def appendLine (r : Registry) (file : Nat) (line : Text) : Registry :=
  r.append file (line ++ ['\n'])

/-- A line at the end of the file of a target, and the number of the file that is open then. A line
that cannot be shown only opens the file. Nothing but a file is moved aside. -/
def writeFile (r : Registry) (place : Place) (maxOctets backups : Int) (opened : Option Nat)
    (line : Option Text) : Option Nat × Registry :=
  match opened.map (·, r) <|> r.openFile? place, line with
  | none, _ => (none, r)
  | some (file, r), none => (some file, r)
  | some (file, r), some line =>
    let size : Int := r.sizeBefore file + octetCount (r.contents file) + line.length + 1
    if 0 < maxOctets ∧ maxOctets ≤ size ∧ !r.now.isDirectory place then
      match r.rotate place backups with
      | (r, false) => (none, r)
      | (r, true) =>
        match r.openFile? place with
        | some (file, r) => (some file, r.appendLine file line)
        | none => (none, r)
    else (some file, r.appendLine file line)

/-! ## Entries -/

/-- A line to a target, if it can be shown. -/
def emit (line : Option Text) (t : Target) (r : Registry) : Target × Registry :=
  match t.destination with
  | .console stream =>
    match line with
    | some line => (t, { r with consoles := r.consoles ++ [(stream, line ++ ['\n'])] })
    | none => (t, r)
  | .file place maxOctets backups =>
    let (opened, r) := r.writeFile place maxOctets backups t.opened line
    ({ t with opened }, r)

/-- An entry through the targets of one logger, those that let its level through. -/
def emitTo (timestamp : Text) (e : Entry) : List Target → Registry → List Target × Registry
  | [], r => ([], r)
  | t :: ts, r =>
    let (t, r) := if e.level < t.level.toInt then (t, r) else emit (fill t.template timestamp e) t r
    let (ts, r) := emitTo timestamp e ts r
    (t :: ts, r)

/-- An entry through the targets of the logger of a name. -/
def emitAt (timestamp : Text) (e : Entry) (r : Registry) (name : Text) : Registry :=
  let l := r.logger name
  let (targets, r) := emitTo timestamp e l.targets r
  if l.targets = [] then r else r.setLogger name { l with targets }

/-- The level is enough for the logger of a name. -/
def isEnabled (r : Registry) (name : Text) (level : Int) : Bool :=
  0 < level && r.effectiveLevel name ≤ level

/-- One entry. Where no logger that gets it has a target, a warning or graver is written as its
bare message to the console. -/
def log (r : Registry) (timestamp : Text) (e : Entry) : Registry :=
  let r := if (r.loggers.lookup e.logger).isSome then r else r.setLogger e.logger {}
  if !r.isEnabled e.logger e.level then r
  else
    let names := r.receivers (e.logger :: r.above e.logger)
    if names.all fun n => (r.logger n).targets.isEmpty then
      if warning ≤ e.level then
        { r with consoles := r.consoles ++ [(r.stream, e.message ++ ['\n'])] }
      else r
    else names.foldl (emitAt timestamp e) r

/-- A new console stream; targets that exist keep the old one. -/
def swapStream (r : Registry) : Registry := { r with stream := r.stream + 1 }

/-- What was written to the file at a place. -/
def textAt? (r : Registry) (place : Place) : Option Text :=
  (r.places.lookup place).map r.contents

def filePlaces (r : Registry) : List Place := r.places.map (·.1)

/-- The registry with its console streams read. -/
def clearConsoles (r : Registry) : Registry := { r with consoles := [] }

/-- What was written to a console stream. -/
def consoleText (r : Registry) (stream : Nat) : Text :=
  (r.consoles.filter fun (s, _) => s = stream).flatMap (·.2)

end Registry

end ParcelStatus.Log
