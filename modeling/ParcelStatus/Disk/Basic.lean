import ParcelStatus.Disk.Path
import ParcelStatus.Table
import ParcelStatus.Text.Utf8
import ParcelStatus.Upload.Workbook

/-!
# Files and directories

What the program finds on disk: files with their contents and directories, under one root above
which nothing exists or is looked at. Paths are looked up from a working directory.

* `Disk.place?` — the place that a path leads to;
* `Disk.find` — what stands there: nothing, a file or a directory;
* `Disk.isTooLong` — a path or one of its names has too many octets to be looked up;
* `Disk.makeDirectories` — a directory and those that hold it, made where they are missing;
* `Disk.write` — a file with new contents, its directories made as needed.
-/

namespace ParcelStatus

/-- The contents of a file. -/
inductive Contents where
  | octets (os : List UInt8)
  /-- A workbook whose first sheet has these cells. -/
  | workbook (cells : List (List Upload.WorkbookCell))

/-- A place on disk: the names from the root on. -/
abbrev Place := List Text

/-- What stands at a place. -/
inductive Found where
  | nothing
  | file (contents : Contents)
  | directory

/-- Files, and directories beyond those that hold files. -/
structure Disk where
  /-- The files by their places. -/
  files : List (Place × Contents) := []
  /-- More directories. -/
  directories : List Place := []
  /-- The working directory. -/
  current : Place := []
  /-- Absolute paths lead into this disk. -/
  absolute : Bool := false

namespace Disk

def fileAt? (d : Disk) (p : Place) : Option Contents := d.files.lookup p

/-- A directory stands at the place: the root, one that was made, or one that holds something. -/
def isDirectory (d : Disk) (p : Place) : Bool :=
  p.isEmpty || d.directories.any (fun q => p.isPrefixOf q)
    || d.files.any (fun (q, _) => p.isPrefixOf q && p ≠ q)

/-- The place behind one more part of a path. Only directories have places behind them. -/
def step? (d : Disk) (at_ : Place) (part : Text) : Option Place :=
  if !d.isDirectory at_ then none
  else if part = ['.', '.'] then (if at_.isEmpty then none else some at_.dropLast)
  else some (at_ ++ [part])

/-- The place that a path leads to. An absolute path leads nowhere but to the root of a disk that
is only a part of a larger one. -/
def place? (d : Disk) (p : Path) : Option Place :=
  if p.root = [] then p.parts.foldlM d.step? d.current
  else if d.absolute then p.parts.foldlM d.step? []
  else if p.parts = [] then some []
  else none

/-- The place of a path when two dots take back the part before them, whatever stands there. Two
dots that lead out of a disk that is only a part of a larger one are kept. -/
def lexicalPlace (d : Disk) (p : Path) : Place :=
  let leavesDisk (q : Place) : Bool := p.root = [] && !d.absolute && q.all (· = ['.', '.'])
  p.parts.foldl
    (fun q part => if part = ['.', '.'] && !leavesDisk q then q.dropLast else q ++ [part])
    (if p.root = [] then d.current else [])

/-- The absolute path of a path, in its shortest spelling. Two slashes in front stay a root of their
own; the root of a disk that is only a part of a larger one has no name. -/
def absolutePath (d : Disk) (p : Path) : Path where
  root := if p.root = [] then (if d.absolute then ['/'] else []) else p.root
  parts := d.lexicalPlace p

/-- What a path leads to. -/
def find (d : Disk) (p : Path) : Found :=
  match d.place? p with
  | none => .nothing
  | some place =>
    match d.fileAt? place with
    | some contents => .file contents
    | none => if d.isDirectory place then .directory else .nothing

/-- The path leads through a file. -/
def passesFile (d : Disk) (p : Path) : Bool :=
  let before := (List.range p.parts.length).map fun n => { p with parts := p.parts.take n }
  before.any fun q => match d.find q with
    | .file _ => true
    | _ => false

/-- Something stands where the path leads. -/
def hasPath (d : Disk) (p : Path) : Bool :=
  match d.find p with
  | .nothing => false
  | _ => true

/-- A file stands where the path leads. -/
def hasFile (d : Disk) (p : Path) : Bool :=
  match d.find p with
  | .file _ => true
  | _ => false

/-- A directory stands where the path leads. -/
def hasDirectory (d : Disk) (p : Path) : Bool :=
  match d.find p with
  | .directory => true
  | _ => false

/-! ## Limits -/

/-- The most octets of a name. -/
def longestName : Nat := 255

/-- The most octets of a path. -/
def longestPath : Nat := 4095

/-- The path is too long, or one of its names that is looked up in a directory. A path with a null
character is not looked up at all. -/
def isTooLong (d : Disk) (p : Path) : Bool :=
  !p.text.contains '\x00'
    && (longestPath < Text.octetCount p.text
      || (List.range p.parts.length).any fun n =>
        (p.parts[n]?.any fun part => longestName < Text.octetCount part)
          && d.hasDirectory { p with parts := p.parts.take n })

/-! ## Changes -/

/-- Why a directory cannot be made. -/
inductive DirectoryFault where
  /-- A file stands there. -/
  | taken (path : Path)
  /-- The path leads through a file. -/
  | throughFile (path : Path)
  | tooLong (path : Path)
deriving DecidableEq, Repr

/-- The wording of a directory fault. -/
def DirectoryFault.message : DirectoryFault → Text
  | .taken p => "[Errno 17] File exists: ".toList ++ Text.quoted p.text
  | .throughFile p => "[Errno 20] Not a directory: ".toList ++ Text.quoted p.text
  | .tooLong p => "[Errno 36] File name too long: ".toList ++ Text.quoted p.text

/-- The disk with the directory that a path leads to and those that hold it. -/
def makeDirectories (d : Disk) (p : Path) : Except DirectoryFault Disk :=
  if d.isTooLong p then .error (.tooLong p)
  else if d.passesFile p then .error (.throughFile p)
  else if d.hasFile p then .error (.taken p)
  else
    .ok ((List.range p.parts.length).foldl (fun d n =>
      match d.place? { p with parts := p.parts.take (n + 1) } with
      | some place =>
        if d.isDirectory place then d else { d with directories := place :: d.directories }
      | none => d) d)

/-- The disk with new contents of the file at a place. -/
def writeAt (d : Disk) (place : Place) (contents : Contents) : Disk :=
  { d with files := Table.assign place contents d.files }

/-- The disk with new contents of the file that a path leads to, if it leads anywhere. -/
def write (d : Disk) (p : Path) (contents : Contents) : Disk :=
  match d.place? p with
  | some place => d.writeAt place contents
  | none => d

end Disk

end ParcelStatus
