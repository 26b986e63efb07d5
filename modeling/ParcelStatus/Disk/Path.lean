import ParcelStatus.Text.Quoted

/-!
# Paths

File paths in normal form: a root, which is empty for a relative path, and the parts between the
slashes, without empty parts and single dots. Two dots are kept.

* `Path.ofText`, `Path.text` — reading and writing a path;
* `Path.name`, `Path.stem`, `Path.suffix` — the last part, and its two pieces around the last dot;
  a dot at either end of a name begins no suffix;
* `Path.withName?`, `Path.withSuffix?` — another last part, refused for a path that has none.
-/

namespace ParcelStatus

open Text

/-- A file path in normal form. -/
structure Path where
  /-- Empty for a relative path, else one slash or two. -/
  root : Text := []
  parts : List Text := []
deriving DecidableEq, Repr

/-- A path that names nothing where a name is needed. -/
structure NoNameFault where
  path : Path
deriving DecidableEq, Repr

namespace Path

/-- The parts of a text between slashes that mean something. -/
def partsOf (t : Text) : List Text := (splitOn '/' t).filter fun p => p ≠ [] && p ≠ ['.']

/-- Two slashes in front are a root of their own; three or more are one. -/
def rootOf : Text → Text
  | '/' :: '/' :: '/' :: _ => ['/']
  | '/' :: '/' :: _ => ['/', '/']
  | '/' :: _ => ['/']
  | _ => []

def ofText (t : Text) : Path := ⟨rootOf t, partsOf t⟩

/-- The written form; the path without root and parts is a dot. -/
def text (p : Path) : Text :=
  if p.root = [] ∧ p.parts = [] then ['.'] else p.root ++ join ['/'] p.parts

/-- The last part, empty if there is none. -/
def name (p : Path) : Text := p.parts.getLast?.getD []

/-- The name in front of its last dot and the rest from that dot on. A dot at either end of the
name does not count. -/
def splitSuffix (name : Text) : Text × Text :=
  let behind := name.reverse.takeWhile (· ≠ '.')
  let before := name.length - behind.length - 1
  if behind.length < name.length ∧ behind ≠ [] ∧ before ≠ 0 then
    (name.take before, name.drop before)
  else (name, [])

/-- The name without its suffix. -/
def stem (p : Path) : Text := (splitSuffix p.name).1

/-- The suffix of the name, dot included, empty if there is none. -/
def suffix (p : Path) : Text := (splitSuffix p.name).2

/-- The directory that holds what the path names. -/
def parent (p : Path) : Path := { p with parts := p.parts.dropLast }

/-- One more part. -/
def child (p : Path) (name : Text) : Path := { p with parts := p.parts ++ [name] }

/-- The path with another last part. -/
def withName? (p : Path) (name : Text) : Except NoNameFault Path :=
  if p.name = [] then .error ⟨p⟩ else .ok (p.parent.child name)

/-- The path with another suffix, which may be put where there was none. -/
def withSuffix? (p : Path) (suffix : Text) : Except NoNameFault Path :=
  p.withName? (p.stem ++ suffix)

end Path

/-- The wording of the fault. -/
def NoNameFault.message (f : NoNameFault) : Text :=
  "PosixPath(".toList ++ quoted f.path.text ++ ") has an empty name".toList

end ParcelStatus
