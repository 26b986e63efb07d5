import ParcelStatus.Json.Basic
import ParcelStatus.Log.Journal
import ParcelStatus.Number.Rounded
import ParcelStatus.Text.Digit

/-!
# Forms of log lines

The form of a line is a text with fields. A field is a percent sign, the name of a part of the
entry in parentheses, and how that part is shown: flags, the least width, the precision, and a
letter for the kind of showing. Two percent signs are one.

* `readTemplate` — the form that a value asks for; it must have at least one field;
* `Showing.write?` — a part as it is shown, if it can be shown so;
* `fill` — the line of an entry, unless something in the form cannot be shown.
-/

namespace ParcelStatus.Log

open Text

/-! ## Parts of an entry -/

/-- A part of an entry. -/
inductive Part where
  | text (t : Text)
  | number (n : Int)
  /-- Something that is only shown by its name. -/
  | named (t : Text)

/-- The part as a text. -/
def Part.shown : Part → Text
  | .text t => t
  | .number n => ofInt n
  | .named t => t

/-- The part as a text whose ends can be seen. -/
def Part.quoted : Part → Text
  | .text t => Text.quoted t
  | p => p.shown

def Entry.part? (e : Entry) (timestamp name : Text) : Option Part :=
  match String.ofList name with
  | "asctime" => some (.text timestamp)
  | "levelname" => some (.text (levelName e.level))
  | "levelno" => some (.number e.level)
  | "name" => some (.text (if e.logger = [] then "root".toList else e.logger))
  | "message" | "msg" => some (.text e.message)
  | "args" => some (.named "()".toList)
  | "exc_info" | "exc_text" | "stack_info" => some (.named "None".toList)
  | "threadName" => some (.text "MainThread".toList)
  | "processName" => some (.text "MainProcess".toList)
  | _ => none

/-! ## Showing a part -/

/-- How a part is shown. -/
structure Showing where
  flags : Text := []
  /-- The least width. -/
  width : Nat := 0
  /-- The most characters of a text, the fewest digits of a whole number, or the places of a number
  with a point. -/
  precision : Option Nat := none
  /-- The kind of showing. -/
  kind : Char

namespace Showing

/-- At the left of its width. -/
def left (s : Showing) : Bool := s.flags.contains '-'

/-- With what tells the base of a number, or with its point. -/
def full (s : Showing) : Bool := s.flags.contains '#'

/-- A text at its place within the width. -/
def place (s : Showing) (t : Text) : Text :=
  let gap := List.replicate (s.width - t.length) ' '
  if s.left then t ++ gap else gap ++ t

/-- A text, cut to the precision. -/
def text (s : Showing) (t : Text) : Text :=
  s.place (match s.precision with
    | some n => t.take n
    | none => t)

/-- The sign of a number. -/
def sign (s : Showing) (n : Int) : Text :=
  if n < 0 then ['-']
  else if s.flags.contains '+' then ['+']
  else if s.flags.contains ' ' then [' ']
  else []

/-- A number by its sign, what tells its base, and its digits. Zeros fill it up behind the sign. -/
def number (s : Showing) (sign base digits : Text) : Text :=
  if s.flags.contains '0' && !s.left then
    let front := sign ++ base
    front ++ padZeros (s.width - front.length) digits
  else s.place (sign ++ base ++ digits)

/-- A whole number in a base. -/
def inBase (s : Showing) (base : Nat) (letter : Char) (n : Int) : Text :=
  s.number (s.sign n) (if s.full && base ≠ 10 then ['0', letter] else [])
    (padZeros (s.precision.getD 0) (Nat.toDigits base n.natAbs))

/-- The places of a number with a point. -/
def places (s : Showing) : Nat := s.precision.getD 6

/-- A number in a rounded form. It is rounded to 53 bits first, and there is no form of one that is
too large for that. -/
def rounded? (s : Showing) (form : Nat → Bool → Nat → Text) (n : Int) : Option Text :=
  (Binary64.ofInt n).toInt?.map fun m => s.number (s.sign m) [] (form s.places s.full m.natAbs)

/-- A single character, by itself or by its number. -/
def character? (p : Part) : Option Text :=
  match p with
  | .text [c] => some [c]
  | .number n => if 0 ≤ n ∧ n.toNat.isValidChar then some [Char.ofNat n.toNat] else none
  | _ => none

/-- A text with its capitals, where the kind of showing is one. -/
def inCase (s : Showing) (t : Text) : Text := if s.kind.isUpper then t.map Char.toUpper else t

/-- The quoted text with all characters beyond ASCII escaped. -/
def escaped (t : Text) : Text :=
  t.flatMap fun c =>
    if c.toNat < 0x80 then [c]
    else if c.toNat < 0x100 then '\\' :: 'x' :: hexDigits 2 c.toNat
    else if c.toNat < 0x10000 then '\\' :: 'u' :: hexDigits 4 c.toNat
    else '\\' :: 'U' :: hexDigits 8 c.toNat

/-- A number as it is shown. -/
def writeNumber? (s : Showing) (n : Int) : Option Text :=
  match s.kind with
  | 'd' | 'i' | 'u' => some (s.inBase 10 'd' n)
  | 'o' => some (s.inBase 8 'o' n)
  | 'x' | 'X' => some (s.inCase (s.inBase 16 'x' n))
  | 'e' | 'E' => (s.rounded? Rounded.exponentForm n).map s.inCase
  | 'f' | 'F' => s.rounded? Rounded.fixedForm n
  | 'g' | 'G' => (s.rounded? Rounded.generalForm n).map s.inCase
  | _ => none

/-- The part as it is shown; only a number is shown as one. -/
def write? (s : Showing) (p : Part) : Option Text :=
  match s.kind, p with
  | 's', p => some (s.text p.shown)
  | 'r', p => some (s.text p.quoted)
  | 'a', p => some (s.text (escaped p.quoted))
  | 'c', p => (character? p).map s.place
  | _, .number n => s.writeNumber? n
  | _, _ => none

end Showing

/-! ## Reading fields -/

/-- A flag of a field. -/
def isFlag (c : Char) : Bool := c = '#' || c = '0' || c = '+' || c = ' ' || c = '-'

/-- The number in front and the rest. -/
def readCount (t : Text) : Nat × Text :=
  ((digitsValue? (t.takeWhile Char.isDigit)).getD 0, t.dropWhile Char.isDigit)

/-- A precision in front, behind its point, and the rest. -/
def readPrecision (t : Text) : Option Nat × Text :=
  match t with
  | '.' :: r => ((readCount r).map some id)
  | t => (none, t)

/-- The rest behind a letter for the size of a number, which tells nothing. -/
def dropSize (t : Text) : Text :=
  match t with
  | c :: r => if c = 'h' || c = 'l' || c = 'L' then r else t
  | [] => []

/-- How a part is shown, in front, and the rest. -/
def readShowing? (t : Text) : Option (Showing × Text) :=
  let (width, r) := readCount (t.dropWhile isFlag)
  let (precision, r) := readPrecision r
  match dropSize r with
  | [] => none
  | kind :: rest => some ({ flags := t.takeWhile isFlag, width, precision, kind }, rest)

/-- A name in front, behind its opening parenthesis, and the rest behind the closing one; `depth`
more are to be closed before. -/
def readName? (depth : Nat) : Text → Option (Text × Text)
  | [] => none
  | c :: r =>
    if c = ')' then
      match depth with
      | 0 => some ([], r)
      | depth + 1 => (readName? depth r).map fun (name, rest) => (c :: name, rest)
    else
      (readName? (if c = '(' then depth + 1 else depth) r).map fun (name, rest) => (c :: name, rest)

/-! ## Forms -/

/-- A character of the name of a part. -/
def isNameChar (c : Char) : Bool := c.isAlphanum || c = '_' || 0x80 ≤ c.toNat

/-- The letters for the kinds of showing. -/
def kindLetters : Text := "diouxefgcrsa%".toList

/-- The rest behind a number or an asterisk in front, if there is one. -/
def dropCount? (t : Text) : Option Text :=
  match t with
  | '*' :: r => some r
  | t => if (t.takeWhile isDecimal).isEmpty then none else some (t.dropWhile isDecimal)

/-- A text behind a percent sign has the look of a field, whether it can be shown or not. -/
def looksLikeField (t : Text) : Bool :=
  match t with
  | '(' :: r =>
    match r.takeWhile isNameChar, r.dropWhile isNameChar with
    | _ :: _, ')' :: r =>
      let r := r.dropWhile isFlag
      let r := (dropCount? r).getD r
      let r := match r with
        | '.' :: s => (dropCount? s).getD r
        | r => r
      (r.head?.any fun c => kindLetters.contains c.toLower)
    | _, _ => false
  | _ => false

/-- The form has a field. -/
def hasField : Text → Bool
  | [] => false
  | c :: r => (c = '%' && looksLikeField r) || hasField r

/-- Why a value is no form of lines. -/
inductive TemplateFault where
  /-- It has no field. -/
  | noField (template : Text)
  /-- It is a value of a kind that is no text. -/
  | kind (name : Text)
deriving DecidableEq, Repr

/-- The wording of the fault. -/
def TemplateFault.message : TemplateFault → Text
  | .noField template => "Invalid format '".toList ++ template ++ "' for '%' style".toList
  | .kind name => "expected string or bytes-like object, got ".toList ++ quoted name

/-- The form by which a line is its bare message. -/
def bareTemplate : Text := "%(message)s".toList

/-- The form of lines that a value asks for; a blank one asks for the bare message. -/
def readTemplate (v : Json) : Except TemplateFault Text :=
  match v with
  | .str (c :: r) => if hasField (c :: r) then .ok (c :: r) else .error (.noField (c :: r))
  | v => if v.isTruthy then .error (.kind v.kindName) else .ok bareTemplate

/-! ## Filling in -/

/-- A form with its fields filled in, told how many characters are left. -/
def fillFrom (parts : Text → Option Part) : Nat → Text → Option Text
  | 0, _ => some []
  | fuel + 1, t =>
    match t with
    | [] => some []
    | '%' :: '%' :: r => (fillFrom parts fuel r).map ('%' :: ·)
    | '%' :: '(' :: r => do
      let (name, r) ← readName? 0 r
      let part ← parts name
      let (showing, r) ← readShowing? r
      return (← showing.write? part) ++ (← fillFrom parts fuel r)
    | '%' :: _ => none
    | c :: r => (fillFrom parts fuel r).map (c :: ·)

/-- The line of an entry by a form. -/
def fill (template timestamp : Text) (e : Entry) : Option Text :=
  fillFrom (e.part? timestamp) template.length template

end ParcelStatus.Log
