import ParcelStatus.Json.Basic
import ParcelStatus.Number.Numeral
import ParcelStatus.Text.Utf8

/-!
# Reading JSON

Reading a JSON text, with the names `NaN`, `Infinity` and `-Infinity` as numbers beside the
grammar of RFC 8259. The last of two members of one name counts, at the place of the first. The
reader stops at the first fault and says what was expected, and where. It is told by its parameter
`stand` what stands for a lone surrogate, which is no character.

* `Json.read` — the value of a text, or the first fault;
* `Json.readNested` — the same for a reader that goes only so deep;
* `Json.readUnbounded` — the same for a reader that knows the grammar only;
* `ReadFault.message` — the wording of a fault, with line, column and offset of its place.
-/

namespace ParcelStatus.Json

open Text

/-- What is wrong with a JSON text. -/
inductive Expectation where
  /-- A value should stand here. -/
  | value
  /-- A member name should stand here. -/
  | memberName
  /-- A colon should stand here. -/
  | colon
  /-- A comma should stand here. -/
  | comma
  /-- The text should end here. -/
  | ending
  /-- The string that begins here does not end. -/
  | stringEnd
  /-- A control character stands in a string. -/
  | noControl
  /-- No escape begins like this. -/
  | escape
  /-- A numbered escape lacks its four digits. -/
  | escapeDigits
  /-- The text begins with a byte order mark. -/
  | noMark
deriving DecidableEq, Repr

/-- Why a JSON text has no value. -/
inductive ReadFault where
  /-- The text does not follow the grammar at a place of it. -/
  | unexpected (what : Expectation) (source : Text) (place : Nat)
  /-- A whole number has too many digits. -/
  | number (fault : Numeral.Fault)
  /-- A list, or an object, lies too deep. -/
  | tooDeep (isObject : Bool)
deriving DecidableEq, Repr

/-- The wording of an expectation. -/
def Expectation.message : Expectation → Text
  | .value => "Expecting value".toList
  | .memberName => "Expecting property name enclosed in double quotes".toList
  | .colon => "Expecting ':' delimiter".toList
  | .comma => "Expecting ',' delimiter".toList
  | .ending => "Extra data".toList
  | .stringEnd => "Unterminated string starting at".toList
  | .noControl => "Invalid control character at".toList
  | .escape => "Invalid \\escape".toList
  | .escapeDigits => "Invalid \\uXXXX escape".toList
  | .noMark => "Unexpected UTF-8 BOM (decode using utf-8-sig)".toList

/-- The number of the line that a text's end stands on, and of the column behind it. -/
def lineAndColumn (before : Text) : Nat × Nat :=
  (before.count '\n' + 1, (before.reverse.takeWhile (· != '\n')).length + 1)

/-- The wording of a fault. -/
def ReadFault.message : ReadFault → Text
  | .unexpected what source place =>
    let (line, column) := lineAndColumn (source.take place)
    what.message ++ ": line ".toList ++ ofNat line ++ " column ".toList ++ ofNat column
      ++ " (char ".toList ++ ofNat place ++ [')']
  | .number fault => fault.message
  | .tooDeep isObject =>
    "maximum recursion depth exceeded while decoding a JSON ".toList
      ++ (if isObject then "object".toList else "array".toList) ++ " from a unicode string".toList

/-- A fault before its source text is known: what was expected, and what was left of the text. -/
inductive Stop where
  /-- Something else was expected. -/
  | unexpected (what : Expectation) (left : Text)
  /-- A whole number has too many digits. -/
  | number (fault : Numeral.Fault)
  /-- A list, or an object, lies too deep. -/
  | tooDeep (isObject : Bool)

/-- The white space between the parts of a JSON text. -/
def isSpace (c : Char) : Bool := c = ' ' || c = '\t' || c = '\n' || c = '\r'

/-- The text without the space in front. -/
def skipSpace (t : Text) : Text := t.dropWhile isSpace

/-- The value of a digit of base sixteen. -/
def hexValue? (c : Char) : Option Nat :=
  if c.isDigit then some (c.toNat - 0x30)
  else if 'a' ≤ c ∧ c ≤ 'f' then some (c.toNat - 0x57)
  else if 'A' ≤ c ∧ c ≤ 'F' then some (c.toNat - 0x37)
  else none

/-- The number of four digits of base sixteen in front, and the rest. -/
def hexUnit? : Text → Option (Nat × Text)
  | a :: b :: c :: d :: r => do
    let a ← hexValue? a
    let b ← hexValue? b
    let c ← hexValue? c
    let d ← hexValue? d
    return (((a * 16 + b) * 16 + c) * 16 + d, r)
  | _ => none

/-- The character of a numbered escape behind its `\u`, and the rest. Two escapes that make a
surrogate pair are one character. -/
def escapedChar? (stand : Nat → Char) (t : Text) : Option (Char × Text) := do
  let (high, r) ← hexUnit? t
  let single : Char × Text := (if isSurrogate high then stand high else Char.ofNat high, r)
  if 0xd800 ≤ high ∧ high < 0xdc00 then
    match r with
    | '\\' :: 'u' :: s =>
      if (s.drop 4).isEmpty then return single
      else
        let (low, s) ← hexUnit? s
        if 0xdc00 ≤ low ∧ low < 0xe000 then
          return (Char.ofNat (0x10000 + (high - 0xd800) * 0x400 + (low - 0xdc00)), s)
        else return single
    | _ => return single
  else return single

/-- The character that a one-letter escape stands for. -/
def shortEscape? : Char → Option Char
  | '"' => some '"'
  | '\\' => some '\\'
  | '/' => some '/'
  | 'b' => some '\x08'
  | 'f' => some '\x0c'
  | 'n' => some '\n'
  | 'r' => some '\r'
  | 't' => some '\t'
  | _ => none

/-- The characters of a string behind its opening quote, and the rest. `opened` is what was left
of the text at the quote. -/
def readString (stand : Nat → Char) (opened : Text) : Nat → Text → Except Stop (Text × Text)
  | 0, _ => .error (.unexpected .stringEnd opened)
  | fuel + 1, t =>
    match t with
    | [] => .error (.unexpected .stringEnd opened)
    | '"' :: r => .ok ([], r)
    | '\\' :: r =>
      match r with
      | [] => .error (.unexpected .stringEnd opened)
      | 'u' :: s =>
        if (s.drop 4).isEmpty then .error (.unexpected .escapeDigits r)
        else match escapedChar? stand s with
          | none =>
            .error (.unexpected .escapeDigits (if (hexUnit? s).isSome then r.drop 6 else r))
          | some (c, s) => (readString stand opened fuel s).map fun (cs, s) => (c :: cs, s)
      | e :: s =>
        match shortEscape? e with
        | none => .error (.unexpected .escape t)
        | some c => (readString stand opened fuel s).map fun (cs, s) => (c :: cs, s)
    | c :: r =>
      if c.toNat < 0x20 then .error (.unexpected .noControl t)
      else (readString stand opened fuel r).map fun (cs, s) => (c :: cs, s)

/-- The digits of ASCII in front and the rest. -/
def spanAsciiDigits (t : Text) : Text × Text := (t.takeWhile Char.isDigit, t.dropWhile Char.isDigit)

/-- A fraction in front, point included, and the rest; no fraction without a digit. -/
def readFraction : Text → Text × Text
  | '.' :: r =>
    match spanAsciiDigits r with
    | ([], _) => ([], '.' :: r)
    | (digits, rest) => ('.' :: digits, rest)
  | t => ([], t)

/-- An exponent in front, letter included, and the rest; no exponent without a digit. -/
def readExponent : Text → Text × Text
  | [] => ([], [])
  | e :: r =>
    if e = 'e' ∨ e = 'E' then
      let (sign, s) := match r with
        | '+' :: s => (['+'], s)
        | '-' :: s => (['-'], s)
        | s => ([], s)
      match spanAsciiDigits s with
      | ([], _) => ([], e :: r)
      | (digits, rest) => (e :: (sign ++ digits), rest)
    else ([], e :: r)

/-- A whole number by its sign and its digits. Where numbers are bounded, too many digits are a
fault. -/
def wholeNumber (bounded : Bool) (sign digits : Text) : Except Stop Json :=
  match Numeral.int (sign ++ digits) with
  | .ok n => .ok (.int n)
  | .error fault =>
    if bounded then .error (.number fault)
    else
      let n : Int := (digitsValue? digits).getD 0
      .ok (.int (if sign.isEmpty then n else -n))

/-- A number in front and the rest. -/
def readNumber (bounded : Bool) (t : Text) : Except Stop (Json × Text) :=
  let (sign, body) := match t with
    | '-' :: r => (['-'], r)
    | r => ([], r)
  let (whole, r) := match body with
    | '0' :: r => (['0'], r)
    | r => spanAsciiDigits r
  if whole.isEmpty then .error (.unexpected .value t)
  else
    let (fraction, r) := readFraction r
    let (exponent, r) := readExponent r
    if fraction.isEmpty && exponent.isEmpty then
      (wholeNumber bounded sign whole).map fun v => (v, r)
    else
      .ok (.float ((Numeral.float? (sign ++ whole ++ fraction ++ exponent)).getD .nan), r)

/-- The constants by their names. -/
def constants : List (Text × Json) :=
  [("null".toList, .null), ("true".toList, .bool true), ("false".toList, .bool false),
   ("NaN".toList, .float .nan), ("Infinity".toList, .float (.infinite false)),
   ("-Infinity".toList, .float (.infinite true))]

/-- A constant in front and the rest. -/
def readConstant? (t : Text) : Option (Json × Text) :=
  constants.findSome? fun (name, v) => (dropPrefix? name t).map (v, ·)

mutual

/-- A value in front that holds others no deeper than a limit, and the rest. Fuel of twice the
length of the text suffices: no two calls without a character between them follow each other more
than once. -/
def readValue (bounded : Bool) (stand : Nat → Char) : Nat → Nat → Text → Except Stop (Json × Text)
  | 0, _, t => .error (.unexpected .value t)
  | fuel + 1, depth, t =>
    match t with
    | [] => .error (.unexpected .value [])
    | '"' :: r => (readString stand t fuel r).map fun (cs, s) => (.str cs, s)
    | '[' :: r =>
      if depth = 0 then .error (.tooDeep false)
      else match skipSpace r with
      | ']' :: s => .ok (.arr [], s)
      | s => (readItems bounded stand fuel (depth - 1) s).map fun (vs, s) => (.arr vs, s)
    | '\x7b' :: r =>
      if depth = 0 then .error (.tooDeep true)
      else match skipSpace r with
      | '\x7d' :: s => .ok (.obj [], s)
      | s => (readMembers bounded stand fuel (depth - 1) [] s).map fun (ms, s) => (.obj ms, s)
    | t => match readConstant? t with
      | some found => .ok found
      | none => readNumber bounded t

/-- The items of a list that has at least one, and the rest behind its bracket. -/
def readItems (bounded : Bool) (stand : Nat → Char) :
    Nat → Nat → Text → Except Stop (List Json × Text)
  | 0, _, t => .error (.unexpected .value t)
  | fuel + 1, depth, t => do
    let (v, r) ← readValue bounded stand fuel depth t
    match skipSpace r with
    | ']' :: s => return ([v], s)
    | ',' :: s =>
      let (vs, s) ← readItems bounded stand fuel depth (skipSpace s)
      return (v :: vs, s)
    | s => .error (.unexpected .comma s)

/-- The members of an object that has at least one more, and the rest behind its brace. -/
def readMembers (bounded : Bool) (stand : Nat → Char) :
    Nat → Nat → List (Text × Json) → Text → Except Stop (List (Text × Json) × Text)
  | 0, _, _, t => .error (.unexpected .memberName t)
  | fuel + 1, depth, known, t =>
    match t with
    | '"' :: r => do
      let (key, r) ← readString stand t fuel r
      match skipSpace r with
      | ':' :: s =>
        let (v, s) ← readValue bounded stand fuel depth (skipSpace s)
        let known := insertMember key v known
        match skipSpace s with
        | '\x7d' :: s => return (known, s)
        | ',' :: s => readMembers bounded stand fuel depth known (skipSpace s)
        | s => .error (.unexpected .comma s)
      | s => .error (.unexpected .colon s)
    | t => .error (.unexpected .memberName t)

end

/-- The value of a JSON text whose lists and objects lie no deeper than a limit, or its first
fault. -/
def readWithin (bounded : Bool) (stand : Nat → Char) (depth : Nat) (t : Text) :
    Except ReadFault Json :=
  let place : Stop → ReadFault
    | .unexpected what left => .unexpected what t (t.length - left.length)
    | .number fault => .number fault
    | .tooDeep isObject => .tooDeep isObject
  if t.head? = some '\uFEFF' then .error (.unexpected .noMark t 0)
  else match readValue bounded stand (2 * t.length + 1) depth (skipSpace t) with
    | .error stop => .error (place stop)
    | .ok (v, r) =>
      match skipSpace r with
      | [] => .ok v
      | s => .error (place (.unexpected .ending s))

/-- The same with bounded numbers. -/
def readNested (stand : Nat → Char) (depth : Nat) (t : Text) : Except ReadFault Json :=
  readWithin true stand depth t

/-- The replacement character, whatever it replaces. -/
def replacement (_unit : Nat) : Char := '\uFFFD'

/-- The value of a JSON text, or its first fault. Nothing lies deeper than the text is long. -/
def read (t : Text) : Except ReadFault Json := readNested replacement t.length t

/-- The same with numbers of any length: only what breaks the grammar is a fault. -/
def readUnbounded (t : Text) : Except ReadFault Json := readWithin false replacement t.length t

end ParcelStatus.Json
