import ParcelStatus.Calendar.Moment

/-!
# The strict date form

The international form of dates and times: a year of four digits, then month and day, then `T` or a
space and a time of day, then an offset. Parts of the date stand side by side or have one mark
between them, parts of the time of day stand side by side or have colons between them, and only a
part behind a mark may have one digit instead of two. Everything behind the year may be missing from
some point on.

* `Written` — a date and time as it is written, with a fraction to the nanosecond;
* `Written.instant?` — its instant; a fraction of more than six digits is kept to the nanosecond,
  and is then limited to what 64 bits count;
* `readStrict?` — reads the form.
-/

namespace ParcelStatus.Calendar

open Text

/-! ## What is written -/

/-- A date and time as it is written. -/
structure Written where
  /-- The year; it may be zero or negative. -/
  year : Int
  month : Nat := 1
  /-- The day of the month. -/
  day : Nat := 1
  /-- The time of day. -/
  clock : Clock := {}
  /-- The digits of the fraction of the second. -/
  fraction : Text := []
  /-- How far the clock is ahead of universal time, in minutes. -/
  offset : Int := 0
deriving DecidableEq, Repr

/-- What 64 bits count in nanoseconds. -/
def fitsNanoseconds (nanoseconds : Int) : Bool :=
  -9223372036854775808 < nanoseconds && nanoseconds < 9223372036854775808

/-- So many digits of a fraction as a number, filled up with zeros. -/
def fractionDigits (count : Nat) (fraction : Text) : Nat :=
  (digitsValue? ((fraction ++ List.replicate count '0').take count)).getD 0

/-- The instant at a day and a time of day, with a fraction of the second and an offset in minutes.
With more than six digits of a fraction both the time on the clock and the instant are counted in
nanoseconds by 64 bits. -/
def instantWith? (day : Int) (clock : Clock) (fraction : Text) (offset : Int) : Option Int :=
  let micros := fractionDigits 6 fraction
  let nanos : Int := (fractionDigits 9 fraction : Nat) - 1000 * micros
  let onClock := Moment.instantOf day { clock with micros } 0
  let instant := onClock - offset * 60 * secondLength
  if 6 < fraction.length
      && !(fitsNanoseconds (onClock * 1000 + nanos) && fitsNanoseconds (instant * 1000 + nanos)) then
    none
  else some instant

/-- The instant of a written date and time. -/
def Written.instant? (w : Written) : Option Int :=
  instantWith? (dayNumber w.year w.month w.day) w.clock w.fraction w.offset

/-! ## Parts -/

/-- A digit of ASCII. -/
def isPlainDigit (c : Char) : Bool := c.isDigit

/-- A blank of ASCII. -/
def isPlainBlank (c : Char) : Bool :=
  c = ' ' || c = '\t' || c = '\n' || c = '\x0b' || c = '\x0c' || c = '\r'

def digitFollows (t : Text) : Bool := (t.head?.map isPlainDigit).getD false

/-- One or two digits in front: the number, whether there were two, and the rest. -/
def shortNumber? : Text → Option (Nat × Bool × Text)
  | a :: r =>
    if !isPlainDigit a then none
    else match r with
      | b :: s => if isPlainDigit b then (digitsValue? [a, b]).map (·, true, s)
        else (digitsValue? [a]).map (·, false, r)
      | [] => (digitsValue? [a]).map (·, false, [])
  | [] => none

/-- A number in front that has two digits, or one when that is allowed; it lies below the limit. -/
def part? (oneDigit : Bool) (limit : Nat) (t : Text) : Option (Nat × Text) := do
  let (n, two, r) ← shortNumber? t
  if (two || oneDigit) && n < limit then return (n, r) else none

/-- The characters that may stand between the parts of a date. -/
def isDateMark (c : Char) : Bool := c = '-' || c = '.' || c = '/' || c = '\\' || c = ' '

/-! ## Offsets -/

/-- The minutes of an offset behind its hours, up to the end or the blanks there. -/
def offsetMinutes? (t : Text) : Option (Nat × Text) :=
  match t with
  | [] => some (0, [])
  | ':' :: r => part? true 60 r
  | t => part? true 60 t

/-- The offset that ends a text, in minutes; blanks may stand around it. -/
def offset? (t : Text) : Option Int := do
  let (minutes, r) ← match t.dropWhile isPlainBlank with
    | 'Z' :: r => some ((0 : Int), r)
    | '+' :: r => do
      let (hours, r) ← part? true 24 r
      let (minutes, r) ← offsetMinutes? r
      some (((60 * hours + minutes : Nat) : Int), r)
    | '-' :: r => do
      let (hours, r) ← part? true 24 r
      let (minutes, r) ← offsetMinutes? r
      some (-((60 * hours + minutes : Nat) : Int), r)
    | r => some (0, r)
  if r.all isPlainBlank then return minutes else none

/-- The most digits of a fraction. -/
def maxFraction : Nat := 18

/-! ## Time of day -/

/-- A written time of day with its offset up to the end of the text. -/
def readTime? (w : Written) (t : Text) : Option Written := do
  let finish (clock : Clock) (fraction : Text) (r : Text) : Option Written :=
    (offset? r).map fun offset => { w with clock, fraction, offset }
  let (hour, two, r) ← shortNumber? t
  if two && 24 ≤ hour then none
  let colon := r.head? = some ':'
  if !colon && !digitFollows r then
    if two then finish { hour } [] r else none
  else
    let (minute, r) ← part? colon 60 (if colon then r.drop 1 else r)
    if r.head? = some ':' && colon || digitFollows r && !colon then
      let (second, r) ← part? colon 60 (if colon then r.drop 1 else r)
      match r with
      | '.' :: r =>
        let fraction := (r.takeWhile isPlainDigit).take maxFraction
        finish { hour, minute, second } fraction (r.drop fraction.length)
      | r => finish { hour, minute, second } [] r
    else finish { hour, minute } [] r

/-! ## Dates -/

/-- What follows a day: nothing, or a time of day behind `T` or a space. -/
def readBehindDay? (w : Written) (t : Text) : Option Written :=
  match t with
  | [] => some w
  | c :: r => if c = 'T' || c = ' ' then readTime? w r else none

/-- What follows a year: nothing, or the month and perhaps the day. Side by side they must both be
there. -/
def readBehindYear? (year : Int) (t : Text) : Option Written :=
  match t with
  | [] => some { year }
  | c :: r => do
    let mark := if isPlainDigit c then none else some c
    if !(mark.map isDateMark).getD true then none
    let (month, r) ← part? mark.isSome 13 (if mark.isSome then r else c :: r)
    if month = 0 then none
    match r with
    | [] => if mark.isSome then some { year, month } else none
    | again :: rest =>
      if mark.isSome && mark ≠ some again then none
      let (day, r) ← part? mark.isSome 32 (if mark.isSome then rest else again :: rest)
      if 1 ≤ day && day ≤ daysInMonth year month then readBehindDay? { year, month, day } r
      else none

/-- The date and time that a text of the strict form writes. A sign in front makes the year a
negative one, and a text that begins with a mark has the year zero. -/
def readStrict? (t : Text) : Option Written :=
  let r := t.dropWhile isPlainBlank
  let (negative, r) := match r with
    | '-' :: r => (t.head? == some '-', r)
    | r => (false, r)
  if r.isEmpty then none
  else
    let digits := r.take 4
    if digits.length = 4 && digits.all isPlainDigit then do
      let year : Int := (← digitsValue? digits : Nat)
      readBehindYear? (if negative then -year else year) (r.drop 4)
    else readBehindYear? 0 r

end ParcelStatus.Calendar
