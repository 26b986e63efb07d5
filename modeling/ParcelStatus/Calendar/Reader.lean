import ParcelStatus.Calendar.Regular
import ParcelStatus.Number.Numeral

/-!
# Dates as carriers write them

The instant that a text names. A text is read as a regular one, else by the strict form, else as a
word for the present, else as one of the short forms, else by what its tokens say. A text that
starts with a time of day is read at the present day.

* `readShort` — the short forms: two numbers of a date and its year between any marks, a year
  alone, a quarter of a year, and a month of a year;
* `readPresent?`, `startsWithTime` — the words for the present, and the texts that are read at the
  present day;
* `readInstant?` — the instant of a text, in microseconds since the start of 1970.
-/

namespace ParcelStatus.Calendar

open Text

/-! ## Short forms -/

/-- What a form makes of a text. -/
inductive Outcome where
  /-- The text is of another form. -/
  | other
  /-- The text is of the form, but names no date. -/
  | wrong
  /-- The text names this date. -/
  | date (d : Date)
deriving DecidableEq, Repr

/-- The date, if the calendar has it. -/
def Outcome.ofDate (year month day : Nat) : Outcome :=
  match Date.of? year month day with
  | some d => .date d
  | none => .wrong

/-- The marks between the numbers of a date. -/
def isNumberMark (c : Char) : Bool := c = ' ' || c = '/' || c = '-' || c = '.'

/-- A row of plain digits as a number. -/
def plainNumber? (t : Text) : Option Nat :=
  if !t.isEmpty && t.all isPlainDigit then digitsValue? t else none

/-- The parts of a text between marks. -/
def splitAtMarks (t : Text) : List Text :=
  t.foldr (fun c ps =>
    if isNumberMark c then [] :: ps
    else match ps with
      | p :: ps => (c :: p) :: ps
      | [] => [[c]]) [[]]

/-- Month, day and year between any two marks, or month and year around one that is no point. A
number above twelve in front is the day. -/
def readMarkedNumbers (t : Text) : Outcome :=
  match (splitAtMarks t).map fun p => (p.length, plainNumber? p) with
  | [(k, some month), (l, some day), (4, some year)] =>
    if 2 < k ∨ 2 < l ∨ year < 1000 then .other
    else if month < 1 ∨ 31 < month ∨ day < 1 ∨ 31 < day ∨ (12 < month ∧ 12 < day) then .wrong
    else if 12 < month then .ofDate year day month
    else .ofDate year month day
  | [(2, some month), (4, some year)] =>
    if t.contains '.' ∨ year < 1000 then .other
    else .ofDate year month 1
  | _ => .other

/-- A year and a quarter of it, counted from one. -/
def ofQuarter (year quarter : Int) : Outcome :=
  if quarter < 1 ∨ 4 < quarter then .wrong
  else match Date.of? year.toNat (3 * quarter.toNat - 2) 1 with
    | some d => if 0 < year then .date d else .other
    | none => .other

/-- A whole number of a text. -/
def numeral? (t : Text) : Option Int := (Numeral.int t).toOption

/-- The quarter by the place of the letter in a text of capitals. A hyphen may stand beside the
letter, and a year of two digits is one of this century. -/
def readQuarterAt (t : Text) (place : Nat) : Outcome :=
  let n := t.length
  let hyphen (i : Nat) : Bool := t[i]? = some '-'
  let ofTexts (century : Int) (year quarter : Text) : Outcome :=
    match numeral? year, numeral? quarter with
    | some y, some q => ofQuarter (century + y) q
    | _, _ => .other
  if place = 1 then
    if n = 4 || (n = 5 && hyphen 2) then ofTexts 2000 (t.drop (n - 2)) (t.take 1)
    else if n = 6 || (n = 7 && hyphen 2) then ofTexts 0 (t.drop (n - 4)) (t.take 1)
    else .other
  else if place < 4 then
    if n = 4 || (n = 5 && hyphen (place - 1)) then ofTexts 2000 (t.take 2) (t.drop (n - 1))
    else .other
  else if n = 6 || (n = 7 && hyphen (place - 1)) then ofTexts 0 (t.take 4) (t.drop (n - 1))
  else .other

/-- A quarter of a year. -/
def readQuarter (t : Text) : Outcome :=
  if 4 ≤ t.length ∧ t.length ≤ 7 then
    match ((t.take 6).drop 1).findIdx? (· = 'Q') with
    | some i => readQuarterAt t (i + 1)
    | none => .other
  else .other

/-- A year in four characters. -/
def readYearAlone (t : Text) : Outcome :=
  match (if t.length = 4 then numeral? t else none) with
  | some year => match Date.of? year.toNat 1 1 with
    | some d => .date d
    | none => .other
  | none => .other

/-- A year of four digits that ends a text. -/
def yearAtEnd? (t : Text) : Option Nat := if t.length = 4 then digitsValue? t else none

/-- The first three letters of a month and its year, or the year and the number of a month. -/
def readMonthOfYear (t : Text) : Outcome :=
  let make (year month : Option Nat) : Outcome :=
    match year, month with
    | some y, some m => match Date.of? y m 1 with
      | some d => .date d
      | none => .other
    | _, _ => .other
  let (name, r) := (t.take 3, t.drop 3)
  match monthNames.findIdx? fun names => names.head?.map String.toList = some (lower name) with
  | some i =>
    match r with
    | '-' :: year => make (yearAtEnd? year) (some (i + 1))
    | c :: _ => if isBlank c then make (yearAtEnd? (trimLeft r)) (some (i + 1)) else .other
    | [] => .other
  | none =>
    match t.drop 4 with
    | '-' :: month =>
      make (yearAtEnd? (t.take 4)) (if month.length ≤ 2 then plainNumber? month else none)
    | _ => .other

/-- The first outcome that is not of another form. -/
def Outcome.orElse (o : Outcome) (next : Unit → Outcome) : Outcome :=
  match o with
  | .other => next ()
  | o => o

/-- The date of a text of one of the short forms. -/
def readShort (t : Text) : Outcome :=
  let capitals := upper t
  (readMarkedNumbers t).orElse fun _ =>
    (readYearAlone capitals).orElse fun _ =>
      (readQuarter capitals).orElse fun _ => readMonthOfYear capitals

/-! ## Texts that are no dates -/

/-- A text without the plain blanks at its ends. -/
def trimPlain (t : Text) : Text :=
  ((t.dropWhile isPlainBlank).reverse.dropWhile isPlainBlank).reverse

/-- The text is a plain number below a thousand that does not start with a zero. -/
def isSmallNumber (t : Text) : Bool :=
  let (negative, r) := match trimPlain t with
    | '-' :: r => (true, r)
    | '+' :: r => (false, r)
    | r => (false, r)
  let whole := r.takeWhile isPlainDigit
  let isNumber := match r.dropWhile isPlainDigit with
    | [] => !whole.isEmpty
    | '.' :: fraction => fraction.all isPlainDigit && !(whole.isEmpty && fraction.isEmpty)
    | _ => false
  isNumber && t.head? ≠ some '0' && (negative || (digitsValue? whole).getD 0 < 1000)

/-! ## The present in texts -/

/-- The text starts with a time of day: an hour of one digit or two, a colon, and two digits. -/
def startsWithTime (t : Text) : Bool :=
  let hour := t.takeWhile (· ≠ ':')
  let minute := (t.drop (hour.length + 1)).take 2
  match plainNumber? hour, plainNumber? minute with
  | some h, some m => hour.length ≤ 2 && minute.length = 2 && h < 24 && m < 60
  | _, _ => false

/-- The instant that a word for the present names. The word for the day stands for what the clock
shows, as if it were universal time. -/
def readPresent? [Present] (t : Text) : Option Int :=
  if t = "now".toList then some Present.now.instant
  else if t = "today".toList then some Present.now.shownTime
  else none

/-! ## Instants -/

/-- The instant of a text that is neither regular nor of the strict form. -/
def readLoose? [Present] (t : Text) : Option Int :=
  if isSmallNumber t then none
  else if startsWithTime t then (readingToday? (tokens t)).map Reading.instant
  else match readShort t with
    | .date d => some (Moment.instantOf d.number {} 0)
    | .wrong => none
    | .other => (reading? (tokens t)).map Reading.instant

/-- The instant that a text names, in microseconds since the start of 1970. NUL at the end of the
text counts for nothing. -/
def readInstant? [Present] (t : Text) : Option Int :=
  let t := (t.reverse.dropWhile (· = '\x00')).reverse
  match readRegular? t with
  | some instant => some instant
  | none => match readStrict? t with
    | some written => written.instant?
    | none => (readPresent? t).orElse fun _ => readLoose? t

end ParcelStatus.Calendar
