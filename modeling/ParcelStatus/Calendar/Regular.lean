import ParcelStatus.Calendar.Fields
import ParcelStatus.Calendar.Strict

/-!
# Regular date texts

A date text is regular when every token of it that is a number can be recognised by writing the date
and time that it names: the date is written in all the usual spellings of its parts, and each
spelling is looked for among the tokens. What is recognised in this way counts; a part of the time
of day that is not recognised counts as zero, and the offset is read as it stands.

* `Spelling` — a part of a date as it would be written, and `spellings`, those of a reading;
* `Recognition` — the tokens with those that are recognised;
* `readRegular?` — the instant of a regular text.
-/

namespace ParcelStatus.Calendar

open Text

/-! ## Spellings -/

/-- A part of a date and time. -/
inductive Part where
  | year
  | month
  | day
  | hour
  | minute
  | second
  | zone
  | weekday
  | half
deriving DecidableEq, Repr

/-- One or more parts as they would be written. -/
structure Spelling where
  parts : List Part
  text : Text
  /-- A shorter token is filled up with zeros to this length. -/
  width : Nat := 0
deriving DecidableEq, Repr

/-- Two digits of a number. -/
def twoDigits (n : Nat) : Text := padZeros 2 (ofNat n)

/-- A name with a capital letter. -/
def capitalized (name : String) : Text :=
  match name.toList with
  | [] => []
  | c :: r => c.toUpper :: r

/-- The first or the last name in a list of names. -/
def nameAt (names : List (List String)) (place : Nat) (long : Bool) : Text :=
  match names[place]? with
  | none => []
  | some ns => capitalized ((if long then ns.getLast? else ns.head?).getD "")

/-- The spellings of a reading in the order in which they are looked for. -/
def spellings (r : Reading) : List Spelling :=
  let d := r.date
  let c := r.clock
  let year := ofNat d.year
  let date := year ++ twoDigits d.month ++ twoDigits d.day
  let hour := twoDigits c.hour
  let minute := twoDigits c.minute
  let second := twoDigits c.second
  let weekday := ((d.number - 1) % 7).toNat
  [⟨[.year, .month, .day, .hour, .minute, .second], date ++ hour ++ minute ++ second, 0⟩,
   ⟨[.year, .month, .day, .hour, .minute], date ++ hour ++ minute, 0⟩,
   ⟨[.year, .month, .day, .hour], date ++ hour, 0⟩,
   ⟨[.year, .month, .day], date, 0⟩,
   ⟨[.hour, .minute, .second], hour ++ minute ++ second, 0⟩,
   ⟨[.hour, .minute], hour ++ minute, 0⟩,
   ⟨[.year], year, 0⟩,
   ⟨[.month], nameAt monthNames (d.month - 1) true, 0⟩,
   ⟨[.month], nameAt monthNames (d.month - 1) false, 0⟩,
   ⟨[.month], twoDigits d.month, 2⟩,
   ⟨[.day], twoDigits d.day, 2⟩,
   ⟨[.hour], hour, 2⟩,
   ⟨[.minute], minute, 2⟩,
   ⟨[.second], second, 2⟩,
   ⟨[.second], second ++ '.' :: padZeros 6 (ofNat c.micros), 0⟩]
   ++ (if r.offset = some 0 then [⟨[.zone], "UTC".toList, 0⟩] else [])
   ++ [⟨[.weekday], nameAt weekdayNames weekday false, 0⟩,
       ⟨[.weekday], nameAt weekdayNames weekday true, 0⟩,
       ⟨[.half], (if c.hour < 12 then "AM" else "PM").toList, 0⟩]

/-- A token in the form of a spelling: a fraction has two digits before its point and six behind
it, any other token is filled up with zeros. -/
def spelledAs (width : Nat) (token : Text) : Text :=
  match Amount.ofToken? token with
  | some a =>
    if a.fraction.isEmpty then padZeros width token
    else twoDigits a.whole ++ '.' :: (a.fraction ++ List.replicate 9 '0').take 6
  | none => padZeros width token

/-! ## Recognition -/

/-- A token, and whether it is recognised. -/
structure Slot where
  token : Text
  /-- It is recognised. -/
  known : Bool := false
deriving DecidableEq, Repr

/-- The tokens of a text and the parts that are recognised in them. -/
structure Recognition where
  /-- The tokens. -/
  slots : List Slot
  /-- The recognised parts. -/
  found : List Part := []
deriving DecidableEq, Repr

namespace Recognition

/-- The first token of a spelling that is not recognised yet is now; `none` when there is no such
token. -/
def mark? (s : Spelling) : List Slot → Option (List Slot)
  | [] => none
  | slot :: rest =>
    if !slot.known && spelledAs s.width slot.token = s.text then
      some ({ slot with known := true } :: rest)
    else (mark? s rest).map (slot :: ·)

/-- The recognition with one spelling; parts are recognised once. -/
def withSpelling (g : Recognition) (s : Spelling) : Recognition :=
  if s.parts.any g.found.contains then g
  else match mark? s g.slots with
    | some slots => ⟨slots, s.parts ++ g.found⟩
    | none => g

/-- The recognition of tokens by the spellings of a reading. -/
def ofReading (r : Reading) (ts : List Text) : Recognition :=
  (spellings r).foldl withSpelling ⟨ts.map (⟨·, false⟩), []⟩

/-- The part is recognised. -/
def has (g : Recognition) (p : Part) : Bool := g.found.contains p

/-- The date is recognised, and every number. An hour of the twelve is one of 1 to 12. -/
def isWhole (g : Recognition) (r : Reading) : Bool :=
  g.has .year && g.has .month && g.has .day
    && g.slots.all (fun slot => slot.known || (Amount.ofToken? slot.token).isNone)
    && !(g.has .half && g.has .hour && (r.clock.hour = 0 || 12 < r.clock.hour))

/-- The time of day as far as it is recognised. -/
def clock (g : Recognition) (c : Clock) : Clock where
  hour := if g.has .hour then c.hour else 0
  minute := if g.has .minute then c.minute else 0
  second := if g.has .second then c.second else 0

/-- The digits of the fraction of the second, where one is recognised. -/
def fraction (g : Recognition) : Text :=
  ((g.slots.find? fun slot => slot.known && slot.token.contains '.').bind fun slot =>
    (Amount.ofToken? slot.token).map (·.fraction)).getD []

end Recognition

/-! ## Offsets -/

/-- The minutes of an hour, of two digits. -/
def sixty? (digits : Text) : Option Nat :=
  match digits with
  | [a, b] => if '0' ≤ a && a ≤ '5' then digitsValue? [a, b] else none
  | _ => none

/-- The minutes of an offset of less than a day, by the digits of its hours and minutes. -/
def offsetOf? (sign hours minutes : Text) : Option Int := do
  if hours.length ≠ 2 then none
  let n := 60 * (← digitsValue? hours) + (← sixty? minutes)
  if n < 1440 then return (if sign = ['-'] then -(n : Int) else n) else none

/-- The offset that the last tokens are, in minutes, and the tokens before it: `Z`, or a sign with
four digits, or a sign with twice two digits and a colon. Where the tokens end otherwise there is no
offset, but behind a sign there must be one. -/
def splitOffset? (ts : List Text) : Option (Int × List Text) :=
  match ts.reverse with
  | ['Z'] :: before => some (0, before.reverse)
  | last :: sign :: before =>
    if isSign sign then
      (offsetOf? sign (last.take 2) (last.drop 2)).map (·, before.reverse)
    else match before with
      | hours :: sign :: before =>
        if isSign sign then
          if ts.reverse[1]? = some [':'] then
            (offsetOf? sign hours last).map (·, before.reverse)
          else none
        else some (0, ts)
      | _ => some (0, ts)
  | _ => some (0, ts)

/-! ## The regular form -/

/-- The most digits of a fraction in a regular text. -/
def maxRegularFraction : Nat := 9

/-- Every comma of the text is a token, and there is no NUL in it. -/
def isPlain (t : Text) (ts : List Text) : Bool :=
  !t.contains '\x00' && t.count ',' = ts.count [',']

/-- The instant of a regular text. -/
def readRegular? [Present] (t : Text) : Option Int := do
  let ts := tokens t
  let r ← reading? ts
  if !r.complete || !isPlain t ts || r.date.year < 1000 then none
  let (offset, ts) ← if r.offset.isSome then splitOffset? ts else some (0, ts)
  let g := Recognition.ofReading r ts
  if g.isWhole r && g.fraction.length ≤ maxRegularFraction then
    instantWith? r.date.number (g.clock r.clock) g.fraction offset
  else none

end ParcelStatus.Calendar
