import ParcelStatus.Calendar.Moment

/-!
# The international form

Reading dates and moments of the international standard. A date is written `YYYY-MM-DD` or
`YYYYMMDD`, or by its week as `YYYY-Www-D` or `YYYYWwwD`, where the day may be missing and then is
Monday. A moment is a date, any one character, a time of day with or without colons, and an offset.
What stands between the time of day and its offset is not looked at beyond the first character.

* `Date.ofWeek?` — the date of a day of a week: the first week of a year is the one of 4 January;
* `Date.ofIso?` — the date that a text names;
* `Moment.ofIso?` — the moment that a text names; without an offset the clock is the universal one.
-/

namespace ParcelStatus

open Text

/-! ## Weeks -/

/-- The Monday of the first week of a year. -/
def firstMonday (year : Int) : Int :=
  let fourth := dayNumber year 1 4
  fourth - (fourth - 1) % 7

/-- The date of a day of a week of a year; weeks and days count from one. -/
def Date.ofWeek? (year week day : Nat) : Option Date :=
  let monday := firstMonday year + 7 * ((week : Int) - 1)
  if 1 ≤ year ∧ 1 ≤ week ∧ monday < firstMonday (year + 1) ∧ 1 ≤ day ∧ day ≤ 7 then
    ofNumber? (monday + day - 1)
  else none

/-! ## Dates -/

/-- The number of a row of so many digits that makes up a whole text. -/
def digitsOf? (count : Nat) (t : Text) : Option Nat :=
  if t.length = count && t.all Char.isDigit then digitsValue? t else none

/-- The date that a text is the written form of. -/
def Date.ofWritten? (t : Text) : Option Date := do
  let year ← digitsOf? 4 (t.take 4)
  match t.drop 4 with
  | ['-', 'W', w₁, w₂] => ofWeek? year (← digitsOf? 2 [w₁, w₂]) 1
  | ['-', 'W', w₁, w₂, '-', d] => ofWeek? year (← digitsOf? 2 [w₁, w₂]) (← digitsOf? 1 [d])
  | ['W', w₁, w₂] => ofWeek? year (← digitsOf? 2 [w₁, w₂]) 1
  | ['W', w₁, w₂, d] => ofWeek? year (← digitsOf? 2 [w₁, w₂]) (← digitsOf? 1 [d])
  | ['-', m₁, m₂, '-', d₁, d₂] => of? year (← digitsOf? 2 [m₁, m₂]) (← digitsOf? 2 [d₁, d₂])
  | [m₁, m₂, d₁, d₂] => of? year (← digitsOf? 2 [m₁, m₂]) (← digitsOf? 2 [d₁, d₂])
  | _ => none

/-- The date that a text names. In a text of ten octets, those behind a date without marks are not
looked at. -/
def Date.ofIso? (t : Text) : Option Date :=
  if (String.ofList t).utf8ByteSize = 10 ∧ t[4]? ≠ some '-' then ofWritten? (t.take 8)
  else ofWritten? t

/-- How many characters in front of a moment are its date. Digits behind a week without marks come
in pairs, so that an odd one is the day. A digit two places behind a week and a mark speaks for a
time of day, not for a day of the week. -/
def isoDateLength (t : Text) : Nat :=
  match t.drop 4 with
  | '-' :: 'W' :: _ :: _ :: '-' :: _ :: c :: _ => if c.isDigit then 8 else 10
  | '-' :: 'W' :: _ :: _ :: '-' :: _ => 10
  | '-' :: 'W' :: _ => 8
  | '-' :: _ => 10
  | 'W' :: _ =>
    let n := 7 + ((t.drop 7).takeWhile Char.isDigit).length
    if n < 9 then n else if n % 2 = 0 then 7 else 8
  | _ => 8

/-! ## Times of day -/

/-- The numbers in front of a time of day. -/
structure ClockNumbers where
  /-- The numbers, of two digits each. -/
  numbers : List Nat
  /-- A fraction follows. -/
  fraction : Bool
  /-- What follows. -/
  rest : Text

/-- At most so many numbers of two digits. There is a colon between all of them if there is one
behind the first. A single character of ASCII may stand behind them. -/
def readClockNumbers? : Nat → Option Bool → Text → Option ClockNumbers
  | 0, _, t => some ⟨[], true, t⟩
  | count + 1, colons, a :: b :: r => do
    let n ← digitsOf? 2 [a, b]
    match r with
    | c :: d :: s =>
      let colons := colons.getD (c = ':')
      let behind ←
        if colons && c = ':' then readClockNumbers? count (some colons) (d :: s)
        else if c = '.' || c = ',' then some ⟨[], true, d :: s⟩
        else if colons then none
        else readClockNumbers? count (some colons) r
      return { behind with numbers := n :: behind.numbers }
    | [c] => if c.toNat < 0x80 then some ⟨[n], false, r⟩ else none
    | [] => some ⟨[n], false, r⟩
  | _ + 1, _, _ => none

/-- A time of day, and whether nothing follows it. Six digits of a fraction count. -/
def readClock? (t : Text) : Option (Clock × Bool) := do
  let parts ← readClockNumbers? 3 none t
  let clock : Clock :=
    { hour := parts.numbers[0]?.getD 0, minute := parts.numbers[1]?.getD 0,
      second := parts.numbers[2]?.getD 0 }
  if parts.fraction then
    let digits := parts.rest.take 6
    if digits.all Char.isDigit then
      let micros ← digitsValue? ((digits ++ List.replicate 6 '0').take 6)
      return ({ clock with micros }, ((parts.rest.drop 6).dropWhile Char.isDigit).isEmpty)
    else none
  else return (clock, parts.rest.isEmpty)

def isOffsetMark (c : Char) : Bool := c = '+' || c = '-' || c = 'Z'

/-- The offset of a mark and what follows it. It is shorter than a day, and one that is shorter than a
second counts as none. -/
def readOffset? (mark : Char) (t : Text) : Option Int :=
  if mark = 'Z' then if t.isEmpty then some 0 else none
  else do
    let (clock, complete) ← readClock? t
    let offset := if clock.sinceMidnight < secondLength then 0 else clock.sinceMidnight
    if complete && offset < dayLength then return (if mark = '-' then -offset else offset)
    else none

/-- A time of day with its offset. -/
def readClockAndOffset? (t : Text) : Option (Clock × Int) := do
  let (clock, complete) ← readClock? (t.takeWhile (!isOffsetMark ·))
  let offset ← match t.dropWhile (!isOffsetMark ·) with
    | [] => if complete then some 0 else none
    | mark :: r => readOffset? mark r
  if clock.isReal then return (clock, offset) else none

/-- The moment that a text names. -/
def Moment.ofIso? (t : Text) : Option Moment := do
  let n := isoDateLength t
  let date ← Date.ofWritten? (t.take n)
  let (clock, offset) ← match t.drop n with
    | [] => some ({}, 0)
    | _ :: r => readClockAndOffset? r
  return { instant := instantOf date.number clock offset, offset }

end ParcelStatus
