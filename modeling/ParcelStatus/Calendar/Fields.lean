import ParcelStatus.Calendar.Present
import ParcelStatus.Calendar.Token
import ParcelStatus.Text.Case

/-!
# Fields of a date text

Reading the tokens of a date text one by one and noting what each of them says: a number may be an
hour, a part of the date, or all of a date; a word may name a month, a day of the week, a half of
the day or a zone. Tokens between them that mean nothing are passed over, and any other token makes
the text unreadable.

* `DateParts` — the parts of the date in the order in which they stand, and `DateParts.resolve?`,
  which of them is the year, the month and the day;
* `Fields` — all that has been noted;
* `Fields.read?` — the fields of a text;
* `Reading` — the date and time that the fields name, and its instant.
-/

namespace ParcelStatus.Calendar

open Text

/-! ## Words -/

/-- The place of a word in a list of names, in any case. -/
def placeOf? (names : List (List String)) (word : Text) : Option Nat :=
  names.findIdx? fun ns => ns.any fun n => n.toList = lower word

def monthNames : List (List String) :=
  [["jan", "january"], ["feb", "february"], ["mar", "march"], ["apr", "april"], ["may"],
   ["jun", "june"], ["jul", "july"], ["aug", "august"], ["sep", "sept", "september"],
   ["oct", "october"], ["nov", "november"], ["dec", "december"]]

/-- The names of the days of the week. -/
def weekdayNames : List (List String) :=
  [["mon", "monday"], ["tue", "tuesday"], ["wed", "wednesday"], ["thu", "thursday"],
   ["fri", "friday"], ["sat", "saturday"], ["sun", "sunday"]]

/-- The names of hours, minutes and seconds. -/
def unitNames : List (List String) :=
  [["h", "hour", "hours"], ["m", "minute", "minutes"], ["s", "second", "seconds"]]

/-- The names of the halves of the day. -/
def halfNames : List (List String) := [["am", "a"], ["pm", "p"]]

/-- Tokens that mean nothing. -/
def fillers : List (List String) :=
  [[" ", ".", ",", ";", "-", "/", "'", "at", "on", "and", "ad", "m", "t", "of", "st", "nd", "rd",
    "th"]]

def monthOf? (word : Text) : Option Nat := (placeOf? monthNames word).map (· + 1)

/-- The day of the week of a name; Monday is the first one, zero. -/
def weekdayOf? (word : Text) : Option Nat := placeOf? weekdayNames word

/-- The unit of a name: zero for hours, one for minutes, two for seconds. -/
def unitOf? (word : Text) : Option Nat := placeOf? unitNames word

/-- Whether a name is the one of the afternoon. -/
def afternoonOf? (word : Text) : Option Bool := (placeOf? halfNames word).map (· = 1)

/-- The token means nothing. -/
def isFiller (token : Text) : Bool := (placeOf? fillers token).isSome

/-- The names of universal time. -/
def universalNames : List Text := ["UTC".toList, "GMT".toList, "Z".toList, "z".toList]

/-- The name is one of universal time, in any case. -/
def isUniversal (name : Text) : Bool :=
  universalNames.any fun n => lower n = lower name

/-- A plus or minus sign. -/
def isSign (token : Text) : Bool := token = ['+'] || token = ['-']

/-! ## Numbers -/

/-- A number with an optional fraction. -/
structure Amount where
  /-- The whole part. -/
  whole : Nat
  /-- The digits of the fraction. -/
  fraction : Text
deriving DecidableEq, Repr

namespace Amount

/-- The number that a token writes. -/
def ofToken? (token : Text) : Option Amount := do
  let (whole, fraction) ← numberParts? token
  return ⟨← digitsValue? whole, fraction⟩

/-- The digits of the fraction as a number. -/
def numerator (a : Amount) : Nat := (digitsValue? a.fraction).getD 0

/-- The number is not whole. -/
def isBroken (a : Amount) : Bool := a.numerator ≠ 0

/-- The whole part of sixty times the fraction. -/
def sixtieths (a : Amount) : Nat := 60 * a.numerator / Nat.pow 10 a.fraction.length

end Amount

/-- The whole number that a token writes. -/
def natOf? (token : Text) : Option Nat :=
  if token.isEmpty then none else digitsValue? token

/-- Seconds and microseconds; six digits of a fraction count. -/
def secondsOf? (token : Text) : Option (Nat × Nat) :=
  if token.contains '.' then do
    let (whole, fraction) ← numberParts? token
    return (← digitsValue? whole, ← digitsValue? ((fraction ++ List.replicate 6 '0').take 6))
  else (natOf? token).map (·, 0)

/-! ## Parts of the date -/

/-- Parts of a date in the order in which they stand. -/
structure DateParts where
  /-- The parts. -/
  values : List Nat := []
  /-- The place of the year, where it is known. -/
  yearAt : Option Nat := none
  /-- The place of the month, where it is known. -/
  monthAt : Option Nat := none
  /-- The year was written with its century. -/
  century : Bool := false
deriving DecidableEq, Repr

namespace DateParts

/-- Another part that may be anything. -/
def add (d : DateParts) (n : Nat) : DateParts := { d with values := d.values ++ [n] }

/-- The year with its century; there is only one. -/
def addYear? (d : DateParts) (n : Nat) : Option DateParts :=
  if d.yearAt.isSome then none
  else some { d.add n with yearAt := some d.values.length, century := true }

/-- The month; there is only one. -/
def addMonth? (d : DateParts) (n : Nat) : Option DateParts :=
  if d.monthAt.isSome then none else some { d.add n with monthAt := some d.values.length }

/-- A part by its digits: three of them or more are a year. -/
def addDigits? (d : DateParts) (token : Text) : Option DateParts := do
  let n ← natOf? token
  if 2 < token.length then d.addYear? n else return d.add n

/-- A part by its size: above a hundred it is a year. -/
def addAmount? (d : DateParts) (a : Amount) : Option DateParts :=
  if 100 < a.whole || (a.whole = 100 && a.isBroken) then d.addYear? a.whole
  else some (d.add a.whole)

/-- The value at a place that is known. -/
def valueAt? (d : DateParts) (place : Option Nat) : Option Nat := place.bind (d.values[·]?)

/-- The number may be a day of the month, as far as year and month are known. -/
def mayBeDay (d : DateParts) (a : Amount) : Bool :=
  let last : Nat := match d.valueAt? d.monthAt with
    | none => 31
    | some month => match d.valueAt? d.yearAt with
      | none => daysInMonth 2000 month
      | some year => daysInMonth year month
  1 ≤ a.whole && (a.whole < last || (a.whole = last && !a.isBroken))

/-- Year, month and day, as far as they are written. Names and long numbers decide; without them
a number above 31 is a year, and of two that may be a month the first one is. -/
def resolve? (d : DateParts) : Option (Option Nat × Option Nat × Option Nat) :=
  match d.values, d.yearAt, d.monthAt with
  | [], _, _ => some (none, none, none)
  | [a], some _, _ => some (some a, none, none)
  | [a], none, some _ => some (none, some a, none)
  | [a], none, none => some (if 31 < a then (some a, none, none) else (none, none, some a))
  | [a, b], some y, some _ =>
    some (if y = 0 then (some a, some b, none) else (some b, some a, none))
  | [a, b], none, some m =>
    let (month, other) := if m = 0 then (a, b) else (b, a)
    some (if 31 < other then (some other, some month, none) else (none, some month, some other))
  | [a, b], _, none =>
    some (if 31 < a then (some a, some b, none)
      else if 31 < b then (some b, some a, none)
      else (none, some a, some b))
  | [a, b, c], some y, some m =>
    let day := if y ≠ 0 ∧ m ≠ 0 then a else if y ≠ 1 ∧ m ≠ 1 then b else c
    some ([a, b, c][y]?, [a, b, c][m]?, some day)
  | [a, b, c], none, some m =>
    some (if m = 0 then
        if 31 < b then (some b, some a, some c) else (some c, some a, some b)
      else if m = 1 then
        if 31 < a then (some a, some b, some c) else (some c, some b, some a)
      else if 31 < b then (some b, some c, some a)
      else (some a, some c, some b))
  | [a, b, c], y, none =>
    some (if 31 < a ∨ y = some 0 then (some a, some b, some c)
      else if 12 < a then (some c, some b, some a)
      else (some c, some a, some b))
  | _, _, _ => none

end DateParts

/-! ## Fields -/

/-- What has been noted of a date text. -/
structure Fields where
  date : DateParts := {}
  /-- The day of the week. -/
  weekday : Option Nat := none
  hour : Option Nat := none
  minute : Option Nat := none
  second : Option Nat := none
  /-- The microseconds. -/
  micros : Option Nat := none
  /-- The name of the zone. -/
  zone : Option Text := none
  /-- How far the zone is ahead of universal time, in seconds. -/
  offset : Option Int := none
deriving DecidableEq, Repr

/-- An hour of the twelve as an hour of the day. -/
def hourOfDay (hour : Nat) (afternoon : Bool) : Nat :=
  if afternoon then if hour < 12 then hour + 12 else hour
  else if hour = 12 then 0 else hour

/-- Minute and second of a number of minutes. -/
def minutesOf (a : Amount) : Nat × Option Nat :=
  (a.whole, if a.isBroken then some a.sixtieths else none)

/-- The fields when a number of this unit is added; beyond seconds there is none. -/
def Fields.withUnit? (f : Fields) (unit : Nat) (token : Text) (a : Amount) : Option Fields :=
  if unit = 0 then
    some { f with
      hour := some a.whole, minute := if a.isBroken then some a.sixtieths else f.minute }
  else if unit = 1 then
    some { f with minute := some (minutesOf a).1, second := (minutesOf a).2 }
  else if unit = 2 then do
    let (second, micros) ← secondsOf? token
    return { f with second := some second, micros := some micros }
  else some f

/-- The unit of a number, and how many tokens behind the number belong to it: its name follows,
perhaps behind a space, or the name of the next greater unit stands before it. -/
def unitAround? (before rest : List Text) : Option (Nat × Nat) :=
  match rest.head?.bind unitOf? with
  | some u => some (u, 1)
  | none =>
    match (if rest.head? = some [' '] then rest[1]?.bind unitOf? else none) with
    | some u => some (u, 2)
    | none =>
      match before.head?.bind unitOf? with
      | some u => some (u + 1, 0)
      | none =>
        (if rest.isEmpty && before.head? = some [' '] then before[1]?.bind unitOf? else none).map
          fun u => (u + 1, 0)

/-- The end of the text or a token that means nothing follows. -/
def isAlone (rest : List Text) : Bool :=
  match rest with
  | [] => true
  | token :: _ => isFiller token

/-- The parts of the date that follow a number and its mark, and how many tokens they are,
the mark included. -/
def readMarked (d : DateParts) (mark : Text) (rest : List Text) : Option (DateParts × Nat) :=
  match rest with
  | [] => some (d, 1)
  | second :: rest =>
    if isFiller second then some (d, 1)
    else do
      let d ← match monthOf? second with
        | some m => d.addMonth? m
        | none => d.addDigits? second
      match rest with
      | again :: rest =>
        if again = mark then
          let third ← rest.head?
          let d ← match monthOf? third with
            | some m => d.addMonth? m
            | none => d.addDigits? third
          return (d, 4)
        else return (d, 2)
      | [] => return (d, 2)

/-- The fields when a number is added, and how many tokens behind it are read with it. The first
rule that fits counts. -/
def Fields.withNumber? (f : Fields) (before : List Text) (token : Text) (a : Amount)
    (rest : List Text) : Option (Fields × Nat) :=
  let n := token.length
  if f.date.values.length = 3 && (n = 2 || n = 4) && f.hour.isNone && isAlone rest then do
    let hour ← natOf? (token.take 2)
    if n = 4 then return ({ f with hour := some hour, minute := some (← natOf? (token.drop 2)) }, 0)
    else return ({ f with hour := some hour }, 0)
  else if n = 6 || (6 < n && (token.drop 6).head? = some '.' && !(token.take 6).contains '.') then
    if f.date.values.isEmpty && !token.contains '.' then do
      let d ← f.date.addDigits? (token.take 2)
      let d ← d.addDigits? ((token.drop 2).take 2)
      return ({ f with date := ← d.addDigits? (token.drop 4) }, 0)
    else do
      let hour ← natOf? (token.take 2)
      let minute ← natOf? ((token.drop 2).take 2)
      let (second, micros) ← secondsOf? (token.drop 4)
      return ({ f with hour, minute, second, micros }, 0)
  else if n = 8 || n = 12 || n = 14 then do
    let d ← f.date.addYear? (← natOf? (token.take 4))
    let d ← d.addDigits? ((token.drop 4).take 2)
    let d ← d.addDigits? ((token.drop 6).take 2)
    let f := { f with date := d }
    if n = 8 then return (f, 0)
    else
      let f := { f with
        hour := some (← natOf? ((token.drop 8).take 2))
        minute := some (← natOf? ((token.drop 10).take 2)) }
      if n = 12 then return (f, 0)
      else return ({ f with second := some (← natOf? (token.drop 12)) }, 0)
  else match unitAround? before rest with
  | some (unit, used) => (f.withUnit? unit token a).map (·, used)
  | none =>
    match rest with
    | [':'] :: minute :: rest => do
      let minutes := minutesOf (← Amount.ofToken? minute)
      let f := { f with hour := some a.whole, minute := some minutes.1, second := minutes.2 }
      match rest with
      | [':'] :: second :: _ =>
        let (second, micros) ← secondsOf? second
        return ({ f with second := some second, micros := some micros }, 4)
      | _ => return (f, 2)
    | mark :: behind =>
      if mark = ['-'] || mark = ['/'] || mark = ['.'] then do
        let (d, used) ← readMarked (← f.date.addDigits? token) mark behind
        return ({ f with date := d }, used)
      else if isFiller mark then
        match behind.head?.bind afternoonOf? with
        | some afternoon => some ({ f with hour := some (hourOfDay a.whole afternoon) }, 2)
        | none => (f.date.addAmount? a).map fun d => ({ f with date := d }, 1)
      else match afternoonOf? mark with
        | some afternoon =>
          if a.whole < 24 then some ({ f with hour := some (hourOfDay a.whole afternoon) }, 1)
          else if f.date.mayBeDay a then
            (f.date.addAmount? a).map fun d => ({ f with date := d }, 0)
          else none
        | none =>
          if f.date.mayBeDay a then (f.date.addAmount? a).map fun d => ({ f with date := d }, 0)
          else none
    | [] => (f.date.addAmount? a).map fun d => ({ f with date := d }, 1)

/-- A year of two digits with its century: the year of the present century, or of a neighbouring one
when that is nearer. A year half a century ahead counts as past. -/
def fullYear [Present] (n : Nat) : Nat :=
  if n < 100 then
    let year := Present.year / 100 * 100 + n
    if Present.year + 50 ≤ year then year - 100
    else if year + 50 < Present.year then year + 100
    else year
  else n

/-- The fields when the name of a month is added, and how many tokens behind it are read. -/
def Fields.withMonth? [Present] (f : Fields) (month : Nat) (rest : List Text) :
    Option (Fields × Nat) := do
  let d ← f.date.addMonth? month
  match rest with
  | mark :: behind =>
    if mark = ['-'] || mark = ['/'] then
      let d ← d.addDigits? (← behind.head?)
      if behind[1]? = some mark then return ({ f with date := ← d.addDigits? (← behind[2]?) }, 4)
      else return ({ f with date := d }, 2)
    else if mark = [' '] && (behind.head?.map lower) = some "of".toList && behind[1]? = some [' ']
        && behind[2]?.isSome then
      match behind[2]?.bind natOf? with
      | some n =>
        if d.yearAt.isSome then none
        else
          let place := some d.values.length
          let year := fullYear n
          return ({ f with
            date := { d.add year with yearAt := place, century := d.century || 99 < year } }, 4)
      | none => return ({ f with date := d }, 4)
    else return ({ f with date := d }, 0)
  | [] => return ({ f with date := d }, 0)

/-- The token may name a zone: one is missing, and it is short and in capitals. -/
def Fields.mayBeZone (f : Fields) (token : Text) : Bool :=
  f.hour.isSome && f.zone.isNone && token.length ≤ 5
    && (token.all (fun c => 'A' ≤ c && c ≤ 'Z') || universalNames.contains token)

/-- The offset behind a sign in seconds, and how many tokens it is. -/
def offsetBehind? (rest : List Text) : Option (Int × Nat) := do
  let digits ← rest.head?
  if digits.length = 4 then
    let hours ← natOf? (digits.take 2)
    let minutes ← natOf? (digits.drop 2)
    return ((hours * 3600 + minutes * 60 : Nat), 1)
  else if rest[1]? = some [':'] then
    let hours ← natOf? digits
    let minutes ← natOf? (← rest[2]?)
    return ((hours * 3600 + minutes * 60 : Nat), 3)
  else if digits.length ≤ 2 then
    return ((3600 * (← natOf? digits) : Nat), 1)
  else none

/-- The fields when an offset is added, and how many tokens behind its sign are read. A name of the
zone may follow between parentheses. -/
def Fields.withOffset? (f : Fields) (ahead : Bool) (rest : List Text) : Option (Fields × Nat) := do
  let (seconds, used) ← offsetBehind? rest
  let f := { f with offset := some (if ahead then seconds else -seconds) }
  match rest.drop used with
  | space :: ['('] :: name :: [')'] :: _ =>
    if isFiller space && 3 ≤ name.length && f.mayBeZone name then
      return ({ f with zone := some name }, used + 4)
    else return (f, used)
  | _ => return (f, used)

/-- The fields behind the name of a zone. An offset right behind the name says how far universal
time is ahead of the zone, so its sign is turned. -/
def Fields.withZone (f : Fields) (name : Text) (rest : List Text) : Fields × List Text :=
  match rest with
  | sign :: behind =>
    if isSign sign then
      ({ f with zone := if isUniversal name then none else some name },
        (if sign = ['+'] then ['-'] else ['+']) :: behind)
    else ({ f with zone := some name, offset := if name = ['z'] then some 0 else none }, rest)
  | [] => ({ f with zone := some name, offset := if name = ['z'] then some 0 else none }, [])

/-- What one token adds: the fields, how many tokens behind it are read with it, and the tokens
behind it. -/
def Fields.step? [Present] (f : Fields) (before : List Text) (token : Text) (rest : List Text) :
    Option (Fields × Nat × List Text) :=
  match Amount.ofToken? token with
  | some a => (f.withNumber? before token a rest).map fun (f, used) => (f, used, rest)
  | none =>
    if let some day := weekdayOf? token then some ({ f with weekday := some day }, 0, rest)
    else if let some month := monthOf? token then
      (f.withMonth? month rest).map fun (f, used) => (f, used, rest)
    else if let some afternoon := afternoonOf? token then
      f.hour.bind fun hour =>
        if hour ≤ 12 then some ({ f with hour := some (hourOfDay hour afternoon) }, 0, rest)
        else none
    else if f.offset.isNone && f.mayBeZone token then
      let (f, rest) := f.withZone token rest
      some (f, 0, rest)
    else if f.hour.isSome && isSign token then
      (f.withOffset? (token = ['+']) rest).map fun (f, used) => (f, used, rest)
    else if isFiller token then some (f, 0, rest)
    else none

/-- The fields of the tokens behind those that have been read, at most as many steps as the first
number says. -/
def Fields.readFrom? [Present] : Nat → List Text → List Text → Fields → Option Fields
  | 0, _, rest, f => if rest.isEmpty then some f else none
  | _ + 1, _, [], f => some f
  | fuel + 1, before, token :: rest, f => do
    let (f, used, rest) ← f.step? before token rest
    readFrom? fuel ((rest.take used).reverse ++ token :: before) (rest.drop used) f

/-- Universal time is given its offset. -/
def Fields.settleZone (f : Fields) : Fields :=
  match f.zone with
  | some name => if isUniversal name then { f with offset := some 0 } else f
  | none => f

/-- The fields of a list of tokens. -/
def Fields.read? [Present] (ts : List Text) : Option Fields :=
  (readFrom? ts.length [] ts {}).map settleZone

/-! ## Date and time of the fields -/

/-- A date and a time of day that a text names. -/
structure Reading where
  /-- The date, with what the text does not say taken from elsewhere. -/
  date : Date
  /-- The text says year, month and day. -/
  complete : Bool
  /-- The day of the week that the text names. -/
  weekday : Option Nat
  /-- The time of day. -/
  clock : Clock
  /-- How far the clock is ahead of universal time, in seconds, where the text says so. -/
  offset : Option Int
deriving DecidableEq, Repr

/-- A day of the week that is named without a day of the month is the first one from the date
on. -/
def Reading.dayNumber (r : Reading) : Int :=
  match r.complete, r.weekday with
  | false, some w => r.date.number + (w - (r.date.number - 1)) % 7
  | _, _ => r.date.number

/-- The instant of the reading, in microseconds since the start of 1970. -/
def Reading.instant (r : Reading) : Int :=
  Moment.instantOf r.dayNumber r.clock (r.offset.getD 0 * secondLength)

namespace Fields

/-- The text says something of a date or a time of day. -/
def saysWhen (f : Fields) : Bool :=
  !f.date.values.isEmpty || f.hour.isSome || f.minute.isSome || f.second.isSome || f.micros.isSome

/-- The zone is universal time, or its offset is given and shorter than a day. -/
def zoneKnown (f : Fields) : Bool :=
  match f.offset with
  | some seconds => -86400 < seconds && seconds < 86400
  | none => f.zone.isNone

/-- The date and time that the fields name, if the calendar and the clock have them. What is missing
of the date is taken from another one; of its days there is none beyond the end of the month. -/
def reading? [Present] (f : Fields) (other : Nat × Nat × Nat := (1, 1, 1)) : Option Reading := do
  let (year, month, day) ← f.date.resolve?
  let inYear := (year.map fun y => if f.date.century then y else fullYear y).getD other.1
  let inMonth := month.getD other.2.1
  let date ← Date.of? inYear inMonth (day.getD (min other.2.2 (daysInMonth inYear inMonth)))
  let clock : Clock :=
    ⟨f.hour.getD 0, f.minute.getD 0, f.second.getD 0, f.micros.getD 0⟩
  if clock.isReal && f.saysWhen && f.zoneKnown then
    return {
      date
      complete := year.isSome && month.isSome && day.isSome
      weekday := if day.isSome then none else f.weekday
      clock
      offset := f.offset }
  else none

end Fields

/-- The date and time that a text names; what is missing of the date is taken from 1 January of the
year 1. -/
def reading? [Present] (ts : List Text) : Option Reading :=
  (Fields.read? ts).bind Fields.reading?

/-- The date and time that a text names which starts with a time of day; what is missing of the date
is the present one, and a zone of an unknown name counts for nothing. -/
def readingToday? [Present] (ts : List Text) : Option Reading :=
  (Fields.read? ts).bind fun f => { f with zone := none }.reading? Present.date

end ParcelStatus.Calendar
