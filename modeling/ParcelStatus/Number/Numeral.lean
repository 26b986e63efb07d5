import ParcelStatus.Number.Binary64
import ParcelStatus.Text.Digit
import ParcelStatus.Text.Quoted

/-!
# Numerals

Reading numbers from texts that people wrote: blanks around the numeral, a sign, digits of any
script, and single underscores between digits are accepted.

* `Numeral.int` — whole numbers, refused beyond 4300 digits;
* `Numeral.float?` — decimal numbers with an optional fraction and exponent, infinities, and the
  text for no number;
* `Numeral.Fault.message` — the wording when a text is no whole number.
-/

namespace ParcelStatus.Numeral

open Text

/-- A blank that may stand around a numeral: white space other than the information separators. -/
def isMargin (c : Char) : Bool := isBlank c && !(0x1c ≤ c.toNat && c.toNat ≤ 0x1f)

/-- The text without the blanks around it. -/
def body (t : Text) : Text := ((t.dropWhile isMargin).reverse.dropWhile isMargin).reverse

/-- Every underscore stands between two digits; the text without them. `afterDigit` says whether
a digit stood just before. -/
def dropUnderscores (afterDigit : Bool) : Text → Option Text
  | [] => some []
  | '_' :: r =>
    match r with
    | d :: _ => if afterDigit && isDecimal d then dropUnderscores false r else none
    | [] => none
  | c :: r => (dropUnderscores (isDecimal c) r).map (c :: ·)

/-- A sign in front and the rest. -/
def splitSign : Text → Bool × Text
  | '-' :: r => (true, r)
  | '+' :: r => (false, r)
  | t => (false, t)

/-- Why a text is no whole number. -/
inductive Fault where
  /-- It has another form. -/
  | malformed (text : Text)
  /-- It has too many digits. -/
  | tooLong (digits : Nat)
deriving DecidableEq, Repr

/-- The most digits that a whole number may have. -/
def maxDigits : Nat := 4300

/-- The wording of a fault; the text is shown quoted and cut at 200 characters. -/
def Fault.message : Fault → Text
  | .malformed t =>
    "invalid literal for int() with base 10: ".toList ++ (quoted t).take 200
  | .tooLong n =>
    "Exceeds the limit (4300 digits) for integer string conversion: value has ".toList ++ ofNat n
      ++ " digits; use sys.set_int_max_str_digits() to increase the limit".toList

/-- The whole number that a text writes. The count of digits is looked at before what stands
behind them. -/
def int (t : Text) : Except Fault Int :=
  let (negative, r) := splitSign (body t)
  let digits := r.takeWhile fun c => isDecimal c || c = '_'
  match dropUnderscores false digits with
  | none => .error (.malformed t)
  | some ds =>
    if maxDigits < ds.length then .error (.tooLong ds.length)
    else match digitsValue? ds with
      | none => .error (.malformed t)
      | some n =>
        if ds.isEmpty ∨ digits ≠ r then .error (.malformed t)
        else .ok (if negative then -(n : Int) else n)

/-- The digits in front and the rest. -/
def spanDigits (t : Text) : Text × Text := (t.takeWhile isDecimal, t.dropWhile isDecimal)

/-- An exponent behind its letter, or none at the end of the text. -/
def exponent? : Text → Option Int
  | [] => some 0
  | c :: r =>
    if c = 'e' ∨ c = 'E' then
      let (negative, digits) := splitSign r
      if digits.isEmpty then none
      else (digitsValue? digits).map fun n => if negative then -(n : Int) else n
    else none

/-- A decimal without a sign: digits on at least one side of an optional point, and an optional
exponent. -/
def decimal? (negative : Bool) (t : Text) : Option Binary64 :=
  let (whole, r) := spanDigits t
  let (fraction, r) := match r with
    | '.' :: r => spanDigits r
    | r => ([], r)
  if whole.isEmpty && fraction.isEmpty then none
  else do
    let e ← exponent? r
    let m ← digitsValue? (whole ++ fraction)
    return .ofDecimal negative m (e - fraction.length)

/-- The number that a text writes. -/
def float? (t : Text) : Option Binary64 :=
  let (negative, r) := splitSign (body t)
  let name := r.map Char.toLower
  if name = "inf".toList ∨ name = "infinity".toList then some (.infinite negative)
  else if name = "nan".toList then some .nan
  else (dropUnderscores false r).bind (decimal? negative)

end ParcelStatus.Numeral
