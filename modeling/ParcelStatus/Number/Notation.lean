import ParcelStatus.Number.Shortest
import ParcelStatus.Text.Basic

/-!
# Written numbers

How binary numbers are written: the digits are the shortest that read back, and a `Notation`
fixes the rest. Numbers whose first digit stands within the notation's range of places are
written positionally, the others with an exponent behind an `e`.

* `Notation.plain` — the notation of messages and tables: `420.0`, `1e+16`, `nan`;
* `Notation.json` — the same with the names that JSON texts use for the values beyond numbers;
* `Notation.sheet` — the same with whole numbers written without a point.
-/

namespace ParcelStatus

open Text

/-- The choices that a written number leaves open. -/
structure Notation where
  /-- The lowest place of the first digit that is still written positionally. -/
  lowestPlace : Int := -4
  /-- The highest place of the first digit that is still written positionally. -/
  highestPlace : Int := 15
  /-- Whole numbers end in `.0`. -/
  keepPoint : Bool := true
  /-- The least count of digits of an exponent. -/
  exponentWidth : Nat := 2
  /-- The text for no number. -/
  nan : Text
  /-- The text for an infinity without its sign. -/
  infinity : Text

namespace Notation

/-- The notation of messages and tables. -/
def plain : Notation := { nan := "nan".toList, infinity := "inf".toList }

/-- The notation of JSON texts. -/
def json : Notation := { nan := "NaN".toList, infinity := "Infinity".toList }

/-- The notation of workbook cells that are read as texts. -/
def sheet : Notation := { plain with keepPoint := false }

/-- Digits with a point behind the first `place + 1` of them. -/
def writePositional (n : Notation) (digits : Text) (place : Int) : Text :=
  if place < 0 then '0' :: '.' :: (List.replicate (-place - 1).toNat '0' ++ digits)
  else
    let whole := place.toNat + 1
    if digits.length ≤ whole then
      digits ++ List.replicate (whole - digits.length) '0'
        ++ (if n.keepPoint then ['.', '0'] else [])
    else digits.take whole ++ '.' :: digits.drop whole

/-- Digits with a point behind the first and the place of the first as exponent. -/
def writeExponent (n : Notation) (digits : Text) (place : Int) : Text :=
  let mantissa := match digits with
    | d :: (e :: r) => d :: '.' :: e :: r
    | ds => ds
  mantissa ++ 'e' :: (if place < 0 then '-' else '+')
    :: padZeros n.exponentWidth (ofNat place.natAbs)

/-- A decimal with its first digit at the place that its exponent says. -/
def writeDecimal (n : Notation) (d : Decimal) : Text :=
  let digits := ofNat d.digits
  let place := d.exponent + digits.length - 1
  if n.lowestPlace ≤ place ∧ place ≤ n.highestPlace then n.writePositional digits place
  else n.writeExponent digits place

/-- The written form of a number. -/
def write (n : Notation) : Binary64 → Text
  | .nan => n.nan
  | .infinite negative => (if negative then ['-'] else []) ++ n.infinity
  | .finite negative m e =>
    (if negative then ['-'] else [])
      ++ (if m = 0 then n.writePositional ['0'] 0 else n.writeDecimal (Binary64.shortest m e))

end Notation

end ParcelStatus
