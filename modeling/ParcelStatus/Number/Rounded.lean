import ParcelStatus.Number.Binary64
import ParcelStatus.Text.Basic

/-!
# Rounded forms of whole numbers

A whole number written with so many digits: with a point and places behind it, with an exponent
behind its first digit, or in the one of these two forms that suits its size.

* `leadingDigits` — so many digits from the first one on, rounded to the nearest, and the place of
  the first one;
* `fixedForm`, `exponentForm`, `generalForm` — the three forms; `point` keeps the point, and in the
  last form the zeros, where nothing else follows.
-/

namespace ParcelStatus.Rounded

open Text

/-- So many digits of a number from its first one on, and the place of the first digit. A tie goes
to the even digit. -/
def leadingDigits (count : Nat) (n : Nat) : Text × Nat :=
  let length := Binary64.digitCount n
  if length ≤ count then (padZeros count (ofNat (n * Nat.pow 10 (count - length))), length - 1)
  else
    let m := Binary64.roundQuotient n (Nat.pow 10 (length - count))
    if m = Nat.pow 10 count then (ofNat (m / 10), length) else (ofNat m, length - 1)

/-- Digits behind a point, which is left out when there are none unless it is to be kept. -/
def behindPoint (point : Bool) (digits : Text) : Text :=
  if digits.isEmpty && !point then [] else '.' :: digits

/-- The digits without the zeros at their end. -/
def dropZeros (digits : Text) : Text := (digits.reverse.dropWhile (· = '0')).reverse

/-- The number with so many places behind the point. -/
def fixedForm (places : Nat) (point : Bool) (n : Nat) : Text :=
  ofNat n ++ behindPoint point (List.replicate places '0')

/-- The exponent that a place asks for. -/
def exponentText (place : Nat) : Text := 'e' :: '+' :: padZeros 2 (ofNat place)

/-- The number with one digit before the point, so many behind it, and an exponent. -/
def exponentForm (places : Nat) (point : Bool) (n : Nat) : Text :=
  let (digits, place) := leadingDigits (places + 1) n
  digits.take 1 ++ behindPoint point (digits.drop 1) ++ exponentText place

/-- The number with so many digits that count: with an exponent if it has more than those before the
point. -/
def generalForm (count : Nat) (point : Bool) (n : Nat) : Text :=
  let count := max count 1
  let (digits, place) := leadingDigits count n
  let behind (digits : Text) : Text :=
    behindPoint point (if point then digits else dropZeros digits)
  if place < count then digits.take (place + 1) ++ behind (digits.drop (place + 1))
  else digits.take 1 ++ behind (digits.drop 1) ++ exponentText place

end ParcelStatus.Rounded
