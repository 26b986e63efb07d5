import ParcelStatus.Number.Binary64

/-!
# Shortest decimals

The decimal with the fewest digits that reads back as a given binary number, and of those the
nearest to it.

A finite number has an interval of reals that round to it, its ends included exactly when the
significand is even. For one digit, two digits and so on, the two neighbours of the number on the
decimal grid of that many digits are tested; if any point of the grid lies in the interval, one
of these two does. Seventeen digits always suffice.

* `Decimal` — a whole number of units of a power of ten;
* `shortest` — the shortest decimal of a positive number;
* `significant` — a positive number rounded to a count of significant digits.
-/

namespace ParcelStatus

/-- `digits * 10 ^ exponent`. -/
structure Decimal where
  /-- The whole number of units. -/
  digits : Nat
  /-- The power of ten that is the unit. -/
  exponent : Int
deriving DecidableEq, Repr

namespace Binary64

/-- The interval of reals that round to a number, in quarters of its last place. -/
structure Interval where
  /-- The lower end. -/
  low : Nat
  /-- The upper end. -/
  high : Nat
  /-- Whether the ends round to the number too. -/
  closed : Bool

/-- Below a power of two the neighbours are twice as dense, so the lower half is shorter there. -/
def intervalOf (significand : Nat) (exponent : Int) : Interval where
  low := 4 * significand - (if significand = leastFull ∧ minExponent < exponent then 1 else 2)
  high := 4 * significand + 2
  closed := significand % 2 = 0

/-- The fraction `num / den` in units of `10 ^ e`. -/
def inUnits (num den : Nat) (e : Int) : Nat × Nat :=
  if 0 ≤ e then (num, den * Nat.pow 10 e.toNat) else (num * Nat.pow 10 (-e).toNat, den)

/-- How many times a fraction below one must be taken tenfold to reach one. -/
def leadingZeros (den : Nat) : Nat → Nat → Nat
  | 0, _ => 0
  | fuel + 1, num => if den ≤ num then 0 else leadingZeros den fuel (10 * num) + 1

/-- The power of ten of the first digit of a positive fraction. -/
def leadingPlace (num den : Nat) : Int :=
  if den ≤ num then (digitCount (num / den) : Int) - 1 else -(leadingZeros den 400 num : Int)

/-- `a / b` lies in the interval between `low / b` and `high / b`. -/
def Interval.holds (i : Interval) (num low high : Nat) : Bool :=
  if i.closed then low ≤ num && num ≤ high else low < num && num < high

/-- The nearer of the two neighbours on the grid of `10 ^ e` that rounds to the number. -/
def onGrid? (significand : Nat) (exponent e : Int) : Option Nat :=
  let i := intervalOf significand exponent
  let quarter (n : Nat) := inUnits (ratio n (exponent - 2)).1 (ratio n (exponent - 2)).2 e
  let (value, unit) := quarter (4 * significand)
  let (low, _) := quarter i.low
  let (high, _) := quarter i.high
  let below := value / unit
  let fits (n : Nat) : Bool := i.holds (n * unit) low high
  let nearerBelow : Bool :=
    2 * (value % unit) < unit || (2 * (value % unit) == unit && below % 2 == 0)
  if fits below && (nearerBelow || !fits (below + 1)) then some below
  else if fits (below + 1) then some (below + 1)
  else none

/-- The first count of digits, from `count` on, whose grid has a point that rounds to the
number. -/
def searchGrids (significand : Nat) (exponent place : Int) : Nat → Nat → Decimal
  | 0, _ => ⟨0, 0⟩
  | fuel + 1, count =>
    let e := place - (count : Int) + 1
    match onGrid? significand exponent e with
    | some n => ⟨n, e⟩
    | none => searchGrids significand exponent place fuel (count + 1)

/-- Trailing zeros moved into the exponent. -/
def stripZeros : Nat → Decimal → Decimal
  | 0, d => d
  | fuel + 1, d =>
    if d.digits ≠ 0 ∧ d.digits % 10 = 0 then stripZeros fuel ⟨d.digits / 10, d.exponent + 1⟩
    else d

/-- The shortest decimal of a positive number. -/
def shortest (significand : Nat) (exponent : Int) : Decimal :=
  let (num, den) := ratio significand exponent
  stripZeros 20 (searchGrids significand exponent (leadingPlace num den) 17 1)

/-- A positive number rounded to a count of significant digits, a tie going to the even digit. -/
def significant (count : Nat) (significand : Nat) (exponent : Int) : Decimal :=
  let (num, den) := ratio significand exponent
  let e := leadingPlace num den - (count : Int) + 1
  let (n, d) := inUnits num den e
  stripZeros 20 ⟨roundQuotient n d, e⟩

/-- The number that is left when only so many significant decimal digits are kept. -/
def keepDigits (count : Nat) : Binary64 → Binary64
  | .finite negative m e =>
    if m = 0 then .finite negative m e
    else
      let d := significant count m e
      ofDecimal negative d.digits d.exponent
  | x => x

end Binary64

end ParcelStatus
