import ParcelStatus.Text.Digit

/-!
# Tokens of a date text

A date text is cut where the kind of its characters changes: words, numbers, and single marks. A
point or comma within a number may be the mark of its fraction or may stand between the parts of a
date; it stays in the number when it is the only one there.

* `tokens` — the tokens of a text;
* `numberParts?` — the whole digits and the fraction digits of a token that is a number.
-/

namespace ParcelStatus.Calendar

open Text

/-- A character of words: a letter of ASCII, or a character of another script that is neither a
blank nor a digit. -/
def isLetter (c : Char) : Bool :=
  if c.toNat < 0x80 then c.isAlpha else !isBlank c && !isDecimal c

/-- What a token has been so far. -/
inductive TokenKind where
  /-- Letters. -/
  | word
  /-- Digits. -/
  | number
  /-- With points, letters last. -/
  | dottedWord
  /-- With points, digits last. -/
  | dottedNumber
deriving DecidableEq, Repr

/-- A token that has been begun. -/
structure OpenToken where
  /-- What it has been so far. -/
  kind : TokenKind
  /-- Its characters, the last one first. -/
  taken : Text
  /-- Letters were read on. -/
  lettered : Bool := false
deriving DecidableEq, Repr

namespace OpenToken

/-- The last character is a point. -/
def endsInPoint (o : OpenToken) : Bool := o.taken.head? = some '.'

/-- What the token becomes with another character; `none` when the character does not belong to
it. -/
def kindWith? (o : OpenToken) (c : Char) : Option TokenKind :=
  match o.kind with
  | .word => if isLetter c then some .word else if c = '.' then some .dottedWord else none
  | .number =>
    if isDecimal c then some .number
    else if c = '.' || (c = ',' && 2 ≤ o.taken.length) then some .dottedNumber
    else none
  | .dottedWord =>
    if c = '.' || isLetter c then some .dottedWord
    else if isDecimal c && o.endsInPoint then some .dottedNumber
    else none
  | .dottedNumber =>
    if c = '.' || isDecimal c then some .dottedNumber
    else if isLetter c && o.endsInPoint then some .dottedWord
    else none

/-- Letters have been read on once a character behind them is looked at. -/
def look (o : OpenToken) : OpenToken :=
  { o with lettered := o.lettered || o.kind = .word || o.kind = .dottedWord }

/-- The whole token and the rest of the text. -/
def extend (o : OpenToken) : Text → OpenToken × Text
  | [] => (o, [])
  | c :: r =>
    match o.kindWith? c with
    | some kind => extend { o.look with kind, taken := c :: o.taken } r
    | none => (o.look, c :: r)

/-- Its points and commas stand between parts. -/
def isCut (o : OpenToken) : Bool :=
  (o.kind = .dottedWord || o.kind = .dottedNumber)
    && (o.lettered || 1 < o.taken.count '.' || o.endsInPoint || o.taken.head? = some ',')

/-- A text cut at its points and commas, which are parts of their own. -/
def cut : Text → List Text
  | [] => []
  | c :: r =>
    if c = '.' || c = ',' then [c] :: cut r
    else match cut r with
      | (d :: p) :: ps => if d = '.' || d = ',' then [c] :: (d :: p) :: ps else (c :: d :: p) :: ps
      | ps => [c] :: ps

/-- The tokens that it stands for. A lone comma marks a fraction as a point does. -/
def close (o : OpenToken) : List Text :=
  let t := o.taken.reverse
  if o.isCut then cut t
  else if o.kind = .dottedNumber && !t.contains '.' then
    [t.map fun c => if c = ',' then '.' else c]
  else [t]

end OpenToken

/-- The tokens of a text, at most as many as the first number says. -/
def tokensFrom : Nat → Text → List Text
  | 0, _ => []
  | _ + 1, [] => []
  | fuel + 1, c :: r =>
    if isLetter c then
      let (o, r) := OpenToken.extend ⟨.word, [c], false⟩ r
      o.close ++ tokensFrom fuel r
    else if isDecimal c then
      let (o, r) := OpenToken.extend ⟨.number, [c], false⟩ r
      o.close ++ tokensFrom fuel r
    else (if isBlank c then [' '] else [c]) :: tokensFrom fuel r

/-- The tokens of a text. Blanks are single tokens, all written as a space; NUL counts for
nothing. -/
def tokens (t : Text) : List Text :=
  let t := t.filter (· ≠ '\x00')
  tokensFrom t.length t

/-- The whole digits and the digits of the fraction of a token that is a number. -/
def numberParts? (token : Text) : Option (Text × Text) :=
  let whole := token.takeWhile isDecimal
  if whole.isEmpty then none
  else match token.dropWhile isDecimal with
    | [] => some (whole, [])
    | '.' :: fraction =>
      if !fraction.isEmpty && fraction.all isDecimal then some (whole, fraction) else none
    | _ => none

end ParcelStatus.Calendar
