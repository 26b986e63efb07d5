import ParcelStatus.Text.Basic
import ParcelStatus.Text.Quoted

/-!
# Octets and texts

Reading octets as UTF-8. A reader that meets octets which no text has says where they begin, how
many they are and what is wrong with them.

An escape can name half of a surrogate pair without the other half, which is no character, and which
no octets write. Until such a text is to be written, a character of a private plane stands for each
lone half. There are two planes of them: where a text that is made with the one differs from the
same text made with the other, a lone half would have to be written.

* `decode` — the text that the octets write, or the first fault;
* `Fault.message` — the wording of a fault;
* `standIn`, `encodeFault?` — lone surrogates, and the fault of a text that has some;
* `octetCount` — how many octets a text takes;
* `dropOrderMark` — the octets of a file without the mark that may open it.
-/

namespace ParcelStatus.Text

/-- What is wrong with octets that are no UTF-8. -/
inductive FaultKind where
  /-- No character begins with this octet. -/
  | invalidStart
  /-- An octet that should continue a character does not. -/
  | invalidContinuation
  /-- The octets end within a character. -/
  | unexpectedEnd
deriving DecidableEq, Repr

/-- The first fault in a row of octets. -/
structure Fault where
  /-- The octets that make the fault. -/
  octets : List UInt8
  /-- The place of the first of them. -/
  position : Nat
  /-- What is wrong. -/
  kind : FaultKind
deriving DecidableEq, Repr

/-- The wording of the reason. -/
def FaultKind.message : FaultKind → Text
  | .invalidStart => "invalid start byte".toList
  | .invalidContinuation => "invalid continuation byte".toList
  | .unexpectedEnd => "unexpected end of data".toList

/-- The wording of a fault. -/
def Fault.message (f : Fault) : Text :=
  match f.octets with
  | [o] =>
    "'utf-8' codec can't decode byte 0x".toList ++ hexDigits 2 o.toNat ++ " in position ".toList
      ++ ofNat f.position ++ ": ".toList ++ f.kind.message
  | os =>
    "'utf-8' codec can't decode bytes in position ".toList ++ ofNat f.position ++ ['-']
      ++ ofNat (f.position + os.length - 1) ++ ": ".toList ++ f.kind.message

/-- An octet that continues a character. -/
def isContinuation (o : UInt8) : Bool := 0x80 ≤ o && o < 0xc0

/-- The value that a continuation adds. -/
def continueWith (n : Nat) (o : UInt8) : Nat := n * 64 + (o.toNat - 0x80)

/-- The second octets that may follow the first one: they exclude overlong forms, surrogates and
numbers above the last code point. -/
def secondAllowed (first second : UInt8) : Bool :=
  isContinuation second && (first != 0xe0 || 0xa0 ≤ second) && (first != 0xed || second < 0xa0)
    && (first != 0xf0 || 0x90 ≤ second) && (first != 0xf4 || second < 0x90)

/-- `decode` from a place on. -/
def decodeFrom (position : Nat) : List UInt8 → Except Fault Text
  | [] => .ok []
  | a :: r =>
    if a < 0x80 then (decodeFrom (position + 1) r).map (Char.ofNat a.toNat :: ·)
    else if 0xc2 ≤ a && a < 0xe0 then
      match r with
      | [] => .error ⟨[a], position, .unexpectedEnd⟩
      | b :: r =>
        if !isContinuation b then .error ⟨[a], position, .invalidContinuation⟩
        else
          let n := continueWith (a.toNat - 0xc0) b
          (decodeFrom (position + 2) r).map (Char.ofNat n :: ·)
    else if 0xe0 ≤ a && a < 0xf0 then
      match r with
      | [] => .error ⟨[a], position, .unexpectedEnd⟩
      | b :: r =>
        if !secondAllowed a b then .error ⟨[a], position, .invalidContinuation⟩
        else match r with
          | [] => .error ⟨[a, b], position, .unexpectedEnd⟩
          | c :: r =>
            if !isContinuation c then .error ⟨[a, b], position, .invalidContinuation⟩
            else
              let n := continueWith (continueWith (a.toNat - 0xe0) b) c
              (decodeFrom (position + 3) r).map (Char.ofNat n :: ·)
    else if 0xf0 ≤ a && a < 0xf5 then
      match r with
      | [] => .error ⟨[a], position, .unexpectedEnd⟩
      | b :: r =>
        if !secondAllowed a b then .error ⟨[a], position, .invalidContinuation⟩
        else match r with
          | [] => .error ⟨[a, b], position, .unexpectedEnd⟩
          | c :: r =>
            if !isContinuation c then .error ⟨[a, b], position, .invalidContinuation⟩
            else match r with
              | [] => .error ⟨[a, b, c], position, .unexpectedEnd⟩
              | d :: r =>
                if !isContinuation d then .error ⟨[a, b, c], position, .invalidContinuation⟩
                else
                  let n := continueWith (continueWith (continueWith (a.toNat - 0xf0) b) c) d
                  (decodeFrom (position + 4) r).map (Char.ofNat n :: ·)
    else .error ⟨[a], position, .invalidStart⟩

/-- The text that the octets write, or the first fault. -/
def decode (octets : List UInt8) : Except Fault Text := decodeFrom 0 octets

/-! ## Lone surrogates -/

/-- The unit is half of a surrogate pair. -/
def isSurrogate (unit : Nat) : Bool := 0xd800 ≤ unit && unit < 0xe000

/-- The character of a private plane that stands for a lone surrogate. -/
def standIn (plane unit : Nat) : Char := Char.ofNat (plane * 0x10000 + (unit - 0xd800))

/-- The two planes of private characters. -/
def privatePlane : Nat := 15

def otherPlane : Nat := 16

/-- The lone surrogate that a character of the one plane and a character of the other stand for. -/
def surrogate? (c d : Char) : Option Nat :=
  let unit := c.toNat - privatePlane * 0x10000 + 0xd800
  if isSurrogate unit ∧ c = standIn privatePlane unit ∧ d = standIn otherPlane unit then some unit
  else none

/-- Lone surrogates, one behind the other, in a text that is to be written. -/
structure EncodeFault where
  /-- The first of them. -/
  unit : Nat
  /-- Its place. -/
  position : Nat
  /-- How many there are. -/
  count : Nat
deriving DecidableEq, Repr

/-- The wording of a fault. -/
def EncodeFault.message (f : EncodeFault) : Text :=
  if f.count = 1 then
    "'utf-8' codec can't encode character '\\u".toList ++ hexDigits 4 f.unit
      ++ "' in position ".toList ++ ofNat f.position ++ ": surrogates not allowed".toList
  else
    "'utf-8' codec can't encode characters in position ".toList ++ ofNat f.position ++ ['-']
      ++ ofNat (f.position + f.count - 1) ++ ": surrogates not allowed".toList

/-- The first lone surrogates of a text, which is given with the one kind of characters that stand
for them and with the other. -/
def encodeFault? (t other : Text) : Option EncodeFault :=
  let units := List.zipWith surrogate? t other
  match units.dropWhile Option.isNone with
  | some unit :: rest => some {
    unit
    position := (units.takeWhile Option.isNone).length
    count := (rest.takeWhile Option.isSome).length + 1 }
  | _ => none

/-! ## Octets of texts -/

/-- The octets of a text. -/
def encode (t : Text) : List UInt8 := t.flatMap String.utf8EncodeChar

/-- How many octets a text takes. -/
def octetCount (t : Text) : Nat := (encode t).length

/-- The octets without a byte order mark in front. -/
def dropOrderMark : List UInt8 → List UInt8
  | 0xef :: 0xbb :: 0xbf :: r => r
  | r => r

end ParcelStatus.Text
