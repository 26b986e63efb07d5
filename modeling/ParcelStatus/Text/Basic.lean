/-!
# Text

A text is the list of its characters. This module holds what every reader of vendor text needs:
white space and trimming, search for a phrase, splitting into words, columns and lines, and
joining. All of it is structural recursion on the text.

* `trim` — a text without the blanks at its two ends;
* `occursIn` — a phrase stands somewhere in a text;
* `splitAtFirst` — what stands before and behind the first place of a phrase;
* `words`, `columns`, `lines` — split at blanks, at runs of two or more blanks, at line ends.
-/

namespace ParcelStatus

/-- A text is the list of its characters. -/
abbrev Text := List Char

namespace Text

/-! ## Blanks -/

/-- White space: the Unicode spaces, the line and paragraph separators, the ASCII controls from
tab to carriage return, the four information separators, and next line. -/
def isBlank (c : Char) : Bool :=
  let n := c.toNat
  (9 ≤ n && n ≤ 13) || (0x1c ≤ n && n ≤ 0x20) || n == 0x85 || n == 0xa0 || n == 0x1680
    || (0x2000 ≤ n && n ≤ 0x200a) || n == 0x2028 || n == 0x2029 || n == 0x202f
    || n == 0x205f || n == 0x3000

/-- The text without the blanks in front. -/
def trimLeft (t : Text) : Text := t.dropWhile isBlank

/-- The text without the blanks at its end. -/
def trimRight (t : Text) : Text := (t.reverse.dropWhile isBlank).reverse

/-- The text without the blanks at either end. -/
def trim (t : Text) : Text := trimRight (trimLeft t)

/-- Nothing but blanks. -/
def isAllBlank (t : Text) : Bool := t.all isBlank

/-! ## Phrases -/

/-- The phrase stands somewhere in the text. -/
def occursIn (phrase : Text) : Text → Bool
  | [] => phrase.isEmpty
  | c :: r => phrase.isPrefixOf (c :: r) || occursIn phrase r

/-- What stands before and behind the first place of the phrase, if it stands anywhere. -/
def splitAtFirst (phrase : Text) : Text → Option (Text × Text)
  | [] => if phrase.isEmpty then some ([], []) else none
  | c :: r =>
    if phrase.isPrefixOf (c :: r) then some ([], (c :: r).drop phrase.length)
    else (splitAtFirst phrase r).map fun (before, behind) => (c :: before, behind)

/-- The rest of the text behind the phrase it begins with. -/
def dropPrefix? (phrase : Text) (t : Text) : Option Text :=
  if phrase.isPrefixOf t then some (t.drop phrase.length) else none

/-! ## Pieces -/

/-- Puts a character in front of the first piece. -/
def consFirst (c : Char) : List Text → List Text
  | [] => [[c]]
  | p :: ps => (c :: p) :: ps

/-- The maximal runs of characters that are not blank, in order. -/
def words : Text → List Text
  | [] => []
  | c :: r =>
    if isBlank c then words r
    else match r with
      | [] => [[c]]
      | d :: _ => if isBlank d then [c] :: words r else consFirst c (words r)

/-- `columns`, told whether the text goes on inside a gap. -/
def columnsFrom (inGap : Bool) : Text → List Text
  | [] => [[]]
  | c :: r =>
    if isBlank c then
      if inGap then columnsFrom true r
      else match r with
        | [] => [[c]]
        | d :: _ =>
          if isBlank d then [] :: columnsFrom true r else consFirst c (columnsFrom false r)
    else consFirst c (columnsFrom false r)

/-- The columns of a line: a gap is a run of two or more blanks, and a single blank belongs to
the column it stands in. -/
def columns (t : Text) : List Text := columnsFrom false t

/-- The characters that end a line. -/
def isLineEnd (c : Char) : Bool :=
  let n := c.toNat
  (10 ≤ n && n ≤ 13) || (0x1c ≤ n && n ≤ 0x1e) || n == 0x85 || n == 0x2028 || n == 0x2029

/-- The lines of a text without their ends. A return followed by a line feed is one end, and the
end of the last line may be missing. -/
def lines : Text → List Text
  | [] => []
  | '\r' :: '\n' :: r => [] :: lines r
  | c :: r => if isLineEnd c then [] :: lines r else consFirst c (lines r)

/-- The pieces between the occurrences of one character; one more piece than there are
occurrences. -/
def splitOn (sep : Char) : Text → List Text
  | [] => [[]]
  | c :: r => if c = sep then [] :: splitOn sep r else consFirst c (splitOn sep r)

/-- The pieces with a separator between every two. -/
def join (sep : Text) : List Text → Text
  | [] => []
  | [p] => p
  | p :: ps => p ++ sep ++ join sep ps

/-- Line ends of all conventions read as line feeds. -/
def universalNewlines : Text → Text
  | [] => []
  | '\r' :: '\n' :: r => '\n' :: universalNewlines r
  | c :: r => (if c = '\r' then '\n' else c) :: universalNewlines r

/-! ## Order -/

/-- Order by code points, a text before those it begins. -/
def le : Text → Text → Bool
  | [], _ => true
  | _ :: _, [] => false
  | a :: s, b :: t => a < b || (a == b && le s t)

/-! ## Numerals -/

/-- The decimal digits of a number. -/
def ofNat (n : Nat) : Text := Nat.toDigits 10 n

/-- The decimal digits of a number behind its minus sign, if it has one. -/
def ofInt : Int → Text
  | .ofNat n => ofNat n
  | .negSucc n => '-' :: ofNat (n + 1)

/-- Zeros in front up to a width. -/
def padZeros (width : Nat) (t : Text) : Text := List.replicate (width - t.length) '0' ++ t

end Text

end ParcelStatus
