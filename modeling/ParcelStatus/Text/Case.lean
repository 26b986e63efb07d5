import ParcelStatus.Text.Basic
import ParcelStatus.Text.CaseTable
import ParcelStatus.Text.Cased

/-!
# Case of letters

Upper case, lower case and case folding of texts of any script. A letter may become several
(the sharp s becomes `SS`), so each mapping sends a character to a text, and a text to the texts
of its characters one behind the other. One letter looks at its neighbours: the capital sigma has
a small form of its own at the end of a word.

* `upper`, `lower`, `fold` — the three mappings of a text;
* `upper_append`, `fold_append` — upper case and folding respect concatenation, so no character
  influences another.
-/

namespace ParcelStatus.Text

/-- The character that a code point of the run maps to. -/
def CaseRun.image? (r : CaseRun) (n : Nat) : Option Nat :=
  if r.first ≤ n ∧ n ≤ r.last ∧ (n - r.first) % r.step = 0 then some (n + r.shift).toNat
  else none

/-- The image of a character: ASCII by rule, the rest by the two tables, itself if in neither. -/
def mapCase (ascii : Char → Char) (runs : List CaseRun) (long : List (Nat × List Nat))
    (c : Char) : Text :=
  if c.toNat < 0x80 then [ascii c]
  else match long.find? (·.1 == c.toNat) with
    | some (_, image) => image.map Char.ofNat
    | none => match runs.findSome? (·.image? c.toNat) with
      | some n => [Char.ofNat n]
      | none => [c]

/-- The upper case of a character. -/
def upperChar : Char → Text := mapCase Char.toUpper upperRuns upperLong

/-- The lower case of a character. -/
def lowerChar : Char → Text := mapCase Char.toLower lowerRuns lowerLong

/-- The folded form of a character. -/
def foldChar : Char → Text := mapCase Char.toLower foldRuns foldLong

/-- The text in upper case. -/
def upper (t : Text) : Text := t.flatMap upperChar

def capitalSigma : Char := '\u03a3'

/-- The small sigma at the end of a word. -/
def finalSigma : Char := '\u03c2'

/-- The next character that is not passed over has a case. -/
def casedFollows (t : Text) : Bool :=
  match t.dropWhile isPassed with
  | c :: _ => isCased c
  | [] => false

/-- The lower case of a text; `within` tells whether the last character before it that is not
passed over has a case. A capital sigma behind such a letter and before none takes its final
form. -/
def lowerFrom (within : Bool) : Text → Text
  | [] => []
  | c :: r =>
    (if c = capitalSigma && within && !casedFollows r then [finalSigma] else lowerChar c)
      ++ lowerFrom (if isPassed c then within else isCased c) r

/-- The text in lower case. -/
def lower (t : Text) : Text := lowerFrom false t

/-- The form of the text that comparisons without regard to case use. -/
def fold (t : Text) : Text := t.flatMap foldChar

@[simp] theorem upper_append (s t : Text) : upper (s ++ t) = upper s ++ upper t := by
  simp [upper]

@[simp] theorem fold_append (s t : Text) : fold (s ++ t) = fold s ++ fold t := by
  simp [fold]

/-- Trimmed and in upper case, the form in which codes are compared. -/
def normalizeCode (t : Text) : Text := upper (trim t)

end ParcelStatus.Text
