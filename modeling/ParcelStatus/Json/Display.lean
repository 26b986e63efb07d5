import ParcelStatus.Json.Basic
import ParcelStatus.Number.Notation
import ParcelStatus.Text.Quoted

/-!
# Displayed values

The text that stands for a value in a message, and in place of a text where a vendor sent
something else.

* `Json.shown` — the value as messages show it: texts are quoted, lists stand in brackets, objects
  in braces, and the constants are `None`, `True` and `False`;
* `Json.asText` — the same, but a text stands for itself;
* `Json.textOrBlank` — the text of a value, empty for a blank value.
-/

namespace ParcelStatus.Json

open Text

mutual

/-- The value as messages show it. -/
def shown : Json → Text
  | null => "None".toList
  | bool true => "True".toList
  | bool false => "False".toList
  | int n => ofInt n
  | float x => Notation.plain.write x
  | str t => quoted t
  | arr items => '[' :: (shownItems items ++ [']'])
  | obj members => '\x7b' :: (shownMembers members ++ ['\x7d'])

/-- The items of a list with commas between them. -/
def shownItems : List Json → Text
  | [] => []
  | [v] => shown v
  | v :: vs => shown v ++ [',', ' '] ++ shownItems vs

/-- The members of an object with commas between them. -/
def shownMembers : List (Text × Json) → Text
  | [] => []
  | [(k, v)] => quoted k ++ [':', ' '] ++ shown v
  | (k, v) :: ms => quoted k ++ [':', ' '] ++ shown v ++ [',', ' '] ++ shownMembers ms

end

/-- The text of a value: a text is its own. -/
def asText : Json → Text
  | str t => t
  | v => shown v

/-- The text of a value, empty for a blank value. -/
def textOrBlank (v : Json) : Text := if v.isTruthy then v.asText else []

@[simp] theorem asText_str (t : Text) : asText (.str t) = t := rfl

@[simp] theorem textOrBlank_str (t : Text) : textOrBlank (.str t) = t := by
  cases t <;> rfl

end ParcelStatus.Json
