import ParcelStatus.Json.Basic
import ParcelStatus.Number.Notation
import ParcelStatus.Text.Quoted

/-!
# Written JSON

Writing values as JSON texts on one line: a comma and a space between items, a colon and a space
behind names.

* `Json.write` — the value as a JSON text; on request everything beyond ASCII is escaped.
-/

namespace ParcelStatus.Json

open Text

/-- An escape by the number of a UTF-16 unit. -/
def unitEscape (n : Nat) : Text := '\\' :: 'u' :: hexDigits 4 n

/-- A character within a JSON string. -/
def writeChar (asciiOnly : Bool) (c : Char) : Text :=
  if c = '"' ∨ c = '\\' then ['\\', c]
  else if c = '\n' then ['\\', 'n']
  else if c = '\r' then ['\\', 'r']
  else if c = '\t' then ['\\', 't']
  else if c = '\x0c' then ['\\', 'f']
  else if c = '\x08' then ['\\', 'b']
  else if c.toNat < 0x20 then unitEscape c.toNat
  else if asciiOnly ∧ 0x7e < c.toNat then
    if c.toNat < 0x10000 then unitEscape c.toNat
    else
      let n := c.toNat - 0x10000
      unitEscape (0xd800 + n / 0x400) ++ unitEscape (0xdc00 + n % 0x400)
  else [c]

/-- A JSON string. -/
def writeString (asciiOnly : Bool) (t : Text) : Text :=
  '"' :: (t.flatMap (writeChar asciiOnly) ++ ['"'])

mutual

/-- The value as a JSON text. -/
def write (asciiOnly : Bool) : Json → Text
  | null => "null".toList
  | bool true => "true".toList
  | bool false => "false".toList
  | int n => ofInt n
  | float x => Notation.json.write x
  | str t => writeString asciiOnly t
  | arr items => '[' :: (writeItems asciiOnly items ++ [']'])
  | obj members => '\x7b' :: (writeMembers asciiOnly members ++ ['\x7d'])

/-- The items of a list with commas between them. -/
def writeItems (asciiOnly : Bool) : List Json → Text
  | [] => []
  | [v] => write asciiOnly v
  | v :: vs => write asciiOnly v ++ [',', ' '] ++ writeItems asciiOnly vs

/-- The members of an object with commas between them. -/
def writeMembers (asciiOnly : Bool) : List (Text × Json) → Text
  | [] => []
  | [(k, v)] => writeString asciiOnly k ++ [':', ' '] ++ write asciiOnly v
  | (k, v) :: ms =>
    writeString asciiOnly k ++ [':', ' '] ++ write asciiOnly v ++ [',', ' ']
      ++ writeMembers asciiOnly ms

end

end ParcelStatus.Json
