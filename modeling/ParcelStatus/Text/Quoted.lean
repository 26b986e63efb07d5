import ParcelStatus.Text.Basic
import ParcelStatus.Text.Printable

/-!
# Quoted texts

The form in which a message shows a text so that its ends and its odd characters can be seen:
between quotes, with escapes.

* `quoteFor` — apostrophes, unless the text has an apostrophe and no double quote;
* `quoted` — backslash, the quote in use, line feed, return and tab are escaped by a backslash,
  and unprintable characters are written by their number in two, four or eight digits.
-/

namespace ParcelStatus.Text

/-- A digit of base sixteen. -/
def hexDigit (n : Nat) : Char := Nat.digitChar n

/-- The last `width` digits of a number in base sixteen. -/
def hexDigits : Nat → Nat → Text
  | 0, _ => []
  | width + 1, n => hexDigits width (n / 16) ++ [hexDigit (n % 16)]

/-- The quote that surrounds a text. -/
def quoteFor (t : Text) : Char := if t.contains '\'' && !t.contains '"' then '"' else '\''

/-- One character as it stands between the quotes. -/
def quotedChar (quote c : Char) : Text :=
  if c = quote ∨ c = '\\' then ['\\', c]
  else if c = '\n' then ['\\', 'n']
  else if c = '\r' then ['\\', 'r']
  else if c = '\t' then ['\\', 't']
  else if isPrintable c then [c]
  else if c.toNat < 0x100 then '\\' :: 'x' :: hexDigits 2 c.toNat
  else if c.toNat < 0x10000 then '\\' :: 'u' :: hexDigits 4 c.toNat
  else '\\' :: 'U' :: hexDigits 8 c.toNat

/-- The text between quotes. -/
def quoted (t : Text) : Text :=
  let quote := quoteFor t
  quote :: (t.flatMap (quotedChar quote) ++ [quote])

/-- Quoted texts in brackets, with a comma and a space between every two. -/
def quotedList (ts : List Text) : Text := '[' :: (join [',', ' '] (ts.map quoted) ++ [']'])

end ParcelStatus.Text
