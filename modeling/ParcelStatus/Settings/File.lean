import ParcelStatus.Settings.Environment

/-!
# Files of settings

A file of settings binds names to values, one binding on a line: `NAME=value`, optionally behind
`export`, with blanks around its parts and a comment at its end. A value may stand in quotes, where
escapes are known and line ends are part of the value. A name without an equals sign is bound to
nothing. From the place where a line breaks this form, the rest of the line is passed over.

* `File.bindings` — the bindings of a file in order;
* `File.expand` — a value with its `${NAME}` and `${NAME:-default}` replaced;
* `File.resolve` — the names of a file with their final values.
-/

namespace ParcelStatus.Settings.File

open Text

/-- A name bound to a value or to nothing. -/
structure Binding where
  name : Text
  value : Option Text
deriving DecidableEq, Repr

/-! ## Parts of a line -/

/-- A blank that does not end a line. -/
def isGap (c : Char) : Bool := isBlank c && c ≠ '\n' && c ≠ '\r'

/-- A character that does not end a line. -/
def inLine (c : Char) : Bool := c ≠ '\n' && c ≠ '\r'

/-- The rest behind the gap in front. -/
def dropGap (t : Text) : Text := t.dropWhile isGap

/-- The rest behind `export` and the gap that must follow it, or the text itself. -/
def dropExport (t : Text) : Text :=
  match dropPrefix? "export".toList t with
  | some (c :: r) => if isGap c then dropGap r else t
  | _ => t

/-- A character of a name without quotes. -/
def isNameChar (c : Char) : Bool := c ≠ '=' && c ≠ '#' && !isBlank c

/-- A name in front, in apostrophes or plain, and the rest. -/
def readName? (t : Text) : Option (Text × Text) :=
  match t with
  | '\'' :: r =>
    let name := r.takeWhile (· ≠ '\'')
    match name, r.dropWhile (· ≠ '\'') with
    | _ :: _, _ :: rest => some (name, rest)
    | _, _ => none
  | t =>
    let name := t.takeWhile isNameChar
    if name = [] then none else some (name, t.dropWhile isNameChar)

/-- What stands up to a closing quote, escapes and all, and the rest behind it. A backslash keeps the
character behind it from closing; no line ends behind one. -/
def spanQuoted? (quote : Char) : Text → Option (Text × Text)
  | [] => none
  | '\\' :: c :: r =>
    if c = '\n' then none else (spanQuoted? quote r).map fun (v, rest) => ('\\' :: c :: v, rest)
  | c :: r =>
    if c = quote then some ([], r)
    else if c = '\\' then none
    else (spanQuoted? quote r).map fun (v, rest) => (c :: v, rest)

/-- The escapes known within double quotes. -/
def doubleEscape? : Char → Option Char
  | '\\' => some '\\'
  | '\'' => some '\''
  | '"' => some '"'
  | 'a' => some '\x07'
  | 'b' => some '\x08'
  | 'f' => some '\x0c'
  | 'n' => some '\n'
  | 'r' => some '\r'
  | 't' => some '\t'
  | 'v' => some '\x0b'
  | _ => none

/-- The escapes known within apostrophes. -/
def singleEscape? : Char → Option Char
  | '\\' => some '\\'
  | '\'' => some '\''
  | _ => none

/-- The text with its known escapes replaced. -/
def unescape (escape? : Char → Option Char) : Text → Text
  | [] => []
  | '\\' :: c :: r =>
    match escape? c with
    | some d => d :: unescape escape? r
    | none => '\\' :: unescape escape? (c :: r)
  | c :: r => c :: unescape escape? r

/-- The text before a gap with a comment behind it. -/
def dropComment : Text → Text
  | [] => []
  | c :: r =>
    if isBlank c && (r.dropWhile isBlank).head? = some '#' then [] else c :: dropComment r

/-- A value behind an equals sign and the rest. -/
def readValue? (t : Text) : Option (Text × Text) :=
  match dropGap t with
  | '\'' :: r => (spanQuoted? '\'' r).map fun (v, rest) => (unescape singleEscape? v, rest)
  | '"' :: r => (spanQuoted? '"' r).map fun (v, rest) => (unescape doubleEscape? v, rest)
  | _ => some (trim (dropComment (t.takeWhile inLine)), t.dropWhile inLine)

/-- The rest behind the end of a line, which may have a comment before it. -/
def lineEnd? (t : Text) : Option Text :=
  let t := match dropGap t with
    | '#' :: r => r.dropWhile inLine
    | _ => t
  match dropGap t with
  | [] => some []
  | '\r' :: '\n' :: r => some r
  | '\r' :: r => some r
  | '\n' :: r => some r
  | _ => none

/-- The rest behind the end of a line, or what stands there instead. -/
def endLine (t : Text) : Except Text Text :=
  match lineEnd? t with
  | some r => .ok r
  | none => .error t

/-- A binding in front and the rest behind its line, or the place where the line breaks the form.
A line with a comment only has no binding. -/
def readBinding (t : Text) : Except Text (Option Binding × Text) :=
  let t := dropExport t
  match t with
  | '#' :: _ => (endLine t).map (none, ·)
  | t =>
    match readName? t with
    | none => .error t
    | some (name, r) =>
      match dropGap r with
      | '=' :: r =>
        match readValue? r with
        | none => .error (dropGap r)
        | some (value, r) => (endLine r).map (some ⟨name, some value⟩, ·)
      | r => (endLine r).map (some ⟨name, none⟩, ·)

/-- The rest behind the line in front. -/
def dropLine (t : Text) : Text :=
  match t.dropWhile inLine with
  | [] => []
  | _ :: r => r

/-! ## Files -/

/-- `bindings`, with fuel for the lines. -/
def bindingsFrom : Nat → Text → List Binding
  | 0, _ => []
  | fuel + 1, t =>
    match trimLeft t with
    | [] => []
    | t => match readBinding t with
      | .ok (some b, r) => b :: bindingsFrom fuel r
      | .ok (none, r) => bindingsFrom fuel r
      | .error r => bindingsFrom fuel (dropLine r)

def bindings (file : Text) : List Binding :=
  let t := universalNewlines file
  bindingsFrom (t.length + 1) t

/-- A reference in front, behind its dollar sign and brace: the name, the default, and the rest
behind the closing brace. -/
def readReference? (t : Text) : Option (Text × Option Text × Text) :=
  let name := t.takeWhile fun c => c ≠ '\x7d' && c ≠ ':'
  match t.dropWhile fun c => c ≠ '\x7d' && c ≠ ':' with
  | '\x7d' :: r => some (name, none, r)
  | ':' :: '-' :: r =>
    match r.dropWhile (· ≠ '\x7d') with
    | _ :: rest => some (name, some (r.takeWhile (· ≠ '\x7d')), rest)
    | [] => none
  | _ => none

/-- `expand`, with fuel for the characters. -/
def expandFrom (look : Text → Option Text) : Nat → Text → Text
  | 0, t => t
  | fuel + 1, t =>
    match t with
    | [] => []
    | '$' :: '\x7b' :: r =>
      match readReference? r with
      | some (name, default, rest) =>
        (look name).getD (default.getD []) ++ expandFrom look fuel rest
      | none => '$' :: expandFrom look fuel ('\x7b' :: r)
    | c :: r => c :: expandFrom look fuel r

/-- A value with its references replaced. -/
def expand (look : Text → Option Text) (t : Text) : Text := expandFrom look t.length t

/-- The names bound so far with their values. -/
abbrev Resolved := List (Text × Option Text)

/-- What a reference finds: with override the names bound before win over the environment, and
without it the environment wins. A name bound to nothing is the empty text. -/
def lookIn (env : Environment) (override : Bool) (before : Resolved) (name : Text) : Option Text :=
  let own := (before.lookup name).map (·.getD [])
  let outer := env.get? name
  if override then own.or outer else outer.or own

/-- The names of a file in the order of their first binding, with the values of their last ones. -/
def resolve (env : Environment) (override : Bool) (bs : List Binding) : Resolved :=
  bs.foldl (fun before b =>
    Table.assign b.name (b.value.map (expand (lookIn env override before))) before) []

end ParcelStatus.Settings.File
