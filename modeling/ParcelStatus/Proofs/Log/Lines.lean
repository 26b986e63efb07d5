import ParcelStatus.Log.Registry

/-!
# Lines of the log

The default form of lines shows the time, the level, the logger and the message, with bars between
them.

* `fillFrom_field`, `fillFrom_bar` — the pieces of a form;
* `fill_defaultTemplate` — the line of an entry;
* `loggedText` — the lines of all entries that are grave enough.
-/

namespace ParcelStatus.Log

open Text

/-! ## Pieces of a form -/

/-- The field of a part that is shown as it stands. -/
def field (name : Text) : Text := '%' :: '(' :: (name ++ [')', 's'])

def bar : Text := " | ".toList

variable (parts : Text → Option Part) (fuel : Nat)

/-- The name of a field has no brackets. -/
def isPlainName (name : Text) : Bool := name.all fun c => c != ')' && c != '('

theorem readName?_plain {name : Text} (plain : isPlainName name = true) (r : Text) :
    readName? 0 (name ++ ')' :: r) = some (name, r) := by
  induction name with
  | nil => rfl
  | cons c name ih =>
    simp only [isPlainName, List.all_cons, Bool.and_eq_true, bne_iff_ne] at plain
    obtain ⟨⟨closing, opening⟩, others⟩ := plain
    rw [List.cons_append, readName?, if_neg closing, if_neg opening, ih others]
    rfl

theorem Showing.text_plain (t : Text) : ({ kind := 's' } : Showing).text t = t := by
  simp [Showing.text, Showing.place]

theorem fillFrom_field {name t : Text} (plain : isPlainName name = true)
    (found : parts name = some (.text t)) (r : Text) :
    fillFrom parts (fuel + 1) (field name ++ r) = (fillFrom parts fuel r).map (t ++ ·) := by
  have read : readName? 0 (name ++ ([')', 's'] ++ r)) = some (name, 's' :: r) :=
    readName?_plain plain ('s' :: r)
  have showing : readShowing? ('s' :: r) = some ({ kind := 's' }, r) := rfl
  rw [field, List.cons_append, List.cons_append, List.append_assoc, fillFrom]
  simp only [read, found, showing, Option.bind_eq_bind, Option.bind_some, Showing.write?,
    Part.shown, Showing.text_plain]
  cases fillFrom parts fuel r <;> rfl

theorem fillFrom_plain {c : Char} (plain : c ≠ '%') (r : Text) :
    fillFrom parts (fuel + 1) (c :: r) = (fillFrom parts fuel r).map (c :: ·) := by
  rw [fillFrom]
  · exact fun _ same _ => plain same
  · exact fun _ same _ => plain same
  · exact plain

theorem fillFrom_bar (r : Text) :
    fillFrom parts (fuel + 3) (bar ++ r) = (fillFrom parts fuel r).map (bar ++ ·) := by
  show fillFrom parts (fuel + 3) (' ' :: '|' :: ' ' :: r) = _
  rw [fillFrom_plain parts _ (by decide), fillFrom_plain parts _ (by decide),
    fillFrom_plain parts _ (by decide)]
  cases fillFrom parts fuel r <;> rfl

/-! ## The default form -/

theorem defaultTemplate_eq : Registry.defaultTemplate =
    field "asctime".toList ++ (bar ++ (field "levelname".toList ++ (bar ++
      (field "name".toList ++ (bar ++ (field "message".toList ++ [])))))) := by
  decide

section Parts

variable (timestamp : Text) (e : Entry)

theorem part?_asctime : e.part? timestamp "asctime".toList = some (.text timestamp) := by
  unfold Entry.part?
  rw [String.ofList_toList]
  simp

theorem part?_levelname :
    e.part? timestamp "levelname".toList = some (.text (levelName e.level)) := by
  unfold Entry.part?
  rw [String.ofList_toList]
  simp

theorem part?_name (named : e.logger ≠ []) :
    e.part? timestamp "name".toList = some (.text e.logger) := by
  unfold Entry.part?
  rw [String.ofList_toList]
  simp [named]

theorem part?_message : e.part? timestamp "message".toList = some (.text e.message) := by
  unfold Entry.part?
  rw [String.ofList_toList]
  simp

/-- The line of an entry behind its time. -/
def stampedLine : Text := timestamp ++ bar ++ e.line

theorem fill_defaultTemplate (named : e.logger ≠ []) :
    fill Registry.defaultTemplate timestamp e = some (stampedLine timestamp e) := by
  have length : Registry.defaultTemplate.length = 52 := by decide
  rw [fill, length, defaultTemplate_eq,
    fillFrom_field _ 51 (by decide) (part?_asctime timestamp e), fillFrom_bar _ 48,
    fillFrom_field _ 47 (by decide) (part?_levelname timestamp e), fillFrom_bar _ 44,
    fillFrom_field _ 43 (by decide) (part?_name timestamp e named), fillFrom_bar _ 40,
    fillFrom_field _ 39 (by decide) (part?_message timestamp e)]
  simp [fillFrom, stampedLine, bar, Entry.line]

end Parts

/-! ## Many lines -/

/-- The lines of the entries from a level on. -/
def loggedText (timestamp : Text) (level : Int) (es : List Entry) : Text :=
  (es.filter (level ≤ ·.level)).flatMap fun e => stampedLine timestamp e ++ ['\n']

section LoggedText

variable {timestamp : Text} {level : Int} {e : Entry}

theorem loggedText_cons_of_lt (below : e.level < level) (es : List Entry) :
    loggedText timestamp level (e :: es) = loggedText timestamp level es := by
  have out : ¬level ≤ e.level := Int.not_le.2 below
  simp [loggedText, out]

theorem loggedText_cons_of_le (enough : level ≤ e.level) (es : List Entry) :
    loggedText timestamp level (e :: es) =
      stampedLine timestamp e ++ ['\n'] ++ loggedText timestamp level es := by
  simp [loggedText, enough]

/-- The line of every entry that is grave enough stands in the text. -/
theorem exists_loggedText_of_mem {es : List Entry} (inside : e ∈ es) (enough : level ≤ e.level) :
    ∃ before behind, loggedText timestamp level es =
      before ++ (stampedLine timestamp e ++ ['\n']) ++ behind := by
  obtain ⟨front, rest, split⟩ := List.append_of_mem inside
  refine ⟨loggedText timestamp level front, loggedText timestamp level rest, ?_⟩
  simp [split, loggedText, enough]

end LoggedText

end ParcelStatus.Log
