import ParcelStatus.Proofs.Upload.Rows

/-!
# Converting uploads

What becomes of an upload on its way to a workbook. It is missing, its sheet cannot be read, no rule
knows its header, the workbook cannot be written, or the workbook is there. Only the header decides
whether an upload is refused as unsupported, and the layout that it tells is the layout of all that
is written.

* `readSheet_isPlain`, `outputPaths_of_short` — what stands where an upload should be;
* `Intake.finish`, `Intake.Finishes` — the work behind reading, and the layout that it writes;
* `Intake.convert_cases` — who is refused;
* `Intake.detectionEntry_mem`, `Intake.owns_convert` — the entries about the work.
-/

namespace ParcelStatus.Upload

open Text Log Journal Outcome

variable {d : Disk} {input : Path}

/-! ## Uploads on disk -/

/-- Faults of an upload that is there, other than the refusal of its header. -/
def Fault.IsPlain : Fault → Prop
  | .missing _ => False
  | .unsupported _ => False
  | _ => True

theorem readSheet_of_tooLong (long : d.isTooLong input = true) :
    readSheet d input = .error (.tooLong input) := by
  simp only [readSheet, long, if_true]

theorem readSheet_of_nothing (short : d.isTooLong input = false)
    (nothing : d.find input = .nothing) : readSheet d input = .error (.missing input) := by
  simp only [readSheet, short, nothing, Bool.false_eq_true, if_false]

theorem readSheet_isPlain (short : d.isTooLong input = false) (there : d.hasPath input = true)
    {f : Fault} (fails : readSheet d input = .error f) : f.IsPlain := by
  unfold Disk.hasPath at there
  simp only [readSheet, short, Bool.false_eq_true, if_false] at fails
  cases found : d.find input with
  | nothing =>
    rw [found] at there
    cases there
  | directory =>
    simp only [found] at fails
    cases fails
    exact True.intro
  | file contents =>
    have csv : ∀ x : Except Csv.Fault Sheet, x.mapError Fault.csv = .error f → f.IsPlain := by
      intro x fails
      cases x with
      | ok sheet => cases fails
      | error fault =>
        cases fails
        exact True.intro
    simp only [found] at fails
    split at fails
    case h_1 | h_2 => contradiction
    case h_3 | h_4 => exact csv _ fails
    case h_5 =>
      cases fails
      exact True.intro
    case h_6 => cases fails

theorem outputPaths_of_short (short : d.isTooLong input = false) :
    outputPaths d input =
      if !d.hasPath input then .error (.missing input)
      else if input.name = [] then .error (.noName ⟨input⟩)
      else .ok (input.parent.child (input.stem ++ bookSuffix),
        input.parent.child (input.stem ++ ".log".toList)) := by
  unfold outputPaths logPath Path.withSuffix? Path.withName?
  rw [short, if_neg Bool.false_ne_true]
  split
  · rfl
  · split <;> rfl

/-! ## The work behind reading -/

/-- Work that is not begun when something bars it. -/
def unlessBarred {α : Type} (barred : Bool) (f : Fault) (work : Journal Fault α) :
    Journal Fault α :=
  if barred then Journal.fail f else work

namespace Intake

variable (p : Intake)

/-- The workbook of some shipments, and the summary. -/
def finish (d : Disk) (input parsed : Path) (timestamp : Text) (layout : Layout)
    (rows : List ShipmentRow) : Journal Fault (Summary × Book) :=
  unlessBarred (parsed.parent.text.contains '\x00') .nullCharacter do
    let d ← .ofExcept ((d.makeDirectories parsed.parent).mapError .outputDirectory)
    unlessBarred (parsed.text.contains '\x00') .nullCharacter <|
      unlessBarred (d.isTooLong parsed) (.tooLong parsed) <|
      unlessBarred (d.hasDirectory parsed) (.directory parsed) do
        let marker : Marker :=
          { inputName := input.name, outputName := parsed.name, layout, timestamp,
            rowCount := rows.length }
        let book ← .ofExcept ((bookOf rows marker).mapError .illegal)
        let extension := extensionOf parsed.name
        unlessBarred (!bookExtensions.contains extension) (.extension extension) do
          Journal.write info p.logger ("Wrote parsed workbook → ".toList ++ parsed.text)
          return ({ outputPath := parsed, layout, timestamp, rowCount := rows.length,
                    columnCount := columnNames.length }, book)

theorem convert_eq (parsed : Path) (timestamp : Text) :
    p.convert d input parsed timestamp =
      (p.read d input >>= fun (layout, rows) =>
        p.finish d input parsed timestamp layout rows) := rfl

/-- How the work behind reading ends: with a fault that is no refusal, or with a workbook and a
summary of one layout. -/
inductive Finishes (layout : Layout) : Except Fault (Summary × Book) → Prop where
  | fails {f : Fault} (plain : f.IsPlain) : Finishes layout (.error f)
  | writes {summary : Summary} {book : Book} {marker : Marker} {rows : List ShipmentRow}
      (summarized : summary.layout = layout) (marked : marker.layout = layout)
      (written : bookOf rows marker = .ok book) : Finishes layout (.ok (summary, book))

variable {layout : Layout}

theorem Finishes.unlessBarred {f : Fault} {barred : Bool}
    {work : Journal Fault (Summary × Book)} (plain : f.IsPlain)
    (finishes : Finishes layout work.outcome) :
    Finishes layout (unlessBarred barred f work).outcome := by
  unfold Upload.unlessBarred
  cases barred with
  | true => exact .fails plain
  | false => exact finishes

theorem Finishes.behind {α ε : Type} {x : Except ε α} {fault : ε → Fault}
    (plain : ∀ e, (fault e).IsPlain) {work : α → Journal Fault (Summary × Book)}
    (finishes : ∀ a, x = .ok a → Finishes layout (work a).outcome) :
    Finishes layout (Journal.ofExcept (x.mapError fault) >>= work).outcome := by
  rw [outcome_bind, outcome_ofExcept]
  cases done : x with
  | error e => exact .fails (plain e)
  | ok a => exact finishes a done

theorem finish_finishes (parsed : Path) (timestamp : Text) (rows : List ShipmentRow) :
    Finishes layout (p.finish d input parsed timestamp layout rows).outcome := by
  have directory : ∀ f, (Fault.outputDirectory f).IsPlain := fun _ => trivial
  have illegal : ∀ f, (Fault.illegal f).IsPlain := fun _ => trivial
  refine .unlessBarred (by trivial) (.behind directory fun d _ => ?_)
  refine .unlessBarred (by trivial) ?_
  refine .unlessBarred (by trivial) ?_
  refine .unlessBarred (by trivial) (.behind illegal fun book written => ?_)
  exact .unlessBarred (by trivial) (.writes rfl rfl written)

/-! ## Who is refused -/

variable {p}

theorem outcome_read_of_error (short : d.isTooLong input = false) (there : d.hasPath input = true)
    {f : Fault} (fails : readSheet d input = .error f) :
    (p.read d input).outcome = .error f := by
  unfold Intake.read
  simp only [short, there, fails, Bool.not_true, Bool.false_eq_true, if_false, outcome_bind,
    outcome_ofExcept, error_bind]

/-- An upload that is there ends with a plain fault; or its sheet is read, and then its layout
decides whether it is refused. -/
theorem convert_cases (p : Intake) (short : d.isTooLong input = false)
    (there : d.hasPath input = true) (parsed : Path) (timestamp : Text) :
    (∃ f : Fault, readSheet d input = .error f ∧ f.IsPlain ∧
      (p.convert d input parsed timestamp).outcome = .error f) ∨
    ∃ s, readSheet d input = .ok s ∧
      ((p.layoutFor? s = none ∧
          (p.convert d input parsed timestamp).outcome = .error (.unsupported ⟨headerRow s⟩)) ∨
        ∃ layout, p.layoutFor? s = some layout ∧
          Finishes layout (p.convert d input parsed timestamp).outcome) := by
  rw [convert_eq, outcome_bind]
  cases read : readSheet d input with
  | error f =>
    rw [outcome_read_of_error short there read]
    exact .inl ⟨f, rfl, readSheet_isPlain short there read, rfl⟩
  | ok s =>
    rw [p.outcome_read ⟨short, read⟩, parse_eq]
    refine .inr ⟨s, rfl, ?_⟩
    cases known : p.layoutFor? s with
    | none => exact .inl ⟨rfl, rfl⟩
    | some layout => exact .inr ⟨layout, rfl, finish_finishes p parsed timestamp _⟩

/-! ## What is written about it -/

/-- The work on a sheet. -/
def tell (p : Intake) (input : Path) (s : Sheet) : Journal Fault (Layout × List ShipmentRow) := do
  Journal.write debug p.logger
    ("Opened upload: ".toList ++ input.name ++ " (rows=".toList ++ ofNat s.length
      ++ ", cols=".toList ++ ofNat (columnCount s) ++ [')'])
  let layout ← p.layoutOf s
  let rows := shipmentRows s layout p.today ((headerIndex s).getD 0)
  Journal.write info p.logger
    ("parse_by_layout(".toList ++ layout.tag ++ "): ".toList ++ ofNat s.length
      ++ " -> ".toList ++ ofNat rows.length ++ " rows".toList)
  return (layout, rows)

theorem read_of_sheet {s : Sheet} (holds : HoldsSheet d input s) :
    p.read d input = p.tell input s := by
  unfold Intake.read
  simp only [holds.short, holds.hasPath, holds.sheet, Bool.not_true, Bool.false_eq_true, if_false]
  rfl

/-- The entry that tells the layout of an upload. -/
def detectionEntry (p : Intake) (l : Layout) : Entry :=
  ⟨info, p.logger, "Detected layout: ".toList ++ l.tag⟩

theorem entries_layoutOf {s : Sheet} {l : Layout} (free : p.layout = none)
    (known : Layout.ofHeader? (headerRow s) = some l) :
    (p.layoutOf s).entries = [p.detectionEntry l] := by
  unfold layoutOf Layout.ofHeader
  simp only [free, known]
  rfl

theorem detectionEntry_mem {s : Sheet} {l : Layout} (holds : HoldsSheet d input s)
    (free : p.layout = none) (known : Layout.ofHeader? (headerRow s) = some l) (parsed : Path)
    (timestamp : Text) : p.detectionEntry l ∈ (p.convert d input parsed timestamp).entries := by
  rw [convert_eq, read_of_sheet holds]
  refine mem_entries_bind ?_ _
  refine List.mem_append_right _ (mem_entries_bind ?_ _)
  rw [entries_layoutOf free known]
  exact List.mem_singleton_self _

/-- All entries are given to the logger of the intake. -/
def Owns {α : Type} (p : Intake) (work : Journal Fault α) : Prop :=
  ∀ e ∈ work.entries, e.logger = p.logger

theorem Owns.write (p : Intake) (level : Int) (message : Text) :
    p.Owns (Journal.write level p.logger message) := by
  intro e inside
  rw [List.mem_singleton.1 inside]

theorem Owns.bind {α β : Type} {p : Intake} {work : Journal Fault α} {f : α → Journal Fault β}
    (first : p.Owns work) (behind : ∀ a, p.Owns (f a)) : p.Owns (work >>= f) :=
  forall_entries_bind first behind

theorem Owns.silent {α : Type} {p : Intake} {work : Journal Fault α} (none_ : work.entries = []) :
    p.Owns work := by
  intro e inside
  rw [none_] at inside
  cases inside

theorem Owns.unlessBarred {α : Type} {p : Intake} {work : Journal Fault α} (own : p.Owns work)
    (barred : Bool) (f : Fault) : p.Owns (unlessBarred barred f work) := by
  unfold Upload.unlessBarred
  cases barred with
  | true => exact .silent rfl
  | false => exact own

theorem owns_layoutOf (p : Intake) (s : Sheet) : p.Owns (p.layoutOf s) := by
  unfold layoutOf
  split
  · exact .bind (.write p _ _) fun _ => .silent rfl
  · dsimp only
    split
    · exact .bind (.write p _ _) fun _ => .silent rfl
    · exact .bind (.write p _ _) fun _ => .silent rfl

theorem owns_tell (p : Intake) (input : Path) (s : Sheet) : p.Owns (p.tell input s) := by
  refine .bind (.write p _ _) fun _ => .bind (owns_layoutOf p s) fun layout => ?_
  exact .bind (.write p _ _) fun _ => .silent rfl

theorem owns_finish (p : Intake) (parsed : Path) (timestamp : Text) (layout : Layout)
    (rows : List ShipmentRow) : p.Owns (p.finish d input parsed timestamp layout rows) := by
  refine .unlessBarred (.bind (.silent rfl) fun d => ?_) _ _
  refine .unlessBarred (.unlessBarred (.unlessBarred ?_ _ _) _ _) _ _
  refine .bind (.silent rfl) fun book => .unlessBarred ?_ _ _
  exact .bind (.write p _ _) fun _ => .silent rfl

theorem owns_convert {s : Sheet} (holds : HoldsSheet d input s) (parsed : Path) (timestamp : Text) :
    p.Owns (p.convert d input parsed timestamp) := by
  rw [convert_eq, read_of_sheet holds]
  exact .bind (owns_tell p input s) fun (layout, rows) =>
    owns_finish p parsed timestamp layout rows

end Intake

end ParcelStatus.Upload
