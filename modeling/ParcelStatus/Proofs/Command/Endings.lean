import ParcelStatus.Command.Run
import ParcelStatus.Proofs.Disk.Lookup
import ParcelStatus.Proofs.Upload.Conversion

/-!
# How commands end

The two commands on uploads look at the same sheet, so they end alike: the upload is missing or
cannot be read, its header is unknown, or it has a layout. The two commands on texts look for their
file and read it. A command exits with code 2 exactly when it refuses what it is asked, and prints
exactly when it exits with code 0.

* `Detects`, `Converts` — the endings of the commands on uploads;
* `readText_cases` — the look for a text;
* `Refuses`, `exit_perform_iff` — who exits with code 2;
* `endsLine_perform`, `output_iff_exit` — who prints.
-/

namespace ParcelStatus.Command

open Text Log Journal ParcelStatus.Outcome

/-! ## The exit code of a command -/

def Failure.code : Failure → Nat
  | .missing _ _ => 2
  | .refused => 2
  | _ => 1

/-- The exit code that the outcome of a command stands for. -/
def exitOf {α : Type} : Except Failure α → Nat
  | .ok _ => 0
  | .error f => f.code

theorem exit_outcomeOf (s : Situation) (r : Registry) (command : CommandName)
    (work : Journal Failure Product) :
    (outcomeOf s r command work).exit = exitOf work.outcome := by
  unfold outcomeOf
  cases work.outcome with
  | ok product => rfl
  | error f => cases f <;> rfl

theorem output_outcomeOf (s : Situation) (r : Registry) (command : CommandName)
    (work : Journal Failure Product) :
    (outcomeOf s r command work).output =
      match work.outcome with
      | .ok product => product.output
      | .error _ => [] := by
  unfold outcomeOf
  cases work.outcome <;> rfl

variable (s : Situation) (settings : Settings.ProgramSettings) (a : Arguments)

/-! ## Uploads -/

/-- How the detection of a layout ends. -/
inductive Detects : Except Failure Product → Prop where
  | tooLong (long : s.disk.isTooLong a.operand = true) :
      Detects (.error (.upload (.tooLong a.operand)))
  | missing (short : s.disk.isTooLong a.operand = false)
      (nothing : s.disk.find a.operand = .nothing) :
      Detects (.error (.missing "input".toList a.operand))
  | unreadable {f : Upload.Fault} (there : s.disk.find a.operand ≠ .nothing)
      (fails : Upload.readSheet s.disk a.operand = .error f) : Detects (.error (.upload f))
  | unknown {sheet : Upload.Sheet} (there : s.disk.find a.operand ≠ .nothing)
      (read : Upload.readSheet s.disk a.operand = .ok sheet)
      (unknown : Upload.Layout.ofHeader? (Upload.headerRow sheet) = none) :
      Detects (.error .refused)
  | known {sheet : Upload.Sheet} {l : Upload.Layout} (there : s.disk.find a.operand ≠ .nothing)
      (read : Upload.readSheet s.disk a.operand = .ok sheet)
      (known : Upload.Layout.ofHeader? (Upload.headerRow sheet) = some l) :
      Detects (.ok { output := l.tag ++ ['\n'] })

theorem printLayout_detects : Detects s a (printLayout s a).outcome := by
  unfold printLayout
  cases long : s.disk.isTooLong a.operand with
  | true =>
    rw [Upload.readSheet_of_tooLong long]
    exact .tooLong long
  | false =>
    cases there : s.disk.hasPath a.operand with
    | false =>
      have nothing := Disk.hasPath_eq_false_iff.1 there
      rw [Upload.readSheet_of_nothing long nothing]
      exact .missing long nothing
    | true =>
      have found := Disk.hasPath_iff.1 there
      cases read : Upload.readSheet s.disk a.operand with
      | error f =>
        have plain := Upload.readSheet_isPlain long there read
        cases f with
        | missing path => exact plain.elim
        | _ => exact .unreadable found read
      | ok sheet =>
        cases layout : Upload.Layout.ofHeader? (Upload.headerRow sheet) with
        | none =>
          simp only [layout]
          exact .unknown found read layout
        | some l =>
          simp only [layout]
          exact .known found read layout

/-- How the conversion of an upload ends, if its path can be looked up. -/
inductive Converts : Except Failure Product → Prop where
  | missing (nothing : s.disk.find a.operand = .nothing) :
      Converts (.error (.missing "input".toList a.operand))
  | unreadable {f : Upload.Fault} (there : s.disk.find a.operand ≠ .nothing)
      (fails : Upload.readSheet s.disk a.operand = .error f) : Converts (.error (.upload f))
  | unknown {sheet : Upload.Sheet} (there : s.disk.find a.operand ≠ .nothing)
      (read : Upload.readSheet s.disk a.operand = .ok sheet)
      (unknown : a.layout.or (Upload.Layout.ofHeader? (Upload.headerRow sheet)) = none) :
      Converts (.error .refused)
  | unwritten {sheet : Upload.Sheet} {l : Upload.Layout} {f : Upload.Fault}
      (there : s.disk.find a.operand ≠ .nothing)
      (read : Upload.readSheet s.disk a.operand = .ok sheet)
      (known : a.layout.or (Upload.Layout.ofHeader? (Upload.headerRow sheet)) = some l) :
      Converts (.error (.upload f))
  | written {sheet : Upload.Sheet} {l : Upload.Layout} {summary : Upload.Summary}
      {book : Upload.Book} {marker : Upload.Marker} {rows : List Upload.ShipmentRow}
      (there : s.disk.find a.operand ≠ .nothing)
      (read : Upload.readSheet s.disk a.operand = .ok sheet)
      (known : a.layout.or (Upload.Layout.ofHeader? (Upload.headerRow sheet)) = some l)
      (summarized : summary.layout = l) (marked : marker.layout = l)
      (bound : Upload.bookOf rows marker = .ok book) :
      Converts (.ok {
        output := (Json.obj summary.toMembers).write true ++ ['\n']
        book := some (a.operand.parent.child (a.operand.stem ++ Upload.bookSuffix), book) })

/-- What a command tells of the work on an upload. -/
def reportOf (parsed : Path) (work : Journal Upload.Fault (Upload.Summary × Upload.Book)) :
    Journal Failure Product :=
  match work.outcome with
  | .error (.unsupported f) => do
    let _ ← (⟨work.entries, .ok ()⟩ : Journal Failure Unit)
    refuse ("Rejected upload: ".toList ++ f.message)
  | .error f => ⟨work.entries, .error (.upload f)⟩
  | .ok (summary, book) =>
    ⟨work.entries, .ok {
      output := (Json.obj summary.toMembers).write true ++ ['\n']
      book := some (parsed, book) }⟩

theorem outcome_reportOf_of_plain {parsed : Path}
    {work : Journal Upload.Fault (Upload.Summary × Upload.Book)} {f : Upload.Fault}
    (plain : f.IsPlain) (fails : work.outcome = .error f) :
    (reportOf parsed work).outcome = .error (.upload f) := by
  unfold reportOf
  rw [fails]
  cases f with
  | unsupported u => exact plain.elim
  | _ => rfl

theorem outcome_reportOf_of_unsupported {parsed : Path}
    {work : Journal Upload.Fault (Upload.Summary × Upload.Book)} {u : Upload.UnsupportedHeader}
    (fails : work.outcome = .error (.unsupported u)) :
    (reportOf parsed work).outcome = .error .refused := by
  unfold reportOf
  rw [fails]
  rfl

theorem outcome_reportOf_of_ok {parsed : Path}
    {work : Journal Upload.Fault (Upload.Summary × Upload.Book)} {summary : Upload.Summary}
    {book : Upload.Book} (done : work.outcome = .ok (summary, book)) :
    (reportOf parsed work).outcome = .ok {
      output := (Json.obj summary.toMembers).write true ++ ['\n']
      book := some (parsed, book) } := by
  unfold reportOf
  rw [done]

/-- The path of an upload with which no command can begin: the program looks for the upload, or for
the places beside it, before it is ready to tell what fails. -/
def HasBadPath : Prop :=
  s.disk.isTooLong a.operand = true ∨ s.disk.hasPath a.operand = true ∧ a.operand.name = []

/-- The path of the workbook of an upload. -/
def bookPath : Path := a.operand.parent.child (a.operand.stem ++ Upload.bookSuffix)

/-- How an upload is taken in. -/
def intakeOf : Upload.Intake := { logger := programLogger, layout := a.layout, today := s.today }

variable {s settings a}

theorem convertUpload_of_sound (sound : ¬HasBadPath s a) :
    convertUpload s a =
      if s.disk.hasPath a.operand then
        reportOf (bookPath a) ((intakeOf s a).convert s.disk a.operand (bookPath a) s.now)
      else Journal.fail (.missing "input".toList a.operand) := by
  rw [HasBadPath, not_or, not_and, Bool.not_eq_true] at sound
  obtain ⟨short, named⟩ := sound
  unfold convertUpload
  rw [Upload.outputPaths_of_short short]
  cases there : s.disk.hasPath a.operand with
  | false => rfl
  | true =>
    simp only [Bool.not_true, Bool.false_eq_true, if_false, if_neg (named there), if_true]
    rfl

theorem convertUpload_converts (sound : ¬HasBadPath s a) :
    Converts s a (convertUpload s a).outcome := by
  rw [convertUpload_of_sound sound]
  rw [HasBadPath, not_or, not_and, Bool.not_eq_true] at sound
  cases there : s.disk.hasPath a.operand with
  | false => exact .missing (Disk.hasPath_eq_false_iff.1 there)
  | true =>
    rw [if_pos rfl]
    have found := Disk.hasPath_iff.1 there
    rcases (intakeOf s a).convert_cases sound.1 there (bookPath a) s.now with
      ⟨f, fails, plain, ends⟩ | ⟨sheet, read, ⟨unknown, ends⟩ | ⟨l, known, finishes⟩⟩
    · rw [outcome_reportOf_of_plain plain ends]
      exact .unreadable found fails
    · rw [outcome_reportOf_of_unsupported ends]
      exact .unknown found read unknown
    · generalize ends : ((intakeOf s a).convert _ _ _ _).outcome = x at finishes
      cases finishes with
      | fails plain =>
        rw [outcome_reportOf_of_plain plain ends]
        exact .unwritten found read known
      | writes summarized marked written =>
        rw [outcome_reportOf_of_ok ends]
        exact .written found read known summarized marked written

/-! ## Payloads and reports -/

/-- A file that is missing, and the look for it tells that. -/
def IsPlainlyMissing (d : Disk) (p : Path) : Prop :=
  d.find p = .nothing ∧ '\x00' ∉ p.text ∧ d.isTooLong p = false ∧ d.passesFile p = false

theorem readText_cases (d : Disk) (what : Text) (p : Path) :
    (IsPlainlyMissing d p ∧ readText d what p = .error (.missing what p)) ∨
      ¬IsPlainlyMissing d p ∧
        ((∃ t, readText d what p = .ok t) ∨ ∃ f, readText d what p = .error f ∧ f.code = 1) := by
  have decoded : ∀ os, (∃ t, ((decode os).map universalNewlines).mapError Failure.octets = .ok t) ∨
      ∃ f, ((decode os).map universalNewlines).mapError Failure.octets = .error f ∧ f.code = 1 := by
    intro os
    cases decode os with
    | ok t => exact .inl ⟨_, rfl⟩
    | error f => exact .inr ⟨_, rfl, rfl⟩
  unfold readText IsPlainlyMissing
  cases d.isTooLong p with
  | true =>
    refine .inr ⟨fun missing => absurd missing.2.2.1 nofun, .inr ⟨.tooLong p, ?_, rfl⟩⟩
    rw [if_pos rfl]
  | false =>
    simp only [Bool.false_eq_true, if_false]
    cases d.find p with
    | directory => exact .inr ⟨nofun, .inr ⟨_, rfl, rfl⟩⟩
    | file contents =>
      cases contents with
      | octets os => exact .inr ⟨nofun, decoded os⟩
      | workbook cells => exact .inr ⟨nofun, decoded Upload.archiveOctets⟩
    | nothing =>
      by_cases null : '\x00' ∈ p.text
      · simp [null, Failure.code]
      · cases passes : d.passesFile p <;> simp [null, Failure.code]

/-- The exit code of work on the text of a file. -/
theorem exit_of_readText {d : Disk} {what : Text} {p : Path}
    {work : Text → Journal Failure Product} :
    exitOf (Journal.ofExcept (readText d what p) >>= work).outcome = 2 ↔
      IsPlainlyMissing d p ∨ ∃ t, readText d what p = .ok t ∧ exitOf (work t).outcome = 2 := by
  rw [outcome_bind, outcome_ofExcept]
  rcases readText_cases d what p with ⟨missing, fails⟩ | ⟨there, ⟨t, read⟩ | ⟨f, fails, code⟩⟩
  · rw [fails, error_bind]
    simp [missing, exitOf, Failure.code]
  · rw [read, ok_bind]
    simp [there]
  · rw [fails, error_bind]
    simp [there, exitOf, code]

/-- Reconciliation refuses nothing. -/
theorem exit_of_reconciled {α β : Type} (x : Journal ReconcileFault α) (product : α → β) :
    exitOf (x.mapError Failure.reconcile >>= fun r => pure (product r)).outcome ≠ 2 := by
  rw [outcome_bind, outcome_mapError]
  cases x.outcome with
  | ok r => exact Nat.zero_ne_add_one 1
  | error f => exact (Nat.succ_ne_self 1).symm

/-- The reader of payloads finds something else than the grammar demands. -/
def StopsReader (t : Text) : Prop :=
  ∃ what source place, Json.readNested (standIn privatePlane) payloadDepth t =
    .error (.unexpected what source place)

theorem exit_reconcileText_iff [Present] {t : Text} :
    exitOf (reconcileText settings a (standIn privatePlane) t).outcome = 2 ↔ StopsReader t := by
  unfold reconcileText StopsReader
  cases Json.readNested (standIn privatePlane) payloadDepth t with
  | error f =>
    cases f with
    | unexpected what source place => exact iff_of_true rfl ⟨what, source, place, rfl⟩
    | number f => exact iff_of_false (Nat.succ_ne_self 1).symm nofun
    | tooDeep isObject => exact iff_of_false (Nat.succ_ne_self 1).symm nofun
  | ok payload => exact iff_of_false (exit_of_reconciled _ _) nofun

theorem exit_reconcilePayload_iff : exitOf (reconcilePayload s settings a).outcome = 2 ↔
    IsPlainlyMissing s.disk a.operand ∨
      ∃ t, readText s.disk "payload".toList a.operand = .ok t ∧ StopsReader t := by
  let _ := s.present
  unfold reconcilePayload
  rw [exit_of_readText]
  refine or_congr_right (exists_congr fun t => and_congr_right fun _ => ?_)
  rw [← @exit_reconcileText_iff settings a, outcome_bind]
  cases (reconcileText settings a (standIn privatePlane) t).outcome with
  | error f => exact Iff.rfl
  | ok output =>
    -- To print is to succeed or to fail, and not to refuse.
    refine iff_of_false ?_ (Nat.zero_ne_add_one 1)
    rw [ok_bind]
    dsimp only
    split
    · exact (Nat.succ_ne_self 1).symm
    · exact Nat.zero_ne_add_one 1

theorem exit_reconcileReport_iff :
    exitOf (reconcileReport s settings a).outcome = 2 ↔ IsPlainlyMissing s.disk a.operand := by
  unfold reconcileReport
  rw [exit_of_readText]
  refine ⟨fun ends => ends.resolve_right ?_, .inl⟩
  rintro ⟨t, -, refused⟩
  exact exit_of_reconciled _ _ refused

/-! ## Exit code 2 -/

/-- No rule knows the header of the upload. -/
def HasUnknownHeader (d : Disk) (input : Path) : Prop :=
  ∃ sheet, Upload.readSheet d input = .ok sheet ∧
    Upload.Layout.ofHeader? (Upload.headerRow sheet) = none

theorem exit_printLayout_iff : exitOf (printLayout s a).outcome = 2 ↔
    s.disk.find a.operand = .nothing ∧ s.disk.isTooLong a.operand = false ∨
      HasUnknownHeader s.disk a.operand := by
  unfold HasUnknownHeader
  have detects := printLayout_detects s a
  generalize (printLayout s a).outcome = x at detects
  cases detects with
  | tooLong long => simp [exitOf, Failure.code, long, Upload.readSheet_of_tooLong]
  | missing short nothing => simp [exitOf, Failure.code, nothing, short]
  | unreadable there fails => simp [exitOf, Failure.code, there, fails]
  | unknown there read unknown => simp [exitOf, Failure.code, read, unknown]
  | known there read known => simp [exitOf, there, read, known]

theorem exit_convertUpload_iff (sound : ¬HasBadPath s a) :
    exitOf (convertUpload s a).outcome = 2 ↔
      s.disk.find a.operand = .nothing ∨ a.layout = none ∧ HasUnknownHeader s.disk a.operand := by
  unfold HasUnknownHeader
  have converts := convertUpload_converts sound
  generalize (convertUpload s a).outcome = x at converts
  cases converts with
  | missing nothing => simp [exitOf, Failure.code, nothing]
  | unreadable there fails => simp [exitOf, Failure.code, there, fails]
  | unknown there read unknown =>
    rw [Option.or_eq_none_iff] at unknown
    simp [exitOf, Failure.code, read, unknown]
  | unwritten there read known =>
    have isKnown := mt Option.or_eq_none_iff.2 (ne_of_eq_of_ne known (Option.some_ne_none _))
    simpa [exitOf, Failure.code, there, read] using isKnown
  | written there read known =>
    have isKnown := mt Option.or_eq_none_iff.2 (ne_of_eq_of_ne known (Option.some_ne_none _))
    simpa [exitOf, there, read] using isKnown

/-- The command refuses what it is asked. -/
def Refuses (s : Situation) (a : Arguments) : Prop :=
  match a.command with
  | .detectLayout =>
    s.disk.find a.operand = .nothing ∧ s.disk.isTooLong a.operand = false ∨
      HasUnknownHeader s.disk a.operand
  | .parseUpload =>
    s.disk.find a.operand = .nothing ∨ a.layout = none ∧ HasUnknownHeader s.disk a.operand
  | .reconcile =>
    IsPlainlyMissing s.disk a.operand ∨
      ∃ t, readText s.disk "payload".toList a.operand = .ok t ∧ StopsReader t
  | .dhlReport => IsPlainlyMissing s.disk a.operand

theorem exit_perform_iff (sound : a.command = .parseUpload → ¬HasBadPath s a) :
    exitOf (perform s settings a).outcome = 2 ↔ Refuses s a := by
  unfold perform Refuses
  cases command : a.command with
  | detectLayout => exact exit_printLayout_iff
  | parseUpload => exact exit_convertUpload_iff (sound command)
  | reconcile => exact exit_reconcilePayload_iff
  | dhlReport => exact exit_reconcileReport_iff

/-- What a command prints ends with a line end. -/
def EndsLine (t : Text) : Prop := ∃ line, t = line ++ ['\n']

theorem EndsLine.ne_nil {t : Text} (ends : EndsLine t) : t ≠ [] := by
  obtain ⟨line, rfl⟩ := ends
  exact List.append_ne_nil_of_right_ne_nil line (List.cons_ne_nil _ _)

/-- What is made of results is made of some. -/
theorem exists_of_reconciled {α β : Type} {x : Journal ReconcileFault α} {print : α → β} {b : β}
    (done : (x.mapError Failure.reconcile >>= fun r => pure (print r)).outcome = .ok b) :
    ∃ r, b = print r := by
  rw [outcome_bind, bind_eq_ok_iff] at done
  obtain ⟨r, -, rest⟩ := done
  cases rest
  exact ⟨r, rfl⟩

theorem endsLine_reconcileText [Present] {stand : Nat → Char} {t output : Text}
    (done : (reconcileText settings a stand t).outcome = .ok output) : EndsLine output := by
  unfold reconcileText at done
  split at done
  case h_4 =>
    obtain ⟨r, rfl⟩ := exists_of_reconciled done
    exact ⟨_, rfl⟩
  all_goals cases done

theorem endsLine_perform {product : Product} (sound : a.command = .parseUpload → ¬HasBadPath s a)
    (done : (perform s settings a).outcome = .ok product) : EndsLine product.output := by
  unfold perform at done
  cases command : a.command with
  | detectLayout =>
    simp only [command] at done
    have detects := printLayout_detects s a
    rw [done] at detects
    cases detects with
    | known => exact ⟨_, rfl⟩
  | parseUpload =>
    simp only [command] at done
    have converts := convertUpload_converts (sound command)
    rw [done] at converts
    cases converts with
    | written => exact ⟨_, rfl⟩
  | reconcile =>
    let _ := s.present
    simp only [command, reconcilePayload, outcome_bind, bind_eq_ok_iff] at done
    obtain ⟨t, -, output, printed, rest⟩ := done
    split at rest
    · cases rest
    · cases rest
      exact endsLine_reconcileText printed
  | dhlReport =>
    simp only [command, reconcileReport] at done
    rw [outcome_bind, bind_eq_ok_iff] at done
    obtain ⟨t, -, rest⟩ := done
    obtain ⟨r, rfl⟩ := exists_of_reconciled rest
    exact ⟨_, rfl⟩

theorem exitOf_le (x : Except Failure Product) : exitOf x ≤ 2 := by
  unfold exitOf
  split
  · decide
  · unfold Failure.code
    split <;> decide

theorem output_iff_exit (r : Registry) (sound : a.command = .parseUpload → ¬HasBadPath s a) :
    (outcomeOf s r a.command (perform s settings a)).output ≠ [] ↔
      (outcomeOf s r a.command (perform s settings a)).exit = 0 := by
  rw [output_outcomeOf, exit_outcomeOf]
  cases done : (perform s settings a).outcome with
  | ok product => exact iff_of_true (endsLine_perform sound done).ne_nil rfl
  | error f =>
    refine iff_of_false (fun some_ => some_ rfl) ?_
    cases f <;> exact Nat.succ_ne_zero _

end ParcelStatus.Command
