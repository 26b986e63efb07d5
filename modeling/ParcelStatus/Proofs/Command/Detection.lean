import ParcelStatus.Proofs.Command.Naming

/-!
# Detection and conversion

The two commands on uploads classify every upload alike. They refuse the same headers and miss the
same files, and what a conversion leaves names the layout that detection prints.

* `IsUpload` — the paths that this is about;
* `EndsAlike`, `runs_endAlike` — how both commands end on one upload;
* `detection_agrees` — what each of them tells about the other.
-/

namespace ParcelStatus.Command

open Text Log Journal ParcelStatus.Outcome

/-! ## Paths of uploads -/

theorem operand_of_readCommand {extra rest : List Text} {command : CommandName} {a : Arguments}
    (accepted : readCommand extra command rest = .run a) : ∃ t, a.operand = .ofText t := by
  simp only [readCommand] at accepted
  split at accepted
  · cases accepted
  · split at accepted
    · cases accepted
    · split at accepted
      · cases accepted
      · split at accepted
        · cases accepted
        · cases accepted
          exact ⟨_, rfl⟩
        · cases accepted

theorem operand_of_readFrom {arguments extra : List Text} {a : Arguments}
    (accepted : readFrom extra arguments = .run a) : ∃ t, a.operand = .ofText t := by
  induction arguments generalizing extra with
  | nil => cases accepted
  | cons t ts ih =>
    rw [readFrom] at accepted
    split at accepted
    · split at accepted <;> cases accepted
    · split at accepted
      · cases accepted
      · cases accepted
      · cases accepted
      · exact ih accepted
      · split at accepted
        · exact operand_of_readCommand accepted
        · cases accepted

theorem Path.name_ofText_ne_nil {t : Text} (some_ : (Path.ofText t).parts ≠ []) :
    (Path.ofText t).name ≠ [] := by
  have last := List.getLast_mem some_
  have filled : (Path.ofText t).parts.getLast some_ ≠ [] := by
    have kept := (List.mem_filter.1 last).2
    simp only [Bool.and_eq_true, decide_eq_true_eq] at kept
    exact kept.1
  rw [Path.name, List.getLast?_eq_some_getLast some_]
  exact filled

/-- A path to nothing, or to a file that is not a log: the log of an upload with that suffix would
be written into the upload. No path with a null character leads to a file. -/
def IsUpload (d : Disk) (p : Path) : Prop :=
  d.hasFile p = true ∧ '\x00' ∉ p.text ∧ p.suffix ≠ ".log".toList ∨ d.find p = .nothing

/-! ## Both commands -/

section Both

variable {s : Situation} {settings : Settings.ProgramSettings} {a b : Arguments}

theorem detection_of_settings (detects : a.command = .detectLayout)
    (read : settingsOf s = .ok settings) :
    ∃ o, runCommand s a = .ok o ∧ o.exit = exitOf (printLayout s a).outcome ∧
      ∀ product, (printLayout s a).outcome = .ok product → o.output = product.output := by
  have found : logPathOf s a = .ok none := by
    simp only [logPathOf, detects]
  have work : perform s settings a = printLayout s a := by
    simp only [perform, detects]
  refine ⟨_, runCommand_of_settings read found, ?_, fun product done => ?_⟩
  · rw [exit_outcomeOf, work]
  · rw [output_outcomeOf, work, done]

theorem conversion_of_settings (uploads : b.command = .parseUpload) (sound : ¬HasBadPath s b)
    (read : settingsOf s = .ok settings) :
    ∃ o, runCommand s b = .ok o ∧ o.exit = exitOf (convertUpload s b).outcome ∧
      (o.exit ≠ 0 → o.book = none) := by
  obtain ⟨log, found⟩ := logPathOf_of_sound fun _ => sound
  have work : perform s settings b = convertUpload s b := by
    simp only [perform, uploads]
  refine ⟨_, runCommand_of_settings read found, ?_, fun failed => ?_⟩
  · rw [exit_outcomeOf, work]
  · rw [exit_outcomeOf] at failed
    rw [book_outcomeOf]
    cases ends : (perform s settings b).outcome with
    | ok product =>
      rw [ends] at failed
      exact absurd rfl failed
    | error f => rfl

theorem outcome_printLayout_of_error {f : Upload.Fault} (plain : f.IsPlain)
    (fails : Upload.readSheet s.disk a.operand = .error f) :
    (printLayout s a).outcome = .error (.upload f) := by
  unfold printLayout
  rw [fails]
  cases f with
  | missing p => exact plain.elim
  | _ => rfl

theorem outcome_printLayout_of_known {sheet : Upload.Sheet} {l : Upload.Layout}
    (read : Upload.readSheet s.disk a.operand = .ok sheet)
    (known : Upload.Layout.ofHeader? (Upload.headerRow sheet) = some l) :
    (printLayout s a).outcome = .ok { output := l.tag ++ ['\n'] } := by
  simp only [printLayout, read, known]
  rfl

theorem exit_convertUpload_of_error (sound : ¬HasBadPath s b) {f : Upload.Fault}
    (there : s.disk.find b.operand ≠ .nothing)
    (fails : Upload.readSheet s.disk b.operand = .error f) :
    exitOf (convertUpload s b).outcome = 1 := by
  have converts := convertUpload_converts sound
  generalize (convertUpload s b).outcome = x at converts
  cases converts with
  | missing nothing => exact absurd nothing there
  | unreadable => rfl
  | unknown _ read => exact absurd (fails.symm.trans read) nofun
  | unwritten => rfl
  | written _ read => exact absurd (fails.symm.trans read) nofun

/-- How the detection and the conversion of one upload end. -/
inductive EndsAlike (s : Situation) (b : Arguments) :
    Except Crash Outcome → Except Crash Outcome → Prop where
  | stopped {c c' : Crash} (none_ : ∀ settings, settingsOf s ≠ .ok settings) :
      EndsAlike s b (.error c) (.error c')
  | malformed {o o' : Outcome} (none_ : ∀ settings, settingsOf s ≠ .ok settings)
      (code : o.exit = 2) (code' : o'.exit = 2) (book : o'.book = none) :
      EndsAlike s b (.ok o) (.ok o')
  | tooLong {o : Outcome} {c : Crash} (long : s.disk.isTooLong b.operand = true)
      (code : o.exit = 1) : EndsAlike s b (.ok o) (.error c)
  | missing {o o' : Outcome} (short : s.disk.isTooLong b.operand = false)
      (nothing : s.disk.find b.operand = .nothing)
      (code : o.exit = 2) (code' : o'.exit = 2) (book : o'.book = none) :
      EndsAlike s b (.ok o) (.ok o')
  | unreadable {o o' : Outcome} {f : Upload.Fault}
      (fails : Upload.readSheet s.disk b.operand = .error f)
      (code : o.exit = 1) (code' : o'.exit = 1) : EndsAlike s b (.ok o) (.ok o')
  | unknown {o o' : Outcome} {sheet : Upload.Sheet}
      (read : Upload.readSheet s.disk b.operand = .ok sheet)
      (unknown : Upload.Layout.ofHeader? (Upload.headerRow sheet) = none)
      (code : o.exit = 2) (code' : o'.exit = 2) (book : o'.book = none) :
      EndsAlike s b (.ok o) (.ok o')
  | known {o o' : Outcome} {sheet : Upload.Sheet} {l : Upload.Layout}
      (read : Upload.readSheet s.disk b.operand = .ok sheet)
      (known : Upload.Layout.ofHeader? (Upload.headerRow sheet) = some l)
      (code : o.exit = 0) (printed : o.output = l.tag ++ ['\n'])
      (ends : o'.exit = 1 ∨ o'.exit = 0 ∧ AllName s b l o') : EndsAlike s b (.ok o) (.ok o')

theorem endsAlike_of_nothing (detects : a.command = .detectLayout)
    (uploads : b.command = .parseUpload) (same : b.operand = a.operand)
    (read : settingsOf s = .ok settings) (short : s.disk.isTooLong b.operand = false)
    (nothing : s.disk.find b.operand = .nothing) :
    EndsAlike s b (runCommand s a) (runCommand s b) := by
  have sound : ¬HasBadPath s b := by
    rintro (long | ⟨there, -⟩)
    · exact absurd (short.symm.trans long) nofun
    · exact absurd nothing (Disk.hasPath_iff.1 there)
  obtain ⟨o, done, code, -⟩ := detection_of_settings detects read
  obtain ⟨o', done', code', book⟩ := conversion_of_settings uploads sound read
  have two : o.exit = 2 := by
    rw [code, exit_printLayout_iff, ← same]
    exact .inl ⟨nothing, short⟩
  have two' : o'.exit = 2 := by
    rw [code', exit_convertUpload_iff sound]
    exact .inl nothing
  rw [done, done']
  exact .missing short nothing two two' (book (by rw [two']; decide))

theorem endsAlike_of_file (ground : s.disk.WellFormed) (detects : a.command = .detectLayout)
    (uploads : b.command = .parseUpload) (free : b.layout = none) (same : b.operand = a.operand)
    (read : settingsOf s = .ok settings) (short : s.disk.isTooLong b.operand = false)
    (named : b.operand.name ≠ []) (file : s.disk.hasFile b.operand = true)
    (clean : '\x00' ∉ b.operand.text) :
    EndsAlike s b (runCommand s a) (runCommand s b) := by
  have sound : ¬HasBadPath s b := by
    rintro (long | ⟨-, nameless⟩)
    · exact absurd (short.symm.trans long) nofun
    · exact named nameless
  obtain ⟨contents, found⟩ := Disk.hasFile_iff.1 file
  have there : s.disk.find b.operand ≠ .nothing := by
    rw [found]
    nofun
  obtain ⟨o, done, code, printed⟩ := detection_of_settings detects read
  obtain ⟨o', done', code', book⟩ := conversion_of_settings uploads sound read
  -- Both read the same sheet and ask the same rules, so the cases are those of the sheet.
  cases sheets : Upload.readSheet s.disk b.operand with
  | error f =>
    have plain := Upload.readSheet_isPlain short (Disk.hasPath_iff.2 there) sheets
    rw [done, done']
    refine .unreadable sheets ?_ ?_
    · rw [code, outcome_printLayout_of_error plain (same ▸ sheets)]
      rfl
    · rw [code', exit_convertUpload_of_error sound there sheets]
  | ok sheet =>
    cases layout : Upload.Layout.ofHeader? (Upload.headerRow sheet) with
    | none =>
      have two : o.exit = 2 := by
        rw [code, exit_printLayout_iff, ← same]
        exact .inr ⟨sheet, sheets, layout⟩
      have two' : o'.exit = 2 := by
        rw [code', exit_convertUpload_iff sound]
        exact .inr ⟨free, sheet, sheets, layout⟩
      rw [done, done']
      exact .unknown sheets layout two two' (book (by rw [two']; decide))
    | some l =>
      have detected := outcome_printLayout_of_known (same ▸ sheets) layout
      obtain ⟨o'', done'', ends⟩ :=
        conversion_cases ground uploads sound file clean ⟨short, sheets⟩ free layout read
      rw [done, done'']
      exact .known sheets layout (by rw [code, detected]; rfl) (printed _ detected) ends

theorem runs_endAlike (ground : s.disk.WellFormed) (detects : a.command = .detectLayout)
    (uploads : b.command = .parseUpload) (free : b.layout = none) (same : b.operand = a.operand)
    (named : s.disk.hasFile b.operand = true → b.operand.name ≠ [])
    (upload : IsUpload s.disk b.operand) :
    EndsAlike s b (runCommand s a) (runCommand s b) := by
  -- The settings are loaded before the command is looked at, so they stop both commands or neither.
  rcases Settings.readSettings_cases s.disk s.env with
    ⟨-, f, fails, stop⟩ | ⟨-, -, t, fails⟩ | ⟨-, -, settings, read⟩
  · rw [runCommand_of_stops fails stop, runCommand_of_stops fails stop]
    exact .stopped fun settings read => absurd (fails.symm.trans read) nofun
  · rw [runCommand_of_malformed fails, runCommand_of_malformed fails]
    exact .malformed (fun settings read => absurd (fails.symm.trans read) nofun) rfl rfl rfl
  · cases long : s.disk.isTooLong b.operand with
    | true =>
      -- The only way apart: detection tells of the path, conversion looks for its log too early.
      obtain ⟨crash, fails⟩ := logPathOf_of_bad uploads (.inl long)
      obtain ⟨o, done, code, -⟩ := detection_of_settings detects read
      have escapes : runCommand s b = .error crash := by
        simp only [runCommand, read, fails]
      rw [done, escapes]
      refine .tooLong long ?_
      rw [code, outcome_printLayout_of_error (by trivial)
        (Upload.readSheet_of_tooLong (same ▸ long))]
      rfl
    | false =>
      rcases upload with ⟨file, clean, -⟩ | nothing
      · exact endsAlike_of_file ground detects uploads free same read long (named file) file clean
      · exact endsAlike_of_nothing detects uploads same read long nothing

end Both

/-! ## What the commands tell about each other -/

/-- A run ends with an exit code. -/
def Exits (x : Except Crash Outcome) (code : Nat) : Prop := ∃ o, x = .ok o ∧ o.exit = code

@[simp] theorem exits_ok (o : Outcome) (code : Nat) : Exits (.ok o) code ↔ o.exit = code := by
  simp [Exits]

@[simp] theorem exits_error (c : Crash) (code : Nat) : ¬Exits (.error c) code := by
  simp [Exits]

namespace EndsAlike

variable {s : Situation} {b : Arguments} {x x' : Except Crash Outcome}

theorem exits_two_iff (ends : EndsAlike s b x x') : Exits x 2 ↔ Exits x' 2 := by
  cases ends with
  | stopped => simp
  | malformed _ code code' => simp [code, code']
  | tooLong _ code => simp [code]
  | missing _ _ code code' => simp [code, code']
  | unreadable _ code code' => simp [code, code']
  | unknown _ _ code code' => simp [code, code']
  | known _ _ code _ ends =>
    rcases ends with one | ⟨zero, -⟩
    · simp [code, one]
    · simp [code, zero]

theorem book_eq_none (ends : EndsAlike s b x x') {o' : Outcome} (done : x' = .ok o')
    (two : o'.exit = 2) : o'.book = none := by
  cases ends with
  | stopped | tooLong => cases done
  | malformed _ _ _ book | missing _ _ _ _ book | unknown _ _ _ _ book =>
    cases done
    exact book
  | unreadable _ _ code' =>
    cases done
    cases code'.symm.trans two
  | known _ _ _ _ ends =>
    cases done
    rcases ends with one | ⟨zero, -⟩
    · cases one.symm.trans two
    · cases zero.symm.trans two

/-- The layout that detection prints. -/
theorem of_detected (ends : EndsAlike s b x x') {o : Outcome} (done : x = .ok o)
    (zero : o.exit = 0) : ∃ l : Upload.Layout, o.output = l.tag ++ ['\n'] ∧
      ∃ o', x' = .ok o' ∧ o'.exit ≠ 2 ∧ (o'.exit = 0 → AllName s b l o') := by
  cases ends with
  | stopped => cases done
  | malformed _ code | tooLong _ code | missing _ _ code | unreadable _ code | unknown _ _ code =>
    cases done
    cases code.symm.trans zero
  | known _ _ _ printed ends =>
    cases done
    refine ⟨_, printed, _, rfl, ?_⟩
    rcases ends with one | ⟨zero', names⟩
    · simp [one]
    · exact ⟨by rw [zero']; decide, fun _ => names⟩

theorem exits_one (ends : EndsAlike s b x x') (short : s.disk.isTooLong b.operand = false)
    (one : Exits x 1) : Exits x' 1 := by
  cases ends with
  | stopped => exact absurd one (exits_error _ 1)
  | tooLong long => exact absurd (short.symm.trans long) nofun
  | unreadable _ _ code' => exact (exits_ok _ 1).2 code'
  | malformed _ code | missing _ _ code | unknown _ _ code | known _ _ code =>
    cases code.symm.trans ((exits_ok _ 1).1 one)

/-- Both commands refuse the headers that no rule knows. -/
theorem exits_two_iff_header (ends : EndsAlike s b x x') {sheet : Upload.Sheet}
    {settings : Settings.ProgramSettings} (read : settingsOf s = .ok settings)
    (sheets : Upload.readSheet s.disk b.operand = .ok sheet) :
    Upload.Layout.ofHeader? (Upload.headerRow sheet) = none ↔ Exits x 2 ∧ Exits x' 2 := by
  rw [← ends.exits_two_iff, and_self]
  cases ends with
  | stopped none_ | malformed none_ => exact absurd read (none_ settings)
  | tooLong long => exact absurd ((Upload.readSheet_of_tooLong long).symm.trans sheets) nofun
  | missing short nothing =>
    exact absurd ((Upload.readSheet_of_nothing short nothing).symm.trans sheets) nofun
  | unreadable fails => exact absurd (fails.symm.trans sheets) nofun
  | unknown sheets' unknown code =>
    cases sheets.symm.trans sheets'
    simp [unknown, code]
  | known sheets' known code =>
    cases sheets.symm.trans sheets'
    simp [known, code]

end EndsAlike

theorem ofHeader_eq_error_iff (header : List Text) :
    (∃ f, Upload.Layout.ofHeader header = .error f) ↔ Upload.Layout.ofHeader? header = none := by
  unfold Upload.Layout.ofHeader
  cases Upload.Layout.ofHeader? header <;> simp

theorem detection_agrees (s : Situation) (ground : s.disk.WellFormed)
    {arguments arguments' : List Text} {a b : Arguments}
    (accepted : readArguments arguments = .run a) (accepted' : readArguments arguments' = .run b)
    (detects : a.command = .detectLayout) (uploads : b.command = .parseUpload)
    (free : b.layout = none) (same : b.operand = a.operand) (upload : IsUpload s.disk b.operand) :
    (Exits (run s arguments) 2 ↔ Exits (run s arguments') 2) ∧
    (∀ o, run s arguments' = .ok o → o.exit = 2 → o.book = none) ∧
    (∀ o, run s arguments = .ok o → o.exit = 0 →
      ∃ l : Upload.Layout, o.output = l.tag ++ ['\n'] ∧
        ∃ o', run s arguments' = .ok o' ∧ o'.exit ≠ 2 ∧ (o'.exit = 0 → AllName s b l o')) ∧
    (s.disk.isTooLong b.operand = false →
      Exits (run s arguments) 1 → Exits (run s arguments') 1) ∧
    ∀ settings, settingsOf s = .ok settings →
      ∀ sheet, Upload.readSheet s.disk b.operand = .ok sheet →
        ((∃ f, Upload.Layout.ofHeader (Upload.headerRow sheet) = .error f) ↔
          Exits (run s arguments) 2 ∧ Exits (run s arguments') 2) := by
  have named : s.disk.hasFile b.operand = true → b.operand.name ≠ [] := by
    intro file
    obtain ⟨t, spelled⟩ := operand_of_readFrom accepted'
    have some_ := Disk.parts_ne_nil_of_hasFile ground file
    rw [spelled] at some_ ⊢
    exact Path.name_ofText_ne_nil some_
  have ends : EndsAlike s b (run s arguments) (run s arguments') := by
    rw [run, accepted, run, accepted']
    exact runs_endAlike ground detects uploads free same named upload
  refine ⟨ends.exits_two_iff, fun _ => ends.book_eq_none, fun _ => ends.of_detected,
    ends.exits_one, fun settings read sheet sheets => ?_⟩
  rw [ofHeader_eq_error_iff]
  exact ends.exits_two_iff_header read sheets

/-! ## One upload at two levels of the log -/

/-- An upload whose header tells its layout, beside nothing else. -/
def reportDisk : Disk := { files := [(["c.csv".toList], .octets (encode "opar report\n".toList))] }

theorem reportDisk_wellFormed : reportDisk.WellFormed where
  apart := by
    intro place directory
    by_cases file : place = ["c.csv".toList]
    · subst file
      exact absurd directory (by decide)
    · have other : (place == ["c.csv".toList]) = false := beq_false_of_ne file
      rw [Disk.fileAt?, reportDisk, List.lookup_cons, other]
      rfl
  current := rfl

def reportSituation (env : Settings.Environment) : Situation :=
  { situationWith [] with disk := reportDisk, env }

def detectReport : Arguments := { command := .detectLayout, operand := .ofText "c.csv".toList }

def convertReport : Arguments := { command := .parseUpload, operand := .ofText "c.csv".toList }

theorem readArguments_detectReport :
    readArguments ["detect-layout".toList, "c.csv".toList] = .run detectReport := by decide +kernel

theorem readArguments_convertReport :
    readArguments ["parse-upload".toList, "c.csv".toList] = .run convertReport := by decide +kernel

theorem isUpload_report : IsUpload reportDisk convertReport.operand :=
  .inl ⟨by rfl, by decide, by decide⟩

/-- What a run prints with exit code 0. -/
def printed? (x : Except Crash Outcome) : Option Text :=
  match x with
  | .ok o => if o.exit = 0 then some o.output else none
  | .error _ => none

theorem printed?_eq_some_iff {x : Except Crash Outcome} {t : Text} :
    printed? x = some t ↔ ∃ o, x = .ok o ∧ o.exit = 0 ∧ o.output = t := by
  cases x with
  | ok o => simp [printed?]
  | error c => simp [printed?]

/-- At the usual level all names are there. -/
theorem detection_agrees_on_report :
    readArguments ["detect-layout".toList, "c.csv".toList] = .run detectReport ∧
    readArguments ["parse-upload".toList, "c.csv".toList] = .run convertReport ∧
    IsUpload reportDisk convertReport.operand ∧
    ∃ o', run (reportSituation []) ["parse-upload".toList, "c.csv".toList] = .ok o' ∧
      o'.exit = 0 ∧ AllName (reportSituation []) convertReport .opar o' := by
  refine ⟨readArguments_detectReport, readArguments_convertReport, isUpload_report, ?_⟩
  have detects : printed? (run (reportSituation []) ["detect-layout".toList, "c.csv".toList]) =
      some (Upload.Layout.opar.tag ++ ['\n']) := by decide +kernel
  have converts : (printed? (run (reportSituation [])
      ["parse-upload".toList, "c.csv".toList])).isSome = true := by decide +kernel
  obtain ⟨o, done, zero, output⟩ := printed?_eq_some_iff.1 detects
  obtain ⟨t, some_⟩ := Option.isSome_iff_exists.1 converts
  obtain ⟨o', done', zero', -⟩ := printed?_eq_some_iff.1 some_
  obtain ⟨l, tagged, o'', done'', -, names⟩ := (detection_agrees (reportSituation [])
    reportDisk_wellFormed readArguments_detectReport readArguments_convertReport rfl rfl rfl rfl
    isUpload_report).2.2.1 o done zero
  cases done'.symm.trans done''
  have same : l = .opar := by
    rw [output] at tagged
    cases l with
    | opar => rfl
    | _ => exact absurd tagged (by decide)
  exact ⟨o', done', zero', same ▸ names zero'⟩

/-- The level that lets errors through, and nothing below them. -/
def quietEnv : Settings.Environment := [("LOG_LEVEL".toList, "ERROR".toList)]

/-- At the level of errors both commands are done, and no log names the layout. -/
theorem conversion_is_quiet_at_error :
    printed? (run (reportSituation quietEnv) ["detect-layout".toList, "c.csv".toList]) =
      some (Upload.Layout.opar.tag ++ ['\n']) ∧
    ∃ o', run (reportSituation quietEnv) ["parse-upload".toList, "c.csv".toList] = .ok o' ∧
      o'.exit = 0 ∧ ¬NamesLayout (reportSituation quietEnv) .opar (o'.registry.consoleText 0) ∧
      o'.registry.filePlaces = [] := by
  refine ⟨by decide +kernel, ?_⟩
  have converts : (run (reportSituation quietEnv)
      ["parse-upload".toList, "c.csv".toList]).toOption.map
        (fun o => (o.exit, o.registry.consoleText 0, o.registry.filePlaces)) =
      some (0, [], []) := by decide +kernel
  cases done : run (reportSituation quietEnv) ["parse-upload".toList, "c.csv".toList] with
  | error c =>
    rw [done] at converts
    cases converts
  | ok o' =>
    rw [done] at converts
    simp only [Except.toOption, Option.map_some, Option.some.injEq, Prod.mk.injEq] at converts
    obtain ⟨zero, silent, nowhere⟩ := converts
    refine ⟨o', rfl, zero, ?_, nowhere⟩
    rw [silent]
    exact fun names => names.ne_nil rfl

end ParcelStatus.Command
