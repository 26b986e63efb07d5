import ParcelStatus.Proofs.Command.Exit
import ParcelStatus.Proofs.Command.Logger

/-!
# What names a layout

A conversion tells the layout of its upload in its summary, in the sheet about the upload and in its
log. If the layout was detected, all three name what was detected, the log as far as its level lets
it.

* `AllName` — all three name a layout;
* `log_names` — the console and the log file of a conversion;
* `conversion_cases` — a conversion whose layout is detected fails, or all three name that layout.
-/

namespace ParcelStatus.Command

open Text Log Journal ParcelStatus.Outcome

/-! ## What names a layout -/

/-- The text has the line that tells the layout. -/
def NamesLayout (s : Situation) (l : Upload.Layout) (t : Text) : Prop :=
  ∃ before behind, t = before ++
    (s.logTime ++ " | INFO | carrier_status_engine | Detected layout: ".toList ++ l.tag ++ ['\n'])
      ++ behind

/-- The entries of a conversion, which begin with the one that opens the run. -/
def entriesOf (s : Situation) (a : Arguments) : List Entry :=
  openingEntry a.command ::
    ((intakeOf s a).convert s.disk a.operand (bookPath a) s.now).entries

/-- The lines of a conversion that its level lets through. -/
def linesOf (s : Situation) (settings : Settings.ProgramSettings) (a : Arguments) : Text :=
  loggedText s.logTime (levelFor settings a) (entriesOf s a)

/-- The summary, the sheet about the upload, and the log of a conversion name the layout. The log
does where its level lets the line through: the console, unless it is off, and the file beside the
upload, if one can stand there and stays below the size at which it is moved aside. -/
structure AllName (s : Situation) (a : Arguments) (l : Upload.Layout) (o : Outcome) : Prop where
  summary : ∃ ms, o.output = (Json.obj ms).write true ++ ['\n'] ∧
    Json.get ms "layout" = .str l.tag
  marker : ∃ path book names values, o.book = some (path, book) ∧ book.marker = [names, values] ∧
    names[3]? = some (.text "layout".toList) ∧ values[3]? = some (.text l.tag)
  log : ∀ settings, settingsOf s = .ok settings →
    levelFor settings a = debug ∨ levelFor settings a = info →
    (a.noConsole = false → NamesLayout s l (o.registry.consoleText 0)) ∧
      (({ disk := s.disk } : Registry).allowsFile (logPlace s a) = true →
        logSize s a + octetCount (linesOf s settings a) < maxLogOctets →
          ∃ t, o.registry.textAt? (logPlace s a) = some t ∧ NamesLayout s l t)

theorem marker_of_bookOf {rows : List Upload.ShipmentRow} {marker : Upload.Marker}
    {book : Upload.Book} (bound : Upload.bookOf rows marker = .ok book) :
    ∃ names values, book.marker = [names, values] ∧
      names[3]? = some (.text "layout".toList) ∧ values[3]? = some (.text marker.layout.tag) := by
  unfold Upload.bookOf at bound
  simp only [bind_eq_ok_iff] at bound
  obtain ⟨shipments, -, about, stored, same⟩ := bound
  cases same
  unfold Upload.storeRows at stored
  split at stored
  · cases stored
  · cases stored
    refine ⟨_, _, rfl, rfl, ?_⟩
    cases marker.layout <;> rfl

theorem namesLayout_of_mem {s : Situation} {l : Upload.Layout} {level : Int} {es : List Entry}
    (told : (⟨info, programLogger, "Detected layout: ".toList ++ l.tag⟩ : Entry) ∈ es)
    (enough : level ≤ info) : NamesLayout s l (loggedText s.logTime level es) := by
  obtain ⟨before, behind, split⟩ := exists_loggedText_of_mem told enough
  have front : bar ++ (levelName info ++ " | ".toList ++ programLogger ++ " | ".toList
      ++ "Detected layout: ".toList) =
        " | INFO | carrier_status_engine | Detected layout: ".toList := by decide
  refine ⟨before, behind, ?_⟩
  rw [split, ← front]
  simp [stampedLine, Entry.line]

/-! ## Conversion of a known layout -/

section Conversion

variable {s : Situation} {settings : Settings.ProgramSettings} {a : Arguments}

theorem logPathOf_of_file (uploads : a.command = .parseUpload) (sound : ¬HasBadPath s a)
    (there : s.disk.hasPath a.operand = true) : logPathOf s a = .ok (some (logPath a)) := by
  rw [HasBadPath, not_or, not_and, Bool.not_eq_true] at sound
  simp only [logPathOf, uploads, Upload.outputPaths_of_short sound.1, there, Bool.not_true,
    Bool.false_eq_true, if_false, if_neg (sound.2 there)]
  rfl

theorem registry_of_done {r : Registry} {command : CommandName} {work : Journal Failure Product}
    {product : Product} (done : work.outcome = .ok product) :
    (outcomeOf s r command work).registry = r.logEach s.logTime work.entries := by
  unfold outcomeOf
  rw [done]
  rfl

theorem book_outcomeOf (r : Registry) (command : CommandName) (work : Journal Failure Product) :
    (outcomeOf s r command work).book =
      match work.outcome with
      | .ok product => product.book
      | .error _ => none := by
  unfold outcomeOf
  cases work.outcome <;> rfl

/-- The entries of a conversion that is done are those of the work on the upload. -/
theorem entries_convertUpload (sound : ¬HasBadPath s a) (there : s.disk.hasPath a.operand = true)
    {product : Product} (done : (convertUpload s a).outcome = .ok product) :
    (convertUpload s a).entries =
      ((intakeOf s a).convert s.disk a.operand (bookPath a) s.now).entries := by
  rw [convertUpload_of_sound sound, if_pos there] at done ⊢
  unfold reportOf at done ⊢
  split at done
  · cases done
  · cases done
  case h_3 => rfl

theorem NamesLayout.ne_nil {l : Upload.Layout} {t : Text} (names : NamesLayout s l t) : t ≠ [] := by
  obtain ⟨before, behind, rfl⟩ := names
  simp

variable {sheet : Upload.Sheet} {l : Upload.Layout}

theorem owns_entriesOf (holds : Upload.HoldsSheet s.disk a.operand sheet) :
    ∀ e ∈ entriesOf s a, e.logger = programLogger := by
  intro e inside
  rcases List.mem_cons.1 inside with rfl | told
  · rfl
  · exact Upload.Intake.owns_convert holds (bookPath a) s.now e told

/-- The console and the log of a conversion show its lines, among them the one that tells the
layout. -/
theorem log_names (ground : s.disk.WellFormed) (file : s.disk.hasFile a.operand = true)
    (clean : '\x00' ∉ a.operand.text) (holds : Upload.HoldsSheet s.disk a.operand sheet)
    (free : a.layout = none) (known : Upload.Layout.ofHeader? (Upload.headerRow sheet) = some l)
    (level : levelFor settings a = debug ∨ levelFor settings a = info) {r : Registry}
    (logged : r = (registryFor s settings a (some (logPath a))).logEach s.logTime (entriesOf s a)) :
    (a.noConsole = false → NamesLayout s l (r.consoleText 0)) ∧
      (({ disk := s.disk } : Registry).allowsFile (logPlace s a) = true →
        logSize s a + octetCount (linesOf s settings a) < maxLogOctets →
          ∃ t, r.textAt? (logPlace s a) = some t ∧ NamesLayout s l t) := by
  obtain ⟨contents, found⟩ := Disk.hasFile_iff.1 file
  obtain ⟨place, leads, -⟩ := Disk.find_eq_file_iff.1 found
  obtain ⟨positive, enough⟩ : 0 < levelFor settings a ∧ levelFor settings a ≤ info := by
    rcases level with same | same
    · rw [same]
      decide
    · rw [same]
      decide
  have told : (⟨info, programLogger, "Detected layout: ".toList ++ l.tag⟩ : Entry) ∈
      entriesOf s a :=
    .tail _ (Upload.Intake.detectionEntry_mem (p := intakeOf s a) holds free known (bookPath a)
      s.now)
  have own := owns_entriesOf holds
  have names : NamesLayout s l (linesOf s settings a) := namesLayout_of_mem told enough
  rw [logged, registryFor_eq s settings a ground leads (Disk.parts_ne_nil_of_hasFile ground file) clean
    holds.short]
  constructor
  · intro on
    rw [consoleText_run positive on own]
    exact names
  · intro allowed small
    exact ⟨_, logText_run positive allowed own small names.ne_nil, names⟩

/-- A conversion of an upload whose layout is detected: it fails, or all that it leaves names the
layout. -/
theorem conversion_cases (ground : s.disk.WellFormed) (uploads : a.command = .parseUpload)
    (sound : ¬HasBadPath s a) (file : s.disk.hasFile a.operand = true)
    (clean : '\x00' ∉ a.operand.text) (holds : Upload.HoldsSheet s.disk a.operand sheet)
    (free : a.layout = none) (known : Upload.Layout.ofHeader? (Upload.headerRow sheet) = some l)
    (read : settingsOf s = .ok settings) :
    ∃ o, runCommand s a = .ok o ∧ (o.exit = 1 ∨ o.exit = 0 ∧ AllName s a l o) := by
  have there := holds.hasPath
  have layout : a.layout.or (Upload.Layout.ofHeader? (Upload.headerRow sheet)) = some l := by
    rw [free, known]
    rfl
  refine ⟨_, runCommand_of_settings read (logPathOf_of_file uploads sound there), ?_⟩
  have work : perform s settings a = convertUpload s a := by
    simp only [perform, uploads]
  rw [work]
  have converts := convertUpload_converts sound
  generalize ends : (convertUpload s a).outcome = x at converts
  -- The upload is there, its sheet can be read and its layout is known: two endings are left.
  cases converts with
  | missing nothing => exact absurd nothing (Disk.hasPath_iff.1 there)
  | unreadable _ fails => exact absurd (holds.sheet.symm.trans fails) nofun
  | unknown _ read' unknown =>
    cases holds.sheet.symm.trans read'
    exact absurd (layout.symm.trans unknown) nofun
  | unwritten =>
    refine .inl ?_
    rw [exit_outcomeOf, ends]
    rfl
  | @written sheet' l' summary book marker rows _ read' known' summarized marked bound =>
    cases holds.sheet.symm.trans read'
    cases layout.symm.trans known'
    refine .inr ⟨by rw [exit_outcomeOf, ends]; rfl, ?_, ?_, ?_⟩
    · refine ⟨summary.toMembers, by rw [output_outcomeOf, ends], ?_⟩
      rw [← summarized]
      rfl
    · obtain ⟨names, values, sheets, name, value⟩ := marker_of_bookOf bound
      refine ⟨bookPath a, book, names, values, by rw [book_outcomeOf, ends]; rfl, sheets, name, ?_⟩
      rw [value, marked]
    · intro settings' read'' level
      cases read.symm.trans read''
      refine log_names ground file clean holds free known level ?_
      rw [registry_of_done ends, entries_convertUpload sound there ends]
      rfl

end Conversion

end ParcelStatus.Command
