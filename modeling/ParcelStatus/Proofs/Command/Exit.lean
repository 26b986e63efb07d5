import ParcelStatus.Proofs.Command.Endings
import ParcelStatus.Proofs.Json.Limits
import ParcelStatus.Proofs.Settings.Loading

/-!
# Exit codes

A run loads the settings, looks for the places beside an upload, sets up the logger, and only then
guards its command. What fails before that ends the run without an exit code. Behind it, every
failure is an exit code, and what is asked wrongly is told by code 2, with two exceptions: the look
for a missing file may fail in another way, and the reader of a payload may reach one of its limits.

* `Escapes`, `runCommand_cases` — the stages of a run;
* `AsksWrongly`, `MissesThat` — what should be told by code 2, and what is not;
* `run_gives_code_iff` — when a run gives the code that it should.
-/

namespace ParcelStatus.Command

open Text Log Journal ParcelStatus.Outcome

variable {s : Situation} {settings : Settings.ProgramSettings} {a : Arguments}

/-! ## Runs -/

/-- The program ends without an exit code: its settings cannot be loaded, or it cannot begin with
the path of an upload. -/
inductive Escapes (s : Situation) (a : Arguments) : Prop where
  | settings (stops : Settings.StopsLoading s.disk s.env)
  | path (uploads : a.command = .parseUpload)
      (sound : ¬Settings.MalformedNarrow (Settings.envBehind s.disk s.env))
      (bad : HasBadPath s a)

theorem logPathOf_of_bad (uploads : a.command = .parseUpload) (bad : HasBadPath s a) :
    ∃ crash, logPathOf s a = .error crash := by
  unfold logPathOf
  simp only [uploads]
  cases long : s.disk.isTooLong a.operand with
  | true =>
    refine ⟨.tooLong a.operand, ?_⟩
    simp [Upload.outputPaths, long]
  | false =>
    rw [HasBadPath, long] at bad
    obtain ⟨there, nameless⟩ := bad.resolve_left Bool.false_ne_true
    refine ⟨.noName ⟨a.operand⟩, ?_⟩
    simp [Upload.outputPaths_of_short long, there, nameless]

theorem logPathOf_of_sound (sound : a.command = .parseUpload → ¬HasBadPath s a) :
    ∃ log, logPathOf s a = .ok log := by
  unfold logPathOf
  cases command : a.command with
  | parseUpload =>
    have good := sound command
    rw [HasBadPath, not_or, not_and, Bool.not_eq_true] at good
    simp only [Upload.outputPaths_of_short good.1]
    cases there : s.disk.hasPath a.operand with
    | false => exact ⟨none, rfl⟩
    | true => simp [good.2 there]
  | _ => exact ⟨none, rfl⟩

/-- The settings that a run reads. -/
def settingsOf (s : Situation) : Except Settings.Fault Settings.ProgramSettings :=
  (Settings.readSettings s.disk s.env (some (.ofText Settings.fileName))).outcome

theorem runCommand_of_stops {f : Settings.Fault} (fails : settingsOf s = .error f)
    (stops : f.Stops) : runCommand s a = .error (.settings f) := by
  rw [settingsOf] at fails
  simp only [runCommand, fails]
  cases f with
  | notBool t => exact absurd rfl (stops t)
  | _ => rfl

theorem runCommand_of_malformed {t : Text} (fails : settingsOf s = .error (.notBool t)) :
    runCommand s a =
      .ok { exit := 2, errors := ["error: ".toList ++ (Settings.Fault.notBool t).message] } := by
  rw [settingsOf] at fails
  simp only [runCommand, fails]

/-- The loggers of a run behind its first entry. -/
def openedLoggers (s : Situation) (settings : Settings.ProgramSettings) (a : Arguments)
    (log : Option Path) : Registry :=
  logAll s (registryFor s settings a log) [openingEntry a.command]

theorem runCommand_of_settings (read : settingsOf s = .ok settings) {log : Option Path}
    (found : logPathOf s a = .ok log) :
    runCommand s a = .ok (outcomeOf s (openedLoggers s settings a log) a.command
      (perform s settings a)) := by
  rw [settingsOf] at read
  simp only [runCommand, read, found]
  rfl

/-- The stages of a run. -/
theorem runCommand_cases (s : Situation) (a : Arguments) :
    (Escapes s a ∧ ∃ crash, runCommand s a = .error crash) ∨
    (¬Escapes s a ∧ Settings.MalformedNarrow (Settings.envBehind s.disk s.env) ∧
      ∃ errors, runCommand s a = .ok { exit := 2, errors }) ∨
    (¬Escapes s a ∧ ¬Settings.MalformedNarrow (Settings.envBehind s.disk s.env) ∧
      (a.command = .parseUpload → ¬HasBadPath s a) ∧
      ∃ settings r, runCommand s a = .ok (outcomeOf s r a.command (perform s settings a))) := by
  rcases Settings.readSettings_cases s.disk s.env with
    ⟨stops, f, fails, stop⟩ | ⟨loads, malformed, t, fails⟩ | ⟨loads, wellFormed, settings, read⟩
  · exact .inl ⟨.settings stops, .settings f, runCommand_of_stops fails stop⟩
  · refine .inr (.inl ⟨?_, malformed, _, runCommand_of_malformed fails⟩)
    rintro (stops | ⟨-, wellFormed, -⟩)
    · exact loads stops
    · exact wellFormed malformed
  · by_cases bad : a.command = .parseUpload ∧ HasBadPath s a
    · obtain ⟨crash, fails⟩ := logPathOf_of_bad bad.1 bad.2
      refine .inl ⟨.path bad.1 wellFormed bad.2, crash, ?_⟩
      simp only [runCommand, read, fails]
    · rw [not_and] at bad
      obtain ⟨log, found⟩ := logPathOf_of_sound bad
      refine .inr (.inr ⟨?_, wellFormed, bad, settings, _, runCommand_of_settings read found⟩)
      rintro (stops | ⟨uploads, -, hasBad⟩)
      · exact loads stops
      · exact bad uploads hasBad

/-! ## Failures and exit codes -/

/-- What is asked cannot be had: a setting is malformed, the file is missing, no rule knows the
header of an upload whose layout is to be detected, or the payload is no JSON. -/
inductive AsksWrongly (s : Situation) (a : Arguments) : Prop where
  | setting (malformed : Settings.MalformedNarrow (Settings.envBehind s.disk s.env))
  | file (nothing : s.disk.find a.operand = .nothing)
  | layout (detects : a.command = .detectLayout ∨ a.command = .parseUpload ∧ a.layout = none)
      (unknown : HasUnknownHeader s.disk a.operand)
  | payload {t : Text} (reconciles : a.command = .reconcile)
      (read : readText s.disk "payload".toList a.operand = .ok t) (breaks : Json.BreaksGrammar t)

/-- The look for a file fails in another way than by not finding it. -/
def LookFails (s : Situation) (a : Arguments) : Prop :=
  s.disk.isTooLong a.operand = true ∨ (a.command = .reconcile ∨ a.command = .dhlReport) ∧
    ('\x00' ∈ a.operand.text ∨ s.disk.passesFile a.operand = true)

/-- What cannot be had is not seen to be so: the look for a missing file fails in another way, or
the reader reaches one of its limits in front of the place where a payload breaks the grammar. -/
inductive MissesThat (s : Situation) (a : Arguments) : Prop where
  | file (wellFormed : ¬Settings.MalformedNarrow (Settings.envBehind s.disk s.env))
      (nothing : s.disk.find a.operand = .nothing) (fails : LookFails s a)
  | payload {t : Text} (wellFormed : ¬Settings.MalformedNarrow (Settings.envBehind s.disk s.env))
      (reconciles : a.command = .reconcile)
      (read : readText s.disk "payload".toList a.operand = .ok t) (breaks : Json.BreaksGrammar t)
      (limit : ∃ f, Json.readNested (standIn privatePlane) payloadDepth t = .error f ∧ f.IsLimit)

/-- A run gives one of the three exit codes, prints exactly when that is 0, and gives 2 when it is
asked wrongly. -/
def GivesCode (s : Situation) (arguments : List Text) (a : Arguments) : Prop :=
  ∃ o, run s arguments = .ok o ∧ o.exit ≤ 2 ∧ (o.output ≠ [] ↔ o.exit = 0) ∧
    (AsksWrongly s a → o.exit = 2)

theorem MissesThat.asksWrongly (misses : MissesThat s a) : AsksWrongly s a := by
  cases misses with
  | file _ nothing _ => exact .file nothing
  | payload _ reconciles read breaks _ => exact .payload reconciles read breaks

theorem not_hasUnknownHeader_of_nothing {d : Disk} {input : Path}
    (nothing : d.find input = .nothing) : ¬HasUnknownHeader d input := by
  rintro ⟨sheet, read, -⟩
  cases long : d.isTooLong input with
  | true => exact absurd ((Upload.readSheet_of_tooLong long).symm.trans read) nofun
  | false => exact absurd ((Upload.readSheet_of_nothing long nothing).symm.trans read) nofun

theorem readText_ne_ok_of_nothing {d : Disk} {p : Path} (nothing : d.find p = .nothing)
    (what t : Text) : readText d what p ≠ .ok t := by
  simp only [readText, nothing]
  split <;> exact nofun

/-- A missing file is refused, unless the look for it fails in another way. -/
theorem refuses_of_nothing (nothing : s.disk.find a.operand = .nothing)
    (short : s.disk.isTooLong a.operand = false)
    (plain : a.command = .reconcile ∨ a.command = .dhlReport →
      '\x00' ∉ a.operand.text ∧ s.disk.passesFile a.operand = false) : Refuses s a := by
  unfold Refuses
  cases command : a.command with
  | detectLayout => exact .inl ⟨nothing, short⟩
  | parseUpload => exact .inl nothing
  | reconcile =>
    obtain ⟨null, direct⟩ := plain (.inl command)
    exact .inl ⟨nothing, null, short, direct⟩
  | dhlReport =>
    obtain ⟨null, direct⟩ := plain (.inr command)
    exact ⟨nothing, null, short, direct⟩

theorem refuses_of_asksWrongly
    (wellFormed : ¬Settings.MalformedNarrow (Settings.envBehind s.disk s.env))
    (seen : ¬MissesThat s a) (asks : AsksWrongly s a) : Refuses s a := by
  cases asks with
  | setting malformed => exact absurd malformed wellFormed
  | file nothing =>
    have plain : ¬LookFails s a := fun fails => seen (.file wellFormed nothing fails)
    rw [LookFails, not_or, not_and, not_or, Bool.not_eq_true, Bool.not_eq_true] at plain
    exact refuses_of_nothing nothing plain.1 plain.2
  | layout detects unknown =>
    unfold Refuses
    rcases detects with command | ⟨command, layout⟩
    · rw [command]
      exact .inr unknown
    · rw [command]
      exact .inr ⟨layout, unknown⟩
  | @payload t reconciles read breaks =>
    unfold Refuses
    rw [reconciles]
    refine .inr ⟨t, read, ?_⟩
    rcases breaks.readNested (standIn privatePlane) payloadDepth with ⟨what, place, stops⟩ | limit
    · exact ⟨what, t, place, stops⟩
    · exact absurd (.payload wellFormed reconciles read breaks limit) seen

theorem LookFails.not_isPlainlyMissing (fails : LookFails s a) :
    ¬IsPlainlyMissing s.disk a.operand := by
  rintro ⟨-, clean, short, direct⟩
  rcases fails with long | ⟨-, null | through⟩
  · exact absurd (short.symm.trans long) nofun
  · exact clean null
  · exact absurd (direct.symm.trans through) nofun

theorem not_refuses_of_misses (sound : a.command = .parseUpload → ¬HasBadPath s a)
    (misses : MissesThat s a) : ¬Refuses s a := by
  unfold Refuses
  cases misses with
  | file _ nothing fails =>
    have unread := fun what t => readText_ne_ok_of_nothing nothing what t
    have headless := not_hasUnknownHeader_of_nothing nothing
    cases command : a.command with
    | detectLayout =>
      have long : s.disk.isTooLong a.operand = true := by
        simpa [LookFails, command] using fails
      simp [long, headless]
    | parseUpload =>
      have long : s.disk.isTooLong a.operand = true := by
        simpa [LookFails, command] using fails
      exact absurd (.inl long) (sound command)
    | reconcile =>
      rintro (missing | ⟨t, read, -⟩)
      · exact fails.not_isPlainlyMissing missing
      · exact unread _ t read
    | dhlReport => exact fails.not_isPlainlyMissing
  | @payload t _ reconciles read _ limit =>
    rw [reconciles]
    rintro (missing | ⟨t', read', what, source, place, stops⟩)
    · exact readText_ne_ok_of_nothing missing.1 _ t read
    · obtain ⟨f, reached, isLimit⟩ := limit
      cases read.symm.trans read'
      cases reached.symm.trans stops
      exact isLimit

theorem run_gives_code_iff (s : Situation) {arguments : List Text} {a : Arguments}
    (accepted : readArguments arguments = .run a) :
    ((∃ crash, run s arguments = .error crash) ↔ Escapes s a) ∧
      (GivesCode s arguments a ↔ ¬Escapes s a ∧ ¬MissesThat s a) := by
  have same : run s arguments = runCommand s a := by
    rw [run, accepted]
  unfold GivesCode
  rw [same]
  -- Three stages: nothing is guarded yet, a setting is malformed, the command has been run.
  rcases runCommand_cases s a with
    ⟨escapes, crash, fails⟩ | ⟨returns, malformed, errors, fails⟩ |
      ⟨returns, wellFormed, sound, settings, r, done⟩
  · rw [fails]
    refine ⟨iff_of_true ⟨crash, rfl⟩ escapes, iff_of_false ?_ fun both => both.1 escapes⟩
    rintro ⟨o, ends, -⟩
    cases ends
  · rw [fails]
    refine ⟨iff_of_false (by rintro ⟨_, ends⟩; cases ends) returns,
      iff_of_true ⟨_, rfl, Nat.le_refl 2, ?_, fun _ => rfl⟩ ⟨returns, ?_⟩⟩
    · exact iff_of_false (fun some_ => some_ rfl) (Nat.succ_ne_zero 1)
    · rintro (⟨wellFormed, -, -⟩ | ⟨wellFormed, -, -, -, -⟩)
      · exact wellFormed malformed
      · exact wellFormed malformed
  · rw [done]
    refine ⟨iff_of_false (by rintro ⟨_, ends⟩; cases ends) returns, ?_⟩
    have refused : exitOf (perform s settings a).outcome = 2 ↔ Refuses s a :=
      exit_perform_iff sound
    constructor
    · rintro ⟨o, ends, -, -, asked⟩
      cases ends
      refine ⟨returns, fun misses => not_refuses_of_misses sound misses ?_⟩
      have two := asked misses.asksWrongly
      rw [exit_outcomeOf] at two
      exact refused.1 two
    · rintro ⟨-, seen⟩
      refine ⟨_, rfl, ?_, output_iff_exit _ sound, ?_⟩
      · rw [exit_outcomeOf]
        exact exitOf_le _
      · intro asks
        rw [exit_outcomeOf, refused]
        exact refuses_of_asksWrongly wellFormed seen asks

/-- A working directory with some files, and no variables. -/
def situationWith (files : List (Place × Contents)) : Situation where
  disk := { files }
  env := []
  present := .sample
  today := ⟨2025, 1, 10, rfl⟩
  now := []
  logTime := []

/-- A missing upload, of which code 2 tells. -/
theorem run_gives_code_of_missing_upload :
    readArguments ["detect-layout".toList, "a.csv".toList] =
        .run { command := .detectLayout, operand := .ofText "a.csv".toList } ∧
      GivesCode (situationWith []) ["detect-layout".toList, "a.csv".toList]
        { command := .detectLayout, operand := .ofText "a.csv".toList } ∧
      AsksWrongly (situationWith [])
        { command := .detectLayout, operand := .ofText "a.csv".toList } := by
  have accepted : readArguments ["detect-layout".toList, "a.csv".toList] =
      .run { command := .detectLayout, operand := .ofText "a.csv".toList } := by decide +kernel
  refine ⟨accepted, (run_gives_code_iff _ accepted).2.2 ⟨?_, ?_⟩, .file rfl⟩
  · rintro (⟨contents, found, -⟩ | ⟨uploads, -, -⟩)
    · cases found
    · cases uploads
  · rintro (⟨-, -, long | ⟨texts | texts, -⟩⟩ | ⟨-, reconciles, -, -, -⟩)
    · rw [Disk.isTooLong_eq_false (by decide) (by decide)] at long
      cases long
    · cases texts
    · cases texts
    · cases reconciles

/-- The working directory as an upload: it is there, and has no name beside which a log could stand.
No exit code tells of it. -/
theorem run_escapes_with_nameless_upload :
    readArguments ["parse-upload".toList, ".".toList] =
        .run { command := .parseUpload, operand := .ofText ".".toList } ∧
      ¬GivesCode (situationWith []) ["parse-upload".toList, ".".toList]
        { command := .parseUpload, operand := .ofText ".".toList } := by
  refine ⟨by decide +kernel, ?_⟩
  rintro ⟨o, returns, -⟩
  have escapes : run (situationWith []) ["parse-upload".toList, ".".toList] =
      .error (.noName ⟨.ofText ".".toList⟩) := by rfl
  rw [escapes] at returns
  cases returns

end ParcelStatus.Command
