import ParcelStatus.Command.Run
import ParcelStatus.Proofs.Disk.Lookup
import ParcelStatus.Proofs.Log.LogFile
import ParcelStatus.Proofs.Upload.Conversion

/-!
# The logger of a run

The logger of a conversion writes to the console, unless that is switched off, and to the log beside
the upload. Setting it up never fails: the directory of an upload that is there is there as well.

* `levelFor`, `consolesFor`, `logTarget` — the level and the targets of the logger;
* `registryFor_eq` — the loggers of a conversion before its first entry;
* `consoleText_run`, `logText_run` — what the console and the log hold of the entries of a run.
-/

namespace ParcelStatus.Command

open Text Log Registry ParcelStatus.Outcome

variable (s : Situation) (settings : Settings.ProgramSettings) (a : Arguments)

/-- The level of a run: the one it is asked for, else the one of the settings. -/
def levelFor : Int :=
  namedLevel (match a.logLevel with
    | some (c :: r) => c :: r
    | _ => settings.logLevel)

/-- The path of the log of an upload. -/
def logPath : Path := a.operand.parent.child (a.operand.stem ++ ".log".toList)

/-- The size at which a log is moved aside. -/
def maxLogOctets : Int := 5000000

def consolesFor : List Target :=
  if a.noConsole then []
  else [{ destination := .console 0, level := .number (levelFor settings a),
          template := defaultTemplate }]

/-- The place of the log of an upload. -/
def logPlace : Place := (s.disk.absolutePath (logPath a)).parts

/-- The size of the log of an upload before the run. -/
def logSize : Nat := ({ disk := s.disk } : Registry).sizeOnDisk (logPlace s a)

def logTarget : Target where
  destination := .file (logPlace s a) maxLogOctets 5
  level := .number (levelFor settings a)
  template := defaultTemplate
  root := (s.disk.absolutePath (logPath a)).root

/-- The logger of a conversion. -/
def loggerFor : Logger where
  level := .number (levelFor settings a)
  propagate := false
  configured := true
  targets := consolesFor settings a ++ [logTarget s settings a]

theorem programLogger_ne_nil : programLogger ≠ [] := by decide

/-- What the logger of a run is asked to have. -/
def requestFor (log : Option Path) : Request where
  name := programLogger
  level := .number (levelFor settings a)
  console := !a.noConsole
  file := log
  template := .ok defaultTemplate

theorem withConsole_requestFor (log : Option Path) :
    withConsole 0 (requestFor settings a log) defaultTemplate {} =
      { level := .number (levelFor settings a), propagate := false
        targets := consolesFor settings a } := by
  unfold withConsole consolesFor requestFor
  cases a.noConsole <;> rfl

/-- The logger of a conversion gets all that it is asked to have. -/
theorem configure_requestFor (ground : s.disk.WellFormed) {place : Place}
    (leads : s.disk.place? a.operand = some place) (named : a.operand.parts ≠ [])
    (clean : '\x00' ∉ a.operand.text) (short : s.disk.isTooLong a.operand = false) :
    ({ disk := s.disk } : Registry).configure (requestFor settings a (some (logPath a))) =
      (({ disk := s.disk } : Registry).setLogger programLogger (loggerFor s settings a),
        .ok ()) := by
  have name : canonicalName programLogger = programLogger := by decide
  have parent : (logPath a).parent = a.operand.parent := by
    simp [logPath, Path.child, Path.parent]
  -- The directory of the upload is there, so the disk stays as it is.
  have made := Disk.makeDirectories_parent ground leads named clean short
  have absent :
      (consolesFor settings a).any (isFile (s.disk.absolutePath (logPath a))) = false := by
    unfold consolesFor
    cases a.noConsole <;> rfl
  have added : ({ disk := s.disk } : Registry).addFile (requestFor settings a (some (logPath a)))
      defaultTemplate (logPath a) (consolesFor settings a) =
        .ok ({ disk := s.disk }, consolesFor settings a ++ [logTarget s settings a]) := by
    have now : ({ disk := s.disk } : Registry).now = s.disk := rfl
    simp only [addFile, absent, Bool.false_eq_true, if_false, now, parent, made]
    rfl
  have console : withConsole 0 (requestFor settings a (some (logPath a))) defaultTemplate
      (({ disk := s.disk } : Registry).logger programLogger) =
        { level := .number (levelFor settings a), propagate := false
          targets := consolesFor settings a } := withConsole_requestFor settings a _
  have form : (requestFor settings a (some (logPath a))).template = .ok defaultTemplate := rfl
  have file : (requestFor settings a (some (logPath a))).file = some (logPath a) := rfl
  have called : (requestFor settings a (some (logPath a))).name = programLogger := rfl
  simp only [configure, form, file, called, name, console, added]
  rfl

/-- The loggers of a conversion before its first entry. -/
def freshLoggers : Registry :=
  ({ disk := s.disk } : Registry).setLogger programLogger (loggerFor s settings a)

theorem registryFor_eq (ground : s.disk.WellFormed) {place : Place}
    (leads : s.disk.place? a.operand = some place) (named : a.operand.parts ≠ [])
    (clean : '\x00' ∉ a.operand.text) (short : s.disk.isTooLong a.operand = false) :
    registryFor s settings a (some (logPath a)) = freshLoggers s settings a :=
  congrArg Prod.fst (configure_requestFor s settings a ground leads named clean short)

theorem freshLoggers_alone (level : 0 < levelFor settings a) :
    IsAlone (freshLoggers s settings a) programLogger (loggerFor s settings a) := by
  refine ⟨Table.lookup_assign_self _ _ _, level, rfl, ?_⟩
  exact List.append_ne_nil_of_right_ne_nil _ (List.cons_ne_nil _ _)

theorem onConsole_of_mem {u : Target} (inside : u ∈ consolesFor settings a) :
    Target.OnConsole u := by
  unfold consolesFor at inside
  split at inside
  · cases inside
  · rw [List.mem_singleton.1 inside]
    exact ⟨0, rfl⟩

theorem freshLoggers_logsTo (level : 0 < levelFor settings a)
    (allowed : ({ disk := s.disk } : Registry).allowsFile (logPlace s a) = true) :
    LogsTo (freshLoggers s settings a) programLogger (loggerFor s settings a)
      (consolesFor settings a) (logTarget s settings a) (logPlace s a) (logSize s a) maxLogOctets
      [] where
  alone := freshLoggers_alone s settings a level
  targets := rfl
  consoles := fun _ => onConsole_of_mem settings a
  destination := ⟨5, rfl⟩
  level := rfl
  template := rfl
  holds := .fresh rfl rfl rfl allowed rfl

/-! ## The entries of a run -/

variable {s settings a} {es : List Entry}

theorem shownByAll_of_console (on : a.noConsole = false) {e : Entry} (named : e.logger ≠ [])
    (enough : levelFor settings a ≤ e.level) :
    shownByAll s.logTime e (loggerFor s settings a).targets =
      [(0, stampedLine s.logTime e ++ ['\n'])] := by
  have reached : ¬e.level < levelFor settings a := Int.not_lt.2 enough
  simp [shownByAll, loggerFor, consolesFor, logTarget, on, reached, shownBy,
    fill_defaultTemplate s.logTime e named]

theorem flatMap_eq_map {α β : Type} {f : α → List β} {g : α → β} {xs : List α}
    (single : ∀ x ∈ xs, f x = [g x]) : xs.flatMap f = xs.map g := by
  induction xs with
  | nil => rfl
  | cons x xs ih =>
    rw [List.flatMap_cons, single x List.mem_cons_self,
      ih fun x' inside => single x' (.tail _ inside)]
    rfl

/-- The console shows the lines of all entries from the level on. -/
theorem consoleText_run (level : 0 < levelFor settings a) (on : a.noConsole = false)
    (own : ∀ e ∈ es, e.logger = programLogger) :
    ((freshLoggers s settings a).logEach s.logTime es).consoleText 0 =
      loggedText s.logTime (levelFor settings a) es := by
  obtain ⟨_, -, -, shown⟩ := logEach_shows (freshLoggers_alone s settings a level) s.logTime own
  have lines : (es.filter (levelFor settings a ≤ ·.level)).flatMap
      (fun e => shownByAll s.logTime e (loggerFor s settings a).targets) =
        (es.filter (levelFor settings a ≤ ·.level)).map fun e =>
          (0, stampedLine s.logTime e ++ ['\n']) := by
    refine flatMap_eq_map fun e inside => ?_
    obtain ⟨member, enough⟩ := List.mem_filter.1 inside
    refine shownByAll_of_console on ?_ (of_decide_eq_true enough)
    rw [own e member]
    exact programLogger_ne_nil
  have consoles : ((freshLoggers s settings a).logEach s.logTime es).consoles = _ :=
    shown.trans ((List.nil_append _).trans lines)
  rw [consoleText, consoles, List.filter_map, List.filter_eq_self.2 (by simp), List.flatMap_map]
  rfl

/-- The log gets the lines of all entries from the level on, if a file can stand in its place and
the lines are not too many for it. -/
theorem logText_run (level : 0 < levelFor settings a)
    (allowed : ({ disk := s.disk } : Registry).allowsFile (logPlace s a) = true)
    (own : ∀ e ∈ es, e.logger = programLogger)
    (small :
      logSize s a + octetCount (loggedText s.logTime (levelFor settings a) es) < maxLogOctets)
    (some_ : loggedText s.logTime (levelFor settings a) es ≠ []) :
    ((freshLoggers s settings a).logEach s.logTime es).textAt? (logPlace s a) =
      some (loggedText s.logTime (levelFor settings a) es) := by
  obtain ⟨l, t, logged⟩ := (freshLoggers_logsTo s settings a level allowed).logEach
    programLogger_ne_nil s.logTime own small
  exact logged.holds.textAt?_eq some_

end ParcelStatus.Command
