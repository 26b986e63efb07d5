import ParcelStatus.Log.Registry
import Mathlib.Data.List.Induction
import Mathlib.Data.List.Nodup

/-!
# Targets of loggers

Every request asks a logger for sinks, a console stream and perhaps a file. The logger gets a target
for each of them that it lacks, behind the targets that it has. So the targets of a logger are those
of all its requests so far, each once, in the order of their first mention.

* `Sink`, `sinksOf` — what a target writes to, and what a request asks for;
* `Registry.Serves` — what one call leaves as it was, and what it adds;
* `Registry.configure_serves`, `Registry.configureAll_targets` — one call, and all of a run;
* `Registry.configureAll_once` — no sink is served twice, none is left out, and a further call moves
  none of the targets.
-/

namespace ParcelStatus.Log

/-! ## First mentions -/

section FirstMentions

variable {α : Type} [BEq α] [LawfulBEq α]

theorem eraseDups_snoc_of_mem {xs : List α} {x : α} (mentioned : x ∈ xs) :
    (xs ++ [x]).eraseDups = xs.eraseDups := by
  simp [List.eraseDups_append, List.removeAll, mentioned]

theorem eraseDups_snoc_of_not_mem {xs : List α} {x : α} (new : x ∉ xs) :
    (xs ++ [x]).eraseDups = xs.eraseDups ++ [x] := by
  simp [List.eraseDups_append, List.eraseDups_cons, List.removeAll, new]

theorem nodup_eraseDups (xs : List α) : xs.eraseDups.Nodup := by
  induction xs using List.reverseRecOn with
  | nil => simp
  | append_singleton xs x ih =>
    by_cases mentioned : x ∈ xs
    · rw [eraseDups_snoc_of_mem mentioned]
      exact ih
    · rw [eraseDups_snoc_of_not_mem mentioned]
      apply ih.append (List.nodup_singleton x)
      simpa using mentioned

end FirstMentions

/-! ## Sinks -/

/-- What a target writes to. -/
inductive Sink where
  /-- A console stream by its number. -/
  | console (stream : Nat)
  /-- The file at an absolute path. -/
  | file (path : Path)
deriving DecidableEq, Repr

def Sink.isConsole : Sink → Bool
  | console _ => true
  | file _ => false

def Target.sink (t : Target) : Sink :=
  match t.destination with
  | .console stream => .console stream
  | .file place _ _ => .file ⟨t.root, place⟩

namespace Registry

theorem isConsole_eq (stream : Nat) (t : Target) :
    isConsole stream t = decide (t.sink = .console stream) := by
  unfold isConsole Target.sink
  cases t.destination <;> simp

theorem isFile_eq (path : Path) (t : Target) : isFile path t = decide (t.sink = .file path) := by
  unfold isFile Target.path? Target.sink
  cases t.destination <;> simp

/-- The sinks that a request asks for, the console in front. -/
def sinksOf (r : Registry) (q : Request) : List Sink :=
  (if q.console then [.console r.stream] else [])
    ++ (q.file.map fun path => .file (r.disk.absolutePath path)).toList

/-- The sinks that requests ask for in the name of one logger. -/
def sinksFor (r : Registry) (name : Text) (qs : List Request) : List Sink :=
  (qs.filter fun q => canonicalName q.name = name).flatMap r.sinksOf

/-- The targets serve what was asked, each sink once, in the order of first mention. -/
def ServeOnce (asked : List Sink) (ts : List Target) : Prop :=
  ts.map Target.sink = asked.eraseDups

theorem ServeOnce.mem_iff {asked : List Sink} {ts : List Target} (once : ServeOnce asked ts)
    (s : Sink) : s ∈ ts.map Target.sink ↔ s ∈ asked := by
  rw [once, List.mem_eraseDups]

theorem ServeOnce.again {asked : List Sink} {ts : List Target} (once : ServeOnce asked ts)
    {s : Sink} (mentioned : s ∈ asked) : ServeOnce (asked ++ [s]) ts := by
  rw [ServeOnce, eraseDups_snoc_of_mem mentioned]
  exact once

theorem ServeOnce.snoc {asked : List Sink} {ts : List Target} (once : ServeOnce asked ts)
    {t : Target} (new : t.sink ∉ asked) : ServeOnce (asked ++ [t.sink]) (ts ++ [t]) := by
  rw [ServeOnce, eraseDups_snoc_of_not_mem new, List.map_append, once]
  rfl

/-! ## One call -/

theorem prefix_addConsole (stream : Nat) (level : Level) (template : Text) (ts : List Target) :
    ts <+: addConsole stream level template ts := by
  unfold addConsole
  split
  · exact List.prefix_rfl
  · exact List.prefix_append ts _

theorem ServeOnce.addConsole {asked : List Sink} {ts : List Target} (once : ServeOnce asked ts)
    (stream : Nat) (level : Level) (template : Text) :
    ServeOnce (asked ++ [.console stream]) (addConsole stream level template ts) := by
  have served : ts.any (isConsole stream) = true ↔ Sink.console stream ∈ asked := by
    rw [← once.mem_iff]
    simp [isConsole_eq]
  unfold Registry.addConsole
  split
  case isTrue found => exact once.again (served.1 found)
  case isFalse missing =>
    exact once.snoc (t := { destination := .console stream, level, template })
      fun mentioned => missing (served.2 mentioned)

/-- Paths mean the same on both disks. -/
def SameGround (d d' : Disk) : Prop := d'.current = d.current ∧ d'.absolute = d.absolute

theorem SameGround.absolutePath_eq {d d' : Disk} (same : SameGround d d') (p : Path) :
    d'.absolutePath p = d.absolutePath p := by
  simp only [Disk.absolutePath, Disk.lexicalPlace, same.1, same.2]

/-- A registry behind the file target of a request, and the targets that the logger has then. -/
structure AddsFile (r r' : Registry) (path : Path) (ts us : List Target) : Prop where
  stream : r'.stream = r.stream
  ground : SameGround r.disk r'.disk
  loggers : r'.loggers = r.loggers
  kept : ts <+: us
  once : ∀ asked, ServeOnce asked ts → ServeOnce (asked ++ [.file (r.disk.absolutePath path)]) us

theorem addFile_adds {r r' : Registry} {q : Request} {template : Text} {path : Path}
    {ts us : List Target} (added : r.addFile q template path ts = .ok (r', us)) :
    AddsFile r r' path ts us := by
  have served : ∀ asked, ServeOnce asked ts →
      (ts.any (isFile (r.disk.absolutePath path)) = true ↔
        Sink.file (r.disk.absolutePath path) ∈ asked) := by
    intro asked once
    rw [← once.mem_iff]
    simp [isFile_eq]
  simp only [addFile] at added
  split at added
  case isTrue found =>
    cases added
    exact ⟨rfl, ⟨rfl, rfl⟩, rfl, List.prefix_rfl,
      fun asked once => once.again ((served asked once).1 found)⟩
  case isFalse missing =>
    cases made : r.now.makeDirectories path.parent with
    | error fault => simp [made] at added
    | ok d =>
      simp only [made] at added
      cases added
      refine ⟨rfl, ⟨rfl, rfl⟩, rfl, List.prefix_append ts _, fun asked once => ?_⟩
      exact once.snoc fun mentioned => missing ((served asked once).2 mentioned)

theorem logger_setLogger_self (r : Registry) (name : Text) (l : Logger) :
    (r.setLogger name l).logger name = l := by
  simp [logger, setLogger, Table.lookup_assign_self]

theorem logger_setLogger_of_ne (r : Registry) {name other : Text} (l : Logger)
    (different : other ≠ name) : (r.setLogger name l).logger other = r.logger other := by
  simp [logger, setLogger, Table.lookup_assign_of_ne l r.loggers different]

theorem logger_of_loggers {r r' : Registry} (same : r'.loggers = r.loggers) (name : Text) :
    r'.logger name = r.logger name := by
  rw [logger, logger, same]

/-- A registry behind a call: it has the targets that it had in their places, one more for each sink
that was asked for and had none, and nothing else of the other loggers has changed. -/
structure Serves (r r' : Registry) (q : Request) : Prop where
  stream : r'.stream = r.stream
  ground : SameGround r.disk r'.disk
  others : ∀ name, name ≠ canonicalName q.name → r'.logger name = r.logger name
  kept : (r.logger (canonicalName q.name)).targets <+: (r'.logger (canonicalName q.name)).targets
  once : ∀ asked, ServeOnce asked (r.logger (canonicalName q.name)).targets →
    ServeOnce (asked ++ r.sinksOf q) (r'.logger (canonicalName q.name)).targets

theorem withConsole_targets (stream : Nat) (q : Request) (template : Text) (l : Logger) :
    (withConsole stream q template l).targets =
      if q.console then addConsole stream q.level template l.targets else l.targets := by
  unfold withConsole withLevel
  split <;> rfl

theorem prefix_withConsole (stream : Nat) (q : Request) (template : Text) (l : Logger) :
    l.targets <+: (withConsole stream q template l).targets := by
  rw [withConsole_targets]
  split
  · exact prefix_addConsole stream q.level template l.targets
  · exact List.prefix_rfl

theorem ServeOnce.withConsole {asked : List Sink} {l : Logger} (once : ServeOnce asked l.targets)
    (stream : Nat) (q : Request) (template : Text) :
    ServeOnce (asked ++ if q.console then [.console stream] else [])
      (withConsole stream q template l).targets := by
  rw [withConsole_targets]
  split
  · exact once.addConsole stream q.level template
  · rw [List.append_nil]
    exact once

theorem configure_serves {r r' : Registry} {q : Request}
    (returned : r.configure q = (r', .ok ())) : Serves r r' q := by
  simp only [configure] at returned
  cases form : q.template with
  | error fault => simp [form] at returned
  | ok template =>
    simp only [form] at returned
    -- The logger behind the console target, which a file target may follow.
    have kept := prefix_withConsole r.stream q template (r.logger (canonicalName q.name))
    cases file : q.file with
    | none =>
      simp only [file] at returned
      cases returned
      refine ⟨rfl, ⟨rfl, rfl⟩, fun name => logger_setLogger_of_ne r _, ?_, ?_⟩
      · rw [logger_setLogger_self]
        exact kept
      · intro asked once
        rw [logger_setLogger_self, sinksOf, file]
        simpa using once.withConsole r.stream q template
    | some path =>
      simp only [file] at returned
      split at returned
      case h_1 fault failed => simp at returned
      case h_2 r₁ targets added =>
        cases returned
        have adds := addFile_adds added
        refine ⟨adds.stream, adds.ground, ?_, ?_, ?_⟩
        · intro name different
          rw [logger_setLogger_of_ne r₁ _ different, logger_of_loggers adds.loggers]
        · rw [logger_setLogger_self]
          exact kept.trans adds.kept
        · intro asked once
          have twice := adds.once _ (once.withConsole r.stream q template)
          rw [logger_setLogger_self, sinksOf, file]
          rw [List.append_assoc] at twice
          exact twice

/-! ## All calls of a run -/

/-- The registry behind calls that all return, or the fault of the first that does not. -/
def configureAll (r : Registry) : List Request → Except Fault Registry
  | [] => .ok r
  | q :: qs =>
    match r.configure q with
    | (r, .ok ()) => configureAll r qs
    | (_, .error fault) => .error fault

theorem configureAll_cons {r r' : Registry} {q : Request} {qs : List Request}
    (returned : r.configureAll (q :: qs) = .ok r') :
    ∃ r₁, r.configure q = (r₁, .ok ()) ∧ r₁.configureAll qs = .ok r' := by
  rw [configureAll] at returned
  split at returned
  case h_1 r₁ first => exact ⟨r₁, first, returned⟩
  case h_2 => cases returned

theorem Serves.sinksFor_eq {r r' : Registry} {q : Request} (served : Serves r r' q) (name : Text)
    (qs : List Request) : r'.sinksFor name qs = r.sinksFor name qs := by
  have same : r'.sinksOf = r.sinksOf := by
    funext q'
    simp only [sinksOf, served.stream, served.ground.absolutePath_eq]
  rw [sinksFor, sinksFor, same]

/-- One call for the loggers of all names. -/
theorem Serves.targets {r r' : Registry} {q : Request} (served : Serves r r' q) {name : Text}
    {asked : List Sink} (once : ServeOnce asked (r.logger name).targets) :
    ServeOnce (asked ++ r.sinksFor name [q]) (r'.logger name).targets := by
  by_cases mine : canonicalName q.name = name
  · subst mine
    simpa [sinksFor] using served.once asked once
  · rw [served.others name (Ne.symm mine)]
    simpa [sinksFor, mine] using once

theorem sinksFor_cons (r : Registry) (name : Text) (q : Request) (qs : List Request) :
    r.sinksFor name (q :: qs) = r.sinksFor name [q] ++ r.sinksFor name qs := by
  rw [sinksFor, sinksFor, sinksFor, ← List.flatMap_append, ← List.filter_append]
  rfl

theorem configureAll_targets {qs : List Request} {r r' : Registry}
    (returned : r.configureAll qs = .ok r') {name : Text} {asked : List Sink}
    (once : ServeOnce asked (r.logger name).targets) :
    ServeOnce (asked ++ r.sinksFor name qs) (r'.logger name).targets := by
  induction qs generalizing r asked with
  | nil =>
    cases returned
    simpa [sinksFor] using once
  | cons q qs ih =>
    obtain ⟨r₁, first, rest⟩ := configureAll_cons returned
    have served := configure_serves first
    have step := ih rest (served.targets once)
    rw [served.sinksFor_eq, List.append_assoc, ← sinksFor_cons] at step
    exact step

theorem ServeOnce.countP_file {asked : List Sink} {ts : List Target} (once : ServeOnce asked ts)
    (path : Path) : ts.countP (isFile path) = if .file path ∈ asked then 1 else 0 := by
  have counted : ts.countP (isFile path) = (ts.map Target.sink).count (.file path) := by
    rw [List.count, List.countP_map]
    congr 1
    funext t
    rw [isFile_eq]
    rfl
  rw [counted, once, (nodup_eraseDups asked).count]
  simp only [List.mem_eraseDups]

theorem ServeOnce.countP_console {asked : List Sink} {ts : List Target} (once : ServeOnce asked ts)
    {stream : Nat} (sole : ∀ s ∈ asked, s.isConsole → s = .console stream) :
    ts.countP (·.sink.isConsole) ≤ 1 := by
  have consoles : (ts.map Target.sink).countP Sink.isConsole ≤
      (ts.map Target.sink).count (.console stream) := by
    apply List.countP_mono_left
    intro s inside isConsole
    exact beq_iff_eq.2 (sole s ((once.mem_iff s).1 inside) isConsole)
  have single : (ts.map Target.sink).count (.console stream) ≤ 1 := by
    rw [once]
    exact List.nodup_iff_count_le_one.1 (nodup_eraseDups asked) _
  rw [List.countP_map] at consoles
  exact Nat.le_trans consoles single

theorem sole_console (r : Registry) (name : Text) (qs : List Request) :
    ∀ s ∈ r.sinksFor name qs, s.isConsole → s = .console r.stream := by
  intro s asked isConsole
  obtain ⟨q, -, mentioned⟩ := List.mem_flatMap.1 asked
  rcases List.mem_append.1 mentioned with console | file
  · split at console
    · exact List.mem_singleton.1 console
    · cases console
  · cases path : q.file with
    | none => simp [path] at file
    | some path' =>
      rw [path] at file
      rw [List.mem_singleton.1 file] at isConsole
      cases isConsole

/-- From loggers without targets, whatever calls return: the targets of a logger are those that it
was asked to have so far, in the order of their first mention, so it has one console at most and one
target for each file. One more call keeps the targets in their places, and leaves the other loggers
alone. -/
theorem configureAll_once {r r' : Registry} (bare : ∀ name, (r.logger name).targets = [])
    {qs : List Request} (returned : r.configureAll qs = .ok r') :
    (∀ name,
      (r'.logger name).targets.map Target.sink = (r.sinksFor name qs).eraseDups ∧
      (r'.logger name).targets.countP (·.sink.isConsole) ≤ 1 ∧
      ∀ path, (r'.logger name).targets.countP (isFile path) =
        if .file path ∈ r.sinksFor name qs then 1 else 0) ∧
    ∀ q r'', r'.configure q = (r'', .ok ()) → ∀ name,
      (r'.logger name).targets <+: (r''.logger name).targets ∧
      (name ≠ canonicalName q.name → r''.logger name = r'.logger name) := by
  constructor
  · intro name
    have none_ : ServeOnce [] (r.logger name).targets :=
      congrArg (List.map Target.sink) (bare name)
    have once : ServeOnce (r.sinksFor name qs) (r'.logger name).targets :=
      configureAll_targets returned none_
    exact ⟨once, once.countP_console (sole_console r name qs), once.countP_file⟩
  · intro q r'' call name
    have served := configure_serves call
    refine ⟨?_, served.others name⟩
    by_cases mine : name = canonicalName q.name
    · subst mine
      exact served.kept
    · simp only [served.others name mine, List.prefix_rfl]

/-- A file below the working directory `/work`, for two loggers and in three spellings. -/
def spelledRequests : List Request :=
  [("a", true, "x/../b/./c.log"), ("b", false, "b//c.log/"), ("a", true, "/work/b/c.log")].map
    fun (name, console, path) =>
      { name := name.toList, level := .number info, console, file := some (.ofText path.toList)
        template := .ok defaultTemplate }

theorem configureAll_of_spellings :
    ∃ r', ({ disk := { current := ["work".toList], absolute := true } } : Registry).configureAll
        spelledRequests = .ok r' ∧
      (r'.logger "a".toList).targets.map Target.sink =
        [.console 0, .file (.ofText "/work/b/c.log".toList)] ∧
      (r'.logger "b".toList).targets.map Target.sink =
        [.file (.ofText "/work/b/c.log".toList)] ∧
      ∀ r'' q, r'.configure q = (r'', .ok ()) →
        (r'.logger "a".toList).targets <+: (r''.logger "a".toList).targets := by
  set r : Registry := { disk := { current := ["work".toList], absolute := true } } with start
  have returns : (r.configureAll spelledRequests).toOption.isSome = true := by decide +kernel
  have bare : ∀ name, (r.logger name).targets = [] := by
    intro name
    rw [start, logger]
    cases name <;> rfl
  cases returned : r.configureAll spelledRequests with
  | error fault =>
    rw [returned] at returns
    cases returns
  | ok r' =>
    obtain ⟨targets, further⟩ := configureAll_once bare returned
    refine ⟨r', rfl, ?_, ?_, fun r'' q call => (further q r'' call _).1⟩
    · rw [(targets "a".toList).1]
      decide
    · rw [(targets "b".toList).1]
      decide

end Registry

end ParcelStatus.Log
