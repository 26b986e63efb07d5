import ParcelStatus.Proofs.Log.Emission
import ParcelStatus.Proofs.Text.Octets

/-!
# The text of a log file

As long as a log file stays below the size at which it is moved aside, what it held before is
followed by the lines of all entries that are let through, and by nothing else of this run.

* `FileHolds` — a file target and what it has written;
* `writeFile_holds` — one line;
* `LogsTo`, `LogsTo.logEach` — all entries of a logger with one file target.
-/

namespace ParcelStatus.Log.Registry

open Text

/-! ## One line -/

/-- What a target with a file has written of this run behind some octets: nothing yet, where a file
can be begun, or a text. -/
inductive FileHolds (r : Registry) (place : Place) (before : Nat) : Option Nat → Text → Prop where
  | fresh (places : r.places = []) (files : r.files = []) (sizes : r.sizes = [])
      (allowed : r.allowsFile place = true) (size : r.sizeOnDisk place = before) :
      FileHolds r place before none []
  | begun {file : Nat} {t : Text} (found : r.places.lookup place = some file)
      (contents : r.contents file = t) (size : r.sizeBefore file = before) :
      FileHolds r place before (some file) t

variable {before : Nat}

theorem FileHolds.textAt?_eq {r : Registry} {place : Place} {opened : Option Nat} {t : Text}
    (holds : FileHolds r place before opened t) (some_ : t ≠ []) : r.textAt? place = some t := by
  cases holds with
  | fresh => exact absurd rfl some_
  | begun found contents =>
    rw [textAt?, found, ← contents]
    rfl

theorem FileHolds.appendLine {r : Registry} {place : Place} {file : Nat} {t : Text}
    (holds : FileHolds r place before (some file) t) (line : Text) :
    FileHolds (r.appendLine file line) place before (some file) (t ++ (line ++ ['\n'])) := by
  cases holds with
  | begun found contents size =>
    refine .begun found ?_ size
    rw [← contents, Registry.appendLine, Registry.append, Registry.contents,
      Table.lookup_assign_self]
    rfl

/-- A file that is open, or that is begun now. -/
theorem FileHolds.begins {r : Registry} {place : Place} {opened : Option Nat} {t : Text}
    (holds : FileHolds r place before opened t) :
    ∃ file r', (opened.map (·, r) <|> r.openFile? place) = some (file, r') ∧
      FileHolds r' place before (some file) t := by
  cases holds with
  | @begun file t found contents size => exact ⟨file, r, rfl, .begun found contents size⟩
  | fresh places files sizes allowed size =>
    refine ⟨0, { r with places := [(place, 0)], files := [(0, [])], sizes := [(0, before)] }, ?_,
      .begun ?_ rfl rfl⟩
    · simp [openFile?, places, files, sizes, allowed, size, freshFile]
    · simp

theorem writeFile_holds {r : Registry} {place : Place} {opened : Option Nat} {t : Text}
    (holds : FileHolds r place before opened t) {maxOctets : Int} (backups : Int) {line : Text}
    (small : before + octetCount (t ++ (line ++ ['\n'])) < maxOctets) :
    FileHolds (r.writeFile place maxOctets backups opened (some line)).2 place before
      (r.writeFile place maxOctets backups opened (some line)).1 (t ++ (line ++ ['\n'])) := by
  obtain ⟨file, r', begins, begun⟩ := holds.begins
  have stays : ¬(0 < maxOctets ∧
      maxOctets ≤ (r'.sizeBefore file : Int) + octetCount (r'.contents file) + line.length + 1 ∧
      !r'.now.isDirectory place) := by
    rintro ⟨-, large, -⟩
    cases begun with
    | begun found contents size =>
      have length := length_le_octetCount (line ++ ['\n'])
      rw [octetCount_append] at small
      rw [contents, size] at large
      rw [List.length_append, List.length_singleton] at length
      omega
  have written : r.writeFile place maxOctets backups opened (some line) =
      (some file, r'.appendLine file line) := by
    simp only [writeFile, begins, if_neg stays]
  rw [written]
  exact begun.appendLine line

/-! ## One entry -/

theorem FileHolds.of_same {r r' : Registry} {place : Place} {opened : Option Nat} {t : Text}
    (holds : FileHolds r place before opened t) (disk : r'.disk = r.disk)
    (places : r'.places = r.places) (files : r'.files = r.files) (sizes : r'.sizes = r.sizes) :
    FileHolds r' place before opened t := by
  cases holds with
  | fresh none_ empty unsized allowed size =>
    refine .fresh (places.trans none_) (files.trans empty) (sizes.trans unsized) ?_ ?_
    · simpa only [allowsFile, now, disk, places] using allowed
    · rwa [sizeOnDisk, disk]
  | begun found contents size =>
    refine .begun (places ▸ found) ?_ ?_
    · rwa [Registry.contents, files]
    · rwa [sizeBefore, sizes]

def Target.OnConsole (t : Target) : Prop := ∃ stream, t.destination = .console stream

theorem emit_console_holds {r : Registry} {place : Place} {opened : Option Nat} {text : Text}
    (holds : FileHolds r place before opened text) {u : Target} (console : Target.OnConsole u)
    (line : Option Text) :
    (emit line u r).1 = u ∧ FileHolds (emit line u r).2 place before opened text := by
  obtain ⟨stream, destination⟩ := console
  cases line with
  | none => simpa [emit, destination] using holds
  | some line =>
    simp only [emit, destination, true_and]
    exact holds.of_same rfl rfl rfl rfl

theorem emitTo_consoles_holds (timestamp : Text) (e : Entry) {us : List Target}
    (consoles : ∀ u ∈ us, Target.OnConsole u) {r : Registry} {place : Place}
    {opened : Option Nat} {text : Text} (holds : FileHolds r place before opened text) :
    (emitTo timestamp e us r).1 = us ∧
      FileHolds (emitTo timestamp e us r).2 place before opened text := by
  induction us generalizing r with
  | nil => exact ⟨rfl, holds⟩
  | cons u us ih =>
    have others := fun u' inside => consoles u' (.tail _ inside)
    by_cases below : e.level < u.level.toInt
    · obtain ⟨same, held⟩ := ih others holds
      simp only [emitTo, below, if_true, same]
      exact ⟨trivial, held⟩
    · obtain ⟨first, held⟩ := emit_console_holds holds (consoles u List.mem_cons_self)
        (fill u.template timestamp e)
      obtain ⟨same, held'⟩ := ih others held
      simp only [emitTo, below, if_false, first, same]
      exact ⟨trivial, held'⟩

theorem emitTo_append (timestamp : Text) (e : Entry) (us vs : List Target) (r : Registry) :
    emitTo timestamp e (us ++ vs) r =
      ((emitTo timestamp e us r).1 ++ (emitTo timestamp e vs (emitTo timestamp e us r).2).1,
        (emitTo timestamp e vs (emitTo timestamp e us r).2).2) := by
  induction us generalizing r with
  | nil => rfl
  | cons u us ih =>
    simp only [List.cons_append, emitTo, ih]

/-- A logger alone with consoles and, behind them, a file that holds a text behind some octets. -/
structure LogsTo (r : Registry) (name : Text) (l : Logger) (us : List Target) (t : Target)
    (place : Place) (before : Nat) (maxOctets : Int) (text : Text) : Prop where
  alone : IsAlone r name l
  targets : l.targets = us ++ [t]
  consoles : ∀ u ∈ us, Target.OnConsole u
  destination : ∃ backups, t.destination = .file place maxOctets backups
  level : t.level = l.level
  template : t.template = defaultTemplate
  holds : FileHolds r place before t.opened text

theorem LogsTo.log {r : Registry} {e : Entry} {l : Logger} {us : List Target} {t : Target}
    {place : Place} {maxOctets : Int} {text : Text}
    (logs : LogsTo r e.logger l us t place before maxOctets text) (named : e.logger ≠ [])
    (enough : l.level.toInt ≤ e.level) (timestamp : Text)
    (small : before + octetCount (text ++ (stampedLine timestamp e ++ ['\n'])) < maxOctets) :
    ∃ opened, LogsTo (r.log timestamp e) e.logger
      { l with targets := us ++ [{ t with opened }] } us { t with opened } place before maxOctets
      (text ++ (stampedLine timestamp e ++ ['\n'])) := by
  obtain ⟨backups, destination⟩ := logs.destination
  -- The consoles stand in front and leave the file as it is.
  obtain ⟨same, held⟩ := emitTo_consoles_holds timestamp e logs.consoles logs.holds
  rcases shown : emitTo timestamp e us r with ⟨us', r₁⟩
  rw [shown] at same held
  have written := writeFile_holds held backups small
  rcases wrote : r₁.writeFile place maxOctets backups t.opened (some (stampedLine timestamp e)) with
    ⟨opened, r₂⟩
  rw [wrote] at written
  have reached : ¬e.level < t.level.toInt := by
    rw [logs.level]
    exact Int.not_lt.2 enough
  have last : emitTo timestamp e [t] r₁ = ([{ t with opened }], r₂) := by
    simp only [emitTo, reached, if_false, emit, destination, logs.template,
      fill_defaultTemplate timestamp e named, wrote]
  have all : emitTo timestamp e l.targets r = (us ++ [{ t with opened }], r₂) := by
    rw [logs.targets, emitTo_append, shown, last]
    exact congrArg (fun vs => (vs ++ _, r₂)) same
  refine ⟨opened, ?_⟩
  rw [log_of_enabled logs.alone enough, all]
  refine ⟨?_, rfl, logs.consoles, ⟨backups, destination⟩, logs.level, logs.template, ?_⟩
  · apply logs.alone.setLogger
    simp [logs.targets, Target.asMade]
  · exact written.of_same rfl rfl rfl rfl

/-! ## Many entries -/

/-- The file holds the lines of all entries that are let through, as long as they are not too many
for one file. -/
theorem LogsTo.logEach {r : Registry} {name : Text} {l : Logger} {us : List Target} {t : Target}
    {place : Place} {maxOctets : Int} {text : Text}
    (logs : LogsTo r name l us t place before maxOctets text) (named : name ≠ []) (timestamp : Text)
    {es : List Entry} (own : ∀ e ∈ es, e.logger = name)
    (small : before + octetCount (text ++ loggedText timestamp l.level.toInt es) < maxOctets) :
    ∃ l' t', LogsTo (r.logEach timestamp es) name l' us t' place before maxOctets
      (text ++ loggedText timestamp l.level.toInt es) := by
  induction es generalizing r l t text with
  | nil => exact ⟨l, t, by simpa [loggedText, Registry.logEach] using logs⟩
  | cons e es ih =>
    have mine : e.logger = name := own e List.mem_cons_self
    have others := fun e' inside => own e' (.tail _ inside)
    subst mine
    rw [Registry.logEach, List.foldl_cons, ← Registry.logEach]
    rcases Int.lt_or_le e.level l.level.toInt with below | enough
    · rw [loggedText_cons_of_lt below] at small ⊢
      rw [log_of_disabled logs.alone below]
      exact ih logs others small
    · rw [loggedText_cons_of_le enough, ← List.append_assoc] at small ⊢
      have first :
          before + octetCount (text ++ (stampedLine timestamp e ++ ['\n'])) < maxOctets := by
        rw [octetCount_append] at small
        omega
      obtain ⟨opened, logs'⟩ := logs.log named enough timestamp first
      have rest := ih logs' others small
      exact rest

end ParcelStatus.Log.Registry
