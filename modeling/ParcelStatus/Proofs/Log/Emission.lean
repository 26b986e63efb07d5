import ParcelStatus.Proofs.Log.Lines

/-!
# Entries on their way to targets

A logger that keeps its entries to itself writes each of them to its targets, as far as its level
and theirs let it through. Writing to a file changes files only, whatever becomes of them, so the
text on a console is that of all entries that are let through.

* `SameConsoles` — what writing to a file leaves as it was;
* `IsAlone`, `log_of_enabled`, `log_of_disabled` — one entry of such a logger;
* `logEach_shows` — what its consoles show of many entries.
-/

namespace ParcelStatus.Log

open Text

/-- The target as it was made, whatever file it has opened since. -/
def Target.asMade (t : Target) : Target := { t with opened := none }

namespace Registry

/-! ## Files are written beside the consoles -/

/-- Loggers and consoles are the same. -/
structure SameConsoles (r r' : Registry) : Prop where
  loggers : r'.loggers = r.loggers
  stream : r'.stream = r.stream
  consoles : r'.consoles = r.consoles

namespace SameConsoles

variable {r r' r'' : Registry}

theorem refl (r : Registry) : SameConsoles r r := ⟨rfl, rfl, rfl⟩

theorem trans (first : SameConsoles r r') (second : SameConsoles r' r'') : SameConsoles r r'' :=
  ⟨second.loggers.trans first.loggers, second.stream.trans first.stream,
    second.consoles.trans first.consoles⟩

end SameConsoles

theorem remove?_same {r r' : Registry} {place : Place} (removed : r.remove? place = some r') :
    SameConsoles r r' := by
  unfold remove? at removed
  split at removed
  · cases removed
  · cases removed
    exact ⟨rfl, rfl, rfl⟩

theorem moveAside_same (place : Place) (n : Nat) (r : Registry) :
    SameConsoles r (moveAside place n r).1 := by
  induction n generalizing r with
  | zero => exact .refl r
  | succ n ih =>
    simp only [moveAside]
    split
    · cases removed : r.remove? (asidePlace place (n + 2)) with
      | none => exact .refl r
      | some r₁ =>
        have moved :
            SameConsoles r₁ (r₁.move (asidePlace place (n + 1)) (asidePlace place (n + 2))) :=
          ⟨rfl, rfl, rfl⟩
        exact ((remove?_same removed).trans moved).trans (ih _)
    · exact ih r

theorem rotate_same (r : Registry) (place : Place) (backups : Int) :
    SameConsoles r (r.rotate place backups).1 := by
  have aside := moveAside_same place (backups - 1).toNat r
  unfold rotate
  split
  · exact .refl r
  · split
    case h_1 r₁ moved =>
      rw [moved] at aside
      exact aside
    case h_2 r₁ moved =>
      rw [moved] at aside
      cases removed : r₁.remove? (asidePlace place 1) with
      | none => exact aside
      | some r₂ =>
        refine (aside.trans (remove?_same removed)).trans ?_
        dsimp only
        split
        · exact ⟨rfl, rfl, rfl⟩
        · exact .refl r₂

theorem openFile?_same {r r' : Registry} {place : Place} {file : Nat}
    (opened : r.openFile? place = some (file, r')) : SameConsoles r r' := by
  unfold openFile? at opened
  split at opened
  · cases opened
    exact .refl r
  · split at opened
    · cases opened
      exact ⟨rfl, rfl, rfl⟩
    · cases opened

theorem writeFile_same (r : Registry) (place : Place) (maxOctets backups : Int)
    (opened : Option Nat) (line : Option Text) :
    SameConsoles r (r.writeFile place maxOctets backups opened line).2 := by
  have begun : ∀ file r₁, (opened.map (·, r) <|> r.openFile? place) = some (file, r₁) →
      SameConsoles r r₁ := by
    intro file r₁ begun
    cases opened with
    | some file' =>
      cases begun
      exact .refl r
    | none => exact openFile?_same begun
  unfold writeFile
  split
  · exact .refl r
  case h_2 file r₁ begins => exact begun file r₁ begins
  case h_3 file r₁ line begins =>
    refine (begun file r₁ begins).trans ?_
    dsimp only
    split
    · have rotated := rotate_same r₁ place backups
      split
      case h_1 r₂ moved =>
        rw [moved] at rotated
        exact rotated
      case h_2 r₂ moved =>
        rw [moved] at rotated
        split
        case h_1 file₂ r₃ reopened =>
          exact rotated.trans ((openFile?_same reopened).trans ⟨rfl, rfl, rfl⟩)
        case h_2 => exact rotated
    · exact ⟨rfl, rfl, rfl⟩

/-! ## One entry -/

/-- What a line adds to the consoles by way of a target. -/
def shownBy (line : Option Text) (t : Target) : List (Nat × Text) :=
  match t.destination, line with
  | .console stream, some line => [(stream, line ++ ['\n'])]
  | _, _ => []

/-- Loggers are the same, and the consoles show more. -/
structure ShowsMore (r r' : Registry) (more : List (Nat × Text)) : Prop where
  loggers : r'.loggers = r.loggers
  stream : r'.stream = r.stream
  consoles : r'.consoles = r.consoles ++ more

theorem SameConsoles.showsMore {r r' : Registry} (same : SameConsoles r r') : ShowsMore r r' [] :=
  ⟨same.loggers, same.stream, same.consoles.trans (List.append_nil _).symm⟩

theorem ShowsMore.trans {r r' r'' : Registry} {more more' : List (Nat × Text)}
    (first : ShowsMore r r' more) (second : ShowsMore r' r'' more') :
    ShowsMore r r'' (more ++ more') := by
  refine ⟨second.loggers.trans first.loggers, second.stream.trans first.stream, ?_⟩
  rw [second.consoles, first.consoles, List.append_assoc]

theorem emit_shows (line : Option Text) (t : Target) (r : Registry) :
    (emit line t r).1.asMade = t.asMade ∧ ShowsMore r (emit line t r).2 (shownBy line t) := by
  cases destination : t.destination with
  | console stream =>
    cases line with
    | none => simpa [emit, shownBy, destination] using (SameConsoles.refl r).showsMore
    | some line =>
      have more : ShowsMore r { r with consoles := r.consoles ++ [(stream, line ++ ['\n'])] }
          [(stream, line ++ ['\n'])] := ⟨rfl, rfl, rfl⟩
      simpa [emit, shownBy, destination] using more
  | file place maxOctets backups =>
    have same := writeFile_same r place maxOctets backups t.opened line
    simpa [emit, shownBy, destination, Target.asMade] using same.showsMore

/-- What an entry adds to the consoles by way of targets. -/
def shownByAll (timestamp : Text) (e : Entry) (ts : List Target) : List (Nat × Text) :=
  ts.flatMap fun t =>
    if e.level < t.level.toInt then [] else shownBy (fill t.template timestamp e) t

theorem emitTo_shows (timestamp : Text) (e : Entry) (ts : List Target) (r : Registry) :
    (emitTo timestamp e ts r).1.map Target.asMade = ts.map Target.asMade ∧
      ShowsMore r (emitTo timestamp e ts r).2 (shownByAll timestamp e ts) := by
  induction ts generalizing r with
  | nil => exact ⟨rfl, (SameConsoles.refl r).showsMore⟩
  | cons t ts ih =>
    rw [shownByAll, List.flatMap_cons, ← shownByAll]
    by_cases below : e.level < t.level.toInt
    · simp only [emitTo, below, if_true, List.map_cons, List.nil_append]
      exact ⟨by rw [(ih r).1], (ih r).2⟩
    · obtain ⟨made, shows⟩ := emit_shows (fill t.template timestamp e) t r
      obtain ⟨others, more⟩ := ih (emit (fill t.template timestamp e) t r).2
      simp only [emitTo, below, if_false, List.map_cons]
      exact ⟨by rw [made, others], shows.trans more⟩

/-- A logger with a level and targets of its own, which keeps its entries to itself. -/
structure IsAlone (r : Registry) (name : Text) (l : Logger) : Prop where
  known : r.loggers.lookup name = some l
  level : 0 < l.level.toInt
  alone : l.propagate = false
  targets : l.targets ≠ []

section Alone

variable {r : Registry} {e : Entry} {l : Logger}

theorem IsAlone.logger_eq {name : Text} (alone : IsAlone r name l) : r.logger name = l := by
  rw [logger, alone.known]
  rfl

theorem IsAlone.effectiveLevel_eq {name : Text} (alone : IsAlone r name l) :
    r.effectiveLevel name = l.level.toInt := by
  have nonzero : l.level.toInt ≠ 0 := Int.ne_of_gt alone.level
  simp [effectiveLevel, alone.logger_eq, nonzero]

theorem log_of_disabled (alone : IsAlone r e.logger l) (below : e.level < l.level.toInt)
    (timestamp : Text) : r.log timestamp e = r := by
  have disabled : r.isEnabled e.logger e.level = false := by
    simp [isEnabled, alone.effectiveLevel_eq, below]
  simp [log, alone.known, disabled]

theorem log_of_enabled (alone : IsAlone r e.logger l) (enough : l.level.toInt ≤ e.level)
    (timestamp : Text) :
    r.log timestamp e =
      (emitTo timestamp e l.targets r).2.setLogger e.logger
        { l with targets := (emitTo timestamp e l.targets r).1 } := by
  have enabled : r.isEnabled e.logger e.level = true := by
    have positive := Int.lt_of_lt_of_le alone.level enough
    simp [isEnabled, alone.effectiveLevel_eq, positive, enough]
  have receivers : r.receivers (e.logger :: r.above e.logger) = [e.logger] := by
    rw [Registry.receivers, alone.logger_eq, alone.alone]
    rfl
  simp [log, alone.known, enabled, receivers, alone.logger_eq, alone.targets, emitAt]

end Alone

/-! ## Many entries -/

/-- The loggers behind some entries. -/
def logEach (r : Registry) (timestamp : Text) (es : List Entry) : Registry :=
  es.foldl (fun r e => r.log timestamp e) r

theorem shownByAll_asMade (timestamp : Text) (e : Entry) (ts : List Target) :
    shownByAll timestamp e (ts.map Target.asMade) = shownByAll timestamp e ts := by
  unfold shownByAll
  rw [List.flatMap_map]
  rfl

theorem IsAlone.setLogger {r r' : Registry} {name : Text} {l : Logger} {ts : List Target}
    (alone : IsAlone r name l) (made : ts.map Target.asMade = l.targets.map Target.asMade) :
    IsAlone (r'.setLogger name { l with targets := ts }) name { l with targets := ts } := by
  refine ⟨Table.lookup_assign_self _ _ _, alone.level, alone.alone, fun empty => alone.targets ?_⟩
  have empty : ts = [] := empty
  rw [empty] at made
  exact List.map_eq_nil_iff.1 made.symm

/-- Entries of one logger: it stays as it is but for the files that its targets open, and the
consoles show all entries from its level on. -/
theorem logEach_shows {r : Registry} {name : Text} {l : Logger} (alone : IsAlone r name l)
    (timestamp : Text) {es : List Entry} (own : ∀ e ∈ es, e.logger = name) :
    ∃ ts, ts.map Target.asMade = l.targets.map Target.asMade ∧
      IsAlone (r.logEach timestamp es) name { l with targets := ts } ∧
      (r.logEach timestamp es).consoles =
        r.consoles ++ (es.filter (l.level.toInt ≤ ·.level)).flatMap fun e =>
          shownByAll timestamp e l.targets := by
  induction es generalizing r l with
  | nil => exact ⟨l.targets, rfl, alone, (List.append_nil _).symm⟩
  | cons e es ih =>
    have mine : e.logger = name := own e List.mem_cons_self
    have others := fun e' inside => own e' (.tail _ inside)
    subst mine
    rw [logEach, List.foldl_cons, ← logEach]
    rcases Int.lt_or_le e.level l.level.toInt with below | enough
    · have out : ¬l.level.toInt ≤ e.level := Int.not_le.2 below
      rw [log_of_disabled alone below, List.filter_cons_of_neg (by simpa using out)]
      exact ih alone others
    · rw [log_of_enabled alone enough, List.filter_cons_of_pos (by simpa using enough)]
      obtain ⟨made, shows⟩ := emitTo_shows timestamp e l.targets r
      obtain ⟨ts, made', alone', consoles⟩ := ih (alone.setLogger made) others
      refine ⟨ts, made'.trans made, alone', ?_⟩
      have same : ∀ e', shownByAll timestamp e' (emitTo timestamp e l.targets r).1 =
          shownByAll timestamp e' l.targets := by
        intro e'
        rw [← shownByAll_asMade, made, shownByAll_asMade]
      simp only [same] at consoles
      rw [consoles, List.flatMap_cons, ← List.append_assoc, ← shows.consoles]
      rfl

end Registry

end ParcelStatus.Log
