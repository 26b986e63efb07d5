import ParcelStatus.Proofs.Log.Emission
import ParcelStatus.Proofs.Log.Targets

/-!
# The level in force

An entry has to pass two levels: that of its logger, which every call sets anew, and that of the target,
which stays the level of the call that added it. So the level asked for last is in force downwards,
and upwards as far as no target was added at a higher one.

* `Action`, `Registry.actAll` — a history of calls, entries and changes of the console stream;
* `Registry.handed`, `Registry.emitAt_eq` — the targets that write an entry;
* `Registry.configure_sets`, `Registry.log_keepsMade` — what one action does to levels and targets;
* `Registry.mem_made_iff` — every target of a history was added by one of its calls;
* `Registry.level_in_force_iff` — when the level asked for last is in force;
* `Registry.lowered_level_not_in_force` — a call that lowers the level of a logger.
-/

namespace ParcelStatus.Log

open Text

/-! ## Histories -/

/-- What happens to the loggers. -/
inductive Action where
  | configure (q : Registry.Request)
  | log (timestamp : Text) (e : Entry)
  | swapStream

/-- The action is a call for the logger of a name. -/
def Action.Configures (name : Text) : Action → Prop
  | .configure q => Registry.canonicalName q.name = name
  | _ => False

namespace Registry

/-- The registry behind an action, whether a call returns or fails. -/
def act (r : Registry) : Action → Registry
  | .configure q => (r.configure q).1
  | .log timestamp e => r.log timestamp e
  | .swapStream => r.swapStream

def actAll (r : Registry) (history : List Action) : Registry := history.foldl act r

theorem actAll_append (r : Registry) (front back : List Action) :
    r.actAll (front ++ back) = (r.actAll front).actAll back :=
  List.foldl_append

/-! ## The targets that write an entry -/

/-- The targets of the logger of an entry that write it: none if the logger stops it, else those
that let its level through. -/
def handed (r : Registry) (e : Entry) : List Target :=
  if r.isEnabled e.logger e.level then
    (r.logger e.logger).targets.filter (·.level.toInt ≤ e.level)
  else []

/-- The entry written by each of some targets. -/
def writtenBy (timestamp : Text) (e : Entry) (ts : List Target) (r : Registry) : Registry :=
  ts.foldl (fun r t => (emit (fill t.template timestamp e) t r).2) r

theorem emitTo_eq (timestamp : Text) (e : Entry) (ts : List Target) (r : Registry) :
    (emitTo timestamp e ts r).2 =
      writtenBy timestamp e (ts.filter (·.level.toInt ≤ e.level)) r := by
  induction ts generalizing r with
  | nil => rfl
  | cons t ts ih =>
    by_cases below : e.level < t.level.toInt
    · have out : ¬t.level.toInt ≤ e.level := Int.not_le.2 below
      rw [List.filter_cons_of_neg (by simpa using out)]
      simp only [emitTo, below, if_true]
      exact ih r
    · rw [List.filter_cons_of_pos (by simpa using Int.not_lt.1 below)]
      simp only [emitTo, below, if_false]
      exact ih _

/-- The logger of an entry lets the targets write it that it is handed to, and no other. -/
theorem emitAt_eq {r : Registry} {e : Entry} (enabled : r.isEnabled e.logger e.level = true)
    (timestamp : Text) :
    ∃ loggers, emitAt timestamp e r e.logger =
      { writtenBy timestamp e (r.handed e) r with loggers } := by
  rw [handed, if_pos enabled, ← emitTo_eq]
  unfold emitAt
  dsimp only
  split
  case isTrue empty =>
    rw [empty]
    exact ⟨r.loggers, rfl⟩
  case isFalse => exact ⟨_, rfl⟩

/-! ## One action -/

/-- The targets of a logger as they were made. -/
def made (r : Registry) (name : Text) : List Target := (r.logger name).targets.map Target.asMade

/-- The logger of a name is there, or there still. -/
def IsKnown (r : Registry) (name : Text) : Prop := (r.loggers.lookup name).isSome = true

theorem isKnown_setLogger (r : Registry) (name : Text) (l : Logger) :
    (r.setLogger name l).IsKnown name := by
  rw [IsKnown, setLogger, Table.lookup_assign_self]
  rfl

theorem IsKnown.setLogger {r : Registry} {name other : Text} (known : r.IsKnown other) (l : Logger) :
    (r.setLogger name l).IsKnown other := by
  by_cases same : other = name
  · rw [same]
    exact isKnown_setLogger r name l
  · rwa [IsKnown, Registry.setLogger, Table.lookup_assign_of_ne l r.loggers same]

/-- Levels are the same, and targets but for the files that they have opened. -/
structure KeepsMade (r r' : Registry) : Prop where
  level : ∀ name, (r'.logger name).level = (r.logger name).level
  made : ∀ name, r'.made name = r.made name
  known : ∀ name, r.IsKnown name → r'.IsKnown name

namespace KeepsMade

theorem refl (r : Registry) : KeepsMade r r := ⟨fun _ => rfl, fun _ => rfl, fun _ => id⟩

theorem trans {r r' r'' : Registry} (first : KeepsMade r r') (second : KeepsMade r' r'') :
    KeepsMade r r'' where
  level name := (second.level name).trans (first.level name)
  made name := (second.made name).trans (first.made name)
  known name known := second.known name (first.known name known)

theorem of_loggers {r r' : Registry} (same : r'.loggers = r.loggers) : KeepsMade r r' where
  level name := by rw [logger_of_loggers same]
  made name := by rw [Registry.made, Registry.made, logger_of_loggers same]
  known name known := by rwa [IsKnown, same]

/-- A logger that is put in the place of another one of its level and its targets. -/
theorem setLogger {r : Registry} {name : Text} {l : Logger}
    (level : l.level = (r.logger name).level)
    (targets : l.targets.map Target.asMade = r.made name) :
    KeepsMade r (r.setLogger name l) := by
  refine ⟨fun other => ?_, fun other => ?_, fun _ known => known.setLogger l⟩
  · by_cases same : other = name
    · rw [same, logger_setLogger_self, level]
    · rw [logger_setLogger_of_ne r l same]
  · by_cases same : other = name
    · rw [Registry.made, same, logger_setLogger_self, targets]
    · rw [Registry.made, logger_setLogger_of_ne r l same, Registry.made]

end KeepsMade

theorem emitAt_keepsMade (timestamp : Text) (e : Entry) (r : Registry) (name : Text) :
    KeepsMade r (emitAt timestamp e r name) := by
  obtain ⟨targets, shows⟩ := emitTo_shows timestamp e (r.logger name).targets r
  have written := KeepsMade.of_loggers shows.loggers
  unfold emitAt
  dsimp only
  split
  case isTrue => exact written
  case isFalse =>
    refine written.trans (.setLogger (written.level name).symm ?_)
    rw [written.made name]
    exact targets

theorem log_keepsMade (timestamp : Text) (e : Entry) (r : Registry) :
    KeepsMade r (r.log timestamp e) := by
  have known : KeepsMade r
      (if (r.loggers.lookup e.logger).isSome then r else r.setLogger e.logger {}) := by
    split
    case isTrue => exact .refl r
    case isFalse unknown =>
      have none_ : r.logger e.logger = {} := by
        rw [logger, Option.not_isSome_iff_eq_none.1 unknown]
        rfl
      apply KeepsMade.setLogger
      · rw [none_]
      · rw [made, none_]
  have all : ∀ (names : List Text) (r : Registry),
      KeepsMade r (names.foldl (emitAt timestamp e) r) := by
    intro names
    induction names with
    | nil => exact .refl
    | cons name names ih =>
      intro r
      exact (emitAt_keepsMade timestamp e r name).trans (ih _)
  unfold log
  refine known.trans ?_
  generalize (if (r.loggers.lookup e.logger).isSome then r else r.setLogger e.logger {}) = r₁
  dsimp only
  split
  · exact .refl r₁
  · split
    · split
      · exact .of_loggers rfl
      · exact .refl r₁
    · exact all _ r₁

/-- The second targets are the first ones and behind them some of one level. -/
def Extends (level : Level) (ts us : List Target) : Prop :=
  ∃ new, us = ts ++ new ∧ ∀ t ∈ new, t.level = level

namespace Extends

variable {level : Level} {ts us vs : List Target}

theorem refl (level : Level) (ts : List Target) : Extends level ts ts :=
  ⟨[], (List.append_nil ts).symm, List.forall_mem_nil _⟩

theorem snoc {t : Target} (ts : List Target) (same : t.level = level) :
    Extends level ts (ts ++ [t]) := by
  refine ⟨[t], rfl, fun u member => ?_⟩
  rw [List.mem_singleton.1 member, same]

theorem trans (first : Extends level ts us) (second : Extends level us vs) :
    Extends level ts vs := by
  obtain ⟨new, rfl, levels⟩ := first
  obtain ⟨more, rfl, levels'⟩ := second
  exact ⟨new ++ more, List.append_assoc ts new more, List.forall_mem_append.2 ⟨levels, levels'⟩⟩

end Extends

/-- The logger of a request behind the call: it has the level of the request, and so have the targets
that it has got. -/
structure Sets (r r' : Registry) (q : Request) : Prop where
  known : r'.IsKnown (canonicalName q.name)
  knownOthers : ∀ name, r.IsKnown name → r'.IsKnown name
  level : (r'.logger (canonicalName q.name)).level = q.level
  others : ∀ name, name ≠ canonicalName q.name → r'.logger name = r.logger name
  targets : Extends q.level (r.logger (canonicalName q.name)).targets
    (r'.logger (canonicalName q.name)).targets

theorem Sets.setLogger {r r₁ : Registry} {q : Request} {l : Logger}
    (same : r₁.loggers = r.loggers) (level : l.level = q.level)
    (targets : Extends q.level (r.logger (canonicalName q.name)).targets l.targets) :
    Sets r (r₁.setLogger (canonicalName q.name) l) q := by
  refine ⟨isKnown_setLogger r₁ _ l, fun name known => ?_, ?_, fun name different => ?_, ?_⟩
  · have known : r₁.IsKnown name := by rwa [IsKnown, same]
    exact known.setLogger l
  · rw [logger_setLogger_self, level]
  · rw [logger_setLogger_of_ne r₁ l different, logger_of_loggers same]
  · rw [logger_setLogger_self]
    exact targets

theorem level_withConsole (stream : Nat) (q : Request) (template : Text) (l : Logger) :
    (withConsole stream q template l).level = q.level := by
  unfold withConsole withLevel
  split <;> rfl

theorem withConsole_extends (stream : Nat) (q : Request) (template : Text) (l : Logger) :
    Extends q.level l.targets (withConsole stream q template l).targets := by
  rw [withConsole_targets]
  unfold addConsole
  split_ifs
  · exact .refl q.level l.targets
  · exact .snoc l.targets rfl
  · exact .refl q.level l.targets

theorem addFile_extends {r r' : Registry} {q : Request} {template : Text} {path : Path}
    {ts us : List Target} (added : r.addFile q template path ts = .ok (r', us)) :
    Extends q.level ts us := by
  simp only [addFile] at added
  split at added
  case isTrue =>
    cases added
    exact .refl q.level ts
  case isFalse =>
    cases done : r.now.makeDirectories path.parent with
    | error fault => simp [done] at added
    | ok d =>
      simp only [done] at added
      cases added
      exact .snoc ts rfl

/-- A call sets the level first, so it does so whether it returns or fails. -/
theorem configure_sets (r : Registry) (q : Request) : Sets r (r.configure q).1 q := by
  simp only [configure]
  cases q.template with
  | error fault => exact .setLogger rfl rfl (.refl q.level _)
  | ok template =>
    have level := level_withConsole r.stream q template (r.logger (canonicalName q.name))
    have console := withConsole_extends r.stream q template (r.logger (canonicalName q.name))
    dsimp only
    cases q.file with
    | none => exact .setLogger rfl level console
    | some path =>
      dsimp only
      split
      case h_1 fault failed => exact .setLogger rfl level console
      case h_2 r₁ us added =>
        have same := (addFile_adds added).loggers
        exact .setLogger same level (console.trans (addFile_extends added))

/-! ## All actions of a history -/

/-- The targets that an action adds to a logger. -/
def added (r : Registry) (name : Text) (a : Action) : List Target :=
  ((r.act a).made name).drop (r.made name).length

theorem configure_made (r : Registry) (q : Request) :
    Extends q.level (r.made (canonicalName q.name))
      ((r.act (.configure q)).made (canonicalName q.name)) := by
  obtain ⟨new, targets, levels⟩ := (configure_sets r q).targets
  refine ⟨new.map Target.asMade, ?_, ?_⟩
  · rw [act, made, targets, List.map_append, made]
  · intro t member
    obtain ⟨u, inside, rfl⟩ := List.mem_map.1 member
    exact levels u inside

/-- Only a call for the logger adds targets to it. -/
theorem made_act {r : Registry} {name : Text} {a : Action} (other : ¬a.Configures name) :
    (r.act a).made name = r.made name := by
  cases a with
  | configure q =>
    rw [act, made, (configure_sets r q).others name (Ne.symm other), made]
  | log timestamp e => exact (log_keepsMade timestamp e r).made name
  | swapStream => rfl

theorem made_act_eq (r : Registry) (name : Text) (a : Action) :
    (r.act a).made name = r.made name ++ r.added name a := by
  have kept : r.made name <+: (r.act a).made name := by
    by_cases mine : a.Configures name
    · cases a with
      | configure q =>
        obtain ⟨new, behind, -⟩ := configure_made r q
        cases mine
        exact behind ▸ List.prefix_append _ new
      | log | swapStream => cases mine
    · simp only [made_act mine, List.prefix_rfl]
  obtain ⟨new, behind⟩ := kept
  rw [added, ← behind, List.drop_left]

theorem exists_of_mem_added {r : Registry} {name : Text} {a : Action} {t : Target}
    (new : t ∈ r.added name a) :
    ∃ q, a = .configure q ∧ canonicalName q.name = name ∧ t.level = q.level := by
  by_cases mine : a.Configures name
  · cases a with
    | configure q =>
      obtain ⟨us, behind, levels⟩ := configure_made r q
      cases mine
      rw [added, behind, List.drop_left] at new
      exact ⟨q, rfl, rfl, levels t new⟩
    | log | swapStream => cases mine
  · rw [added, made_act mine, List.drop_length] at new
    cases new

/-- The targets behind a history are those in front of it and those that its actions have added. -/
theorem mem_made_iff {r : Registry} {name : Text} {history : List Action} {t : Target} :
    t ∈ (r.actAll history).made name ↔ t ∈ r.made name ∨
      ∃ front a back, history = front ++ a :: back ∧ t ∈ (r.actAll front).added name a := by
  induction history generalizing r with
  | nil =>
    rw [actAll, List.foldl_nil]
    constructor
    · exact .inl
    · rintro (inside | ⟨front, a, back, split, -⟩)
      · exact inside
      · cases front <;> cases split
  | cons first history ih =>
    show t ∈ ((r.act first).actAll history).made name ↔ _
    rw [ih, made_act_eq, List.mem_append, or_assoc]
    refine or_congr_right ⟨?_, ?_⟩
    · rintro (new | ⟨front, a, back, rfl, new⟩)
      · exact ⟨[], first, history, rfl, new⟩
      · exact ⟨first :: front, a, back, rfl, new⟩
    · rintro ⟨front, a, back, split, new⟩
      cases front with
      | nil =>
        cases split
        exact .inl new
      | cons b front =>
        cases split
        exact .inr ⟨front, a, back, rfl, new⟩

/-- Actions that are no calls for the logger leave its level as it is. -/
theorem level_actAll {name : Text} {history : List Action}
    (others : ∀ a ∈ history, ¬a.Configures name) {r : Registry} (known : r.IsKnown name) :
    (r.actAll history).IsKnown name ∧
      ((r.actAll history).logger name).level = (r.logger name).level := by
  induction history generalizing r with
  | nil => exact ⟨known, rfl⟩
  | cons a history ih =>
    have step : (r.act a).IsKnown name ∧ ((r.act a).logger name).level = (r.logger name).level := by
      cases a with
      | configure q =>
        have sets := configure_sets r q
        have other : name ≠ canonicalName q.name := Ne.symm (others _ List.mem_cons_self)
        refine ⟨sets.knownOthers name known, ?_⟩
        rw [act, sets.others name other]
      | log timestamp e =>
        have keeps := log_keepsMade timestamp e r
        exact ⟨keeps.known name known, keeps.level name⟩
      | swapStream => exact ⟨known, rfl⟩
    obtain ⟨known', level⟩ := ih (fun b inside => others b (.tail _ inside)) step.1
    exact ⟨known', level.trans step.2⟩

/-! ## The level asked for last -/

section Level

variable {r : Registry} {e : Entry}

/-- A logger that is there stops what is below its level. Level zero is no exception: the loggers
above decide then, but nothing at a level below zero is enabled at all. -/
theorem isEnabled_of_below (below : e.level < (r.logger e.logger).level.toInt) :
    r.isEnabled e.logger e.level = false := by
  by_cases zero : (r.logger e.logger).level.toInt = 0
  · have negative : ¬0 < e.level := by omega
    simp [isEnabled, negative]
  · have stopped : ¬r.effectiveLevel e.logger ≤ e.level := by
      simpa [effectiveLevel, zero] using below
    simp [isEnabled, stopped]

theorem log_of_below (known : r.IsKnown e.logger)
    (below : e.level < (r.logger e.logger).level.toInt) (timestamp : Text) :
    r.log timestamp e = r := by
  have known : (r.loggers.lookup e.logger).isSome = true := known
  simp [log, known, isEnabled_of_below below]

theorem isEnabled_of_enough (positive : 0 < (r.logger e.logger).level.toInt)
    (enough : (r.logger e.logger).level.toInt ≤ e.level) :
    r.isEnabled e.logger e.level = true := by
  have own : r.effectiveLevel e.logger = (r.logger e.logger).level.toInt := by
    simp [effectiveLevel, Int.ne_of_gt positive]
  have above : 0 < e.level := Int.lt_of_lt_of_le positive enough
  simp [isEnabled, own, above, enough]

/-- An entry that is enabled goes to the targets that it is handed to first, and to those of the
loggers above then. -/
theorem log_of_isEnabled (known : r.IsKnown e.logger)
    (enabled : r.isEnabled e.logger e.level = true) (targets : (r.logger e.logger).targets ≠ [])
    (timestamp : Text) :
    ∃ (loggers : List (Text × Logger)) (above : List Text), r.log timestamp e =
      above.foldl (emitAt timestamp e) { writtenBy timestamp e (r.handed e) r with loggers } := by
  have known : (r.loggers.lookup e.logger).isSome = true := known
  obtain ⟨further, names⟩ :
      ∃ further, r.receivers (e.logger :: r.above e.logger) = e.logger :: further := by
    rw [receivers]
    split
    · exact ⟨_, rfl⟩
    · exact ⟨[], rfl⟩
  obtain ⟨loggers, first⟩ := emitAt_eq enabled timestamp
  refine ⟨loggers, further, ?_⟩
  rw [← first]
  simp [log, known, enabled, names, targets]

/-- A call of a history that has added a target to a logger. -/
def Adds (r : Registry) (name : Text) (history : List Action) (q : Request) : Prop :=
  ∃ front back, history = front ++ .configure q :: back ∧
    (r.actAll front).added name (.configure q) ≠ []

theorem exists_adds {name : Text} {history : List Action} {t : Target}
    (bare : (r.logger name).targets = [])
    (inside : t ∈ ((r.actAll history).logger name).targets) :
    ∃ q, r.Adds name history q ∧ t.level = q.level := by
  have made : t.asMade ∈ (r.actAll history).made name := List.mem_map_of_mem inside
  rcases mem_made_iff.1 made with old | ⟨front, a, back, split, new⟩
  · rw [Registry.made, bare] at old
    cases old
  · obtain ⟨q, rfl, -, level⟩ := exists_of_mem_added new
    exact ⟨q, ⟨front, back, split, List.ne_nil_of_mem new⟩, level⟩

theorem Adds.exists_target {name : Text} {history : List Action} {q : Request}
    (adds : r.Adds name history q) :
    ∃ t ∈ ((r.actAll history).logger name).targets, t.level = q.level := by
  obtain ⟨front, back, split, some_⟩ := adds
  obtain ⟨t, new⟩ := List.exists_mem_of_ne_nil _ some_
  obtain ⟨q', same, -, level⟩ := exists_of_mem_added new
  cases same
  have made : t ∈ (r.actAll history).made name := mem_made_iff.2 (.inr ⟨front, _, back, split, new⟩)
  obtain ⟨u, inside, rfl⟩ := List.mem_map.1 made
  exact ⟨u, inside, level⟩

/-- Everything from the level of the logger on is handed to all of its targets if and only if that
level is positive and no target has a higher one. -/
theorem handed_all_iff {name : Text} :
    (∀ e : Entry, e.logger = name → (r.logger name).level.toInt ≤ e.level →
        r.handed e = (r.logger name).targets) ↔
      (r.logger name).targets = [] ∨ 0 < (r.logger name).level.toInt ∧
        ∀ t ∈ (r.logger name).targets, t.level.toInt ≤ (r.logger name).level.toInt := by
  constructor
  · intro all
    -- The entry that is just at the level decides.
    have least := all ⟨(r.logger name).level.toInt, name, []⟩ rfl (Int.le_refl _)
    unfold handed at least
    split at least
    case isFalse => exact .inl least.symm
    case isTrue enabled =>
      have positive : 0 < (r.logger name).level.toInt := by
        simp only [isEnabled, Bool.and_eq_true, decide_eq_true_eq] at enabled
        exact enabled.1
      refine .inr ⟨positive, fun t inside => ?_⟩
      simpa using List.filter_eq_self.1 least t inside
  · rintro (none_ | ⟨positive, low⟩) e rfl enough
    · unfold handed
      split
      · rw [none_]
        rfl
      · exact none_.symm
    · rw [handed, if_pos (isEnabled_of_enough positive enough)]
      apply List.filter_eq_self.2
      intro t inside
      exact decide_eq_true (Int.le_trans (low t inside) enough)

end Level

/-- A logger without targets, and a history whose last call for it asks for a level. From then on
nothing below that level is written. What is not below it is handed to all targets of the logger if
and only if the level is positive and no call that added one of them asked for a higher one. What a
logger hands to targets is written by them before the loggers above it get the entry. -/
theorem level_in_force_iff {r : Registry} {name : Text} (bare : (r.logger name).targets = [])
    {before after : List Action} {q : Request} (mine : canonicalName q.name = name)
    (last : ∀ a ∈ after, ¬a.Configures name) :
    let history := before ++ .configure q :: after
    let r' := r.actAll history
    (∀ timestamp e, e.logger = name → e.level < q.level.toInt →
      r'.handed e = [] ∧ r'.log timestamp e = r') ∧
    ((∀ e, e.logger = name → q.level.toInt ≤ e.level → r'.handed e = (r'.logger name).targets) ↔
      (r'.logger name).targets = [] ∨ 0 < q.level.toInt ∧
        ∀ q₀, r.Adds name history q₀ → q₀.level.toInt ≤ q.level.toInt) ∧
    ∀ timestamp e, e.logger = name → r'.handed e ≠ [] →
      ∃ (loggers : List (Text × Logger)) (above : List Text),
        r'.log timestamp e = above.foldl (emitAt timestamp e)
          { writtenBy timestamp e (r'.handed e) r' with loggers } := by
  intro history r'
  have sets := configure_sets (r.actAll before) q
  obtain ⟨known, level⟩ : r'.IsKnown name ∧ (r'.logger name).level = q.level := by
    have behind : r' = ((r.actAll before).act (.configure q)).actAll after :=
      actAll_append r before (.configure q :: after)
    have set_ : ((r.actAll before).act (.configure q)).IsKnown name ∧
        (((r.actAll before).act (.configure q)).logger name).level = q.level := by
      cases mine
      exact ⟨sets.known, sets.level⟩
    obtain ⟨known, level⟩ := level_actAll last set_.1
    rw [behind]
    exact ⟨known, level.trans set_.2⟩
  refine ⟨?_, ?_, ?_⟩
  · rintro timestamp e rfl below
    rw [← level] at below
    refine ⟨?_, log_of_below known below timestamp⟩
    rw [handed, isEnabled_of_below below]
    rfl
  · rw [← level, handed_all_iff]
    refine or_congr_right (and_congr_right fun _ => ⟨?_, ?_⟩)
    · intro low q₀ adds
      obtain ⟨t, inside, same⟩ := adds.exists_target
      exact same ▸ low t inside
    · intro low t inside
      obtain ⟨q₀, adds, same⟩ := exists_adds bare inside
      exact same ▸ low q₀ adds
  · rintro timestamp e rfl some_
    have enabled : r'.isEnabled e.logger e.level = true := by
      by_contra disabled
      exact some_ (if_neg disabled)
    have targets : (r'.logger e.logger).targets ≠ [] := by
      intro none_
      rw [handed, if_pos enabled, none_] at some_
      exact some_ rfl
    exact log_of_isEnabled known enabled targets timestamp

/-- A call for the logger `a` with a console target. -/
def callFor (level : Int) : Request :=
  { name := "a".toList, level := .number level, template := .ok defaultTemplate }

/-- Two console streams get targets at rising levels. -/
def raisingCalls : List Action :=
  [.configure (callFor debug), .swapStream, .configure (callFor info)]

/-- The last call asks for a higher level still, and an entry of another logger follows. -/
theorem level_in_force_of_raised :
    let r' := actAll {}
      (raisingCalls ++ .configure (callFor error) :: [.log [] ⟨critical, "b".toList, []⟩])
    (r'.logger "a".toList).targets.length = 2 ∧
    (∀ timestamp e, e.logger = "a".toList → e.level < error →
      r'.handed e = [] ∧ r'.log timestamp e = r') ∧
    ∀ e, e.logger = "a".toList → error ≤ e.level →
      r'.handed e = (r'.logger "a".toList).targets := by
  have last : ∀ a ∈ [Action.log [] ⟨critical, "b".toList, []⟩], ¬a.Configures "a".toList := by
    intro a inside
    obtain rfl := List.mem_singleton.1 inside
    exact id
  obtain ⟨below, enough, -⟩ :=
    @level_in_force_iff {} "a".toList rfl raisingCalls _ (callFor error) rfl last
  refine ⟨by decide +kernel, below, enough.2 (.inr ⟨by decide, ?_⟩)⟩
  rintro q₀ ⟨front, back, split, -⟩
  have called : Action.configure q₀ ∈ front ++ .configure q₀ :: back := List.mem_append_cons_self
  rw [← split] at called
  simp only [raisingCalls, List.cons_append, List.nil_append, List.mem_cons, Action.configure.injEq,
    reduceCtorEq, List.not_mem_nil, or_false, false_or] at called
  rcases called with rfl | rfl | rfl <;> decide

/-- The console target of a call at a high level stays there when a second call asks for a low one:
the logger lets an entry through, and its only target does not write it. -/
theorem lowered_level_not_in_force :
    let r' := actAll {} [.configure (callFor error), .configure (callFor debug)]
    let e : Entry := ⟨info, "a".toList, "starting".toList⟩
    debug ≤ e.level ∧ (r'.logger "a".toList).targets.map Target.destination = [.console 0] ∧
      r'.isEnabled "a".toList e.level = true ∧ r'.handed e = [] ∧ (r'.log [] e).consoles = [] := by
  decide +kernel

end Registry

end ParcelStatus.Log
