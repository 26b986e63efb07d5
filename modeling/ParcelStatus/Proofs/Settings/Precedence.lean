import ParcelStatus.Proofs.Settings.Loading
import Mathlib.Data.List.Induction

/-!
# The first value of a variable

Without override, files of settings only add to the environment. Whatever calls load them, from
whatever disk, a variable keeps the value it has, and one that has none takes that of the first file
that gives it one.

* `loadNames_unset_iff`, `File.lookup_resolve_eq_some_iff` — what the bindings of a file do to one
  variable;
* `Call`, `Call.Gives` — the calls that load files, and what their files give;
* `Call.env_of_set`, `Call.env_of_unset` — one variable behind one call;
* `first_value_wins` — one variable behind all calls, and the settings that are read.
-/

namespace ParcelStatus.Settings

open Text Outcome

/-! ## One variable and the names of a file -/

section

variable {env : Environment} {name value : Text} (names : File.Resolved)

theorem loadNames_cons_of_set {old : Text} (set : env.get? name = some old) :
    loadNames false env ((name, some value) :: names) = loadNames false env names := by
  simp [loadNames, set]

theorem loadNames_cons_of_unset (unset : env.get? name = none) (holdable : Holdable name value) :
    loadNames false env ((name, some value) :: names) =
      loadNames false (env.set name value) names := by
  simp [loadNames, unset, put_eq_ok env holdable]

theorem loadNames_cons_of_refused (unset : env.get? name = none) (refused : ¬Holdable name value) :
    (loadNames false env ((name, some value) :: names)).env = env := by
  obtain ⟨f, fails, -⟩ := put_eq_error env refused
  simp [loadNames, unset, fails]

end

theorem loadNames_of_set {names : File.Resolved} {env : Environment} {name value : Text}
    (set : env.get? name = some value) :
    (loadNames false env names).env.get? name = some value := by
  induction names generalizing env with
  | nil => exact set
  | cons first names ih =>
    obtain ⟨other, given⟩ := first
    cases given with
    | none => exact ih set
    | some given =>
      cases known : env.get? other with
      | some old =>
        rw [loadNames_cons_of_set names known]
        exact ih set
      | none =>
        by_cases holdable : Holdable other given
        · have different : name ≠ other := by
            rintro rfl
            rw [set] at known
            cases known
          rw [loadNames_cons_of_unset names known holdable]
          apply ih
          rw [Environment.get?_set_of_ne env given different, set]
        · rw [loadNames_cons_of_refused names known holdable, set]

/-- The names of a file reach a value of one of them: nothing up to it stops the loading. -/
def Reaches (env : Environment) (names : File.Resolved) (name value : Text) : Prop :=
  ∃ front behind, names = front ++ (name, some value) :: behind ∧
    AllHoldable env (front ++ [(name, some value)])

section Reaches

variable {env : Environment} {names : File.Resolved} {name value other : Text}

theorem not_reaches (absent : name ∉ names.map Prod.fst) : ¬Reaches env names name value := by
  rintro ⟨front, behind, rfl, -⟩
  apply absent
  rw [List.map_append]
  exact List.mem_append_cons_self

theorem Reaches.lookup (reaches : Reaches env names name value)
    (distinct : (names.map Prod.fst).Nodup) : names.lookup name = some (some value) := by
  obtain ⟨front, behind, rfl, -⟩ := reaches
  rw [List.map_append, List.map_cons, List.nodup_append] at distinct
  have first : front.lookup name = none := by
    rw [List.lookup_eq_none_iff]
    intro pair inside
    rw [bne_iff_ne]
    intro same
    exact distinct.2.2 _ (List.mem_map_of_mem inside) _ List.mem_cons_self same.symm
  rw [List.lookup_append, first, List.lookup_cons_self]
  rfl

theorem reaches_cons_self {given : Option Text} (once : name ∉ names.map Prod.fst)
    (unset : env.get? name = none) :
    Reaches env ((name, given) :: names) name value ↔
      given = some value ∧ Holdable name value := by
  constructor
  · rintro ⟨front, behind, split, all⟩
    cases front with
    | nil =>
      cases split
      exact ⟨rfl, all name value List.mem_cons_self unset⟩
    | cons first front =>
      cases split
      have none_ : ¬Reaches env (front ++ (name, some value) :: behind) name value :=
        not_reaches once
      exact absurd ⟨front, behind, rfl, fun n v inside => all n v (.tail _ inside)⟩ none_
  · rintro ⟨rfl, holdable⟩
    refine ⟨[], names, rfl, fun other given inside _ => ?_⟩
    cases List.mem_singleton.1 inside
    exact holdable

/-- What stands in front of a name under another one does not keep it from being reached if
it can be held, and once it is held it changes nothing. -/
theorem reaches_cons_of_ne {given : Option Text} {env' : Environment} (different : name ≠ other)
    (passes : ∀ front behind, names = front ++ (name, some value) :: behind →
      (AllHoldable env ((other, given) :: (front ++ [(name, some value)])) ↔
        AllHoldable env' (front ++ [(name, some value)]))) :
    Reaches env ((other, given) :: names) name value ↔ Reaches env' names name value := by
  constructor
  · rintro ⟨front, behind, split, all⟩
    cases front with
    | nil =>
      cases split
      exact absurd rfl different
    | cons first front =>
      cases split
      exact ⟨front, behind, rfl, (passes front behind rfl).1 all⟩
  · rintro ⟨front, behind, split, all⟩
    refine ⟨(other, given) :: front, behind, ?_, (passes front behind split).2 all⟩
    rw [split]
    rfl

theorem not_reaches_of_refused {refused : Text} (unset : env.get? other = none)
    (unholdable : ¬Holdable other refused) :
    ¬Reaches env ((other, some refused) :: names) name value := by
  rintro ⟨front, behind, split, all⟩
  apply unholdable
  cases front with
  | nil =>
    cases split
    exact all name value List.mem_cons_self unset
  | cons first front =>
    cases split
    exact all other refused List.mem_cons_self unset

end Reaches

/-- A variable that is not set takes the value that the names of a file reach. -/
theorem loadNames_unset_iff {names : File.Resolved} (distinct : (names.map Prod.fst).Nodup)
    {env : Environment} {name value : Text} (unset : env.get? name = none) :
    (loadNames false env names).env.get? name = some value ↔ Reaches env names name value := by
  induction names generalizing env with
  | nil => simp [loadNames, unset, Reaches]
  | cons first names ih =>
    obtain ⟨other, given⟩ := first
    rw [List.map_cons, List.nodup_cons] at distinct
    cases given with
    | none =>
      rw [loadNames, ih distinct.2 unset]
      by_cases same : name = other
      · subst same
        simpa [reaches_cons_self distinct.1 unset] using not_reaches distinct.1
      · exact (reaches_cons_of_ne same fun _ _ _ => allHoldable_cons_none).symm
    | some given =>
      cases known : env.get? other with
      | some old =>
        have different : name ≠ other := by
          rintro rfl
          rw [unset] at known
          cases known
        rw [loadNames_cons_of_set names known, ih distinct.2 unset]
        exact (reaches_cons_of_ne different fun _ _ _ => allHoldable_cons_of_set known).symm
      | none =>
        by_cases holdable : Holdable other given
        case neg =>
          rw [loadNames_cons_of_refused names known holdable, unset]
          exact iff_of_false (Option.some_ne_none value).symm (not_reaches_of_refused known holdable)
        case pos =>
          rw [loadNames_cons_of_unset names known holdable]
          by_cases same : name = other
          · subst same
            rw [loadNames_of_set (Environment.get?_set_self env name given),
              reaches_cons_self distinct.1 unset]
            constructor
            · intro same
              cases same
              exact ⟨rfl, holdable⟩
            · exact And.left
          · have still : (env.set other given).get? name = none :=
              (Environment.get?_set_of_ne env given same).trans unset
            rw [ih distinct.2 still]
            refine (reaches_cons_of_ne same fun front behind split => ?_).symm
            -- The other name comes once, so setting it matters to no later name.
            have once : other ∉ (front ++ [(name, some value)]).map Prod.fst := by
              intro again
              apply distinct.1
              rw [split, List.append_cons, List.map_append]
              exact List.mem_append_left _ again
            exact (allHoldable_cons_of_unset known once).trans (and_iff_right holdable)

/-! ## One variable and the bindings of a file -/

namespace File

theorem resolve_snoc (env : Environment) (override : Bool) (bs : List Binding) (b : Binding) :
    resolve env override (bs ++ [b]) =
      Table.assign b.name (b.value.map (expand (lookIn env override (resolve env override bs))))
        (resolve env override bs) := by
  rw [resolve, List.foldl_append]
  rfl

/-- A file binds a name to a value for the last time, behind some bindings. -/
def BindsLast (bs : List Binding) (front : List Binding) (name : Text) (value : Option Text) :
    Prop :=
  ∃ behind, bs = front ++ ⟨name, value⟩ :: behind ∧ ∀ b ∈ behind, b.name ≠ name

section BindsLast

variable {bs front : List Binding} {b : Binding} {name : Text} {value : Option Text}

theorem bindsLast_snoc_self :
    BindsLast (bs ++ [b]) front b.name value ↔ front = bs ∧ value = b.value := by
  constructor
  · rintro ⟨behind, split, later⟩
    obtain rfl | ⟨behind, last, rfl⟩ := behind.eq_nil_or_concat
    · obtain ⟨rfl, last⟩ := List.append_inj' split rfl
      rw [(List.cons.inj last).1]
      exact ⟨rfl, rfl⟩
    · rw [List.concat_eq_append, ← List.cons_append, ← List.append_assoc] at split
      obtain ⟨-, same⟩ := List.append_inj' split rfl
      cases same
      exact absurd rfl (later b (by simp))
  · rintro ⟨rfl, rfl⟩
    exact ⟨[], rfl, List.forall_mem_nil _⟩

theorem bindsLast_snoc_of_ne (different : name ≠ b.name) :
    BindsLast (bs ++ [b]) front name value ↔ BindsLast bs front name value := by
  constructor
  · rintro ⟨behind, split, later⟩
    obtain rfl | ⟨behind, last, rfl⟩ := behind.eq_nil_or_concat
    · obtain ⟨-, same⟩ := List.append_inj' split rfl
      cases same
      exact absurd rfl different
    · rw [List.concat_eq_append, ← List.cons_append, ← List.append_assoc] at split
      obtain ⟨rfl, -⟩ := List.append_inj' split rfl
      exact ⟨behind, rfl, fun b' inside => later b' (by simp [inside])⟩
  · rintro ⟨behind, rfl, later⟩
    refine ⟨behind ++ [b], by simp, fun b' inside => ?_⟩
    rcases List.mem_append.1 inside with inside | last
    · exact later b' inside
    · cases List.mem_singleton.1 last
      exact Ne.symm different

end BindsLast

/-- The last binding of a name counts, with its references as they are found at its place. -/
theorem lookup_resolve_eq_some_iff {env : Environment} {override : Bool} {bs : List Binding}
    {name : Text} {value : Option Text} :
    (resolve env override bs).lookup name = some value ↔
      ∃ front raw, BindsLast bs front name raw ∧
        value = raw.map (expand (lookIn env override (resolve env override front))) := by
  induction bs using List.reverseRecOn generalizing value with
  | nil => simp [resolve, BindsLast]
  | append_singleton bs b ih =>
    rw [resolve_snoc]
    by_cases same : name = b.name
    · subst same
      simp [Table.lookup_assign_self, bindsLast_snoc_self, eq_comm]
    · rw [Table.lookup_assign_of_ne _ _ same, ih]
      simp only [bindsLast_snoc_of_ne same]

/-- A value without references is what it is. -/
theorem expand_of_plain (look : Text → Option Text) {t : Text} (plain : ¬['$', '\x7b'] <:+: t) :
    expand look t = t := by
  unfold expand
  generalize t.length = fuel
  induction fuel generalizing t with
  | zero => rfl
  | succ fuel ih =>
    unfold expandFrom
    split
    case h_1 => rfl
    case h_2 r => exact absurd (List.prefix_append ['$', '\x7b'] r).isInfix plain
    case h_3 c t _ =>
      rw [ih fun found => plain (found.trans (List.suffix_cons c t).isInfix)]

end File

/-! ## The calls that load files -/

/-- The calls that load files of settings, without override. -/
inductive Call where
  /-- Loads a file, the nearest one if no path is given, and demands names. -/
  | load (path : Option Path) (required : List Text)
  /-- Loads the nearest file, upwards from the working directory and from a place. -/
  | nearest (start : Place)
  /-- Reads the settings of the program, behind a file if a path is given. -/
  | settings (path : Option Path)

namespace Call

/-- The environment behind the call, whatever its outcome. -/
def env (d : Disk) (env : Environment) : Call → Environment
  | .load path required => (Settings.load d env path false required).env
  | .nearest start => (loadNearest d env false start).env
  | .settings path => (readSettings d env path).env

/-- The place of a file at a path. -/
def placeOf? (d : Disk) (p : Path) : Option Place :=
  if d.isTooLong p then none else if d.hasFile p then d.place? p else none

/-- The place of the file that the call loads. -/
def place? (d : Disk) : Call → Option Place
  | .load none _ => findFile? d d.current
  | .load (some p) _ => placeOf? d p
  | .nearest start => findFile? d start
  | .settings path => path.bind (placeOf? d)

theorem env_load_some (d : Disk) (e : Environment) (p : Path) (required : List Text) :
    (Settings.load d e (some p) false required).env =
      ((placeOf? d p).map fun place => (loadFileAt d e false place).env).getD e := by
  unfold Settings.load placeOf?
  dsimp only
  split_ifs with long there
  · rfl
  · cases d.place? p <;> rfl
  · rfl

theorem env_loadNearest (d : Disk) (e : Environment) (start : Place) :
    (loadNearest d e false start).env =
      ((findFile? d start).map fun place => (loadFileAt d e false place).env).getD e := by
  unfold loadNearest
  cases findFile? d start <;> rfl

/-- A call changes the environment by the file that it loads only. -/
theorem env_eq (d : Disk) (e : Environment) (c : Call) :
    c.env d e = ((c.place? d).map fun place => (loadFileAt d e false place).env).getD e := by
  cases c with
  | load path required =>
    cases path with
    | none => exact env_loadNearest d e d.current
    | some p => exact env_load_some d e p required
  | nearest start => exact env_loadNearest d e start
  | settings path =>
    cases path with
    | none => rfl
    | some p => exact env_load_some d e p []

/-- The file of a call gives a value to a name: loading is enabled, the last binding of the name in
the file has that value, and nothing up to it is more than an environment can hold. -/
def Gives (d : Disk) (e : Environment) (c : Call) (name value : Text) : Prop :=
  ∃ place contents text front raw, c.place? d = some place ∧ d.fileAt? place = some contents ∧
    textOf contents = .ok text ∧ isDisabled e = false ∧
    File.BindsLast (File.bindings text) front name (some raw) ∧
    value = File.expand (File.lookIn e false (File.resolve e false front)) raw ∧
    Reaches e (File.resolve e false (File.bindings text)) name value

theorem env_of_set {d : Disk} {e : Environment} {name value : Text}
    (set : e.get? name = some value) (c : Call) : (c.env d e).get? name = some value := by
  rw [env_eq]
  cases c.place? d with
  | none => exact set
  | some place =>
    show (loadFileAt d e false place).env.get? name = some value
    unfold loadFileAt
    split_ifs
    · exact set
    · cases bindingsAt d place with
      | error f => exact set
      | ok bs => exact loadNames_of_set set

theorem env_of_unset {d : Disk} {e : Environment} {name value : Text} (unset : e.get? name = none)
    (c : Call) : (c.env d e).get? name = some value ↔ c.Gives d e name value := by
  rw [env_eq, Gives]
  cases leads : c.place? d with
  | none => simp [unset]
  | some place =>
    rw [Option.map_some, Option.getD_some, loadFileAt]
    cases disabled : isDisabled e with
    | true => simp [unset]
    | false =>
      cases there : d.fileAt? place with
      | none => simp [bindingsAt, there, loadBindings, File.resolve, loadNames, unset]
      | some contents =>
        cases read : textOf contents with
        | error f => simp [bindingsAt, there, read, unset]
        | ok text =>
          have distinct := File.nodup_resolve e false (File.bindings text)
          simp only [bindingsAt, there, read, map_ok, Bool.false_eq_true, if_false, loadBindings,
            loadNames_unset_iff distinct unset]
          constructor
          · intro reaches
            obtain ⟨front, raw, last, given⟩ :=
              File.lookup_resolve_eq_some_iff.1 (reaches.lookup distinct)
            cases raw with
            | none => cases given
            | some raw =>
              cases given
              exact ⟨place, contents, text, front, raw, rfl, there, read, trivial, last, rfl, reaches⟩
          · rintro ⟨place', contents', text', front, raw, same, there', read', -, -, -, reaches⟩
            cases same
            cases there.symm.trans there'
            cases read.symm.trans read'
            exact reaches

end Call

/-! ## All calls -/

/-- The environment behind calls, each with the disk as it finds it. -/
def runAll (e : Environment) (calls : List (Disk × Call)) : Environment :=
  calls.foldl (fun e (d, c) => c.env d e) e

theorem runAll_append (e : Environment) (front behind : List (Disk × Call)) :
    runAll e (front ++ behind) = runAll (runAll e front) behind :=
  List.foldl_append

theorem runAll_of_set {e : Environment} {name value : Text} (set : e.get? name = some value)
    (calls : List (Disk × Call)) : (runAll e calls).get? name = some value := by
  induction calls generalizing e with
  | nil => exact set
  | cons first calls ih => exact ih (first.2.env_of_set set)

/-- The first call whose file gives a value to a name. -/
def FirstGives (e : Environment) (calls : List (Disk × Call)) (name value : Text) : Prop :=
  ∃ front d c behind, calls = front ++ (d, c) :: behind ∧ c.Gives d (runAll e front) name value ∧
    ∀ front' d' c' behind', front = front' ++ (d', c') :: behind' →
      ∀ value', ¬c'.Gives d' (runAll e front') name value'

theorem firstGives_cons {e : Environment} {calls : List (Disk × Call)} {name value : Text} {d : Disk}
    {c : Call} : FirstGives e ((d, c) :: calls) name value ↔
      c.Gives d e name value ∨
        (∀ value', ¬c.Gives d e name value') ∧ FirstGives (c.env d e) calls name value := by
  constructor
  · rintro ⟨front, d', c', behind, split, gives, first⟩
    cases front with
    | nil =>
      cases split
      exact .inl gives
    | cons pair front =>
      cases split
      refine .inr ⟨first [] d c front rfl, front, d', c', behind, rfl, gives, ?_⟩
      rintro front' d'' c'' behind' rfl
      exact first ((d, c) :: front') d'' c'' behind' rfl
  · rintro (gives | ⟨none_, front, d', c', behind, rfl, gives, first⟩)
    · exact ⟨[], d, c, calls, rfl, gives, fun front' _ _ _ split => by cases front' <;> cases split⟩
    · refine ⟨(d, c) :: front, d', c', behind, rfl, gives, ?_⟩
      intro front' d'' c'' behind' split
      cases front' with
      | nil =>
        cases split
        exact none_
      | cons pair front' =>
        cases split
        exact first front' d'' c'' behind' rfl

theorem runAll_unset_iff {e : Environment} {name value : Text} (unset : e.get? name = none)
    (calls : List (Disk × Call)) :
    (runAll e calls).get? name = some value ↔ FirstGives e calls name value := by
  induction calls generalizing e with
  | nil => simp [runAll, unset, FirstGives]
  | cons first calls ih =>
    obtain ⟨d, c⟩ := first
    show (runAll (c.env d e) calls).get? name = some value ↔ _
    rw [firstGives_cons]
    cases behind : (c.env d e).get? name with
    | some given =>
      have gives := (c.env_of_unset unset).1 behind
      rw [runAll_of_set behind]
      constructor
      · intro same
        cases same
        exact .inl gives
      · rintro (again | ⟨none_, -⟩)
        · rw [← (c.env_of_unset unset).2 again, behind]
        · exact absurd gives (none_ given)
    | none =>
      have none_ : ∀ value', ¬c.Gives d e name value' := by
        intro value' gives
        rw [(c.env_of_unset unset).2 gives] at behind
        cases behind
      rw [ih behind]
      simp [none_]

/-! ## The settings that are read -/

/-- The settings are the values in the environment, or the defaults of the unset ones. -/
structure Reports (e : Environment) (s : ProgramSettings) : Prop where
  logLevel : s.logLevel = (e.get? logLevelName).getD "INFO".toList
  eventFilter : s.eventFilter = (e.get? eventFilterName).getD []
  narrowUnset : e.get? narrowName = none → s.narrowInternal = true
  narrowSet : ∀ t, e.get? narrowName = some t →
    IsTruthWord t ∧ (s.narrowInternal = true ↔ fold (trim t) ∈ trueWords)

theorem readBool_eq_ok {t : Text} {b : Bool} (read : readBool t = .ok b) :
    IsTruthWord t ∧ (b = true ↔ fold (trim t) ∈ trueWords) := by
  unfold readBool at read
  unfold IsTruthWord
  rw [List.mem_append]
  by_cases yes : fold (trim t) ∈ trueWords
  · simp [yes] at read
    simp [yes, ← read]
  · by_cases no : fold (trim t) ∈ falseWords
    · simp [yes, no] at read
      simp [yes, no, ← read]
    · simp [yes, no] at read

theorem settingsOf_reports {e : Environment} {s : ProgramSettings} (read : settingsOf e = .ok s) :
    Reports e s := by
  unfold settingsOf at read
  cases narrow : e.get? narrowName with
  | none =>
    simp only [narrow] at read
    cases read
    exact ⟨rfl, rfl, fun _ => rfl, fun t set => by rw [narrow] at set; cases set⟩
  | some t =>
    simp only [narrow] at read
    cases word : readBool t with
    | error f => simp [word] at read
    | ok b =>
      simp only [word] at read
      cases read
      refine ⟨rfl, rfl, fun unset => ?_, fun t' set => ?_⟩
      · rw [narrow] at unset
        cases unset
      · cases narrow.symm.trans set
        exact readBool_eq_ok word

theorem readSettings_reports {d : Disk} {e : Environment} {path : Option Path} {s : ProgramSettings}
    (read : (readSettings d e path).outcome = .ok s) : Reports (readSettings d e path).env s := by
  cases path with
  | none => exact settingsOf_reports read
  | some p =>
    unfold readSettings at read ⊢
    dsimp only at read ⊢
    cases loaded : (load d e (some p) false []).outcome with
    | error f =>
      rw [loaded] at read
      cases read
    | ok values =>
      rw [loaded] at read
      exact settingsOf_reports read

/-- Calls without override, each with the disk as it finds it, whether they return or fail: a
variable that is set keeps its value from there on, an unset one ends with the value that the first
file gives it, if any does, and settings that are read are those of the environment then. -/
theorem first_value_wins (e : Environment) (calls : List (Disk × Call)) :
    (∀ front behind name value, calls = front ++ behind →
      (runAll e front).get? name = some value → (runAll e calls).get? name = some value) ∧
    (∀ name value, e.get? name = none →
      ((runAll e calls).get? name = some value ↔ FirstGives e calls name value)) ∧
    (∀ front d path behind settings, calls = front ++ (d, .settings path) :: behind →
      (readSettings d (runAll e front) path).outcome = .ok settings →
      Reports (runAll e (front ++ [(d, .settings path)])) settings) ∧
    ∀ look t, ¬['$', '\x7b'] <:+: t → File.expand look t = t := by
  refine ⟨?_, ?_, ?_, ?_⟩
  · rintro front behind name value rfl set
    rw [runAll_append]
    exact runAll_of_set set behind
  · intro name value unset
    exact runAll_unset_iff unset calls
  · intro front d path behind settings _ read
    rw [runAll_append]
    exact readSettings_reports read
  · intro look t plain
    exact File.expand_of_plain look plain

/-- A disk with a file of settings. -/
def settingsDisk (text : String) : Disk := { files := [([fileName], .octets (encode text.toList))] }

/-- A file that changes between calls: the first call fails for a malformed truth value, the second
for a demanded name that is empty, and the third returns. -/
def changingFile : List (Disk × Call) :=
  [(settingsDisk "STATUS_NARROW_INTERNAL=maybe\nA\n", .settings (some (.ofText fileName))),
    (settingsDisk "A=1\nB=\n", .load none ["B".toList]),
    (settingsDisk "A=2\nB=2\n", .nearest [])]

theorem first_value_wins_of_changing_file :
    FirstGives [] changingFile "A".toList "1".toList ∧
      FirstGives [] changingFile "B".toList [] ∧
      (runAll [] changingFile).get? narrowName = some "maybe".toList := by
  obtain ⟨keeps, first, -, -⟩ := first_value_wins [] changingFile
  refine ⟨(first _ _ rfl).1 ?_, (first _ _ rfl).1 ?_, ?_⟩
  · decide +kernel
  · decide +kernel
  · apply keeps (changingFile.take 1) (changingFile.drop 1) narrowName
    · rfl
    · decide +kernel

end ParcelStatus.Settings
