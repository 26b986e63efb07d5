import ParcelStatus.Proofs.Disk.Lookup
import ParcelStatus.Proofs.Outcome
import ParcelStatus.Settings.Load

/-!
# Loading the settings

The file of settings in the working directory is put into the environment, where a variable that is
set stays as it is, and the settings are read behind it. Loading stops at a file that is no text and
at a binding that no environment can hold. Behind it, only the truth value of one variable can be
malformed.

* `Holdable`, `loadNames_cases` — the names of a file go into an environment that can hold them;
* `File.nodup_resolve` — a file gives no name twice;
* `StopsLoading`, `load_cases` — when the file of settings cannot be loaded;
* `readSettings_cases` — the settings are read, one of them is malformed, or loading stops.
-/

namespace ParcelStatus.Settings

open Text Outcome

/-! ## Names that an environment can hold -/

def Holdable (name value : Text) : Prop :=
  '\x00' ∉ name ∧ '\x00' ∉ value ∧ '=' ∉ name ∧ name ≠ []

theorem put_eq_ok {name value : Text} (env : Environment) (holdable : Holdable name value) :
    env.put name value = .ok (env.set name value) := by
  obtain ⟨name', value', equals, some_⟩ := holdable
  simp [Environment.put, name', value', equals, some_]

/-- Faults that stop loading: all but those of a truth value. -/
def Fault.Stops (f : Fault) : Prop := ∀ t, f ≠ .notBool t

theorem put_eq_error {name value : Text} (env : Environment) (refused : ¬Holdable name value) :
    ∃ f : Fault, env.put name value = .error f ∧ f.Stops := by
  unfold Environment.put
  split_ifs with null equals empty
  · exact ⟨_, rfl, nofun⟩
  · exact ⟨_, rfl, nofun⟩
  · exact ⟨_, rfl, nofun⟩
  · apply absurd _ refused
    simpa [Holdable, and_assoc] using And.intro null (And.intro equals empty)

/-! ## The names of a file -/

theorem File.nodup_resolve (env : Environment) (override : Bool) (bs : List File.Binding) :
    ((File.resolve env override bs).map Prod.fst).Nodup := by
  unfold File.resolve
  suffices ∀ before : File.Resolved, (before.map Prod.fst).Nodup →
      ((bs.foldl (fun before b => Table.assign b.name
        (b.value.map (File.expand (File.lookIn env override before))) before) before).map
          Prod.fst).Nodup from this [] List.nodup_nil
  induction bs with
  | nil => exact fun before distinct => distinct
  | cons b bs ih => exact fun before distinct => ih _ (Table.nodup_keys_assign _ _ distinct)

/-- All values that are put into an environment can be held by it. -/
def AllHoldable (env : Environment) (names : File.Resolved) : Prop :=
  ∀ name value, (name, some value) ∈ names → env.get? name = none → Holdable name value

section AllHoldable

variable {env : Environment} {name : Text} {names : File.Resolved}

theorem allHoldable_cons_none :
    AllHoldable env ((name, none) :: names) ↔ AllHoldable env names := by
  simp [AllHoldable]

theorem allHoldable_cons_of_set {value old : Text} (set : env.get? name = some old) :
    AllHoldable env ((name, some value) :: names) ↔ AllHoldable env names := by
  constructor
  · intro all name' value' inside
    exact all name' value' (.tail _ inside)
  · intro rest name' value' inside unset
    cases inside with
    | head => exact absurd (set.symm.trans unset) nofun
    | tail _ inside => exact rest name' value' inside unset

/-- A name that comes once: setting it leaves the later names as they were. -/
theorem allHoldable_cons_of_unset {value : Text} (unset : env.get? name = none)
    (once : name ∉ names.map Prod.fst) :
    AllHoldable env ((name, some value) :: names) ↔
      Holdable name value ∧ AllHoldable (env.set name value) names := by
  have later : ∀ name' value', (name', some value') ∈ names →
      (env.set name value).get? name' = env.get? name' := by
    intro name' value' inside
    apply Environment.get?_set_of_ne env value
    rintro rfl
    exact once (List.mem_map.2 ⟨_, inside, rfl⟩)
  constructor
  · intro all
    refine ⟨all name value List.mem_cons_self unset, fun name' value' inside unset' => ?_⟩
    rw [later name' value' inside] at unset'
    exact all name' value' (.tail _ inside) unset'
  · rintro ⟨first, rest⟩ name' value' inside unset'
    cases inside with
    | head => exact first
    | tail _ inside =>
      rw [← later name' value' inside] at unset'
      exact rest name' value' inside unset'

end AllHoldable

theorem loadNames_cases {names : File.Resolved} (distinct : (names.map Prod.fst).Nodup)
    (env : Environment) :
    AllHoldable env names ∧ (loadNames false env names).outcome = .ok () ∨
      ¬AllHoldable env names ∧
        ∃ f : Fault, (loadNames false env names).outcome = .error f ∧ f.Stops := by
  induction names generalizing env with
  | nil => exact .inl ⟨nofun, rfl⟩
  | cons first names ih =>
    obtain ⟨name, value⟩ := first
    rw [List.map_cons, List.nodup_cons] at distinct
    cases value with
    | none =>
      rw [allHoldable_cons_none]
      exact ih distinct.2 env
    | some value =>
      cases set : env.get? name with
      | some old =>
        simp only [loadNames, set, Bool.not_false, Option.isSome_some, Bool.and_self, if_true]
        rw [allHoldable_cons_of_set set]
        exact ih distinct.2 env
      | none =>
        simp only [loadNames, set, Option.isSome_none, Bool.and_false, Bool.false_eq_true, if_false]
        rw [allHoldable_cons_of_unset set distinct.1]
        by_cases holdable : Holdable name value
        · simp only [put_eq_ok env holdable, holdable, true_and]
          exact ih distinct.2 (env.set name value)
        · obtain ⟨f, fails, stops⟩ := put_eq_error env holdable
          simp only [fails, holdable, false_and]
          exact .inr ⟨not_false, f, rfl, stops⟩

/-! ## The file of settings -/

/-- The file of settings in the working directory is no text, or it binds a name that is not set to
what no environment can hold. -/
def StopsLoading (d : Disk) (env : Environment) : Prop :=
  ∃ contents, d.find (.ofText fileName) = .file contents ∧
    ((∃ fault, textOf contents = .error fault) ∨
      ∃ text, textOf contents = .ok text ∧ isDisabled env = false ∧
        ¬AllHoldable env (File.resolve env false (File.bindings text)))

theorem textOf_stops {contents : Contents} {f : Fault} (fails : textOf contents = .error f) :
    f.Stops := by
  cases contents with
  | workbook cells => cases fails
  | octets os =>
    rw [textOf] at fails
    cases read : decode (dropOrderMark os) with
    | ok text =>
      rw [read] at fails
      cases fails
    | error fault =>
      rw [read] at fails
      cases fails
      exact nofun

theorem isTooLong_fileName (d : Disk) : d.isTooLong (.ofText fileName) = false :=
  Disk.isTooLong_eq_false (by decide) (by decide)

theorem outcome_load_of_no_file {d : Disk} (env : Environment)
    (none_ : d.hasFile (.ofText fileName) = false) :
    (load d env (some (.ofText fileName)) false []).outcome = .ok (valuesOf env []) := by
  simp only [load, isTooLong_fileName, none_, Bool.false_eq_true, if_false]
  rfl

theorem outcome_load_of_file {d : Disk} (env : Environment) {place : Place} {contents : Contents}
    (leads : d.place? (.ofText fileName) = some place)
    (there : d.fileAt? place = some contents) :
    (load d env (some (.ofText fileName)) false []).outcome = do
      let _ ← (loadFileAt d env false place).outcome
      let text ← textOf contents
      return valuesOf (loadFileAt d env false place).env (File.bindings text) := by
  have hasFile : d.hasFile (.ofText fileName) = true :=
    Disk.hasFile_iff.2 ⟨contents, Disk.find_eq_file_iff.2 ⟨place, leads, there⟩⟩
  have bindings : bindingsAt d place = (textOf contents).map File.bindings := by
    simp only [bindingsAt, there]
  simp only [load, isTooLong_fileName, hasFile, leads, Loaded.map, Bool.false_eq_true, if_false,
    if_true]
  cases (loadFileAt d env false place).outcome with
  | error f => rfl
  | ok _ =>
    simp only [map_ok, ok_bind, Option.map_some, Option.getD_some, bindings]
    cases textOf contents <;> rfl

theorem outcome_loadFileAt {d : Disk} {env : Environment} {place : Place} {contents : Contents}
    (there : d.fileAt? place = some contents) (enabled : isDisabled env = false) {text : Text}
    (read : textOf contents = .ok text) :
    (loadFileAt d env false place).outcome =
      (loadNames false env (File.resolve env false (File.bindings text))).outcome := by
  simp only [loadFileAt, enabled, bindingsAt, there, read, map_ok, Bool.false_eq_true, if_false]
  rfl

theorem load_cases (d : Disk) (env : Environment) :
    ¬StopsLoading d env ∧
        (∃ values, (load d env (some (.ofText fileName)) false []).outcome = .ok values) ∨
      StopsLoading d env ∧
        ∃ f : Fault, (load d env (some (.ofText fileName)) false []).outcome = .error f ∧
          f.Stops := by
  cases hasFile : d.hasFile (.ofText fileName) with
  | false =>
    refine .inl ⟨?_, _, outcome_load_of_no_file env hasFile⟩
    rintro ⟨contents, found, -⟩
    rw [Disk.hasFile_iff.2 ⟨contents, found⟩] at hasFile
    cases hasFile
  | true =>
    obtain ⟨contents, found⟩ := Disk.hasFile_iff.1 hasFile
    obtain ⟨place, leads, there⟩ := Disk.find_eq_file_iff.1 found
    have stops : StopsLoading d env ↔ (∃ fault, textOf contents = .error fault) ∨
        ∃ text, textOf contents = .ok text ∧ isDisabled env = false ∧
          ¬AllHoldable env (File.resolve env false (File.bindings text)) := by
      simp [StopsLoading, found]
    rw [outcome_load_of_file env leads there, stops]
    cases read : textOf contents with
    | error f =>
      refine .inr ⟨.inl ⟨f, rfl⟩, f, ?_, textOf_stops read⟩
      cases disabled : isDisabled env with
      | true => simp [loadFileAt, disabled]
      | false => simp [loadFileAt, disabled, bindingsAt, there, read]
    | ok text =>
      cases disabled : isDisabled env with
      | true => simp [loadFileAt, disabled]
      | false =>
        rw [outcome_loadFileAt there disabled read]
        rcases loadNames_cases (File.nodup_resolve env false (File.bindings text)) env with
          ⟨all, done⟩ | ⟨refused, f, fails, stops⟩
        · simp [done, all]
        · simp [fails, refused, stops]

/-! ## The settings of the program -/

def IsTruthWord (t : Text) : Prop := fold (trim t) ∈ trueWords ++ falseWords

/-- The setting that should be a truth value is set and is none. -/
def MalformedNarrow (env : Environment) : Prop :=
  ∃ t, env.get? narrowName = some t ∧ ¬IsTruthWord t

theorem readBool_cases (t : Text) :
    IsTruthWord t ∧ (∃ b, readBool t = .ok b) ∨
      ¬IsTruthWord t ∧ readBool t = .error (.notBool t) := by
  unfold readBool IsTruthWord
  rw [List.mem_append]
  by_cases yes : fold (trim t) ∈ trueWords
  · simp [yes]
  · by_cases no : fold (trim t) ∈ falseWords <;> simp [yes, no]

theorem settingsOf_cases (env : Environment) :
    ¬MalformedNarrow env ∧ (∃ settings, settingsOf env = .ok settings) ∨
      MalformedNarrow env ∧ ∃ t, settingsOf env = .error (.notBool t) := by
  unfold settingsOf MalformedNarrow
  cases env.get? narrowName with
  | none => simp
  | some t =>
    rcases readBool_cases t with ⟨word, b, read⟩ | ⟨word, read⟩
    · simp [read, word]
    · simp [read, word]

/-- The environment behind the file of settings. -/
def envBehind (d : Disk) (env : Environment) : Environment :=
  (load d env (some (.ofText fileName)) false []).env

theorem readSettings_cases (d : Disk) (env : Environment) :
    (StopsLoading d env ∧
      ∃ f : Fault, (readSettings d env (some (.ofText fileName))).outcome = .error f ∧ f.Stops) ∨
    (¬StopsLoading d env ∧ MalformedNarrow (envBehind d env) ∧
      ∃ t, (readSettings d env (some (.ofText fileName))).outcome = .error (.notBool t)) ∨
    (¬StopsLoading d env ∧ ¬MalformedNarrow (envBehind d env) ∧
      ∃ settings, (readSettings d env (some (.ofText fileName))).outcome = .ok settings) := by
  simp only [readSettings]
  rcases load_cases d env with ⟨loads, values, loaded⟩ | ⟨stops, f, fails, stop⟩
  · rw [loaded]
    rcases settingsOf_cases (envBehind d env) with ⟨sound, settings, read⟩ | ⟨malformed, t, read⟩
    · exact .inr (.inr ⟨loads, sound, settings, read⟩)
    · exact .inr (.inl ⟨loads, malformed, t, read⟩)
  · rw [fails]
    exact .inl ⟨stops, f, rfl, stop⟩

end ParcelStatus.Settings
