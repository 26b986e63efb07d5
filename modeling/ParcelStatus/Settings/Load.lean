import ParcelStatus.Disk.Basic
import ParcelStatus.Settings.File

/-!
# Loading settings

Files of settings put into the environment, and the settings of the program.

* `findFile?` — the nearest file of settings, upwards from a directory;
* `loadBindings` — the environment behind a file: without override a variable that is set keeps its
  value;
* `loadNearest`, `load` — the nearest file, or a given one, with the names and values it binds;
* `ProgramSettings`, `readSettings` — the settings of the program.
-/

namespace ParcelStatus.Settings

open Text

/-- The name of files of settings. -/
def fileName : Text := ".env".toList

/-- The places from one up to the root, the place itself first. -/
def placesUp (p : Place) : List Place := (List.range (p.length + 1)).reverse.map fun n => p.take n

/-- The nearest file of settings, upwards from a place. -/
def findUp? (d : Disk) (p : Place) : Option Place :=
  ((placesUp p).map (· ++ [fileName])).find? fun q => (d.fileAt? q).isSome

/-- The nearest file of settings, upwards from the working directory and then from `start`. -/
def findFile? (d : Disk) (start : Place) : Option Place :=
  (findUp? d d.current).or (findUp? d start)

/-- The text of a file of settings behind its byte order mark. A workbook holds none. -/
def textOf (contents : Contents) : Except Fault Text :=
  match contents with
  | .octets os => (decode (dropOrderMark os)).mapError .octets
  | .workbook _ => .ok []

/-- The bindings of the file at a place, none if there is no file. -/
def bindingsAt (d : Disk) (p : Place) : Except Fault (List File.Binding) :=
  match d.fileAt? p with
  | some contents => (textOf contents).map File.bindings
  | none => .ok []

/-- What a run of loading leaves: the environment, and the result or the fault. -/
structure Loaded (α : Type) where
  env : Environment
  /-- The result or the fault. -/
  outcome : Except Fault α

/-- The same run with another view of its result. -/
def Loaded.map (f : α → β) (l : Loaded α) : Loaded β := ⟨l.env, l.outcome.map f⟩

/-- The environment with the names of a file, up to the first one that it cannot hold. Without
override a variable that is set keeps its value; a name bound to nothing sets nothing. -/
def loadNames (override : Bool) : Environment → List (Text × Option Text) → Loaded Unit
  | env, [] => ⟨env, .ok ()⟩
  | env, (_, none) :: r => loadNames override env r
  | env, (name, some value) :: r =>
    if !override && (env.get? name).isSome then loadNames override env r
    else match env.put name value with
      | .ok env => loadNames override env r
      | .error f => ⟨env, .error f⟩

/-- The environment behind the bindings of a file. -/
def loadBindings (env : Environment) (override : Bool) (bs : List File.Binding) : Loaded Unit :=
  loadNames override env (File.resolve env override bs)

/-- The variable that keeps files of settings out of the environment. -/
def disablingName : Text := "PYTHON_DOTENV_DISABLED".toList

/-- The values of that variable that do so, in small letters. -/
def disablingWords : List Text :=
  ["1".toList, "true".toList, "t".toList, "yes".toList, "y".toList]

/-- Files of settings are kept out of the environment. -/
def isDisabled (env : Environment) : Bool :=
  (env.get? disablingName).any fun t => disablingWords.contains (fold t)

/-- The environment behind the file at a place, unless such files are kept out of it. -/
def loadFileAt (d : Disk) (env : Environment) (override : Bool) (p : Place) : Loaded Unit :=
  if isDisabled env then ⟨env, .ok ()⟩
  else match bindingsAt d p with
    | .error f => ⟨env, .error f⟩
    | .ok bs => loadBindings env override bs

/-- The names and values that bindings give in an environment; a name bound to nothing has the
empty text. -/
def valuesOf (env : Environment) (bs : List File.Binding) : List (Text × Text) :=
  (File.resolve env true bs).map fun (name, value) => (name, value.getD [])

/-- Loads the nearest file of settings; the result is its place. -/
def loadNearest (d : Disk) (env : Environment) (override : Bool) (start : Place) :
    Loaded (Option Place) :=
  match findFile? d start with
  | none => ⟨env, .ok none⟩
  | some p => (loadFileAt d env override p).map fun _ => some p

/-- Refuses when one of the names is not set or empty. -/
def demand (env : Environment) (names : List Text) : Except Fault Unit :=
  match names.filter fun name => !env.hasValue name with
  | [] => .ok ()
  | missing => .error (.missingAll missing)

/-- Loads a file of settings, the nearest one if no path is given. The result is what the file
binds; `required` are the names that must be set afterwards. -/
def load (d : Disk) (env : Environment) (path : Option Path) (override : Bool)
    (required : List Text) : Loaded (List (Text × Text)) :=
  let loaded : Loaded (Option Place) := match path with
    | none => loadNearest d env override d.current
    | some p =>
      if d.isTooLong p then ⟨env, .error (.tooLong p)⟩
      else match if d.hasFile p then d.place? p else none with
      | none => ⟨env, .ok none⟩
      | some place => (loadFileAt d env override place).map fun _ => some place
  let outcome : Except Fault (List (Text × Text)) := do
    let place ← loaded.outcome
    let bs ← (place.map (bindingsAt d)).getD (.ok [])
    demand loaded.env required
    return valuesOf loaded.env bs
  ⟨loaded.env, outcome⟩

structure ProgramSettings where
  /-- The level of logging by name. -/
  logLevel : Text := "INFO".toList
  /-- The filter of trails. -/
  eventFilter : Text := []
  /-- States of the engine are folded into the kept ones. -/
  narrowInternal : Bool := true
deriving DecidableEq, Repr

/-- The variable of the level of logging. -/
def logLevelName : Text := "LOG_LEVEL".toList
/-- The variable of the filter of trails. -/
def eventFilterName : Text := "STATUS_EVENT_FILTER".toList
/-- The variable of narrowing. -/
def narrowName : Text := "STATUS_NARROW_INTERNAL".toList

/-- The settings that an environment holds. -/
def settingsOf (env : Environment) : Except Fault ProgramSettings := do
  let narrowInternal ← match env.get? narrowName with
    | some t => readBool t
    | none => .ok true
  return {
    logLevel := (env.get? logLevelName).getD "INFO".toList
    eventFilter := (env.get? eventFilterName).getD []
    narrowInternal }

/-- The settings of the program, behind a file of settings if a path is given. -/
def readSettings (d : Disk) (env : Environment) (path : Option Path) : Loaded ProgramSettings :=
  match path with
  | none => ⟨env, settingsOf env⟩
  | some p =>
    let loaded := load d env (some p) false []
    ⟨loaded.env, loaded.outcome.bind fun _ => settingsOf loaded.env⟩

end ParcelStatus.Settings
