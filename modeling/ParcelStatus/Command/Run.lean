import ParcelStatus.Command.Arguments
import ParcelStatus.Json.Reader
import ParcelStatus.Json.Writer
import ParcelStatus.Log.Registry
import ParcelStatus.Settings.Load
import ParcelStatus.Tracking.Reconciliation
import ParcelStatus.Upload.Intake

/-!
# Running a command

A run of the program as a function: from the command line, the disk, the environment and the time
to the exit code, the text for the standard output, the lines for the standard error, and the files
that are written.

* `Situation`, `Outcome` — what a run starts from, and what it leaves;
* `perform` — the work of one command, with its entries;
* `run` — the whole program. Exit code 0 stands for success, 1 for work that failed, and 2 for what
  was asked wrongly; a run that ends otherwise has a `Crash`.
-/

namespace ParcelStatus.Command

open Text Log

/-! ## Before and after -/

/-- What a run starts from. -/
structure Situation where
  disk : Disk
  env : Settings.Environment
  /-- The time at which dates are read. -/
  present : Present
  /-- The day. -/
  today : Date
  /-- The time in universal time, as summaries tell it. -/
  now : Text
  /-- The time as log lines tell it. -/
  logTime : Text

/-- What a run leaves. -/
structure Outcome where
  /-- The exit code. -/
  exit : Nat
  /-- The text for the standard output. -/
  output : Text := []
  /-- The lines for the standard error that are no log lines. -/
  errors : List Text := []
  /-- The loggers and what they wrote. -/
  registry : Registry := {}
  /-- The workbook that is written, with its path. -/
  book : Option (Path × Upload.Book) := none

/-- What ends a run without an exit code. -/
inductive Crash where
  /-- The settings cannot be read. -/
  | settings (fault : Settings.Fault)
  /-- The path of an upload has no name. -/
  | noName (fault : NoNameFault)
  /-- The path of an upload is too long to be looked up. -/
  | tooLong (path : Path)

/-- The wording of a crash. -/
def Crash.message : Crash → Text
  | .settings f => f.message
  | .noName f => f.message
  | .tooLong p => (Disk.DirectoryFault.tooLong p).message

/-! ## Failures of a command -/

/-- Why a command fails. -/
inductive Failure where
  /-- The file is missing; `what` says which. -/
  | missing (what : Text) (path : Path)
  /-- What was asked for is refused; the entry has been written. -/
  | refused
  /-- The file is a directory. -/
  | directory (path : Path)
  /-- The path leads through a file. -/
  | throughFile (path : Path)
  /-- The path is too long to be looked up. -/
  | tooLong (path : Path)
  /-- The path has a null character. -/
  | nullCharacter
  /-- The file is no text. -/
  | octets (fault : Text.Fault)
  /-- A payload has a number with too many digits, or lies too deep. -/
  | json (fault : Json.ReadFault)
  /-- The payload cannot be reconciled. -/
  | reconcile (fault : ReconcileFault)
  /-- What is to be printed has lone surrogates. -/
  | print (fault : Text.EncodeFault)
  /-- The upload cannot be processed. -/
  | upload (fault : Upload.Fault)
  /-- The upload has no output paths. -/
  | path (fault : Upload.PathFault)

/-- The wording of a failure. -/
def Failure.message : Failure → Text
  | .missing what p => what ++ " file not found: ".toList ++ p.text
  | .refused => []
  | .directory p => "[Errno 21] Is a directory: ".toList ++ quoted p.text
  | .throughFile p => (Disk.DirectoryFault.throughFile p).message
  | .tooLong p => (Disk.DirectoryFault.tooLong p).message
  | .nullCharacter => "embedded null byte".toList
  | .octets f => f.message
  | .json f => f.message
  | .reconcile f => f.message
  | .print f => f.message
  | .upload f => f.message
  | .path f => f.message

/-- What a command gives: the text for the standard output, and perhaps a workbook. -/
structure Product where
  output : Text
  /-- The workbook with its path. -/
  book : Option (Path × Upload.Book) := none

/-! ## Commands -/

/-- The name of the program's logger. -/
def programLogger : Text := "carrier_status_engine".toList

/-- A refusal with the entry that tells it. -/
def refuse {α : Type} (message : Text) : Journal Failure α := do
  Journal.write error programLogger message
  Journal.fail .refused

/-- The text of a file; `what` names it when it is missing. Line ends are read as line feeds. -/
def readText (d : Disk) (what : Text) (path : Path) : Except Failure Text :=
  if d.isTooLong path then .error (.tooLong path)
  else match d.find path with
  | .nothing => .error (
    if path.text.contains '\x00' then .nullCharacter
    else if d.passesFile path then .throughFile path
    else .missing what path)
  | .directory => .error (.directory path)
  | .file (.octets os) => ((decode os).map universalNewlines).mapError .octets
  | .file (.workbook _) => ((decode Upload.archiveOctets).map universalNewlines).mapError .octets

/-- Prints the layout of an upload. -/
def printLayout (s : Situation) (a : Arguments) : Journal Failure Product :=
  match Upload.readSheet s.disk a.operand with
  | .error (.missing path) => Journal.fail (.missing "input".toList path)
  | .error f => Journal.fail (.upload f)
  | .ok sheet =>
    match Upload.Layout.ofHeader? (Upload.headerRow sheet) with
    | some l => pure { output := l.tag ++ ['\n'] }
    | none => refuse ("Unsupported file format: ".toList ++ a.operand.text)

/-- Turns an upload into a workbook beside it. -/
def convertUpload (s : Situation) (a : Arguments) : Journal Failure Product :=
  match Upload.outputPaths s.disk a.operand with
  | .error (.missing path) => Journal.fail (.missing "input".toList path)
  | .error f => Journal.fail (.path f)
  | .ok (parsed, _) =>
    let intake : Upload.Intake := { logger := programLogger, layout := a.layout, today := s.today }
    let work := intake.convert s.disk a.operand parsed s.now
    match work.outcome with
    | .error (.unsupported f) => do
      let _ ← (⟨work.entries, .ok ()⟩ : Journal Failure Unit)
      refuse ("Rejected upload: ".toList ++ f.message)
    | .error f => ⟨work.entries, .error (.upload f)⟩
    | .ok (summary, book) =>
      ⟨work.entries, .ok {
        output := (Json.obj summary.toMembers).write true ++ ['\n']
        book := some (parsed, book) }⟩

/-- The reconciler of a command. -/
def reconcilerOf (settings : Settings.ProgramSettings) (a : Arguments) : Reconciler where
  logger := programLogger
  narrow := settings.narrowInternal && !a.noNarrow
  defaultFilter := .str settings.eventFilter

/-- The filter of a command. -/
def filterOf (a : Arguments) : Json := (a.filter.map Json.str).getD .null

/-- How deep the lists and objects of a payload may lie. -/
def payloadDepth : Nat := 990

/-- What is to be printed of the text of a payload. -/
def reconcileText [Present] (settings : Settings.ProgramSettings) (a : Arguments)
    (stand : Nat → Char) (text : Text) : Journal Failure Text :=
  match Json.readNested stand payloadDepth text with
  | .error (.number f) => Journal.fail (.json (.number f))
  | .error (.tooDeep isObject) => Journal.fail (.json (.tooDeep isObject))
  | .error f => refuse ("Payload is not valid JSON: ".toList ++ f.message)
  | .ok payload => do
    let result ←
      ((reconcilerOf settings a).reconcile a.carrier (.json payload) (filterOf a)).mapError
      .reconcile
    return (Json.obj result.toMembers).write false ++ ['\n']

/-- Reconciles a payload. The work is done with both kinds of characters for lone surrogates, to see
whether any would have to be printed. -/
def reconcilePayload (s : Situation) (settings : Settings.ProgramSettings) (a : Arguments) :
    Journal Failure Product := do
  let text ← .ofExcept (readText s.disk "payload".toList a.operand)
  let work (plane : Nat) := @reconcileText s.present settings a (standIn plane) text
  let output ← work privatePlane
  let other := (work otherPlane).outcome.toOption.getD output
  match encodeFault? output other with
  | some f => Journal.fail (.print f)
  | none => return { output }

/-- Reconciles a DHL report. -/
def reconcileReport (s : Situation) (settings : Settings.ProgramSettings) (a : Arguments) :
    Journal Failure Product := do
  let text ← .ofExcept (readText s.disk "report".toList a.operand)
  let r := reconcilerOf settings a
  let results ← (@r.reconcileReport s.present (.str text) (filterOf a)).mapError .reconcile
  let rows := results.map fun (awb, r) => Json.obj (("awb".toList, .str awb) :: r.toMembers)
  return { output := (Json.arr rows).write false ++ ['\n'] }

/-- The work of a command. -/
def perform (s : Situation) (settings : Settings.ProgramSettings) (a : Arguments) :
    Journal Failure Product :=
  match a.command with
  | .detectLayout => printLayout s a
  | .parseUpload => convertUpload s a
  | .reconcile => reconcilePayload s settings a
  | .dhlReport => reconcileReport s settings a

/-! ## The program -/

/-- The path of the log file of a command, which uploads that exist have. -/
def logPathOf (s : Situation) (a : Arguments) : Except Crash (Option Path) :=
  match a.command with
  | .parseUpload =>
    match Upload.outputPaths s.disk a.operand with
    | .ok (_, log) => .ok (some log)
    | .error (.missing _) => .ok none
    | .error (.tooLong p) => .error (.tooLong p)
    | .error (.noName f) => .error (.noName f)
  | _ => .ok none

/-- The loggers of a run. -/
def registryFor (s : Situation) (settings : Settings.ProgramSettings) (a : Arguments)
    (log : Option Path) : Registry :=
  let level := match a.logLevel with
    | some (c :: r) => c :: r
    | _ => settings.logLevel
  (({ disk := s.disk } : Registry).configure {
    name := programLogger
    level := .number (namedLevel level)
    console := !a.noConsole
    file := log
    template := .ok Registry.defaultTemplate }).1

/-- The loggers behind some entries. -/
def logAll (s : Situation) (r : Registry) (entries : List Entry) : Registry :=
  entries.foldl (fun r e => r.log s.logTime e) r

/-- The exit code of a failure, and what it tells beside the entries that it wrote itself. -/
def failureOutcome (command : CommandName) (f : Failure) : Nat × List Entry × List Text :=
  match f with
  | .missing what path => (2, [], ["error: ".toList ++ (Failure.missing what path).message])
  | .refused => (2, [], [])
  | f =>
    (1, [⟨error, programLogger,
      "Command ".toList ++ command.text ++ " failed: ".toList ++ f.message⟩], [])

/-- What a command leaves, with its entries logged. -/
def outcomeOf (s : Situation) (r : Registry) (command : CommandName)
    (work : Journal Failure Product) : Outcome :=
  match work.outcome with
  | .ok product =>
    { exit := 0, output := product.output, registry := logAll s r work.entries,
      book := product.book }
  | .error f =>
    let (exit, entries, errors) := failureOutcome command f
    { exit, errors, registry := logAll s r (work.entries ++ entries) }

/-- The entry that opens a run. -/
def openingEntry (command : CommandName) : Entry :=
  ⟨debug, programLogger, "Logger initialized (command=".toList ++ command.text ++ ").".toList⟩

def runCommand (s : Situation) (a : Arguments) : Except Crash Outcome :=
  let loaded := Settings.readSettings s.disk s.env (some (.ofText Settings.fileName))
  match loaded.outcome with
  | .error (.notBool t) =>
    .ok { exit := 2, errors := ["error: ".toList ++ (Settings.Fault.notBool t).message] }
  | .error f => .error (.settings f)
  | .ok settings =>
    match logPathOf s a with
    | .error f => .error f
    | .ok log =>
      let registry := logAll s (registryFor s settings a log) [openingEntry a.command]
      .ok (outcomeOf s registry a.command (perform s settings a))

/-- A run of the program. -/
def run (s : Situation) (arguments : List Text) : Except Crash Outcome :=
  match readArguments arguments with
  | .help => .ok { exit := 0 }
  | .refused by_ refusal => .ok { exit := 2, errors := [refusalLine by_ refusal] }
  | .run a => runCommand s a

end ParcelStatus.Command
