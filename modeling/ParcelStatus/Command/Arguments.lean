import ParcelStatus.Disk.Path
import ParcelStatus.Text.Digit
import ParcelStatus.Upload.Layout

/-!
# The command line

Reading the arguments of the program. The first plain argument names a command, and what follows
is read by that command: one plain argument, flags, and options with a value, which may be joined
to its name by an equals sign. A long option may be cut to a beginning that no other one shares.
Two hyphens alone make everything behind them plain.

* `CommandSpec`, `CommandName.spec` — the commands with their options;
* `classify` — what each argument is to a command;
* `collect` — the values of a command's options and its plain argument;
* `readArguments` — the whole command line: arguments, a request for help, or a refusal.
-/

namespace ParcelStatus.Command

open Text

/-! ## Commands and options -/

/-- An option of a command. -/
structure OptionSpec where
  /-- Its name with the hyphens. -/
  name : Text
  hasValue : Bool := true
  /-- The values that it may have. -/
  choices : Option (List Text) := none
  /-- It must be given. -/
  required : Bool := false
deriving DecidableEq, Repr

inductive CommandName where
  /-- Print the layout of an upload. -/
  | detectLayout
  /-- Turn an upload into a workbook. -/
  | parseUpload
  /-- Reconcile a payload. -/
  | reconcile
  /-- Reconcile a DHL report. -/
  | dhlReport
deriving DecidableEq, Repr

/-- The written form of a command. -/
def CommandName.text : CommandName → Text
  | detectLayout => "detect-layout".toList
  | parseUpload => "parse-upload".toList
  | reconcile => "reconcile".toList
  | dhlReport => "dhl-report".toList

def CommandName.all : List CommandName := [detectLayout, parseUpload, reconcile, dhlReport]

/-- How a command is called. -/
structure CommandSpec where
  /-- The name of its plain argument. -/
  operand : Text
  options : List OptionSpec
deriving DecidableEq, Repr

/-- The request for help. -/
def helpOption : OptionSpec := { name := "--help".toList, hasValue := false }
/-- The layout that is not to be detected. -/
def layoutOption : OptionSpec :=
  { name := "--layout".toList, choices := some (Upload.Layout.all.map Upload.Layout.tag) }
/-- The carrier of a payload. -/
def carrierOption : OptionSpec :=
  { name := "--carrier".toList, choices := some (Carrier.all.map Carrier.text), required := true }
/-- The filter of trails. -/
def filterOption : OptionSpec := { name := "--filter-by".toList }
/-- States of the engine are not folded. -/
def noNarrowOption : OptionSpec := { name := "--no-narrow".toList, hasValue := false }
/-- Nothing is logged to the console. -/
def noConsoleOption : OptionSpec := { name := "--no-console".toList, hasValue := false }
/-- The level of logging. -/
def logLevelOption : OptionSpec := { name := "--log-level".toList }

/-- How a command is called. -/
def CommandName.spec : CommandName → CommandSpec
  | detectLayout => ⟨"input".toList, [helpOption, noConsoleOption, logLevelOption]⟩
  | parseUpload => ⟨"input".toList, [helpOption, layoutOption, noConsoleOption, logLevelOption]⟩
  | reconcile =>
    ⟨"payload".toList,
     [helpOption, carrierOption, filterOption, noNarrowOption, noConsoleOption, logLevelOption]⟩
  | dhlReport =>
    ⟨"report".toList, [helpOption, filterOption, noNarrowOption, noConsoleOption, logLevelOption]⟩

/-! ## Refusals -/

/-- Why a command line is refused. -/
inductive Refusal where
  /-- Several options begin like this. -/
  | ambiguous (option : Text) (matching : List Text)
  /-- An option lacks its value. -/
  | noValue (option : Text)
  /-- A flag was given a value. -/
  | unusedValue (option value : Text)
  /-- A value is none of those allowed. -/
  | notAllowed (argument value : Text) (choices : List Text)
  /-- Arguments are missing. -/
  | missing (names : List Text)
  /-- Arguments mean nothing. -/
  | unknown (arguments : List Text)
deriving DecidableEq, Repr

/-- The wording of a refusal. -/
def Refusal.message : Refusal → Text
  | .ambiguous option names =>
    "ambiguous option: ".toList ++ option ++ " could match ".toList ++ join [',', ' '] names
  | .noValue option => "argument ".toList ++ option ++ ": expected one argument".toList
  | .unusedValue option value =>
    "argument ".toList ++ option ++ ": ignored explicit argument ".toList ++ quoted value
  | .notAllowed argument value choices =>
    "argument ".toList ++ argument ++ ": invalid choice: ".toList ++ quoted value
      ++ " (choose from ".toList ++ join [',', ' '] (choices.map quoted) ++ [')']
  | .missing names => "the following arguments are required: ".toList ++ join [',', ' '] names
  | .unknown arguments => "unrecognized arguments: ".toList ++ join [' '] arguments

/-! ## Single arguments -/

/-- What an argument is. -/
inductive Token where
  /-- A plain argument. -/
  | plain (t : Text)
  /-- An option with the value joined to it. -/
  | option (spec : OptionSpec) (value : Option Text)
  /-- It looks like an option and is none. -/
  | unknown (t : Text)
  /-- Two hyphens. -/
  | hyphens
deriving DecidableEq, Repr

/-- A minus sign with digits, a point among them perhaps. -/
def isNegativeNumber (t : Text) : Bool :=
  match t with
  | '-' :: r =>
    let whole := r.takeWhile isDecimal
    match r.dropWhile isDecimal with
    | [] => whole ≠ []
    | '.' :: fraction => fraction ≠ [] && fraction.all isDecimal
    | _ => false
  | _ => false

/-- An option with its name in front of an equals sign, and the value behind it. -/
def splitValue (t : Text) : Text × Option Text :=
  match splitAtFirst ['='] t with
  | some (name, value) => (name, some value)
  | none => (t, none)

/-- The options that an argument may be a beginning of. -/
def matchingOptions (options : List OptionSpec) (t : Text) : List OptionSpec :=
  match t with
  | '-' :: '-' :: _ => options.filter fun o => (splitValue t).1.isPrefixOf o.name
  | _ => []

/-- What an argument is to the options of a command. -/
def classify (options : List OptionSpec) (t : Text) : Except Refusal Token :=
  match t with
  | ['-', 'h'] => .ok (.option helpOption none)
  | '-' :: 'h' :: '=' :: value => .ok (.option helpOption (some value))
  | '-' :: 'h' :: value => .ok (.option helpOption (some value))
  | '-' :: _ :: _ =>
    let (name, value) := splitValue t
    match options.find? (·.name = name), matchingOptions options t with
    | some o, _ => .ok (.option o value)
    | none, [o] => .ok (.option o value)
    | none, o :: p :: os => .error (.ambiguous t ((o :: p :: os).map (·.name)))
    | none, [] =>
      if isNegativeNumber t || t.contains ' ' then .ok (.plain t) else .ok (.unknown t)
  | t => .ok (.plain t)

/-- What the arguments are to the options of a command; behind two hyphens all are plain. -/
def classifyAll (options : List OptionSpec) : List Text → Except Refusal (List Token)
  | [] => .ok []
  | t :: ts =>
    if t = ['-', '-'] then .ok (.hyphens :: ts.map Token.plain)
    else do
      let token ← classify options t
      return token :: (← classifyAll options ts)

/-! ## All arguments of a command -/

/-- What has been collected. -/
structure Collected where
  /-- The plain argument. -/
  operand : Option Text := none
  /-- The options with their values, a flag with an empty one; the last one first. -/
  values : List (Text × Text) := []
  /-- Arguments that mean nothing, the last one first. -/
  extra : List Text := []
  /-- Help is asked for. -/
  help : Bool := false
deriving DecidableEq, Repr

/-- One more option with its value. -/
def Collected.withValue (c : Collected) (o : OptionSpec) (value : Text) :
    Except Refusal Collected :=
  match o.choices with
  | some choices =>
    if choices.contains value then .ok { c with values := (o.name, value) :: c.values }
    else .error (.notAllowed o.name value choices)
  | none => .ok { c with values := (o.name, value) :: c.values }

/-- The values of options and the plain argument among the arguments of a command. A request for
help ends the reading. -/
def collect (c : Collected) : List Token → Except Refusal Collected
  | [] => .ok c
  | .plain t :: ts =>
    match c.operand, ts with
    | none, .hyphens :: ts => collect { c with operand := some t } ts
    | none, ts => collect { c with operand := some t } ts
    | some _, ts => collect { c with extra := t :: c.extra } ts
  | .hyphens :: ts =>
    match c.operand, ts with
    | none, .plain t :: ts => collect { c with operand := some t } ts
    | _, ts => collect { c with extra := ['-', '-'] :: c.extra } ts
  | .unknown t :: ts => collect { c with extra := t :: c.extra } ts
  | .option o value :: ts =>
    if o = helpOption then
      match value with
      | none => .ok { c with help := true }
      | some v => .error (.unusedValue "-h/--help".toList v)
    else if o.hasValue then
      match value, ts with
      | some v, ts => do collect (← c.withValue o v) ts
      | none, .plain v :: ts => do collect (← c.withValue o v) ts
      | none, _ => .error (.noValue o.name)
    else
      match value with
      | none => collect { c with values := (o.name, []) :: c.values } ts
      | some v => .error (.unusedValue o.name v)

/-- What is missing from a command. -/
def missingFrom (spec : CommandSpec) (c : Collected) : List Text :=
  (if c.operand.isNone then [spec.operand] else [])
    ++ (spec.options.filter fun o => o.required && (c.values.lookup o.name).isNone).map (·.name)

/-- The arguments of a command. -/
structure Arguments where
  command : CommandName
  /-- Its plain argument. -/
  operand : Path
  /-- The layout that is not to be detected. -/
  layout : Option Upload.Layout := none
  carrier : Carrier := .fedex
  /-- The filter of trails. -/
  filter : Option Text := none
  /-- States of the engine are not folded. -/
  noNarrow : Bool := false
  /-- Nothing is logged to the console. -/
  noConsole : Bool := false
  /-- The level of logging by name. -/
  logLevel : Option Text := none
deriving DecidableEq, Repr

/-- The arguments of a command by what was collected. -/
def argumentsOf (command : CommandName) (c : Collected) : Arguments where
  command
  operand := .ofText (c.operand.getD [])
  layout := (c.values.lookup layoutOption.name).bind Upload.Layout.ofTag?
  carrier := ((c.values.lookup carrierOption.name).bind Carrier.ofText?).getD .fedex
  filter := c.values.lookup filterOption.name
  noNarrow := (c.values.lookup noNarrowOption.name).isSome
  noConsole := (c.values.lookup noConsoleOption.name).isSome
  logLevel := c.values.lookup logLevelOption.name

/-! ## The command line -/

/-- What a command line asks for. -/
inductive CommandLine where
  /-- A command. -/
  | run (arguments : Arguments)
  | help
  /-- It is refused, by the command that read it or by the program. -/
  | refused (by_ : Option CommandName) (refusal : Refusal)
deriving DecidableEq, Repr

/-- The rest of a command line behind its command. `extra` are the arguments before it. -/
def readCommand (extra : List Text) (command : CommandName) (rest : List Text) : CommandLine :=
  let refused := CommandLine.refused (some command)
  match classifyAll command.spec.options rest with
  | .error f => refused f
  | .ok tokens => match collect {} tokens with
    | .error f => refused f
    | .ok c =>
      if c.help then .help
      else match missingFrom command.spec c, extra ++ c.extra.reverse with
        | name :: names, _ => refused (.missing (name :: names))
        | [], [] => .run (argumentsOf command c)
        | [], unknown => .refused none (.unknown unknown)

/-- The refusal of a command that there is not. -/
def unknownCommand (t : Text) : CommandLine :=
  .refused none (.notAllowed "command".toList t (CommandName.all.map CommandName.text))

/-- The command line from an argument on. `extra` are the arguments before it that mean nothing. -/
def readFrom (extra : List Text) : List Text → CommandLine
  | [] => .refused none (.missing ["command".toList])
  | t :: ts =>
    if t = ['-', '-'] then
      if ts.isEmpty then .refused none (.missing ["command".toList]) else unknownCommand t
    else match classify [helpOption] t with
      | .error f => .refused none f
      | .ok (.option _ none) => .help
      | .ok (.option _ (some v)) => .refused none (.unusedValue "-h/--help".toList v)
      | .ok (.unknown _) => readFrom (extra ++ [t]) ts
      | .ok _ =>
        match CommandName.all.find? (·.text = t) with
        | some command => readCommand extra command ts
        | none => unknownCommand t

/-- What a command line asks for. -/
def readArguments (arguments : List Text) : CommandLine := readFrom [] arguments

def programName : Text := "carrier-status-engine".toList

/-- The line that refuses a command line. -/
def refusalLine (by_ : Option CommandName) (refusal : Refusal) : Text :=
  let name := match by_ with
    | some command => programName ++ ' ' :: command.text
    | none => programName
  name ++ ": error: ".toList ++ refusal.message

end ParcelStatus.Command
