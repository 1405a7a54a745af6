/-
# Options of a run

A command line has flags of the program, a command, and the flags and paths of
that command. The flags take effect from left to right, so the first thing that
is wrong, or the first request for help, decides. The paths of the check
command stand together; a later argument is not recognised. Words that are not
recognised are reported at the very end.

A value of two hyphens behind an equals sign gets lost: the flag then has been
given without a value, which shows only where the run needs the value.

Key definitions: `Options`, `Stop`, `readOptions`.
-/
import StyleCheck.Command.Help
import StyleCheck.Command.Words
import StyleCheck.Report.Basic

namespace StyleCheck.Command

/-- The options of a run. -/
structure Options where
  logLevel : Level := .warning
  config : Option Path := none
  command : Option Topic := none
  paths : List Path := []
  external : Bool := true
  analyzerProgram : Program := .standard
  timeout : TimeLimit := .standard
  minSeverity : Option Severity := none
  /-- The words to look for in rule ids; nothing for one that got lost. -/
  rules : List (Option String) := []
  failOn : Severity := .error
  format : ReportFormat := .table
  /-- The other settings whose last value got lost. -/
  lost : List Setting := []
  deriving Repr, Inhabited

/-- Why a command line leads to no run. -/
inductive Stop where
  | help (topic : Topic)
  | usage (topic : Topic) (error : UsageError)
  deriving DecidableEq, Repr, Inhabited

/-- The line that reports wrong usage. -/
def usageLine (topic : Topic) (error : UsageError) : String :=
  topic.program ++ ": error: " ++ error.message

/-- The flag that asks for help. -/
def helpFlag : Flag := ⟨["-h", "--help"], .help⟩

/-- The flags of the program or of a command, in the order of its help text. -/
def Topic.flags : Topic → List Flag
  | general => [helpFlag, ⟨["--log-level"], .logLevel⟩, ⟨["--config"], .config⟩]
  | check =>
    [helpFlag, ⟨["--config"], .config⟩, ⟨["--no-external"], .noExternal⟩,
     ⟨["--clang-tidy-bin"], .analyzerProgram⟩, ⟨["--timeout"], .timeout⟩,
     ⟨["--min-severity"], .minSeverity⟩, ⟨["--rule"], .rule⟩, ⟨["--fail-on"], .failOn⟩,
     ⟨["--format"], .format⟩]
  | rules => [helpFlag, ⟨["--config"], .config⟩]

/-- The one of some choices that a value names. -/
def choose {α : Type} (title value : String) (choices : List (String × α)) :
    Except UsageError α :=
  match entryAt? value choices with
  | some a => .ok a
  | none => .error (.badChoice title value (choices.map (·.1)))

/-- The severities by name. -/
def severityChoices : List (String × Severity) :=
  Severity.all.map fun severity => (severity.name, severity)

/-- Sets what a flag sets. -/
def Options.set (o : Options) (flag : Flag) (value : String) : Except UsageError Options :=
  let o := { o with lost := o.lost.filter (· ≠ flag.setting) }
  match flag.setting with
  | .help => .ok o
  | .logLevel => do
    let logLevel ← choose flag.title value (Level.all.map fun level => (level.name, level))
    pure { o with logLevel }
  | .config => .ok { o with config := some (Path.ofString value) }
  | .noExternal => .ok { o with external := false }
  | .analyzerProgram => .ok { o with analyzerProgram := .named value }
  | .timeout =>
    match readReal? value.toList with
    | some seconds => .ok { o with timeout := .seconds (.real seconds) }
    | none => .error (.badFloat flag value)
  | .minSeverity => do
    let severity ← choose flag.title value severityChoices
    pure { o with minSeverity := some severity }
  | .rule => .ok { o with rules := o.rules ++ [some value] }
  | .failOn => do
    let failOn ← choose flag.title value severityChoices
    pure { o with failOn }
  | .format => do
    let format ← choose flag.title value
      (ReportFormat.all.map fun format => (format.name, format))
    pure { o with format }

/-- Notes that the value of a setting got lost. Without a least severity all are
reported, and the analyzer is called without its name or its time. -/
def Options.lose (o : Options) (setting : Setting) : Options :=
  match setting with
  | .minSeverity => { o with minSeverity := none }
  | .analyzerProgram => { o with analyzerProgram := .lost }
  | .timeout => { o with timeout := .lost }
  | .rule => { o with rules := o.rules ++ [none] }
  | _ => { o with lost := setting :: o.lost }

/-- Lets a flag take effect: a request for help ends the reading. -/
def take (topic : Topic) (o : Options) (flag : Flag) (value : String) : Except Stop Options :=
  if flag.setting = .help then .error (.help topic)
  else (o.set flag value).mapError (.usage topic)

/-- Lets a flag take effect whose value, if it has one, stands in the same word. -/
def takeAlone (topic : Topic) (o : Options) (flag : Flag) (name : String)
    (value : Option String) : Except Stop Options :=
  match value with
  | none => take topic o flag ""
  | some text =>
    if flag.setting.takesValue then
      if text = "--" then .ok (o.lose flag.setting) else take topic o flag text
    else if name.toList.take 2 = ['-', '-'] then
      .error (.usage topic (.ignoredValue flag text))
    else
      match checkShortTail flag text.toList with
      | .error e => .error (.usage topic e)
      | .ok () => take topic o flag ""

/-- Where the paths of a command stand: still to come, being read, or closed by
a flag behind them. A command without paths has them closed from the start. -/
inductive PathState where
  | ahead
  | reading
  | closed
  deriving DecidableEq, Repr, Inhabited

/-- A flag ends the paths. -/
def PathState.afterFlag : PathState → PathState
  | ahead => ahead
  | _ => closed

/-- Reads the words of a command. Gives the options and the words that are not
recognised. -/
def readCommand (topic : Topic) (o : Options) (state : PathState) :
    List (String × Reading) → Except Stop (Options × List String)
  | [] => .ok (o, [])
  | (word, reading) :: rest =>
    match reading with
    | .unknown => do
      let (o, extras) ← readCommand topic o state.afterFlag rest
      pure (o, word :: extras)
    | .argument =>
      if state = .closed then do
        let (o, extras) ← readCommand topic o .closed rest
        pure (o, word :: extras)
      else readCommand topic { o with paths := o.paths ++ [Path.ofString word] } .reading rest
    | .separator =>
      if state = .closed then do
        let (o, extras) ← readCommand topic o .closed rest
        pure (o, word :: extras)
      else readCommand topic o .reading rest
    | .flag flag name value =>
      if flag.setting.takesValue ∧ value = none then
        match rest with
        | (argument, .argument) :: rest => do
          let o ← take topic o flag argument
          readCommand topic o state.afterFlag rest
        | _ => .error (.usage topic (.missingValue flag))
      else do
        let o ← takeAlone topic o flag name value
        readCommand topic o state.afterFlag rest

/-- The commands by name. -/
def commandChoices : List (String × Topic) :=
  [("check", .check), ("rules", .rules)]

/-- Reads a command and its words. -/
def readNamedCommand (o : Options) (name : String) (words : List String) :
    Except Stop (Options × List String) := do
  let topic ← (choose "command" name commandChoices).mapError (.usage .general)
  let readings ← (readWords topic.flags words).mapError (.usage topic)
  readCommand topic { o with command := some topic }
    (if topic = .check then .ahead else .closed) readings

/-- Reads the words of a command line up to its command, and then the command.
Gives the options and the words that are not recognised. -/
def readProgram (o : Options) : List (String × Reading) → Except Stop (Options × List String)
  | [] => .ok (o, [])
  | (word, reading) :: rest =>
    let words := rest.map (·.1)
    match reading with
    | .unknown => do
      let (o, extras) ← readProgram o rest
      pure (o, word :: extras)
    | .argument => readNamedCommand o word words
    | .separator => if rest.isEmpty then .ok (o, [word]) else readNamedCommand o word words
    | .flag flag name value =>
      if flag.setting.takesValue ∧ value = none then
        match rest with
        | (argument, .argument) :: rest => do
          let o ← take .general o flag argument
          readProgram o rest
        | _ => .error (.usage .general (.missingValue flag))
      else do
        let o ← takeAlone .general o flag name value
        readProgram o rest

/-- Reads a command line. -/
def readOptions (words : List String) : Except Stop Options := do
  let readings ← (readWords Topic.general.flags words).mapError (.usage .general)
  let (o, extras) ← readProgram {} readings
  if extras.isEmpty then pure o else throw (.usage .general (.unrecognized extras))

end StyleCheck.Command
