/-
# Runs

What a command line does: it checks files, lists the rules, or explains itself.
A run reads the files around it and what comes of the external analyzer's calls, and
gives what is printed, the log, and how it ends.

Key definitions: `Ending`, `Outcome`, `expandPaths`, `checkPaths`, `run`.
-/
import StyleCheck.Command.Options
import StyleCheck.Config.Load

namespace StyleCheck.Command

/-- What a run does not survive. -/
inductive Crash where
  | limit (error : LimitError)
  | settings (error : LoadError)
  | file (error : FileError)
  | number (error : NumberError)
  /-- A value is needed that got lost. -/
  | lostValue (setting : Setting)
  deriving DecidableEq, Repr, Inhabited

/-- What is said about a value that got lost, by the need for it. -/
def lostValueMessage : Setting → String
  | .logLevel => "'list' object has no attribute 'upper'"
  | .config => "expected str, bytes or os.PathLike object, not list"
  | .rule => "'in <string>' requires string as left operand, not list"
  | .failOn => "[] is not a valid Severity"
  | _ => "unhashable type: 'list'"

/-- What is said about a run that breaks off. -/
def Crash.message : Crash → String
  | limit e => e.message
  | settings e => e.message
  | file e => e.message
  | number e => e.message
  | lostValue setting => lostValueMessage setting

/-- How a run ends. -/
inductive Ending where
  | exit (status : Nat)
  | crash (crash : Crash)
  deriving DecidableEq, Repr, Inhabited

/-- What a run leaves behind: how it ends, what it prints, the lines of its
log and the calls of the external analyzer. -/
structure Outcome where
  ending : Ending
  output : String := ""
  log : List String := []
  calls : List Call := []
  deriving Repr, Inhabited

/-- The suffixes of the files that a directory is searched for. -/
def sourceSuffixes : List String :=
  [".c", ".h", ".cpp", ".hpp", ".cc", ".cxx", ".hh", ".hxx"]

/-- A file that a directory is searched for, by its suffix in any letter case. -/
def isSourceFile (path : Path) : Bool :=
  sourceSuffixes.contains (String.ofList (Text.lower path.suffix))

/-- The files that a path stands for: a directory for the source files at any
depth below it, anything else for itself. -/
def expandPath (tree : Tree) (path : Path) : Search :=
  if tree.isDirectory path then
    let search := tree.filesBelow path
    { search with found := search.found.filter isSourceFile }
  else { found := [path] }

/-- The files that some paths stand for, one path after the other. -/
def expandPaths (tree : Tree) : List Path → Search
  | [] => { found := [] }
  | path :: rest => (expandPath tree path).andThen (expandPaths tree rest)

/-- Checks the files that some paths stand for. They are looked for while the
check goes on, so what the search breaks off with comes after all that the files
found before it give. -/
def checkPaths (c : Checker) (around : Surroundings) (paths : List Path) :
    Traced (Except FileError ProjectResult) := do
  let search := expandPaths around.tree paths
  let items := search.found.map fun path => Item.file path.text
  match ← c.checkProject around (fun _ => false) items with
  | .error e => pure (.error e)
  | .ok result =>
    match search.failure with
    | some e => pure (.error e)
    | none => pure (.ok result)

/-- Why no checker could be set up: the name of the settings file got lost, or
the settings are at fault, or a rule's parameters are. -/
inductive SetupError where
  | lostName
  | settings (error : LoadError)
  | limit (error : LimitError)

/-- The checker for the working directory. -/
def setUp (o : Options) (tree : Tree) (external : Bool) : Traced (Except SetupError Checker) := do
  if o.lost.contains .config then return .error .lostName
  match ← loadSettings tree usualLocations o.config (some tree.base) with
  | .error e => pure (.error (.settings e))
  | .ok settings =>
    match ← Registry.builtin.apply settings with
    | (_, some e) => pure (.error (.limit e))
    | (registry, none) =>
      let analyzer : Analyzer :=
        { program := o.analyzerProgram
          timeout := o.timeout
          projectRoot := some tree.base }
      pure (.ok { settings, registry, analyzer := if external then some analyzer else none })

/-- How a run ends whose checker could not be set up: settings that cannot be
loaded are reported. -/
def setupFailure : SetupError → Ending × String
  | .lostName => (.crash (.lostValue .config), "")
  | .limit e => (.crash (.limit e), "")
  | .settings e =>
    match e with
    | .notUtf8 _ => (.crash (.settings e), "")
    | .badValue _ => (.crash (.settings e), "")
    | .refused _ => (.crash (.settings e), "")
    | _ => (.exit 2, "Error: " ++ e.message ++ "\n")

/-- The line that lists a rule. -/
def ruleLine (rule : Rule) : String :=
  rule.info.id ++ "  " ++ rule.info.name ++ "  [" ++ rule.info.category ++ "]  " ++
    rule.stateName ++ "  " ++ rule.severity.name ++ "\n"

/-- Lists the rules. -/
def listRules (o : Options) (tree : Tree) : Traced (Ending × String) := do
  match ← setUp o tree false with
  | .error e => pure (setupFailure e)
  | .ok checker => pure (.exit 0, String.join (checker.registry.rules.map ruleLine))

/-- The words for rule ids are tried on a diagnostic in order, and one that got
lost comes up before any that fits. -/
def needsLostRule (o : Options) (d : Diagnostic) : Bool :=
  (o.minSeverity.all fun least => d.severity.reaches least) &&
    o.rules.find? (fun word => word.all fun word => mentionsAny [word] d.ruleId) == some none

/-- The report on a result, with the status that it gives. -/
def reportOn (o : Options) (result : ProjectResult) : Ending × String :=
  if result.diagnostics.any (needsLostRule o) then (.crash (.lostValue .rule), "")
  else if o.lost.contains .failOn then (.crash (.lostValue .failOn), "")
  else if o.lost.contains .format then (.crash (.lostValue .format), "")
  else
    let report := Report.ofResult result o.minSeverity (o.rules.filterMap id)
    match report.format o.format with
    | .error e => (.crash (.number e), "")
    | .ok text => (.exit (if report.fails o.failOn then 1 else 0), String.ofList text ++ "\n")

/-- Checks files. -/
def checkFiles (o : Options) (around : Surroundings) : Traced (Ending × String) := do
  let tree := around.tree
  let paths := if o.paths.isEmpty then [tree.base] else o.paths
  match paths.find? tree.refuses, paths.find? fun path => !tree.holds path with
  | some path, _ => pure (.crash (.file (.nameTooLong path)), "")
  | none, some path => pure (.exit 2, "Error: path not found: " ++ path.text ++ "\n")
  | none, none =>
    match ← setUp o tree o.external with
    | .error e => pure (setupFailure e)
    | .ok checker =>
      match ← checkPaths checker around paths with
      | .error e => pure (.crash (.file e), "")
      | .ok result => pure (reportOn o result)

/-- What the command of a run does. -/
def runCommand (o : Options) (around : Surroundings) : Traced (Ending × String) :=
  if o.lost.contains .logLevel then pure (.crash (.lostValue .logLevel), "")
  else
    match o.command with
    | some .check => checkFiles o around
    | some .rules => listRules o around.tree
    | _ => pure (.exit 0, Topic.general.help)

/-- The outcome of a run with these options. -/
def runWith (o : Options) (around : Surroundings) : Outcome :=
  let traced := runCommand o around
  { ending := traced.value.1
    output := traced.value.2
    log := (notesFrom o.logLevel traced.events).flatMap fun note =>
      (Text.splitLines note.line.toList).map String.ofList
    calls := callsOf traced.events }

/-- The outcome of a command line. -/
def run (words : List String) (around : Surroundings) : Outcome :=
  match readOptions words with
  | .error (.help topic) => { ending := .exit 0, output := topic.help }
  | .error (.usage topic error) =>
    { ending := .exit 2
      log := (Text.splitLines (usageLine topic error).toList).getLast?.toList.map String.ofList }
  | .ok o => runWith o around

end StyleCheck.Command
