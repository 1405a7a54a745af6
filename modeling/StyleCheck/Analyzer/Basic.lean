/-
# The external analyzer

The analyzer is started on a copy of the document and prints its diagnostics.
What comes of starting it is given from outside. The run fails when the
analyzer cannot be started or takes too long, or when it ends with a status
other than zero, reports nothing that can be used and complains. A document
whose suffix cannot be part of a file name, or makes it too long, cannot be
handed over at all.

Key definitions: `Analyzer`, `AnalyzerError`, `Analyzer.inputError?`,
`Analyzer.callFor`, `Analyzer.analyze`.
-/
import StyleCheck.Analyzer.OutputLine
import StyleCheck.Source.Tree

namespace StyleCheck

/-- How the external analyzer is started. Its input is written to a file whose
path is `inputStem`, which the system ends as it likes, and a suffix. -/
structure Analyzer where
  program : Program := .standard
  timeout : TimeLimit := .standard
  projectRoot : Option Path := none
  extraArguments : List String := []
  inputStem : String := "/tmp/cubtek_00000000"
  deriving Repr, Inhabited

/-- Why a run of the analyzer failed. -/
inductive AnalyzerError where
  | notFound (program : Program)
  | timedOut (program : Program) (timeout : TimeLimit)
  | notStarted (program : Program) (number : Int) (reason : String)
  /-- The project's own set-up of the analyzer cannot be looked at. -/
  | notSetUp (program : Program) (error : FileError)
  | complained (text : List Char)
  /-- The copy of the document cannot be written. -/
  | notHandedOver (error : FileError)
  deriving DecidableEq, Repr, Inhabited

/-- The text of the error. -/
def AnalyzerError.message : AnalyzerError → String
  | notFound program => program.text ++ " not found. Please install clang-tidy."
  | timedOut program timeout => program.text ++ " timed out after " ++ timeout.text ++ "s"
  | notStarted program number reason =>
    "Failed to run " ++ program.text ++ ": " ++ systemErrorText number reason program.quoted
  | notSetUp program error => "Failed to run " ++ program.text ++ ": " ++ error.message
  | complained text => String.ofList text
  | notHandedOver error => error.message

/-- What surrounds a checker: the files, and what comes of each call of the
external analyzer. -/
structure Surroundings where
  tree : Tree
  tool : Call → ToolOutcome
  deriving Inhabited

/-- The text of an output of another program; an output that was not recorded
is empty. -/
def outputText (bytes : Option (List UInt8)) : List Char :=
  Text.unifyNewlines (Text.decodeUtf8Lenient (bytes.getD []))

namespace Analyzer

/-- The suffix of the analyzer's input: the document's own, or else one for its
language. -/
def inputSuffix (d : Document) : List Char :=
  match (d.path.map Path.suffix).getD [] with
  | [] => (if d.language = "cpp" then ".cpp" else ".c").toList
  | suffix => suffix

/-- The place where the analyzer's input is written. -/
def inputPath (a : Analyzer) (d : Document) : Path :=
  Path.ofString (a.inputStem ++ String.ofList (inputSuffix d))

/-- What keeps the analyzer's input from being written. -/
def inputError? (a : Analyzer) (d : Document) : Option FileError :=
  if (inputSuffix d).contains '\x00' then some .nullCharacter
  else if isLongName (a.inputPath d).name || (a.inputPath d).isLong then
    some (.nameTooLong (a.inputPath d))
  else none

/-- The place of the project's own set-up of the analyzer. -/
def setupPath? (a : Analyzer) : Option Path :=
  a.projectRoot.map fun root => root.join (Path.ofString ".clang-tidy")

/-- The options that name the project's own set-up of the analyzer, if the
project has one. -/
def setupOptions (a : Analyzer) (tree : Tree) : List String :=
  match a.setupPath? with
  | some setup => if tree.holds setup then ["--config-file=" ++ setup.text] else []
  | none => []

/-- What keeps the analyzer from being started on a document. -/
def obstacle? (a : Analyzer) (tree : Tree) (d : Document) : Option AnalyzerError :=
  match a.inputError? d with
  | some e => some (.notHandedOver e)
  | none =>
    match a.setupPath? with
    | some setup =>
      if tree.refuses setup then some (.notSetUp a.program (.nameTooLong setup)) else none
    | none => none

/-- The call of the analyzer for a document. -/
def callFor (a : Analyzer) (tree : Tree) (d : Document) : Call where
  program := a.program
  suffix := String.ofList (inputSuffix d)
  options := a.setupOptions tree ++ a.extraArguments
  timeout := a.timeout
  source := d.text

/-- The system's number for a file that is missing. -/
def missingNumber : Int := 2

/-- What the outcome of a call reports about a document. -/
def interpret (a : Analyzer) (tool : ToolOutcome) (d : Document) :
    Traced (Except AnalyzerError (List Diagnostic)) :=
  match tool with
  | .notFound => pure (.error (.notFound a.program))
  | .timedOut => pure (.error (.timedOut a.program a.timeout))
  | .failed number reason =>
    pure (.error (if number = missingNumber then .notFound a.program
      else .notStarted a.program number reason))
  | .finished output errors status => do
    let diagnostics ← parseOutput d (outputText output)
    let complaint := Text.trim (outputText errors)
    if status ≠ 0 ∧ diagnostics.isEmpty = true ∧ complaint ≠ [] then
      pure (.error (.complained complaint))
    else pure (.ok diagnostics)

/-- Runs the analyzer on a document. -/
def analyze (a : Analyzer) (around : Surroundings) (d : Document) :
    Traced (Except AnalyzerError (List Diagnostic)) := do
  match a.obstacle? around.tree d with
  | some e => pure (.error e)
  | none =>
    let call := a.callFor around.tree d
    Traced.call call
    a.interpret (around.tool call) d

end Analyzer

end StyleCheck
