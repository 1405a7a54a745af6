/-
# Lines of the analyzer's output

The external analyzer reports a problem on a line of its own: a path, a line
and a column number, a grade, a message and a rule id in brackets, as in
`a.c:3:7: warning: unused name [misc-unused]`. Blanks around a line do not
count. Where a line can be cut in more than one way, the path is as short as
possible, then the blanks before the message are as many as possible, then the
message is as short as possible. Lines of any other shape are passed over, and
so, with a note, are lines whose numbers cannot be used.

Key definitions: `Grade`, `OutputLine`, `OutputLine.read?`,
`OutputLine.diagnose`, `parseOutput`.
-/
import StyleCheck.Finding
import StyleCheck.Text.Digit
import StyleCheck.Text.Search
import StyleCheck.Trace

namespace StyleCheck

open Text

/-- The analyzer's own levels. -/
inductive Grade where
  | fatalError
  | error
  | warning
  | note
  | remark
  deriving DecidableEq, Repr, Inhabited

namespace Grade

/-- Every grade. -/
def all : List Grade := [fatalError, error, warning, note, remark]

/-- The words for a grade. -/
def name : Grade → String
  | fatalError => "fatal error"
  | error => "error"
  | warning => "warning"
  | note => "note"
  | remark => "remark"

/-- The severity that a grade stands for. -/
def severity : Grade → Severity
  | fatalError => .error
  | error => .error
  | warning => .warning
  | note => .information
  | remark => .information

end Grade

/-- A line of the analyzer's output, cut into its parts; the numbers are still
digits. -/
structure OutputLine where
  path : List Char
  line : List Char
  column : List Char
  grade : Grade
  message : List Char
  ruleId : List Char
  deriving DecidableEq, Repr, Inhabited

namespace OutputLine

/-- The rule id of a text that consists of blanks, the id in brackets, and
blanks. -/
def readRuleId? (text : List Char) : Option (List Char) :=
  match text.takeWhile isBlank, text.dropWhile isBlank with
  | _ :: _, '[' :: inner =>
    let ruleId := inner.takeWhile (· ≠ ']')
    match inner.dropWhile (· ≠ ']') with
    | _ :: rest => if ruleId ≠ [] ∧ rest.all isBlank then some ruleId else none
    | [] => none
  | _, _ => none

/-- The shortest message, at least one character long, that a rule id follows;
`before` is the beginning of the message, backwards. A message does not go on
with a blank and end there: the same rule id, if any, follows it without that
blank. -/
def readMessage? (before : List Char) : List Char → Option (List Char × List Char)
  | [] => none
  | c :: cs =>
    if c = '\n' then none
    else
      match if before ≠ [] ∧ isBlank c = true then none else readRuleId? cs with
      | some ruleId => some ((c :: before).reverse, ruleId)
      | none => readMessage? (c :: before) cs

/-- A message and a rule id behind at least one blank, the blanks before the
message being as many as possible. -/
def readAfterBlanks? : List Char → Option (List Char × List Char)
  | [] => none
  | c :: cs =>
    if isBlank c then (readAfterBlanks? cs).orElse fun _ => readMessage? [] cs else none

/-- The grade that a text begins with, and the text behind it and its colon. -/
def readGrade? (text : List Char) : Option (Grade × List Char) :=
  Grade.all.findSome? fun grade =>
    (dropWord? (grade.name.toList ++ [':']) text).map fun rest => (grade, rest)

/-- Digits, at least one, up to a colon, and the text behind it. -/
def readNumber? (text : List Char) : Option (List Char × List Char) :=
  match text.takeWhile isDigit, text.dropWhile isDigit with
  | d :: digits, ':' :: rest => some (d :: digits, rest)
  | _, _ => none

/-- The parts of a line behind the path and its colon. -/
def readAfterPath? (path text : List Char) : Option OutputLine := do
  let (line, rest) ← readNumber? text
  let (column, rest) ← readNumber? rest
  let (grade, rest) ←
    match rest.takeWhile isBlank with
    | [] => none
    | _ => readGrade? (rest.dropWhile isBlank)
  let (message, ruleId) ← readAfterBlanks? rest
  pure ⟨path, line, column, grade, message, ruleId⟩

/-- The parts of a line with the shortest path, at least one character long;
`before` is the beginning of the path, backwards. -/
def readFrom? (before : List Char) : List Char → Option OutputLine
  | [] => none
  | c :: cs =>
    let here := if c = ':' ∧ before ≠ [] then readAfterPath? before.reverse cs else none
    match here with
    | some line => some line
    | none => if c = '\n' then none else readFrom? (c :: before) cs

/-- The parts of a line of the analyzer's output. -/
def read? (text : List Char) : Option OutputLine :=
  readFrom? [] (trim text)

/-- Why the numbers of a line cannot be used. -/
inductive Flaw where
  | tooManyDigits (count : Nat)
  | notFromOne
  deriving DecidableEq, Repr, Inhabited

/-- The text of a flaw. -/
def Flaw.message : Flaw → String
  | tooManyDigits count =>
    "Exceeds the limit (" ++ toString maxIntegerDigits ++
      " digits) for integer string conversion: value has " ++ toString count ++
      " digits; use sys.set_int_max_str_digits() to increase the limit"
  | notFromOne => "line and column must be 1-based"

/-- The number that some digits write, if they are not too many. -/
def number (digits : List Char) : Except Flaw Nat :=
  if digits.length ≤ maxIntegerDigits then .ok (decimalValue digits)
  else .error (.tooManyDigits digits.length)

/-- Where a problem that starts at a column ends: behind the next semicolon, or
else at the end of the line, but never before the column. The number of a line
that was read from the output has few enough digits to be written, so the line is
not there where it cannot be given. -/
def endColumn (d : Document) (line column : Nat) : Nat :=
  match d.lineText line with
  | .error _ => column
  | .ok text =>
    match indexOf? [';'] (text.drop column) with
    | some distance => column + distance + 1
    | none => max text.length column

/-- The diagnostic that a line reports; lines and columns are counted from one
in the output. -/
def diagnose (o : OutputLine) (d : Document) : Except Flaw Diagnostic := do
  let line ← number o.line
  let column ← number o.column
  if line = 0 ∨ column = 0 then throw .notFromOne
  let ruleId := String.ofList (trim o.ruleId)
  pure {
    range := Range.onLine (line - 1 : Nat) (column - 1 : Nat) (endColumn d (line - 1) (column - 1))
    message := String.ofList o.message ++ " [" ++ ruleId ++ "]"
    severity := o.grade.severity
    ruleId
    origin := .analyzer
    details := [("path", .text (String.ofList o.path))] }

end OutputLine

/-- The diagnostic that one line of output reports, if it reports one. -/
def parseOutputLine (d : Document) (line : List Char) : Traced (Option Diagnostic) :=
  match OutputLine.read? line with
  | none => pure none
  | some parts =>
    match parts.diagnose d with
    | .ok diagnostic => pure (some diagnostic)
    | .error flaw => do
      Traced.note .warning .analyzer
        ("Skipping clang-tidy output line " ++ String.ofList (quoted line) ++ ": " ++ flaw.message)
      pure none

/-- The diagnostics that some lines report, in order. -/
def parseOutputLines (d : Document) : List (List Char) → Traced (List Diagnostic)
  | [] => pure []
  | line :: rest => do
    let first ← parseOutputLine d line
    let others ← parseOutputLines d rest
    pure (first.toList ++ others)

/-- The diagnostics that the analyzer's output reports, in order. -/
def parseOutput (d : Document) (output : List Char) : Traced (List Diagnostic) :=
  parseOutputLines d (outputLines output)

end StyleCheck
