/-
# The function length rule

A function is too long when the lines from the one with its return type to the
one with its closing brace, both counted, are more than a limit. Functions and
their braces are looked for in the masked text, lines are counted in the text
as it stands. A finding shows the number of lines and the limit; the rule fails at
the first one that would show a number of too many digits.

The limit comes from a parameter that may be any value. What converts to a
whole number that is at least one is taken; anything else is noted, and the
rule's standard limit applies. An infinite number is the one value that the
conversion fails on outright.

Key definitions: `functionInfo`, `limitOf`, `configureLimit`, `functionSpan?`,
`excessLines?`, `lengthFinding`, `longFunctions`.
-/
import StyleCheck.Finding
import StyleCheck.Rule.Info
import StyleCheck.Source.Mask
import StyleCheck.Source.Signature
import StyleCheck.Trace

namespace StyleCheck

/-- What is fixed about the function length rule. -/
def functionInfo : RuleInfo where
  id := "CUBTEK-FUNC-001"
  name := "Function Length"
  description := "Functions should not exceed the maximum allowed length"
  category := "Maintainability"
  defaultSeverity := .warning

/-- The limit of lines that applies when none is set. -/
def standardLimit : Int := 50

/-- A limit that is infinite. -/
inductive LimitError where
  | infinite
  deriving DecidableEq, Repr, Inhabited

/-- The text of the error. -/
def LimitError.message : LimitError → String
  | infinite => "cannot convert float infinity to integer"

/-- The whole number that a value converts to, nothing if it does not convert. -/
def limitOf : Value → Except LimitError (Option Int)
  | .bool b => .ok (some (if b then 1 else 0))
  | .number (.whole n) => .ok (some n)
  | .number (.real (.infinite _)) => .error .infinite
  | .number (.real x) => .ok x.truncate?
  | .text s => .ok ((Text.chars? s).bind readInteger?)
  | _ => .ok none

/-- The parameter that sets the limit: `maxLines`, or `max_lines` if that is
not there. -/
def limitParameter (params : Mapping) : Value :=
  ((params.get? "maxLines").orElse fun _ => params.get? "max_lines").getD .null

/-- Notes that a limit is passed over. -/
def noteIgnoredLimit (flaw : String) (value : Value) : Traced Unit :=
  Traced.noteOf .warning .functionLength
    ("Ignoring " ++ flaw ++ " maxLines for " ++ functionInfo.id ++ ": ") value

/-- The limit that parameters set for a rule with this standard limit. -/
def configureLimit (standard : Int) (params : Mapping) : Traced (Except LimitError Int) :=
  match limitParameter params with
  | .null => pure (.ok standard)
  | value =>
    match limitOf value with
    | .error e => pure (.error e)
    | .ok none => do
      noteIgnoredLimit "invalid" value
      pure (.ok standard)
    | .ok (some n) =>
      if n < 1 then do
        noteIgnoredLimit "non-positive" value
        pure (.ok standard)
      else pure (.ok n)

/-- The offsets of a function's return type and closing brace in a masked text. -/
def functionSpan? (masked : List Char) (s : Source.Signature) : Option (Nat × Nat) :=
  (Source.blockEnd? masked ((s.stop : Int) - 1)).map fun stop => (s.start, stop)

/-- The number of lines from one offset to another, both lines counted. -/
def Document.linesBetween (d : Document) (first last : Nat) : Int :=
  (d.positionAt last).line - (d.positionAt first).line + 1

/-- What is reported about a function of this many lines, unless a number in the
message has too many digits. -/
def lengthFinding (limit : Int) (s : Source.Signature) (lineCount : Int) :
    Except NumberError Finding := do
  let name := String.ofList s.name
  let count ← writtenInteger lineCount
  let most ← writtenInteger limit
  pure {
    ruleId := functionInfo.id
    message := "Function \"" ++ name ++ "\" is " ++ count ++ " lines long (maximum allowed is " ++
      most ++ ")"
    kind := .function
    offset := some s.nameAt
    identifier := some name
    details := [("name", .text name), ("lineCount", .number (.whole lineCount)),
      ("maxAllowed", .number (.whole limit))] }

/-- The number of lines of a function that is closed and longer than the limit. -/
def excessLines? (limit : Int) (d : Document) (masked : List Char) (s : Source.Signature) :
    Option Int :=
  match functionSpan? masked s with
  | some (first, last) =>
    let lineCount := d.linesBetween first last
    if lineCount ≤ limit then none else some lineCount
  | none => none

/-- Notes a function that is never closed. -/
def noteUnclosed (masked : List Char) (s : Source.Signature) : Traced Unit :=
  match functionSpan? masked s with
  | some _ => pure ()
  | none => Traced.note .debug .functionLength
      ("No closing brace for function " ++ String.ofList (Text.quoted s.name) ++ " at offset " ++
        toString s.start)

/-- The findings about those of some functions that are longer than the limit. -/
def longFunctionsAmong (limit : Int) (d : Document) (masked : List Char) :
    List Source.Signature → Traced (Except NumberError (List Finding))
  | [] => pure (.ok [])
  | s :: rest => do
    noteUnclosed masked s
    match excessLines? limit d masked s with
    | none => longFunctionsAmong limit d masked rest
    | some lineCount =>
      match lengthFinding limit s lineCount with
      | .error e => pure (.error e)
      | .ok finding =>
        let others ← longFunctionsAmong limit d masked rest
        pure (others.map (finding :: ·))

/-- The findings about functions that are longer than the limit. -/
def longFunctions (limit : Int) (d : Document) : Traced (Except NumberError (List Finding)) :=
  let masked := Source.mask d.text
  longFunctionsAmong limit d masked (Source.signatures masked)

end StyleCheck
