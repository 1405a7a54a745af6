/-
# Severities

Four levels, the most severe first. A severity is named by its own word in any
letter case, blanks around it being passed over; `info` is short for
`information`.

Key definitions: `Severity`, `Severity.rank`, `Severity.ofName?`,
`Severity.ofValue?`.
-/
import StyleCheck.Text.Blank
import StyleCheck.Text.Case
import StyleCheck.Value

namespace StyleCheck

/-- How serious a diagnostic is. -/
inductive Severity where
  | error
  | warning
  | information
  | hint
  deriving DecidableEq, Repr, Inhabited

namespace Severity

/-- The severities, most severe first. -/
def all : List Severity := [error, warning, information, hint]

/-- The place in the order: lower is more severe. -/
def rank : Severity → Nat
  | error => 0
  | warning => 1
  | information => 2
  | hint => 3

/-- The word for a severity. -/
def name : Severity → String
  | error => "error"
  | warning => "warning"
  | information => "information"
  | hint => "hint"

/-- At least as severe as `threshold`. -/
def reaches (s threshold : Severity) : Bool :=
  s.rank ≤ threshold.rank

/-- The severity with exactly this name. -/
def ofWord? (word : String) : Option Severity :=
  all.find? fun s => s.name = word

/-- The severity that a text names. -/
def ofName? (text : List Char) : Option Severity :=
  let word := String.ofList (Text.lower (Text.trim text))
  if word = "info" then some information else ofWord? word

/-- The severity that a value of a settings file names; only texts name one. -/
def ofValue? : Value → Option Severity
  | .text s => (Text.chars? s).bind ofName?
  | _ => none

end Severity

end StyleCheck
