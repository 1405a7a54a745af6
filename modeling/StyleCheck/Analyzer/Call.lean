/-
# Calls of the external analyzer

What the analyzer is started with, and what came of it. The name of the program
and the time that it is given may have got lost on the way; both are then handed
on as an empty list.

Key definitions: `TimeLimit`, `Program`, `Call`, `Call.arguments`,
`ToolOutcome`.
-/
import StyleCheck.Number.Basic
import StyleCheck.Text.Quoted

namespace StyleCheck

/-- What a value that got lost is shown as. -/
def lostText : String := "[]"

/-- How long the analyzer may take. -/
inductive TimeLimit where
  | seconds (n : Number)
  | unlimited
  | lost
  deriving DecidableEq, Repr, Inhabited

/-- The time that the analyzer has unless something else is said. -/
def TimeLimit.standard : TimeLimit := seconds (.real (Binary64.ofDecimal false 30 0))

/-- The text of a time limit. -/
def TimeLimit.text : TimeLimit → String
  | seconds n => String.ofList n.text
  | unlimited => "None"
  | lost => lostText

/-- The program that is started. -/
inductive Program where
  | named (name : String)
  | lost
  deriving DecidableEq, Repr, Inhabited

/-- The program that is started unless something else is said. -/
def Program.standard : Program := named "clang-tidy"

/-- The name of the program in messages. -/
def Program.text : Program → String
  | named name => name
  | lost => lostText

/-- The name of the program as the system quotes it. -/
def Program.quoted : Program → String
  | named name => String.ofList (Text.quoted name.toList)
  | lost => lostText

/-- One start of the external analyzer: the program, the options behind the
name of its input, the time that it is given, and the input, which is handed
over in a temporary file with this suffix. -/
structure Call where
  program : Program
  suffix : String
  options : List String
  timeout : TimeLimit
  source : List Char
  deriving DecidableEq, Repr, Inhabited

/-- The words behind the program in a call whose input file is named `stem` and
the suffix. -/
def Call.arguments (call : Call) (stem : String) : List String :=
  (stem ++ call.suffix) :: "-quiet" :: call.options

/-- What came of starting the analyzer. A finished run has its two outputs, if
they were recorded, as bytes, and its status. A start that breaks down before the
system is asked for it, at a time limit that is infinite or not a number, a value
that got lost or an option with a null character, is not among the outcomes. -/
inductive ToolOutcome where
  | notFound
  | timedOut
  | failed (number : Int) (reason : String)
  | finished (output errors : Option (List UInt8)) (status : Int)
  deriving DecidableEq, Repr, Inhabited

end StyleCheck
