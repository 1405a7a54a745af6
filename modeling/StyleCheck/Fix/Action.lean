/-
# Quick fixes

A quick fix is proposed for a diagnostic by the handler of its rule id. A
diagnostic of the external analyzer without a handler gets a link to the
documentation; any other one gets nothing.

Key definitions: `Edit`, `Action`, `Handlers.standard`, `Handlers.actionFor?`,
`Handlers.actionsForAll`.
-/
import StyleCheck.Config.Settings
import StyleCheck.Finding
import StyleCheck.Fix.Identifier

namespace StyleCheck.Fix

/-- Replaces the text of a range. -/
structure Edit where
  range : Range
  newText : List Char
  deriving DecidableEq, Repr, Inhabited

/-- The document after the edit. -/
def Edit.apply (edit : Edit) (d : Document) : Document :=
  let first := (d.offsetAt edit.range.start).toNat
  let last := (d.offsetAt edit.range.stop).toNat
  { d with text := d.text.take first ++ edit.newText ++ d.text.drop last }

/-- What a command of the editor is given. -/
inductive Argument where
  | range (r : Range)
  | text (s : String)
  deriving DecidableEq, Repr, Inhabited

/-- A command of the editor. -/
structure Command where
  title : String
  name : String
  arguments : List Argument
  deriving DecidableEq, Repr, Inhabited

/-- The kind of an action. -/
inductive ActionKind where
  | quickFix
  | extraction
  deriving DecidableEq, Repr, Inhabited

/-- The word for a kind of action. -/
def ActionKind.name : ActionKind → String
  | quickFix => "quickfix"
  | extraction => "refactor.extract"

/-- A remedy proposed for one diagnostic. -/
structure Action where
  title : String
  kind : ActionKind := .quickFix
  diagnostic : Diagnostic
  edits : List Edit := []
  command : Option Command := none
  isPreferred : Bool := false
  deriving Repr, Inhabited

/-- Proposes a remedy for a diagnostic of a document, or none. -/
abbrev Handler := Document → Diagnostic → Option Action

/-- The handlers by rule id. -/
abbrev Handlers := List (String × Handler)

/-- A long function is shortened by extracting a part of it. -/
def extractFunction : Handler := fun _ diagnostic =>
  some {
    title := "Extract part of function to reduce length"
    diagnostic
    command := some ⟨"Extract Function", "editor.action.refactor.extract", [.range diagnostic.range]⟩
    isPreferred := true }

/-- A bad name is replaced by the corrected one, if there is a name and the
correction changes it. -/
def renameIdentifier : Handler := fun d diagnostic =>
  let name := d.textIn diagnostic.range
  let fixed := correctedName name diagnostic.message.toList
  if name = [] ∨ fixed = name then none
  else some {
    title := "Rename '" ++ String.ofList name ++ "' to '" ++ String.ofList fixed ++ "'"
    diagnostic
    edits := [⟨diagnostic.range, fixed⟩] }

/-- Proposes nothing. -/
def noRemedy : Handler := fun _ _ => none

/-- Shows the documentation of one of the analyzer's rules. -/
def showDocumentation (diagnostic : Diagnostic) : Action where
  title := "View documentation for " ++ diagnostic.ruleId
  diagnostic
  command := some ⟨"Show Documentation", "vscode.open",
    [.text ("https://clang.llvm.org/extra/clang-tidy/checks/" ++ diagnostic.ruleId ++ ".html")]⟩

namespace Handlers

/-- The handlers of the standard's rules. -/
def standard : Handlers :=
  [("CUBTEK-FUNC-001", extractFunction), ("CUBTEK-NAME-001", renameIdentifier)]

/-- Sets the handler of a rule id. -/
def register (handlers : Handlers) (ruleId : String) (handler : Handler) : Handlers :=
  putEntry ruleId handler handlers

/-- The handler of a rule id. -/
def handler? (handlers : Handlers) (ruleId : String) : Option Handler :=
  entryAt? ruleId handlers

/-- The remedy for one diagnostic. -/
def actionFor? (handlers : Handlers) (d : Document) (diagnostic : Diagnostic) : Option Action :=
  match handlers.handler? diagnostic.ruleId with
  | some handler => handler d diagnostic
  | none => if diagnostic.origin = .analyzer then some (showDocumentation diagnostic) else none

/-- The remedies for some diagnostics, in order. -/
def actionsForAll (handlers : Handlers) (d : Document) (diagnostics : List Diagnostic) :
    List Action :=
  diagnostics.filterMap (handlers.actionFor? d)

end Handlers

end StyleCheck.Fix
