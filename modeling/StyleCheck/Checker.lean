/-
# Checkers

A checker runs the external analyzer, if it has one, and every rule that is on
against a document. The analyzer's diagnostics come first, then those of each
rule in order, and nothing is merged. A rule that fails, or reports a finding that
has no diagnostic, contributes nothing at all and leaves the others alone; a
failing analyzer is reported as an error beside the rules' diagnostics. Only a
document that cannot be handed to the analyzer at all has no result.

Key definitions: `Synthesizer`, `Checker`, `Checker.create`, `Checker.reconfigure`,
`Checker.check`.
-/
import StyleCheck.Analyzer.Basic
import StyleCheck.Diagnosis

namespace StyleCheck

/-- Where findings take their severity from: settings, and rules, which are those
of the checker itself unless there are others. -/
structure Synthesizer where
  settings : Settings
  registry : Option Registry := none

/-- A checker: its settings, its rules, its analyzer and its synthesizer. -/
structure Checker where
  settings : Settings
  registry : Registry
  analyzer : Option Analyzer := none
  synthesizer : Synthesizer := { settings }

/-- What was checked. -/
inductive Coverage where
  /-- The document could not be read. -/
  | unread
  /-- The language is not checked. -/
  | skipped
  /-- The document was checked against this many rules. -/
  | checked (language : String) (ruleCount : Nat) (path : Option Path)
  deriving DecidableEq, Repr, Inhabited

/-- The result of checking one document. -/
structure CheckResult where
  diagnostics : List Diagnostic
  errors : List String := []
  coverage : Coverage := .unread
  deriving Repr, Inhabited

namespace Checker

/-- A checker. The standard settings apply when none are given. A registry that
is not given, or that holds no rules, is replaced by one of the standard's
rules with the settings applied; a given one is taken as it is. A synthesizer that
is not given uses the checker's settings and rules. -/
def create (settings : Option Settings) (registry : Option Registry)
    (synthesizer : Option Synthesizer) (analyzer : Option Analyzer) :
    Traced (Except LimitError Checker) := do
  let settings := settings.getD Settings.standard
  let synthesizer := synthesizer.getD { settings }
  match registry with
  | some ⟨rule :: rules⟩ => pure (.ok ⟨settings, ⟨rule :: rules⟩, analyzer, synthesizer⟩)
  | _ =>
    match ← Registry.builtin.apply settings with
    | (registry, none) => pure (.ok ⟨settings, registry, analyzer, synthesizer⟩)
    | (_, some e) => pure (.error e)

/-- Puts new settings into force, for the synthesizer too. Where they fail at a
rule, they are in force for the rules before it. -/
def reconfigure (c : Checker) (settings : Settings) : Traced (Checker × Option LimitError) := do
  let (registry, failure) ← c.registry.apply settings
  pure ({ c with settings, registry, synthesizer := { c.synthesizer with settings } }, failure)

/-- The rules that findings take their severity from. -/
def severityRules (c : Checker) : Registry :=
  c.synthesizer.registry.getD c.registry

/-- The severity of a rule's diagnostics. -/
def severityOf (c : Checker) (ruleId : String) (projectDefault : Option Severity) : Severity :=
  StyleCheck.severityOf c.synthesizer.settings c.severityRules ruleId projectDefault

/-- The diagnostic of a finding. -/
def diagnose (c : Checker) (d : Document) (f : Finding) : Traced (Except NumberError Diagnostic) :=
  f.diagnose c.synthesizer.settings c.severityRules d

/-- The diagnostics of some findings, up to the first that has none. -/
def diagnoseAll (c : Checker) (d : Document) :
    List Finding → Traced (Except NumberError (List Diagnostic))
  | [] => pure (.ok [])
  | finding :: rest => do
    match ← c.diagnose d finding with
    | .error e => pure (.error e)
    | .ok first =>
      let others ← c.diagnoseAll d rest
      pure (others.map (first :: ·))

/-- The diagnostics of all that a rule finds, nothing if the rule fails or one of
its findings has no diagnostic. -/
def resolve (c : Checker) (d : Document) (rule : Rule) : Traced (Option (List Diagnostic)) := do
  match ← rule.check d with
  | none => pure none
  | some findings =>
    let diagnostics ← c.diagnoseAll d findings
    pure diagnostics.toOption

/-- The diagnostics of one rule; a rule that is not done with has none. -/
def runRule (c : Checker) (d : Document) (rule : Rule) : Traced (List Diagnostic) := do
  match ← c.resolve d rule with
  | some diagnostics => pure diagnostics
  | none =>
    Traced.note .error .service ("Error running rule " ++ rule.info.id)
    pure []

/-- The diagnostics of some rules, in order. -/
def runRules (c : Checker) (d : Document) : List Rule → Traced (List Diagnostic)
  | [] => pure []
  | rule :: rest => do
    let first ← c.runRule d rule
    let others ← c.runRules d rest
    pure (first ++ others)

/-- The analyzer's diagnostics and the errors of its run. -/
def runAnalyzer (c : Checker) (around : Surroundings) (d : Document) :
    Traced (Except FileError (List Diagnostic × List String)) :=
  match c.analyzer with
  | none => pure (.ok ([], []))
  | some analyzer => do
    match ← analyzer.analyze around d with
    | .ok diagnostics => pure (.ok (diagnostics, []))
    | .error (.notHandedOver e) => pure (.error e)
    | .error e =>
      Traced.note .warning .service ("External analyzer failed: " ++ e.message)
      pure (.ok ([], ["Checker error: " ++ e.message]))

/-- Checks one document. -/
def check (c : Checker) (around : Surroundings) (d : Document) :
    Traced (Except FileError CheckResult) := do
  if d.isSupported then
    match ← c.runAnalyzer around d with
    | .error e => pure (.error e)
    | .ok (external, errors) =>
      let own ← c.runRules d c.registry.enabled
      pure (.ok {
        diagnostics := external ++ own
        errors
        coverage := .checked d.language c.registry.enabled.length d.path })
  else
    pure (.ok { diagnostics := [], coverage := .skipped })

end Checker

end StyleCheck
