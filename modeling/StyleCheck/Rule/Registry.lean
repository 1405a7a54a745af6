/-
# Registries

The rules of a checker, in the order in which they were registered, each id
once.

Key definitions: `Registry`, `Registry.register`, `Registry.ofRules`,
`Registry.apply`, `Registry.enabled`.
-/
import StyleCheck.Rule.Basic

namespace StyleCheck

/-- The rules of a checker. -/
structure Registry where
  rules : List Rule

/-- A rule id that is registered already. -/
structure DuplicateRuleId where
  id : String
  deriving DecidableEq, Repr

/-- The text of the error. -/
def DuplicateRuleId.message (e : DuplicateRuleId) : String :=
  "Rule id already registered: " ++ e.id

/-- The rules of the standard. -/
def builtinRules : List Rule :=
  [Rule.functionLength standardLimit, Rule.naming]

namespace Registry

/-- The rule with this id. -/
def rule? (r : Registry) (id : String) : Option Rule :=
  r.rules.find? fun rule => rule.info.id = id

/-- A rule has this id. -/
def contains (r : Registry) (id : String) : Bool :=
  (r.rule? id).isSome

/-- The rules that are on. -/
def enabled (r : Registry) : List Rule :=
  r.rules.filter (·.enabled)

/-- Adds a rule behind the others. -/
def register (r : Registry) (rule : Rule) : Except DuplicateRuleId Registry :=
  if r.contains rule.info.id then .error ⟨rule.info.id⟩ else .ok ⟨r.rules ++ [rule]⟩

/-- The registry of some rules. -/
def ofRules (rules : List Rule) : Except DuplicateRuleId Registry :=
  rules.foldlM register ⟨[]⟩

/-- The registry of the standard's rules. -/
def builtin : Registry :=
  ⟨builtinRules⟩

/-- Applies settings to rules in order. At a rule whose parameters fail this
stops, and the rules behind it stay as they were. -/
def applyTo (settings : Settings) : List Rule → Traced (List Rule × Option LimitError)
  | [] => pure ([], none)
  | rule :: rest => do
    match ← rule.apply (settings.rule? rule.info.id) with
    | (applied, some e) => pure (applied :: rest, some e)
    | (applied, none) =>
      let (others, failure) ← applyTo settings rest
      pure (applied :: others, failure)

/-- Applies settings to every rule; entries for ids that are not registered do
not matter. -/
def apply (r : Registry) (settings : Settings) : Traced (Registry × Option LimitError) := do
  let (rules, failure) ← applyTo settings r.rules
  pure (⟨rules⟩, failure)

end Registry

end StyleCheck
