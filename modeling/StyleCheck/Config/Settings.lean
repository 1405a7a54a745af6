/-
# Settings

The settings of a project: a default severity, two switches for editors, and
an entry for each rule that is set up. Settings are read from a mapping and
laid over earlier ones. An entry for a rule is a truth value, which switches
the rule, or a mapping; it takes the place of the earlier entry as a whole, and
an entry of any other form is passed over.

Key definitions: `RuleSettings`, `Settings`, `Settings.standard`,
`RuleSettings.ofValue?`, `Settings.merge`.
Key theorems: `entryAt?_putEntry_self`, `entryAt?_putEntry_of_ne`.
-/
import StyleCheck.Severity
import StyleCheck.Source.Path
import StyleCheck.Trace

namespace StyleCheck

/-- The settings of one rule. -/
structure RuleSettings where
  enabled : Bool := true
  severity : Option Severity := none
  params : Mapping := []
  deriving Repr, Inhabited

/-- The settings of a project: `rules` has one entry for each id, in the order in
which the ids first came up, whether or not there is such a rule, and `source`
is the file that was read last. -/
structure Settings where
  severity : Severity := .warning
  checkOnSave : Bool := true
  formatOnSave : Bool := true
  source : Option Path := none
  rules : List (Text.PointText × RuleSettings) := []
  deriving Repr, Inhabited

section Entries

variable {κ α : Type} [DecidableEq κ]

/-- Sets what stands under a key: a key that is there keeps its place, a new
one comes last. -/
def putEntry (key : κ) (a : α) : List (κ × α) → List (κ × α)
  | [] => [(key, a)]
  | entry :: rest => if entry.1 = key then (key, a) :: rest else entry :: putEntry key a rest

/-- What stands under a key. -/
def entryAt? (key : κ) (entries : List (κ × α)) : Option α :=
  (entries.find? fun entry => entry.1 = key).map (·.2)

theorem entryAt?_putEntry_self (key : κ) (a : α) :
    ∀ entries : List (κ × α), entryAt? key (putEntry key a entries) = some a
  | [] => by simp [putEntry, entryAt?]
  | entry :: rest => by
    have ih := entryAt?_putEntry_self key a rest
    rw [putEntry]
    split
    · simp [entryAt?]
    · rename_i h
      simpa [entryAt?, h] using ih

theorem entryAt?_putEntry_of_ne {key other : κ} (h : other ≠ key) (a : α) :
    ∀ entries : List (κ × α), entryAt? other (putEntry key a entries) = entryAt? other entries
  | [] => by simp [putEntry, entryAt?, Ne.symm h]
  | entry :: rest => by
    have ih := entryAt?_putEntry_of_ne h a rest
    rw [putEntry]
    split
    · rename_i hk
      simp [entryAt?, Ne.symm h, hk]
    · by_cases ho : entry.1 = other
      · simp [entryAt?, ho]
      · simpa [entryAt?, ho] using ih

end Entries

/-- The settings that apply without any file. -/
def Settings.standard : Settings where
  rules :=
    [(("CUBTEK-FUNC-001" : String), { params := [(.text "maxLines", .number (.whole 50))] }),
     (("CUBTEK-NAME-001" : String), {})]

namespace RuleSettings

/-- The switch of a rule's mapping; what is neither a truth value nor absent is
noted and passed over. -/
def enabledOf (entry : Mapping) : Traced Bool :=
  match entry.get? "enabled" with
  | some (.bool b) => pure b
  | none => pure true
  | some .null => pure true
  | some value => do
    Traced.noteOf .warning .settings "Ignoring non-boolean 'enabled' value " value
    pure true

/-- The settings of a rule that a value stands for. -/
def ofValue? : Value → Traced (Option RuleSettings)
  | .bool b => pure (some { enabled := b })
  | .map entry => do
    let enabled ← enabledOf entry
    pure (some {
      enabled
      severity := (Mapping.get? entry "severity").bind Severity.ofValue?
      params :=
        match Mapping.get? entry "params" with
        | some (.map params) => params
        | _ => [] })
  | _ => pure none

end RuleSettings

namespace Settings

/-- The settings of one rule. -/
def rule? (s : Settings) (id : String) : Option RuleSettings :=
  entryAt? (id : Text.PointText) s.rules

/-- Lays the entries of a mapping of rules over earlier ones. Only texts are
rule ids, and blanks around them do not count. -/
def mergeRules (rules : List (Text.PointText × RuleSettings)) :
    Mapping → Traced (List (Text.PointText × RuleSettings))
  | [] => pure rules
  | (.text key, value) :: rest => do
    match ← RuleSettings.ofValue? value with
    | some entry => mergeRules (putEntry (Text.trimPoints key) entry rules) rest
    | none => mergeRules rules rest
  | _ :: rest => mergeRules rules rest

/-- A switch of the settings: what stands under the key counts by its truth,
and without the key the switch stays. -/
def switch (data : Mapping) (key : String) (current : Bool) : Bool :=
  ((data.get? key).map Value.isTruthy).getD current

/-- Lays a mapping over the settings; `source` is the file that it was read
from. -/
def merge (s : Settings) (data : Mapping) (source : Option Path) : Traced Settings := do
  let rules ←
    match data.get? "rules" with
    | some (.map entries) => mergeRules s.rules entries
    | _ => pure s.rules
  pure {
    severity := ((data.get? "severity").bind Severity.ofValue?).getD s.severity
    checkOnSave := switch data "checkOnSave" s.checkOnSave
    formatOnSave := switch data "formatOnSave" s.formatOnSave
    source := source.orElse fun _ => s.source
    rules }

end Settings

end StyleCheck
