/-
# Rules

A rule has a fixed part and a state: whether it is on, its severity, and for
the function length rule its limit. Settings are applied to a rule by resetting
its state first, so nothing of earlier settings stays. Besides the two rules of
the standard there are rules that a caller supplies. Any rule but the naming rule
may fail on a document.

Key definitions: `Inspection`, `Rule`, `Rule.reset`, `Rule.apply`, `Rule.check`.
-/
import StyleCheck.Config.Settings
import StyleCheck.Rule.FunctionLength
import StyleCheck.Rule.Naming

namespace StyleCheck

/-- How a rule looks at a document. -/
inductive Inspection where
  /-- Functions longer than `limit`; `standard` is the limit when none is set. -/
  | functionLength (standard limit : Int)
  /-- The names of global variables and functions. -/
  | naming
  /-- A rule of the caller's own, with a name for its kind; it gives nothing
  where it fails. -/
  | custom (kind : String) (run : Document → Option (List Finding))

/-- A rule and its state. -/
structure Rule where
  info : RuleInfo
  inspection : Inspection
  enabled : Bool := true
  severity : Severity := info.defaultSeverity

namespace Rule

/-- The function length rule with the given standard limit. -/
def functionLength (standard : Int) : Rule where
  info := functionInfo
  inspection := .functionLength standard standard

/-- The naming rule. -/
def naming : Rule where
  info := namingInfo
  inspection := .naming

/-- A rule of the caller's own. -/
def custom (info : RuleInfo) (kind : String) (run : Document → Option (List Finding)) : Rule where
  info
  inspection := .custom kind run

/-- The limit of lines, for the function length rule. -/
def limit? (r : Rule) : Option Int :=
  match r.inspection with
  | .functionLength _ limit => some limit
  | _ => none

/-- The name of a rule's kind. -/
def kindName (r : Rule) : String :=
  match r.inspection with
  | .functionLength _ _ => "FunctionLengthRule"
  | .naming => "NamingConventionRule"
  | .custom kind _ => kind

/-- Whether the rule is on, in words. -/
def stateName (r : Rule) : String :=
  if r.enabled then "enabled" else "disabled"

/-- A one-line summary of a rule's state. -/
def summary (r : Rule) : String :=
  "<" ++ r.kindName ++ " " ++ r.info.id ++ " " ++ r.stateName ++ " " ++ r.severity.name ++ ">"

/-- Applies parameters; only the function length rule has one. -/
def configure (r : Rule) (params : Mapping) : Traced (Except LimitError Rule) :=
  match r.inspection with
  | .functionLength standard _ => do
    match ← configureLimit standard params with
    | .ok limit => pure (.ok { r with inspection := .functionLength standard limit })
    | .error e => pure (.error e)
  | _ => pure (.ok r)

/-- The rule in its initial state. -/
def reset (r : Rule) : Rule :=
  { r with
    enabled := true
    severity := r.info.defaultSeverity
    inspection :=
      match r.inspection with
      | .functionLength standard _ => .functionLength standard standard
      | other => other }

/-- Applies a rule's settings, if there are any, to the rule in its initial
state. Where the parameters fail, the rest of the settings is in force and the
failure comes with it. -/
def apply (r : Rule) (settings : Option RuleSettings) : Traced (Rule × Option LimitError) :=
  match settings with
  | none => pure (r.reset, none)
  | some s => do
    let switched :=
      { r.reset with enabled := s.enabled, severity := s.severity.getD r.info.defaultSeverity }
    match ← switched.configure s.params with
    | .ok configured => pure (configured, none)
    | .error e => pure (switched, some e)

/-- The findings of a rule in a document, nothing if the rule fails on it. -/
def check (r : Rule) (d : Document) : Traced (Option (List Finding)) :=
  match r.inspection with
  | .functionLength _ limit => do
    let findings ← longFunctions limit d
    pure findings.toOption
  | .naming => pure (some (badNames d))
  | .custom _ run => pure (run d)

end Rule

end StyleCheck
