/-
# Findings and diagnostics

A rule reports findings: what is wrong, and where, by an offset or by a line
and perhaps a column. A diagnostic is a finding with its severity and its range
settled; the external analyzer reports diagnostics too.

Key definitions: `LocationKind`, `Finding`, `Diagnostic`.
-/
import StyleCheck.Severity
import StyleCheck.Source.Document

namespace StyleCheck

/-- The kind of construct that a finding points at. -/
inductive LocationKind where
  | function
  | variableName
  | classType
  | statement
  | preprocessor
  | includeDirective
  | typeAlias
  | macroName
  | parameter
  | comment
  | other
  deriving DecidableEq, Repr, Inhabited

namespace LocationKind

/-- Every kind. -/
def all : List LocationKind :=
  [function, variableName, classType, statement, preprocessor, includeDirective, typeAlias,
    macroName, parameter, comment, other]

/-- The word for a kind. -/
def name : LocationKind → String
  | function => "function"
  | variableName => "variable"
  | classType => "class"
  | statement => "statement"
  | preprocessor => "preprocessor"
  | includeDirective => "include"
  | typeAlias => "typedef"
  | macroName => "macro"
  | parameter => "parameter"
  | comment => "comment"
  | other => "other"

/-- The kind with this name. -/
def ofName? (name : String) : Option LocationKind :=
  all.find? fun kind => kind.name = name

end LocationKind

/-- Named values that travel with a finding or a diagnostic, in order. -/
abbrev Details := List (String × Value)

/-- What a rule reports. It is placed by an offset into the text, or else by a
line and perhaps a column; the identifier, if there is one, is the word that
the finding is about. -/
structure Finding where
  ruleId : String
  message : String
  kind : LocationKind := .statement
  offset : Option Int := none
  line : Option Int := none
  column : Option Int := none
  identifier : Option String := none
  details : Details := []
  deriving Repr, Inhabited

/-- Where a diagnostic comes from. -/
inductive Origin where
  | rules
  | analyzer
  deriving DecidableEq, Repr, Inhabited

/-- The name of an origin in reports. -/
def Origin.name : Origin → String
  | rules => "CubTEK"
  | analyzer => "CubTEK (clang-tidy)"

/-- A hint on how to display a diagnostic. -/
inductive Tag where
  | deprecated
  | unnecessary
  deriving DecidableEq, Repr, Inhabited

namespace Tag

/-- The tags in the order of their names. -/
def all : List Tag := [deprecated, unnecessary]

/-- The word for a tag. -/
def name : Tag → String
  | deprecated => "deprecated"
  | unnecessary => "unnecessary"

end Tag

/-- A finding with its range and severity settled. The tags stand in the order
of their names. -/
structure Diagnostic where
  range : Range
  message : String
  severity : Severity
  ruleId : String
  origin : Origin := .rules
  tags : List Tag := []
  details : Details := []
  deriving Repr, Inhabited

end StyleCheck
