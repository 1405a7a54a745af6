/-
# The naming rule

The names of global variables begin with `g_`, and the names of functions are
camelCase or PascalCase. A declaration is global when its line begins outside
every block; a line with an opening parenthesis, a preprocessor directive or a
type alias declares no variable. All of this is looked for in the masked text.

Key definitions: `namingInfo`, `globalFindings`, `functionFindings`,
`badNames`.
-/
import StyleCheck.Finding
import StyleCheck.Rule.Info
import StyleCheck.Source.Casing
import StyleCheck.Source.Mask
import StyleCheck.Source.Signature

namespace StyleCheck

/-- What is fixed about the naming rule. -/
def namingInfo : RuleInfo where
  id := "CUBTEK-NAME-001"
  name := "Naming Convention"
  description := "Variables and functions should follow CubTEK naming conventions"
  category := "Style"
  defaultSeverity := .warning

/-- What the names of global variables begin with. -/
def globalMark : String := "g_"

/-- What is reported about a global variable at this offset. -/
def globalFinding (offset : Nat) (name : List Char) : Finding :=
  let name := String.ofList name
  { ruleId := namingInfo.id
    message := "Global variable \"" ++ name ++ "\" should start with \"" ++ globalMark ++
      "\" prefix"
    kind := .variableName
    offset := some offset
    identifier := some name
    details := [("name", .text name), ("expectedPrefix", .text globalMark)] }

/-- A line on which global variables may be declared, given the depth before
it. -/
def mayDeclareGlobals (line : List Char) (depth : Int) : Bool :=
  depth ≤ 0 && !line.contains '(' &&
    !("#".toList.isPrefixOf (Text.trimStart line)) &&
    !("typedef".toList.isPrefixOf (Text.trimStart line))

/-- The findings about the declarations on one line that begins at `offset`. -/
def globalFindingsOn (offset : Nat) (line : List Char) : List Finding :=
  ((Source.declarations line).filter fun d => !globalMark.toList.isPrefixOf d.name).map fun d =>
    globalFinding (offset + d.nameAt) d.name

/-- The findings about global variables on lines that begin at `offset`. -/
def globalFindingsFrom (offset : Nat) : List (Nat × List Char × Int) → List Finding
  | [] => []
  | (_, line, depth) :: rest =>
    (if mayDeclareGlobals line depth then globalFindingsOn offset line else []) ++
      globalFindingsFrom (offset + line.length + 1) rest

/-- The findings about global variables in a masked text. -/
def globalFindings (masked : List Char) : List Finding :=
  globalFindingsFrom 0 (Source.lineDepths masked)

/-- What is reported about the name of a function. -/
def functionFinding (s : Source.Signature) : Finding :=
  let name := String.ofList s.name
  { ruleId := namingInfo.id
    message := "Function name \"" ++ name ++ "\" should be camelCase or PascalCase"
    kind := .function
    offset := some s.nameAt
    identifier := some name
    details := [("name", .text name)] }

/-- The findings about the names of functions in a masked text. -/
def functionFindings (masked : List Char) : List Finding :=
  ((Source.signatures masked).filter fun s =>
    !Source.isCamelCase s.name && !Source.isPascalCase s.name).map functionFinding

/-- The findings about names: global variables, then functions. -/
def badNames (d : Document) : List Finding :=
  let masked := Source.mask d.text
  globalFindings masked ++ functionFindings masked

end StyleCheck
