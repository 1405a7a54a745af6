/-
# From findings to diagnostics

A finding becomes a diagnostic when its severity is looked up and its range is
settled. The severity that the settings give for the rule wins; a registered
rule has its own; for any other id the project's default applies. A finding on a
line whose number has too many digits has no range, and so no diagnostic.
Diagnostics are reported most severe first, and by line among equals.

Key definitions: `severityOf`, `Finding.range`, `diagnose`, `Finding.diagnose`,
`filterAndSort`.
-/
import StyleCheck.Highlight
import StyleCheck.Rule.Registry

namespace StyleCheck

/-- The severity of a rule's diagnostics. -/
def severityOf (settings : Settings) (registry : Registry) (ruleId : String)
    (projectDefault : Option Severity) : Severity :=
  match (settings.rule? ruleId).bind (·.severity) with
  | some severity => severity
  | none =>
    match registry.rule? ruleId with
    | some rule => rule.severity
    | none => projectDefault.getD settings.severity

/-- A rule id holds one of the words. -/
def mentionsAny (words : List String) (ruleId : String) : Bool :=
  words.any fun word => Text.occursIn word.toList ruleId.toList

/-- The tags that a rule id stands for. -/
def tagsOf (ruleId : String) : List Tag :=
  (if mentionsAny ["SECURE", "ROBUST"] ruleId then [.deprecated] else []) ++
    if mentionsAny ["STYLE", "FORMAT"] ruleId then [.unnecessary] else []

/-- The details of a diagnostic: the kind of construct, and what the finding
brings along. -/
def detailsOf (kind : LocationKind) (details : Details) : Details :=
  details.foldl (fun all (key, value) => putEntry key value all)
    [("locationKind", .text kind.name)]

/-- A diagnostic of a rule. -/
def diagnose (settings : Settings) (registry : Registry) (range : Range) (message ruleId : String)
    (kind : LocationKind) (details : Details) : Traced Diagnostic := do
  Traced.noteOf .debug .synthesis
    ("Created diagnostic for " ++ ruleId ++ ": " ++ message ++ " at line ")
    (.number (.whole (range.start.line + 1)))
  pure {
    range
    message
    severity := severityOf settings registry ruleId none
    ruleId
    tags := tagsOf ruleId
    details := detailsOf kind details }

namespace Finding

/-- The identifier, if the finding has one that is not empty. -/
def identifier? (f : Finding) : Option String :=
  f.identifier.filter (· != "")

/-- The range that a finding points at. -/
def range (f : Finding) (d : Document) : Except NumberError Range :=
  match f.offset with
  | some offset =>
    let start := d.positionAt offset
    match f.identifier? with
    | some name => .ok ⟨start, start.shift 0 name.length⟩
    | none => d.highlight start.line f.kind none
  | none =>
    let line := f.line.getD 0
    match f.column, f.identifier? with
    | some column, some name => .ok (Range.onLine line column (column + name.length))
    | _, _ => d.highlight line f.kind f.identifier

/-- The diagnostic of a finding. -/
def diagnose (f : Finding) (settings : Settings) (registry : Registry) (d : Document) :
    Traced (Except NumberError Diagnostic) :=
  match f.range d with
  | .error e => pure (.error e)
  | .ok range => do
    let diagnostic ←
      StyleCheck.diagnose settings registry range f.message f.ruleId f.kind f.details
    pure (.ok diagnostic)

end Finding

/-- The message about a variable whose name lacks its mark. -/
def variableNamingMessage (name mark : String) : String :=
  "Variable \"" ++ name ++ "\" should use the \"" ++ mark ++ "\" prefix"

/-- The message about a function that is too long, unless a number in it has too
many digits. -/
def functionLengthMessage (name : String) (lineCount limit : Int) : Except NumberError String := do
  let count ← writtenInteger lineCount
  let most ← writtenInteger limit
  pure ("Function \"" ++ name ++ "\" is " ++ count ++ " lines long (maximum allowed is " ++
    most ++ " lines)")

/-- The details of a diagnostic about a function that is too long. -/
def functionLengthDetails (lineCount limit : Int) : Details :=
  [("lineCount", .number (.whole lineCount)), ("maxAllowed", .number (.whole limit))]

/-- `a` is reported before `b` or has the same place: by severity, then by the
line where the range starts. -/
def Diagnostic.precedes (a b : Diagnostic) : Bool :=
  a.severity.rank < b.severity.rank ||
    (a.severity.rank == b.severity.rank && a.range.start.line ≤ b.range.start.line)

/-- The diagnostic is at least as severe as the threshold, and its rule id
holds one of the words; no threshold and no words let everything pass. -/
def Diagnostic.passes (threshold : Option Severity) (words : List String) (d : Diagnostic) : Bool :=
  (threshold.all fun t => d.severity.reaches t) &&
    (words.isEmpty || mentionsAny words d.ruleId)

/-- The diagnostics that pass, most severe first and by line among equals;
beyond that the order stays. -/
def filterAndSort (threshold : Option Severity) (words : List String)
    (diagnostics : List Diagnostic) : List Diagnostic :=
  (diagnostics.filter (Diagnostic.passes threshold words)).mergeSort Diagnostic.precedes

end StyleCheck
