/-
# Reports

A report lists the diagnostics of a project, file by file, each file's filtered
and sorted, with the errors of the run. It is written as a table or as JSON,
unless that takes a number of too many digits. The run fails when the most
severe diagnostic of the report reaches a given severity.

Key definitions: `Report`, `Report.ofResult`, `Report.highestSeverity`,
`Report.fails`, `Report.format`.
-/
import StyleCheck.Project
import StyleCheck.Report.Json

namespace StyleCheck

/-- The diagnostics of a project, each with the file that it is about. -/
structure Report where
  rows : List (String × Diagnostic)
  errors : List String
  filesChecked : Nat
  cancelled : Bool
  deriving Repr, Inhabited

/-- How a report is written. -/
inductive ReportFormat where
  | table
  | json
  deriving DecidableEq, Repr, Inhabited

namespace ReportFormat

/-- The word for a format. -/
def name : ReportFormat → String
  | table => "table"
  | json => "json"

/-- The formats. -/
def all : List ReportFormat := [table, json]

/-- The format with this name. -/
def ofName? (name : String) : Option ReportFormat :=
  all.find? fun format => format.name = name

/-- What is wrong with a word that names no format. -/
def unknownMessage : String := "format must be either 'table' or 'json'"

end ReportFormat

namespace Report

/-- The report of a project's results, with the diagnostics that pass. -/
def ofResult (result : ProjectResult) (threshold : Option Severity) (words : List String) :
    Report where
  rows := result.results.flatMap fun (path, file) =>
    (filterAndSort threshold words file.diagnostics).map fun diagnostic => (path, diagnostic)
  errors := result.errors
  filesChecked := result.results.length
  cancelled := result.cancelled

/-- The number of diagnostics of a severity. -/
def count (r : Report) (severity : Severity) : Nat :=
  r.rows.countP fun row => row.2.severity = severity

/-- The most severe of the report's severities. -/
def highestSeverity (r : Report) : Option Severity :=
  Severity.all.find? fun severity => r.rows.any fun row => row.2.severity = severity

/-- The report has a diagnostic that is at least this severe. -/
def fails (r : Report) (failOn : Severity) : Bool :=
  r.highestSeverity.any fun severity => severity.reaches failOn

/-- A position as JSON. -/
def positionJson (p : Position) : Json :=
  .object [("line", .number p.line), ("character", .number p.character)]

/-- A row as JSON. -/
def rowJson : String × Diagnostic → Json
  | (path, d) => .object
    [("path", .string path),
     ("rule_id", .string d.ruleId),
     ("message", .string d.message),
     ("severity", .string d.severity.name),
     ("source", .string d.origin.name),
     ("tags", .array (d.tags.map fun tag => .string tag.name)),
     ("range", .object
        [("start", positionJson d.range.start), ("end", positionJson d.range.stop)])]

/-- The report as JSON. -/
def toJson (r : Report) : Json :=
  .object
    [("metadata", .object
        [("files_checked", .number r.filesChecked), ("cancelled", .bool r.cancelled)]),
     ("summary", .object
        [("total_diagnostics", .number r.rows.length),
         ("highest_severity",
            match r.highestSeverity with
            | some severity => .string severity.name
            | none => .null),
         ("counts", .object (Severity.all.map fun severity =>
            (severity.name, .number (r.count severity))))]),
     ("diagnostics", .array (r.rows.map rowJson)),
     ("errors", .array (r.errors.map .string))]

/-- The cells of a row of the table; lines and columns are counted from one. -/
def cells : String × Diagnostic → List (List Char)
  | (path, d) =>
    [d.severity.name.toList, d.ruleId.toList,
     path.toList ++ ':' :: integerText (d.range.start.line + 1) ++
       ':' :: integerText (d.range.start.character + 1),
     d.message.toList]

/-- The headings of the table. -/
def headings : List (List Char) :=
  ["Severity", "Rule ID", "Location", "Message"].map String.toList

/-- The width of each column: that of its widest cell. -/
def widths (rows : List (List (List Char))) : List Nat :=
  rows.foldl (fun widths row => List.zipWith max widths (row.map List.length))
    (List.replicate headings.length 0)

/-- A row with each cell filled up with blanks to the width of its column. -/
def paddedRow (widths : List Nat) (row : List (List Char)) : List Char :=
  List.intercalate [' ', ' ']
    (List.zipWith (fun cell width => cell ++ List.replicate (width - cell.length) ' ') row widths)

/-- The report as a table. -/
def table (r : Report) : List Char :=
  if r.rows.isEmpty then "No diagnostics reported.".toList
  else
    let rows := r.rows.map cells
    let widths := widths (headings :: rows)
    let rule := List.intercalate [' ', ' '] (widths.map fun width => List.replicate width '=')
    List.intercalate ['\n'] (paddedRow widths headings :: rule :: rows.map (paddedRow widths))

/-- The errors below a table, each on a line of its own. -/
def errorLines (r : Report) : List Char :=
  if r.errors.isEmpty then []
  else
    '\n' :: '\n' :: List.intercalate ['\n'] (r.errors.map fun e => "Error: ".toList ++ e.toList)

/-- The numbers that a diagnostic shows in a format. -/
def numbersOf (format : ReportFormat) (d : Diagnostic) : List Int :=
  let start := d.range.start
  match format with
  | .table => [start.line + 1, start.character + 1]
  | .json => [start.line, start.character, d.range.stop.line, d.range.stop.character]

/-- The report can be written in a format. -/
def isWritable (r : Report) (format : ReportFormat) : Bool :=
  r.rows.all fun row => (numbersOf format row.2).all StyleCheck.isWritable

/-- The text of a report that can be written. -/
def text (r : Report) : ReportFormat → List Char
  | .json => r.toJson.indented 0
  | .table => r.table ++ r.errorLines

/-- The report in a format. -/
def format (r : Report) (format : ReportFormat) : Except NumberError (List Char) :=
  if r.isWritable format then .ok (r.text format) else .error .tooLong

end Report

end StyleCheck
