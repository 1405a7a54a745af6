/-
# Highlights

The part of a line that stands for a problem of some kind: a name that is
given as a hint and occurs as a whole word, or else what the kind suggests, or
else the whole line. A line that the document does not have gives an empty
range, unless its number has too many digits: then there is no range at all.

Key definition: `Document.highlight`.
-/
import StyleCheck.Finding
import StyleCheck.Source.Include
import StyleCheck.Source.Signature
import StyleCheck.Source.Symbol

namespace StyleCheck

open Text Source

/-- The columns of a line that a kind of construct suggests. -/
def suggestedColumns (kind : LocationKind) (line : List Char) : Option (Nat × Nat) :=
  let comment := indexOf? "//".toList line
  match kind with
  | .function => scanFirst? callShape line
  | .variableName => scanFirst? declaratorShape line
  | .statement =>
    let indent := (leadingBlanks line).length
    let stop :=
      match comment with
      | some column => if column = 0 then line.length else column
      | none => line.length
    some (indent, max stop indent)
  | .comment => comment.map fun column => (column, line.length)
  | .includeDirective => (include? line).map fun directive => (directive.start, directive.stop)
  | _ => none

/-- The columns of the first whole-word occurrence of a hint; the empty hint is
none. -/
def hintColumns (hint : Option String) (line : List Char) : Option (Nat × Nat) :=
  match hint with
  | some name =>
    if name = "" then none
    else (occurrences name.toList line).head?.map fun column => (column, column + name.length)
  | none => none

namespace Document

/-- The range on a line that best shows a problem of the given kind. Of the
errors about the line only one that has a message is made up for. -/
def highlight (d : Document) (line : Int) (kind : LocationKind) (hint : Option String) :
    Except NumberError Range :=
  match d.lineText line with
  | .error (.outside _) => .ok (Range.onLine (max line 0) 0 0)
  | .error (.number e) => .error e
  | .ok text =>
    let (first, last) :=
      ((hintColumns hint text).orElse fun _ => suggestedColumns kind text).getD (0, text.length)
    .ok (Range.onLine line first last)

end Document

end StyleCheck
