/-
# Source documents

A document is a source text with a language tag. A place in it is given by an
offset into the text or by a line and a column, both counted from zero and in
characters; lines are cut at newlines. Offsets outside the text are taken for
the nearest one inside, a column past the end of its line for the end, and a
line that is not there for the end of the text. A column before the beginning
of its line is not corrected, so an offset may come out negative.

To ask for a line that is not there is an error. Its message shows the number of
the line; where that has too many digits there is no message, and the error is
one of the number.

Key definitions: `Position`, `Range`, `Document`, `Document.positionAt`,
`Document.offsetAt`, `Document.textIn`, `LineError`, `Document.lineText`.
-/
import StyleCheck.Number.Basic
import StyleCheck.Source.Path
import StyleCheck.Text.Blank
import StyleCheck.Text.Case
import StyleCheck.Text.Lines

namespace StyleCheck

/-- A line and a column, counted from zero. -/
@[ext]
structure Position where
  line : Int
  character : Int
  deriving DecidableEq, Repr, Inhabited

namespace Position

/-- The position moved by a number of lines and columns. -/
def shift (p : Position) (lines characters : Int) : Position :=
  ⟨p.line + lines, p.character + characters⟩

/-- `p` comes before `q`: by line, then by column. -/
def before (p q : Position) : Bool :=
  p.line < q.line || (p.line == q.line && p.character < q.character)

/-- `p` comes before `q` or is the same position. -/
def upTo (p q : Position) : Bool :=
  p.before q || p == q

end Position

/-- The text from one position up to another one, which is left out. -/
@[ext]
structure Range where
  start : Position
  stop : Position
  deriving DecidableEq, Repr, Inhabited

namespace Range

/-- Columns `first` up to `last` of one line. -/
def onLine (line first last : Int) : Range :=
  ⟨⟨line, first⟩, ⟨line, last⟩⟩

/-- The range begins and ends on the same line. -/
def isSingleLine (r : Range) : Bool :=
  r.start.line == r.stop.line

end Range

/-- A source text with its language tag and the path it was read from. -/
structure Document where
  text : List Char
  language : String := "c"
  path : Option Path := none
  deriving DecidableEq, Repr, Inhabited

/-- What is said about a line that a document does not have; `lineCount` is the
number of those it has. -/
def outsideMessage (line : Int) (lineCount : Nat) : Except NumberError String := do
  let number ← writtenInteger line
  let last ← writtenInteger ((lineCount : Int) - 1)
  pure ("Line " ++ number ++ " is outside the document (0.." ++ last ++ ")")

/-- Why a document does not give a line: it has none of this number, or it has
none and the message about that cannot be written. -/
inductive LineError where
  | outside (message : String)
  | number (error : NumberError)
  deriving DecidableEq, Repr

namespace LineError

/-- The text of the error. -/
def message : LineError → String
  | outside message => message
  | number e => e.message

/-- The error about a line that a document with this many lines does not have. -/
def missing (line : Int) (lineCount : Nat) : LineError :=
  match outsideMessage line lineCount with
  | .ok message => outside message
  | .error e => number e

end LineError

/-- The part of a list between two indices, a negative index counting from the
end and one beyond an end standing for that end. -/
def sliceBetween {α : Type} (items : List α) (first last : Int) : List α :=
  let bound (i : Int) : Nat :=
    if i < 0 then (i + items.length).toNat else min i.toNat items.length
  (items.take (bound last)).drop (bound first)

namespace Document

/-- The languages that are checked. -/
def supportedLanguages : List String := ["c", "cpp"]

/-- The document's language is checked. -/
def isSupported (d : Document) : Bool :=
  supportedLanguages.contains d.language

/-- The lines without the carriage returns at their ends. -/
def lines (d : Document) : List (List Char) :=
  (Text.splitLines d.text).map (Text.dropEndWhile (· == '\r'))

/-- The number of lines. -/
def lineCount (d : Document) : Nat :=
  Text.newlineCount d.text + 1

/-- The line of this number. -/
def lineText (d : Document) (line : Int) : Except LineError (List Char) :=
  match if line < 0 then none else d.lines[line.toNat]? with
  | some text => .ok text
  | none => .error (.missing line d.lines.length)

/-- The whole line of this number. -/
def lineRange (d : Document) (line : Int) : Except LineError Range :=
  (d.lineText line).map fun text => Range.onLine line 0 text.length

/-- The position of an offset. -/
def positionAt (d : Document) (offset : Int) : Position :=
  let before := d.text.take offset.toNat
  ⟨Text.newlineCount before, (before.reverse.takeWhile (· ≠ '\n')).length⟩

/-- The offset of a position in a text that begins at `offset` with line `line`. -/
def offsetFrom (position : Position) (offset line : Nat) : List (List Char) → Option Int
  | [] => none
  | text :: rest =>
    if (line : Int) = position.line then some (offset + min position.character text.length)
    else offsetFrom position (offset + text.length + 1) (line + 1) rest

/-- The offset of a position. -/
def offsetAt (d : Document) (position : Position) : Int :=
  (offsetFrom position 0 0 (Text.splitLines d.text)).getD d.text.length

/-- The text of a range. -/
def textIn (d : Document) (range : Range) : List Char :=
  sliceBetween d.text (d.offsetAt range.start) (d.offsetAt range.stop)

end Document

/-- The language that a file name's suffix stands for, in any letter case; no
other file has one. -/
def languageOfSuffix (suffix : List Char) : String :=
  let word := String.ofList (Text.lower suffix)
  if [".c", ".h"].contains word then "c"
  else if [".cpp", ".cc", ".cxx", ".hpp", ".hh", ".hxx"].contains word then "cpp"
  else ""

/-- The language of the file at a path. -/
def Path.language (p : Path) : String :=
  languageOfSuffix p.suffix

end StyleCheck
