/-
# YAML tokens

A settings file is cut into tokens before its structure is read. The tokens
make the structure of blocks explicit: a block mapping or sequence is opened
where its indentation begins and closed where it ends. Whether a scalar or a
collection is a key shows only at the colon behind it, so the tokens that
announce a key are marked at the place of its first token and put there in the
end (`Scan.linearised`).

Directives, anchors and block scalars are not part of the format and count as
malformed. So an alias is a token of its own, but there is nothing that it could
stand for. A tab may stand inside a quoted scalar only.

An escape in a quoted scalar that names no code point ends the reading there.
Since the structure is read along with the tokens, a file that is malformed
before that place is reported as malformed; so the tokens that the structure
could be read from up to there are kept, and a token for the fault stands behind
them.

Key definitions: `Token`, `Scan`, `Scan.step`, `tokens`.
-/
import StyleCheck.Config.Yaml.Fault
import StyleCheck.Config.Yaml.Tag
import StyleCheck.Text.Point

namespace StyleCheck.Yaml

open Text (Point PointText)

/-- A token of a settings file. -/
inductive Token where
  | documentStart
  | documentEnd
  | blockMappingStart
  | blockSequenceStart
  | blockEnd
  | flowMappingStart
  | flowMappingEnd
  | flowSequenceStart
  | flowSequenceEnd
  | flowEntry
  | blockEntry
  | key
  | value
  | plain (text : List Char)
  | quoted (text : PointText)
  | tag (tag : Tag)
  /-- An alias. -/
  | reference
  /-- The reading ended here with a fault. -/
  | broken (cause : BadValue)
  deriving DecidableEq, Repr, Inhabited

/-- A place in the file: the text from there on, its offset, line and column. -/
structure Cursor where
  rest : List Char
  index : Nat := 0
  line : Nat := 0
  column : Nat := 0
  deriving Repr, Inhabited

namespace Cursor

/-- The place behind the next character; a byte order mark takes no column. -/
def next (c : Cursor) : Cursor :=
  match c.rest with
  | [] => c
  | ch :: rest =>
    if isBreak ch then ⟨rest, c.index + 1, c.line + 1, 0⟩
    else ⟨rest, c.index + 1, c.line, if ch = '\uFEFF' then c.column else c.column + 1⟩

/-- The place `n` characters further on. -/
def advance (c : Cursor) : Nat → Cursor
  | 0 => c
  | n + 1 => c.next.advance n

/-- The place at which `rest` is the text to come. -/
def moveTo (c : Cursor) (rest : List Char) : Cursor :=
  c.advance (c.rest.length - rest.length)

end Cursor

/-- Passes over spaces, comments and line breaks; `comment` says that the text
begins inside a comment. The flag tells whether a line break was passed. -/
def skipBlanks (comment passed : Bool) : List Char → Bool × List Char
  | [] => (passed, [])
  | c :: cs =>
    if isBreak c then skipBlanks false true cs
    else if comment then skipBlanks true passed cs
    else if c = ' ' then skipBlanks false passed cs
    else if c = '#' then skipBlanks true passed cs
    else (passed, c :: cs)

/-- A colon that ends a plain scalar stands before `rest`. -/
def endsKey (inFlow : Bool) (rest : List Char) : Bool :=
  atSeparator rest || (inFlow && (rest.head?.map isFlowMark).getD false)

/-- The characters of a plain scalar up to the next separator, and the rest. -/
def plainRun (inFlow : Bool) : List Char → List Char × List Char
  | [] => ([], [])
  | c :: cs =>
    if isSeparator c || (c == ':' && endsKey inFlow cs) ||
        (inFlow && (isFlowMark c || c == '?')) then
      ([], c :: cs)
    else
      let (run, rest) := plainRun inFlow cs
      (c :: run, rest)

/-- The character that a line break stands for in a scalar. -/
def breakChar (c : Char) : Char :=
  if c = '\u2028' ∨ c = '\u2029' then c else '\n'

/-- The further line breaks behind one in a plain scalar, over spaces; nothing
where a document marker comes up. -/
def plainBreaks : List Char → Option (List Char × List Char)
  | [] => some ([], [])
  | c :: cs =>
    if c = ' ' then plainBreaks cs
    else if isBreak c then
      if atDocumentMarker cs then none
      else (plainBreaks cs).map fun (breaks, rest) => (breakChar c :: breaks, rest)
    else some ([], c :: cs)

/-- What a line break with further ones behind it becomes in a scalar: a single
newline is a space, and of more than one the first is dropped. -/
def foldedBreak (first : Char) (breaks : List Char) : List Char :=
  if first ≠ '\n' then first :: breaks
  else if breaks.isEmpty then [' ']
  else breaks

/-- The blanks between two runs of a plain scalar: what they become (nothing at
a document marker), whether a line break is among them, and the rest. -/
def plainBlanks (text : List Char) : List Char × Bool × List Char :=
  let spaces := text.takeWhile (· == ' ')
  match text.dropWhile (· == ' ') with
  | [] => (spaces, false, [])
  | c :: cs =>
    if isBreak c then
      if atDocumentMarker cs then ([], true, cs)
      else
        match plainBreaks cs with
        | some (breaks, rest) => (foldedBreak (breakChar c) breaks, true, rest)
        | none => ([], true, cs)
    else (spaces, false, c :: cs)

/-- A plain scalar whose further lines are indented by at least `indent` in
block context. `blanks` stand before the next run. Gives the text, the place
behind it and whether a new line has begun there. -/
def plainScalar (inFlow : Bool) (indent : Int) :
    Nat → List Char → Cursor → Bool → List Char × Cursor × Bool
  | 0, _, cursor, fresh => ([], cursor, fresh)
  | fuel + 1, blanks, cursor, fresh =>
    let (run, rest) := plainRun inFlow cursor.rest
    if cursor.rest.head? = some '#' ∨ run = [] then ([], cursor, fresh)
    else
      let (blanksBehind, broken, rest) := plainBlanks rest
      let behind := cursor.moveTo rest
      if blanksBehind = [] ∨ rest.head? = some '#' ∨ (!inFlow ∧ (behind.column : Int) < indent) then
        (blanks ++ run, behind, broken)
      else
        let (text, last, fresh) := plainScalar inFlow indent fuel blanksBehind behind broken
        (blanks ++ run ++ text, last, fresh)

/-- The line breaks behind one in a quoted scalar, over spaces and tabs;
malformed where a document marker comes up at the beginning of a line. -/
def quotedBreaks (atLineStart : Bool) : List Char → Option (List Char × List Char)
  | [] => some ([], [])
  | c :: cs =>
    if atLineStart && atDocumentMarker (c :: cs) then none
    else if c = ' ' ∨ c = '\t' then quotedBreaks false cs
    else if isBreak c then
      (quotedBreaks true cs).map fun (breaks, rest) => (breakChar c :: breaks, rest)
    else some ([], c :: cs)

/-- The characters that a letter stands for behind a backslash. -/
def escapeOf? (c : Char) : Option Char :=
  match c with
  | '0' => some '\x00'
  | 'a' => some '\x07'
  | 'b' => some '\x08'
  | 't' => some '\t'
  | '\t' => some '\t'
  | 'n' => some '\n'
  | 'v' => some '\x0b'
  | 'f' => some '\x0c'
  | 'r' => some '\r'
  | 'e' => some '\x1b'
  | ' ' => some ' '
  | '"' => some '"'
  | '\\' => some '\\'
  | '/' => some '/'
  | 'N' => some '\x85'
  | '_' => some '\xa0'
  | 'L' => some '\u2028'
  | 'P' => some '\u2029'
  | _ => none

/-- The number of hexadecimal digits behind a letter behind a backslash. -/
def escapeWidth? (c : Char) : Option Nat :=
  match c with
  | 'x' => some 2
  | 'u' => some 4
  | 'U' => some 8
  | _ => none

/-- The code point that an escape names by its number. -/
def escapedPoint (n : Nat) : Except Fault Point :=
  if n < 0x110000 then .ok (Point.ofNat n)
  else if n < 0x80000000 then .error (.badValue .noCodePoint)
  else .error (.badValue .hugeCodePoint)

/-- What an escape stands for, from behind its backslash on, and the rest. A
line break that is escaped leaves only the further ones behind it. -/
def escape : List Char → Except Fault (PointText × List Char)
  | [] => .error .malformed
  | c :: rest =>
    match escapeOf? c, escapeWidth? c with
    | some ch, _ => .ok ([.char ch], rest)
    | none, some width =>
      match if rest.length < width then none else hexValue? (rest.take width) with
      | some n => (escapedPoint n).map fun point => ([point], rest.drop width)
      | none => .error .malformed
    | none, none =>
      match if isBreak c then quotedBreaks true rest else none with
      | some (breaks, rest) => .ok (Text.points breaks, rest)
      | none => .error .malformed

/-- What blanks and line breaks in a quoted scalar stand for, and the rest: line
breaks are folded, and blanks beside them dropped. -/
def quotedBlanks (text : List Char) : Except Fault (PointText × List Char) :=
  let isSpace (c : Char) : Bool := c == ' ' || c == '\t'
  match text.dropWhile isSpace with
  | [] => .error .malformed
  | c :: rest =>
    if isBreak c then
      match quotedBreaks true rest with
      | some (breaks, rest) => .ok (Text.points (foldedBreak (breakChar c) breaks), rest)
      | none => .error .malformed
    else .ok (Text.points (text.takeWhile isSpace), c :: rest)

/-- The text of a quoted scalar and what follows the closing quote. -/
def quotedScalar (double : Bool) : Nat → List Char → Except Fault (PointText × List Char)
  | 0, _ => .error .malformed
  | _, [] => .error .malformed
  | fuel + 1, c :: cs =>
    let more (piece : PointText) (rest : List Char) : Except Fault (PointText × List Char) := do
      let (text, rest) ← quotedScalar double fuel rest
      pure (piece ++ text, rest)
    if c = '"' ∧ double then .ok ([], cs)
    else if c = '\'' ∧ !double then
      match cs with
      | '\'' :: rest => more [.char '\''] rest
      | _ => .ok ([], cs)
    else if c = '\\' ∧ double then do
      let (piece, rest) ← escape cs
      more piece rest
    else if isSeparator c then do
      let (piece, rest) ← quotedBlanks (c :: cs)
      more piece rest
    else more [.char c] cs

/-- Nothing counts as malformed. -/
def orMalformed {α : Type} : Option α → Except Fault α
  | some a => .ok a
  | none => .error .malformed

/-- A token that may turn out to begin a key: how deep in flow collections it
stands, its number among the tokens, its place, and whether it has to be a key
because a block mapping begins at its column. -/
structure PossibleKey where
  level : Nat
  token : Nat
  required : Bool
  index : Nat
  line : Nat
  column : Nat
  deriving Repr, Inhabited

/-- The state of cutting a file into tokens: the tokens so far are kept
backwards, `marks` are tokens to be put before the token of a number, `indent`
is the column of the innermost block, and `allowKey` says that a key may begin
here. -/
structure Scan where
  cursor : Cursor
  flowLevel : Nat := 0
  indent : Int := -1
  outerIndents : List Int := []
  allowKey : Bool := true
  keys : List PossibleKey := []
  tokens : List Token := []
  marks : List (Nat × List Token) := []
  deriving Repr, Inhabited

namespace Scan

/-- Adds a token. -/
def push (s : Scan) (t : Token) : Scan :=
  { s with tokens := t :: s.tokens }

/-- The token that may begin a key at the current depth. -/
def possibleKey? (s : Scan) : Option PossibleKey :=
  s.keys.find? fun key => key.level = s.flowLevel

/-- Gives up the possible key at the current depth; malformed if it has to be
one. -/
def dropKey (s : Scan) : Option Scan :=
  match s.possibleKey? with
  | some key =>
    if key.required then none
    else some { s with keys := s.keys.filter fun k => k.level ≠ s.flowLevel }
  | none => some s

/-- Notes that the next token may begin a key. -/
def saveKey (s : Scan) : Option Scan :=
  if s.allowKey then
    (s.dropKey).map fun s =>
      { s with keys := ⟨s.flowLevel, s.tokens.length,
          s.flowLevel = 0 ∧ s.indent = s.cursor.column,
          s.cursor.index, s.cursor.line, s.cursor.column⟩ :: s.keys }
  else some s

/-- A possible key that began on an earlier line or too far back is none. -/
def isStale (s : Scan) (key : PossibleKey) : Bool :=
  key.line != s.cursor.line || 1024 < s.cursor.index - key.index

/-- Gives up the possible keys that are none any more. -/
def dropStaleKeys (s : Scan) : Option Scan :=
  if s.keys.any fun key => s.isStale key && key.required then none
  else some { s with keys := s.keys.filter fun key => !s.isStale key }

/-- Closes blocks until the innermost one begins at or before the column, for
the outer indentations. -/
def closeBlocks (column : Int) : List Int → Int → List Token → List Int × Int × List Token
  | [], indent, tokens => ([], indent, tokens)
  | outer :: rest, indent, tokens =>
    if column < indent then closeBlocks column rest outer (.blockEnd :: tokens)
    else (outer :: rest, indent, tokens)

/-- Closes the blocks that end at the column; inside a flow collection
indentation does not count. -/
def unwind (s : Scan) (column : Int) : Scan :=
  if s.flowLevel = 0 then
    let (outerIndents, indent, tokens) := closeBlocks column s.outerIndents s.indent s.tokens
    { s with outerIndents, indent, tokens }
  else s

/-- Opens a block at the column, if it lies further in than the innermost one;
the flag says whether it does. -/
def openBlock (s : Scan) (column : Int) : Bool × Scan :=
  if s.indent < column then
    (true, { s with outerIndents := s.indent :: s.outerIndents, indent := column })
  else (false, s)

/-- Adds a token for the next `n` characters. -/
def take (s : Scan) (n : Nat) (t : Token) : Scan :=
  { s with cursor := s.cursor.advance n, tokens := t :: s.tokens }

/-- A line that starts or ends a document. -/
def documentMarker (s : Scan) (t : Token) : Option Scan := do
  let s ← (s.unwind (-1)).dropKey
  some ({ s with allowKey := false }.take 3 t)

/-- The opening of a flow collection. -/
def flowStart (s : Scan) (t : Token) : Option Scan := do
  let s ← s.saveKey
  some ({ s with flowLevel := s.flowLevel + 1, allowKey := true }.take 1 t)

/-- The closing of a flow collection; one that was never opened is malformed. -/
def flowEnd (s : Scan) (t : Token) : Option Scan := do
  let s ← s.dropKey
  if s.flowLevel = 0 then none
  else some ({ s with flowLevel := s.flowLevel - 1, allowKey := false }.take 1 t)

/-- A comma in a flow collection. -/
def flowEntry (s : Scan) : Option Scan := do
  let s ← s.dropKey
  some ({ s with allowKey := true }.take 1 .flowEntry)

/-- A hyphen before an item of a block sequence. -/
def blockEntry (s : Scan) : Option Scan := do
  let s ←
    if s.flowLevel = 0 then
      if s.allowKey then
        let (opened, s) := s.openBlock s.cursor.column
        some (if opened then s.push .blockSequenceStart else s)
      else none
    else some s
  let s ← s.dropKey
  some ({ s with allowKey := true }.take 1 .blockEntry)

/-- A question mark before a key. -/
def explicitKey (s : Scan) : Option Scan := do
  let s ←
    if s.flowLevel = 0 then
      if s.allowKey then
        let (opened, s) := s.openBlock s.cursor.column
        some (if opened then s.push .blockMappingStart else s)
      else none
    else some s
  let s ← s.dropKey
  some ({ s with allowKey := s.flowLevel = 0 }.take 1 .key)

/-- A colon before a value. The key may be one that was noted; if it begins a
block mapping, that is marked too. -/
def valueMark (s : Scan) : Option Scan :=
  match s.possibleKey? with
  | some key =>
    let s := { s with keys := s.keys.filter fun k => k.level ≠ s.flowLevel }
    let (opened, s) := if s.flowLevel = 0 then s.openBlock key.column else (false, s)
    let mark := if opened then [.blockMappingStart, .key] else [.key]
    some ({ s with marks := (key.token, mark) :: s.marks, allowKey := false }.take 1 .value)
  | none => do
    let s ←
      if s.flowLevel = 0 then
        if s.allowKey then
          let (opened, s) := s.openBlock s.cursor.column
          some (if opened then s.push .blockMappingStart else s)
        else none
      else some s
    let s ← ({ s with allowKey := s.flowLevel = 0 }).dropKey
    some (s.take 1 .value)

/-- A tag. -/
def tag (s : Scan) : Option Scan := do
  let s ← s.saveKey
  let (tag, rest) ← readTag? (s.cursor.rest.drop 1)
  if endsTag rest then
    some { s with
      cursor := s.cursor.moveTo rest
      allowKey := false
      tokens := .tag tag :: s.tokens }
  else none

/-- An alias. -/
def reference (s : Scan) : Option Scan := do
  let s ← s.saveKey
  let rest ← skipAlias? (s.cursor.rest.drop 1)
  some { s with
    cursor := s.cursor.moveTo rest
    allowKey := false
    tokens := .reference :: s.tokens }

/-- A quoted scalar. -/
def quoted (s : Scan) (double : Bool) : Except Fault Scan := do
  let s ← orMalformed s.saveKey
  let inner := s.cursor.rest.drop 1
  let (text, rest) ← quotedScalar double (inner.length + 1) inner
  pure { s with
    cursor := s.cursor.moveTo rest
    allowKey := false
    tokens := .quoted text :: s.tokens }

/-- A plain scalar. -/
def plain (s : Scan) : Option Scan := do
  let s ← s.saveKey
  let (text, cursor, fresh) := plainScalar (0 < s.flowLevel) (s.indent + 1)
    (s.cursor.rest.length + 1) [] s.cursor false
  some { s with cursor, allowKey := fresh, tokens := .plain text :: s.tokens }

/-- A character that begins no plain scalar by itself. -/
def isIndicator (c : Char) : Bool :=
  "-?:,[]\x7b\x7d#&*!|>'\"%@`".toList.contains c

/-- A plain scalar may begin with the text. -/
def startsPlain (inFlow : Bool) : List Char → Bool
  | [] => false
  | c :: cs =>
    !(isSeparator c || isIndicator c) ||
      (!atSeparator cs && (c == '-' || (!inFlow && (c == '?' || c == ':'))))

/-- Cuts off the next token. The flag says that the end was reached. -/
def step (s : Scan) : Except Fault (Bool × Scan) := do
  let (passed, rest) := skipBlanks false false s.cursor.rest
  let s := { s with
    cursor := s.cursor.moveTo rest
    allowKey := s.allowKey || (passed && s.flowLevel = 0) }
  let s ← orMalformed s.dropStaleKeys
  let s := s.unwind s.cursor.column
  let inFlow := 0 < s.flowLevel
  let proceed (next : Option Scan) : Except Fault (Bool × Scan) :=
    (orMalformed next).map fun s => (false, s)
  match s.cursor.rest with
  | [] => (orMalformed (s.unwind (-1)).dropKey).map fun s => (true, s)
  | c :: cs =>
    if s.cursor.column = 0 ∧ startsMarker '-' (c :: cs) = true then
      proceed (s.documentMarker .documentStart)
    else if s.cursor.column = 0 ∧ startsMarker '.' (c :: cs) = true then
      proceed (s.documentMarker .documentEnd)
    else if c = '[' then proceed (s.flowStart .flowSequenceStart)
    else if c = '\x7b' then proceed (s.flowStart .flowMappingStart)
    else if c = ']' then proceed (s.flowEnd .flowSequenceEnd)
    else if c = '\x7d' then proceed (s.flowEnd .flowMappingEnd)
    else if c = ',' then proceed s.flowEntry
    else if c = '-' ∧ atSeparator cs = true then proceed s.blockEntry
    else if c = '?' ∧ (inFlow ∨ atSeparator cs = true) then proceed s.explicitKey
    else if c = ':' ∧ (inFlow ∨ atSeparator cs = true) then proceed s.valueMark
    else if c = '*' then proceed s.reference
    else if c = '!' then proceed s.tag
    else if c = '\'' then (s.quoted false).map fun s => (false, s)
    else if c = '"' then (s.quoted true).map fun s => (false, s)
    else if startsPlain inFlow (c :: cs) then proceed s.plain
    else .error .malformed

/-- The tokens of a number and up, with the marked ones put in. -/
def insertMarks (marks : List (Nat × List Token)) (number : Nat) : List Token → List Token
  | [] => []
  | t :: rest =>
    ((marks.filter fun mark => mark.1 = number).flatMap (·.2)) ++
      t :: insertMarks marks (number + 1) rest

/-- All tokens in order, with the marked ones put in. -/
def linearised (s : Scan) : List Token :=
  insertMarks s.marks 0 s.tokens.reverse

/-- The tokens that are settled before the next one is looked at: those before
the first one that may still turn out to begin a key. -/
def settled (s : Scan) : List Token :=
  let undecided := s.keys.filter fun key => !s.isStale key
  let count := undecided.foldl (fun n key => min n key.token) s.tokens.length
  insertMarks s.marks 0 (s.tokens.reverse.take count)

/-- Cuts off tokens until the end, or until a fault that is put behind the
tokens settled by then. -/
def run : Nat → Scan → Except Fault (List Token)
  | 0, _ => .error .malformed
  | fuel + 1, s =>
    match s.step with
    | .ok (true, s) => .ok s.linearised
    | .ok (false, s) => run fuel s
    | .error .malformed => .error .malformed
    | .error (.badValue cause) => .ok (s.settled ++ [.broken cause])

end Scan

/-- The place at the beginning of a file, behind a byte order mark. -/
def startOf : List Char → Cursor
  | '\uFEFF' :: rest => { rest, index := 1 }
  | rest => { rest }

/-- The tokens of a settings file. -/
def tokens (text : List Char) : Except Fault (List Token) :=
  if text.all isAllowed then Scan.run (text.length + 2) { cursor := startOf text }
  else .error .malformed

end StyleCheck.Yaml
