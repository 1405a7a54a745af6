/-
# Braces

Blocks are found by counting braces alone, so the text is masked first. The
block at a place is the one that the next opening brace opens; a closing brace
before it is passed over.

Key definitions: `blockEnd?`, `braceBalance`, `depthBefore`, `lineDepths`.
-/
import StyleCheck.Text.Lines

namespace StyleCheck.Source

/-- The opening brace. -/
def openBrace : Char := '\x7b'

/-- The closing brace. -/
def closeBrace : Char := '\x7d'

/-- Looks for the brace that closes the block, in a text that begins at
`offset` with `depth` braces open; at depth zero the block is still to be
opened. -/
def blockEndFrom (depth offset : Nat) : List Char → Option Nat
  | [] => none
  | c :: cs =>
    if c = openBrace then blockEndFrom (depth + 1) (offset + 1) cs
    else if c = closeBrace then
      match depth with
      | 0 => blockEndFrom 0 (offset + 1) cs
      | 1 => some offset
      | depth + 2 => blockEndFrom (depth + 1) (offset + 1) cs
    else blockEndFrom depth (offset + 1) cs

/-- The offset of the brace that closes the first block opened at or after
`start`. -/
def blockEnd? (text : List Char) (start : Int) : Option Nat :=
  blockEndFrom 0 start.toNat (text.drop start.toNat)

/-- The opening braces less the closing braces of a text. -/
def braceBalance (text : List Char) : Int :=
  (text.count openBrace : Int) - text.count closeBrace

theorem braceBalance_append (u v : List Char) :
    braceBalance (u ++ v) = braceBalance u + braceBalance v := by
  unfold braceBalance
  rw [List.count_append, List.count_append]
  omega

/-- The number of open braces at the beginning of a line: the balance of all
lines before it. -/
def depthBefore (text : List Char) (line : Int) : Int :=
  ((Text.splitLines text).take line.toNat).foldl (fun depth line => depth + braceBalance line) 0

/-- Each line with its number and the depth before it, for lines that begin
with number `index` at depth `depth`. -/
def lineDepthsFrom (index : Nat) (depth : Int) : List (List Char) → List (Nat × List Char × Int)
  | [] => []
  | line :: rest =>
    (index, line, depth) :: lineDepthsFrom (index + 1) (depth + braceBalance line) rest

/-- Each line of a text with its number and the depth before it. -/
def lineDepths (text : List Char) : List (Nat × List Char × Int) :=
  lineDepthsFrom 0 0 (Text.splitLines text)

end StyleCheck.Source
