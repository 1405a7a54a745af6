/-
# Whole-word occurrences of a name

A name occurs as a whole word where the text continues with it and a word
boundary lies on either side. Occurrences do not overlap. The empty name
occurs at every word boundary.

Key definitions: `occurrences`, `Document.references`.
-/
import StyleCheck.Source.Document
import StyleCheck.Text.Search

namespace StyleCheck.Source

open Text

/-- The name stands at the beginning of a text as a whole word. -/
def occursHere (name : List Char) (afterAWord : Bool) (text : List Char) : Bool :=
  atBoundary afterAWord text &&
    match dropWord? name text with
    | some rest => atBoundary ((name.getLast?.map isWord).getD afterAWord) rest
    | none => false

/-- The offsets of a name in a text that begins at `offset`, of which the first
`skip` characters belong to an earlier occurrence. -/
def occurrencesFrom (name : List Char) (skip offset : Nat) (afterAWord : Bool) :
    List Char → List Nat
  | [] => if skip = 0 ∧ occursHere name afterAWord [] = true then [offset] else []
  | c :: cs =>
    match skip with
    | skip + 1 => occurrencesFrom name skip (offset + 1) (isWord c) cs
    | 0 =>
      if occursHere name afterAWord (c :: cs) then
        offset :: occurrencesFrom name (name.length - 1) (offset + 1) (isWord c) cs
      else occurrencesFrom name 0 (offset + 1) (isWord c) cs

/-- The offsets at which a name occurs as a whole word, from left to right. -/
def occurrences (name text : List Char) : List Nat :=
  occurrencesFrom name 0 0 false text

end StyleCheck.Source

namespace StyleCheck.Document

/-- The ranges of all whole-word occurrences of a name. -/
def references (d : Document) (name : List Char) : List Range :=
  (Source.occurrences name d.text).map fun (offset : Nat) =>
    ⟨d.positionAt offset, d.positionAt (offset + name.length)⟩

end StyleCheck.Document
