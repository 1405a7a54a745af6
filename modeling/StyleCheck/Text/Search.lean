/-
# Searching a text

Key definitions: `occursIn`, `indexOf?`, `scan`.

`scan` is the one way in which a shape is looked for everywhere in a text:
from left to right, at each place the shape is tried once, and after a reading
the search goes on behind it. So readings never overlap, and of two that do
the one that starts first wins.
-/
import StyleCheck.Text.Word

namespace StyleCheck.Text

/-- `word` stands somewhere in `text`. -/
def occursIn (word : List Char) : List Char → Bool
  | [] => word.isEmpty
  | c :: cs => word.isPrefixOf (c :: cs) || occursIn word cs

/-- The first offset at which `word` stands in `text`. -/
def indexOf? (word : List Char) : List Char → Option Nat
  | [] => if word.isEmpty then some 0 else none
  | c :: cs => if word.isPrefixOf (c :: cs) then some 0 else (indexOf? word cs).map (· + 1)

/-- What follows `word` if the text begins with it. -/
def dropWord? : (word text : List Char) → Option (List Char)
  | [], text => some text
  | _ :: _, [] => none
  | a :: word, b :: text => if a = b then dropWord? word text else none

/-- A shape that can be read at one place of a text: given the offset of the
place, whether a word character stands before it, and the text from there on,
it gives what it read and how many characters that took. -/
abbrev Shape (α : Type) := (offset : Nat) → (afterWord : Bool) → List Char → Option (α × Nat)

/-- All readings of `shape` in a text that begins at `offset`, of which the
first `skip` characters belong to an earlier reading. -/
def scanFrom {α : Type} (shape : Shape α) (skip offset : Nat) (afterWord : Bool) :
    List Char → List α
  | [] => []
  | c :: cs =>
    match skip with
    | skip + 1 => scanFrom shape skip (offset + 1) (isWord c) cs
    | 0 =>
      match shape offset afterWord (c :: cs) with
      | some (reading, length) =>
        reading :: scanFrom shape (length - 1) (offset + 1) (isWord c) cs
      | none => scanFrom shape 0 (offset + 1) (isWord c) cs

/-- All readings of `shape` in `text`, from left to right, none overlapping an
earlier one. -/
def scan {α : Type} (shape : Shape α) (text : List Char) : List α :=
  scanFrom shape 0 0 false text

/-- The first reading of `shape` in `text`. -/
def scanFirst? {α : Type} (shape : Shape α) (text : List Char) : Option α :=
  (scan shape text).head?

end StyleCheck.Text
