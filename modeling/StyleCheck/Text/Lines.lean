/-
# Lines

A source text is cut into lines at the newline character only, and always has
at least one line. The output of another program is cut at every character
that some script takes for a line break; a carriage return followed by a
newline is one break, and a break at the very end opens no further line.

Key definitions: `splitLines`, `outputLines`, `unifyNewlines`.
Key theorem: `joinLines_splitLines`.
-/

namespace StyleCheck.Text

/-- The lines of a text, cut at each newline. -/
def splitLines : List Char → List (List Char)
  | [] => [[]]
  | c :: cs =>
    if c = '\n' then [] :: splitLines cs
    else
      match splitLines cs with
      | [] => [[c]]
      | line :: rest => (c :: line) :: rest

/-- The lines of a text joined by newlines. -/
def joinLines (lines : List (List Char)) : List Char :=
  List.intercalate ['\n'] lines

theorem splitLines_ne_nil : ∀ text : List Char, splitLines text ≠ []
  | [] => by simp [splitLines]
  | c :: cs => by
    rw [splitLines]
    split
    · simp
    · split <;> simp

/-- The lines of a text joined again are the text. -/
theorem joinLines_splitLines : ∀ text : List Char, joinLines (splitLines text) = text
  | [] => rfl
  | c :: cs => by
    have ih := joinLines_splitLines cs
    rw [splitLines]
    split
    · rename_i hc
      match h : splitLines cs with
      | [] => exact absurd h (splitLines_ne_nil cs)
      | line :: rest =>
        rw [h] at ih
        simp [joinLines] at ih ⊢
        exact ⟨hc.symm, ih⟩
    · split
      · rename_i h
        exact absurd h (splitLines_ne_nil cs)
      · rename_i line rest h
        rw [h] at ih
        cases rest with
        | nil => simpa [joinLines] using ih
        | cons next rest => simpa [joinLines] using ih

/-- A character that ends a line of another program's output. -/
def isLineBreak (c : Char) : Bool :=
  let n := c.toNat
  (10 ≤ n && n ≤ 13) || (28 ≤ n && n ≤ 30) || n == 0x85 || n == 0x2028 || n == 0x2029

/-- Cuts a text at every line break, `line` being the beginning of the current
line, backwards. -/
def outputLinesFrom (line : List Char) : List Char → List (List Char)
  | [] => if line.isEmpty then [] else [line.reverse]
  | '\r' :: '\n' :: cs => line.reverse :: outputLinesFrom [] cs
  | c :: cs => if isLineBreak c then line.reverse :: outputLinesFrom [] cs
    else outputLinesFrom (c :: line) cs

/-- The lines of another program's output. -/
def outputLines (text : List Char) : List (List Char) :=
  outputLinesFrom [] text

/-- The text with each carriage return, with the newline that may follow it,
turned into one newline. -/
def unifyNewlines : List Char → List Char
  | [] => []
  | '\r' :: '\n' :: cs => '\n' :: unifyNewlines cs
  | c :: cs => (if c = '\r' then '\n' else c) :: unifyNewlines cs

/-- The number of newlines in a text. -/
def newlineCount (text : List Char) : Nat :=
  text.count '\n'

end StyleCheck.Text
