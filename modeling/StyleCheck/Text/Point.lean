/-
# Texts of code points

A quoted text in a settings file may name any code point by its number, also
one of the surrogates, which are no characters. Such a text is a list of
points. Where a word or a number is expected, a text with a surrogate in it is
none.

Key definitions: `Point`, `PointText`, `points`, `chars?`, `trimPoints`,
`quotedPoints`.
Key theorem: `chars?_points`.
-/
import StyleCheck.Text.Blank
import StyleCheck.Text.Quoted

namespace StyleCheck.Text

/-- A code point: a character, or one of the surrogates, by its distance from
the first of them. -/
inductive Point where
  | char (c : Char)
  | surrogate (distance : Fin 0x800)
  deriving DecidableEq, Repr, Inhabited

namespace Point

/-- The number of the first surrogate. -/
def firstSurrogate : Nat := 0xD800

/-- The point of a number below `0x110000`. -/
def ofNat (n : Nat) : Point :=
  if h : firstSurrogate ≤ n ∧ n < firstSurrogate + 0x800 then
    surrogate ⟨n - firstSurrogate, by omega⟩
  else char (Char.ofNat n)

/-- The number of a point. -/
def toNat : Point → Nat
  | char c => c.toNat
  | surrogate distance => firstSurrogate + distance

/-- The point as a character. -/
def char? : Point → Option Char
  | char c => some c
  | surrogate _ => none

/-- A blank character. -/
def isBlank : Point → Bool
  | char c => Text.isBlank c
  | surrogate _ => false

end Point

/-- A text of code points. -/
abbrev PointText := List Point

/-- The points of a text of characters. -/
def points (text : List Char) : PointText :=
  text.map .char

instance : Coe String PointText where
  coe s := points s.toList

/-- The characters of a text without surrogates. -/
def chars? : PointText → Option (List Char)
  | [] => some []
  | .char c :: rest => (chars? rest).map (c :: ·)
  | .surrogate _ :: _ => none

@[simp] theorem chars?_points : ∀ text : List Char, chars? (points text) = some text
  | [] => rfl
  | c :: cs => by
    have ih := chars?_points cs
    simp only [points, List.map_cons, chars?] at ih ⊢
    simp [ih]

/-- The text without its leading and trailing blanks. -/
def trimPoints (text : PointText) : PointText :=
  dropEndWhile Point.isBlank (text.dropWhile Point.isBlank)

/-- One point of a text quoted with `quote`. -/
def quotedPoint (quote : Char) : Point → List Char
  | .char c => quotedChar quote c
  | .surrogate distance => codeEscape (Point.surrogate distance).toNat

/-- The text between quotes; a surrogate is written by its number. -/
def quotedPoints (text : PointText) : List Char :=
  let quote := quoteFor (text.filterMap Point.char?)
  quote :: text.flatMap (quotedPoint quote) ++ [quote]

end StyleCheck.Text
