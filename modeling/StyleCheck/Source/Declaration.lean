/-
# Variable declarations

A declaration is recognised by its shape: `extern` or `static`, `const` and
`unsigned`, each of them optional, then a type word, a name, and an equals
sign, a semicolon or an opening bracket. Blanks stand between the words. The
type words are the arithmetic types, `bool`, `void`, and every word that ends
in `_t` with something before it.

Key definitions: `Declaration`, `declarationShape`, `declarations`.
-/
import StyleCheck.Text.Blank
import StyleCheck.Text.Search

namespace StyleCheck.Source

open Text

/-- A variable declaration in a text: where it starts and stops, the name and
where the name starts. -/
structure Declaration where
  start : Nat
  stop : Nat
  nameAt : Nat
  name : List Char
  deriving DecidableEq, Repr, Inhabited

/-- The leading word of a text. -/
def leadingWord (text : List Char) : List Char :=
  text.takeWhile isWord

/-- The text behind its leading word. -/
def afterWord (text : List Char) : List Char :=
  text.dropWhile isWord

/-- The leading blanks of a text. -/
def leadingBlanks (text : List Char) : List Char :=
  text.takeWhile isBlank

/-- The type words that are spelt out. -/
def basicTypes : List String :=
  ["int", "char", "float", "double", "bool", "void"]

/-- A word that names a type. -/
def isTypeWord (word : List Char) : Bool :=
  basicTypes.contains (String.ofList word) ||
    (3 ≤ word.length && ['_', 't'].isSuffixOf word)

/-- Passes over one of the `words` and the blanks behind it, if the text begins
with that. -/
def skipSpecifier (words : List String) (text : List Char) : List Char :=
  if words.contains (String.ofList (leadingWord text)) && leadingBlanks (afterWord text) ≠ [] then
    trimStart (afterWord text)
  else text

/-- The text behind the optional words before a type. -/
def skipSpecifiers (text : List Char) : List Char :=
  skipSpecifier ["unsigned"] (skipSpecifier ["const"] (skipSpecifier ["extern", "static"] text))

/-- A character that ends the name of a declared variable. -/
def endsDeclarator (c : Char) : Bool :=
  c == '=' || c == ';' || c == '['

/-- A declaration that begins with the text. -/
def declarationShape : Shape Declaration := fun offset afterAWord text =>
  if afterAWord || !startsWord text then none
  else
    let atType := skipSpecifiers text
    let blanks := leadingBlanks (afterWord atType)
    let atName := trimStart (afterWord atType)
    let name := leadingWord atName
    match trimStart (afterWord atName) with
    | c :: rest =>
      if isTypeWord (leadingWord atType) && blanks ≠ [] && name ≠ [] && endsDeclarator c then
        let length := text.length - rest.length
        some (⟨offset, offset + length, offset + (text.length - atName.length), name⟩, length)
      else none
    | [] => none

/-- The declarations in a text, from left to right. -/
def declarations (text : List Char) : List Declaration :=
  scan declarationShape text

end StyleCheck.Source
