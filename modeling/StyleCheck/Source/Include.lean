/-
# Include directives

An include directive is `#include`, optional blanks and a path between angle
brackets or quotes; the kind of bracket does not matter.

Key definitions: `Include`, `include?`.
-/
import StyleCheck.Text.Blank
import StyleCheck.Text.Search

namespace StyleCheck.Source

open Text

/-- An include directive in a text: where it starts and stops, and its path. -/
structure Include where
  start : Nat
  stop : Nat
  path : List Char
  deriving DecidableEq, Repr, Inhabited

/-- A character that closes an include path. -/
def closesInclude (c : Char) : Bool :=
  c == '>' || c == '"'

/-- An include directive that begins with the text. -/
def includeShape : Shape Include := fun offset _ text =>
  match (dropWord? "#include".toList text).map trimStart with
  | some (c :: inner) =>
    let path := inner.takeWhile fun c => !closesInclude c
    match inner.dropWhile fun c => !closesInclude c with
    | _ :: rest =>
      if (c == '<' || c == '"') && path ≠ [] then
        let length := text.length - rest.length
        some (⟨offset, offset + length, path⟩, length)
      else none
    | [] => none
  | _ => none

/-- The first include directive in a text. -/
def include? (text : List Char) : Option Include :=
  scanFirst? includeShape text

end StyleCheck.Source
