/-
# Paths

A path is a root (none, for a relative path) and a list of parts. Repeated
slashes, parts that are a single dot and a trailing slash do not matter, so
they are dropped when a path is read; a part of two dots stays. The path with
neither root nor parts is the current directory.

Key definitions: `Path`, `Path.ofString`, `Path.text`, `Path.suffix`,
`Path.descend`, `Path.join`, `Path.precedes`.
-/

namespace StyleCheck

/-- A path: the root, empty for a relative path, and the parts below it. -/
structure Path where
  root : String
  parts : List String
  deriving DecidableEq, Repr, Inhabited

namespace Path

/-- The text cut at each occurrence of `separator`. -/
def splitAtChar (separator : Char) : List Char → List (List Char)
  | [] => [[]]
  | c :: cs =>
    if c = separator then [] :: splitAtChar separator cs
    else
      match splitAtChar separator cs with
      | [] => [[c]]
      | part :: rest => (c :: part) :: rest

/-- The root that a path text begins with; exactly two slashes are a root of
their own. -/
def rootOf : List Char → String
  | '/' :: '/' :: '/' :: _ => "/"
  | '/' :: '/' :: _ => "//"
  | '/' :: _ => "/"
  | _ => ""

/-- Reads a path. -/
def ofChars (text : List Char) : Path where
  root := rootOf text
  parts := ((splitAtChar '/' text).filter fun part => part ≠ [] ∧ part ≠ ['.']).map String.ofList

/-- Reads a path. -/
def ofString (text : String) : Path :=
  ofChars text.toList

/-- The text of a path. -/
def text (p : Path) : String :=
  if p.root = "" ∧ p.parts = [] then "." else p.root ++ String.intercalate "/" p.parts

/-- The path starts at a root. -/
def isAbsolute (p : Path) : Bool :=
  p.root != ""

/-- The path on from `p` by further names. -/
def descend (p : Path) (names : List String) : Path :=
  ⟨p.root, p.parts ++ names⟩

/-- `q` as seen from `p`: an absolute path stands for itself. -/
def join (p q : Path) : Path :=
  if q.isAbsolute then q else p.descend q.parts

/-- The last part, empty when there is none. -/
def name (p : Path) : String :=
  p.parts.getLastD ""

/-- The part of a file name from its last dot on, unless that dot is the first
or the last character. -/
def suffixOf (name : List Char) : List Char :=
  let after := (name.reverse.takeWhile (· ≠ '.')).reverse
  let before := name.length - after.length
  if after ≠ [] ∧ 2 ≤ before then '.' :: after else []

/-- The suffix of a path's last part. -/
def suffix (p : Path) : List Char :=
  suffixOf p.name.toList

/-- The order of two lists of names: part by part, each by code points. -/
def partsLE : List String → List String → Bool
  | [], _ => true
  | _ :: _, [] => false
  | a :: as, b :: bs => if a = b then partsLE as bs else decide (a < b)

/-- `p` comes before `q` or is the same path: by the parts from the first one
on, a root being a part of its own. -/
def precedes (p q : Path) : Bool :=
  partsLE (if p.isAbsolute then p.root :: p.parts else p.parts)
    (if q.isAbsolute then q.root :: q.parts else q.parts)

end Path

end StyleCheck
