/-
# YAML tags

A tag stands before a node and says what it is meant to be. A single exclamation
mark leaves that to the node; two of them begin one of the standard tags, and one
with a name behind it a tag of one's own. A tag may also be spelled out in angle
brackets. A name between two exclamation marks is a handle that would have to be
declared first, and nothing declares one.

Key definitions: `Tag`, `readTag?`.
-/
import StyleCheck.Config.Yaml.Character
import StyleCheck.Text.Utf8

namespace StyleCheck.Yaml

/-- A tag of a node. -/
inductive Tag where
  /-- The node is what it is without the tag. -/
  | unspecific
  | standard (name : List Char)
  | unknown
  /-- A tag with a handle that is not declared. -/
  | undeclared
  deriving DecidableEq, Repr, Inhabited

/-- A character of a handle, or of the name of an alias. -/
def isNameChar (c : Char) : Bool :=
  c.isAlphanum || c == '-' || c == '_'

/-- A character of a tag that stands for itself. -/
def isTagChar (c : Char) : Bool :=
  isNameChar c || ";/?:@&=+$,.!~*'()[]".toList.contains c

/-- The text of a tag and what follows it. Bytes that are escaped by a percent
sign and two digits make up characters together; `bytes` are those before the
text, the last one first. -/
def tagText (bytes : List UInt8) : List Char → Option (List Char × List Char)
  | [] => (Text.decodeUtf8? bytes.reverse).map fun escaped => (escaped, [])
  | '%' :: a :: b :: rest => do
    let n ← hexValue? [a, b]
    tagText (UInt8.ofNat n :: bytes) rest
  | c :: rest => do
    let escaped ← Text.decodeUtf8? bytes.reverse
    if c = '%' then none
    else if isTagChar c then
      let (text, rest) ← tagText [] rest
      some (escaped ++ c :: text, rest)
    else some (escaped, c :: rest)

/-- The text of a tag, which is not empty, and what follows it. -/
def tagText? (text : List Char) : Option (List Char × List Char) := do
  let (name, rest) ← tagText [] text
  if name.isEmpty then none else some (name, rest)

/-- The tag of a name that is spelled out. -/
def verbatimTag (name : List Char) : Tag :=
  if name = ['!'] then .unspecific else .unknown

/-- Reads a tag from behind its first exclamation mark on, and gives what follows
it. -/
def readTag? (text : List Char) : Option (Tag × List Char) :=
  match text with
  | '<' :: inner =>
    match tagText? inner with
    | some (name, '>' :: rest) => some (verbatimTag name, rest)
    | _ => none
  | _ =>
    let word := text.takeWhile fun c => c != ' ' && !isBreak c
    if atSeparator text then some (.unspecific, text)
    else if word.contains '!' then
      match text.takeWhile isNameChar, text.dropWhile isNameChar with
      | [], '!' :: rest => (tagText? rest).map fun (name, rest) => (.standard name, rest)
      | _, '!' :: rest => (tagText? rest).map fun (_, rest) => (.undeclared, rest)
      | _, _ => none
    else (tagText? text).map fun (_, rest) => (.unknown, rest)

/-- A tag ends here: a space, a line break or the end of the text comes next. -/
def endsTag : List Char → Bool
  | [] => true
  | c :: _ => c == ' ' || isBreak c

/-- What follows the name of an alias, which begins the text. -/
def skipAlias? (text : List Char) : Option (List Char) :=
  match text.takeWhile isNameChar, text.dropWhile isNameChar with
  | [], _ => none
  | _, [] => some []
  | _, c :: rest =>
    if isSeparator c || "?:,]\x7d%@`".toList.contains c then some (c :: rest) else none

end StyleCheck.Yaml
