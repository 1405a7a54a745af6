/-
# File trees

A checked project is a tree of files below the working directory, as plain
data: each file has its bytes, and every directory on the way to a file is
there. Paths are followed part by part, from the root or from the working
directory, a part of two dots leading back up. The directories above the working
directory are there too, but what else they hold is not known and counts as
missing.

A name of more than 255 bytes is refused where it would be looked up, and a
path of 4096 bytes or more altogether. Nothing can stand at a path with a null
character in it, and to read there is a mistake of its own kind. Nothing else is
refused: files have no permissions here. And names are texts of whole characters,
so a name whose bytes are no such text does not come up.

A directory may also be searched for the files below it. The search takes the
paths as they are, from the directory's own path on, so it breaks off where such a
path is too long.

Key definitions: `Tree`, `Tree.node`, `FileError`, `Tree.readText`, `Search`,
`Tree.filesBelow`.
-/
import StyleCheck.Source.Path
import StyleCheck.Text.Lines
import StyleCheck.Text.Quoted
import StyleCheck.Text.Utf8

namespace StyleCheck

/-- What stands at a place of a tree. Whoever comes by may read it. -/
inductive Content where
  | file (bytes : List UInt8)
  | directory
  deriving Repr, Inhabited

/-- The files below a working directory: the absolute path of that directory, and
the content of each place below it that is listed. -/
structure Tree where
  base : Path
  entries : List (List String × Content)
  deriving Inhabited

/-- What following a path leads to: a content has the place that it is found at,
as the parts from the root on. -/
inductive Node where
  | missing
  | notDirectory
  | nameTooLong
  | found (place : List String) (content : Content)

/-- Why a file cannot be used. That it is not permitted is not among the reasons. -/
inductive FileError where
  | missing (path : Path)
  | isDirectory (path : Path)
  | notDirectory (path : Path)
  | nameTooLong (path : Path)
  | nullCharacter
  deriving DecidableEq, Repr, Inhabited

/-- The text of a system error: its number, its reason and the quoted name. -/
def systemErrorText (number : Int) (reason quotedName : String) : String :=
  "[Errno " ++ toString number ++ "] " ++ reason ++ ": " ++ quotedName

/-- A path as system errors quote it. -/
def Path.quoted (p : Path) : String :=
  String.ofList (Text.quoted p.text.toList)

/-- The text of the error. -/
def FileError.message : FileError → String
  | missing path => systemErrorText 2 "No such file or directory" path.quoted
  | isDirectory path => systemErrorText 21 "Is a directory" path.quoted
  | notDirectory path => systemErrorText 20 "Not a directory" path.quoted
  | nameTooLong path => systemErrorText 36 "File name too long" path.quoted
  | nullCharacter => "embedded null byte"

/-- A null character is in the path. -/
def Path.hasNull (p : Path) : Bool :=
  p.parts.any fun part => part.toList.contains '\x00'

/-- A name that no directory takes. -/
def isLongName (name : String) : Bool :=
  255 < name.utf8ByteSize

/-- A path that is refused as a whole. -/
def Path.isLong (p : Path) : Bool :=
  4096 ≤ p.text.utf8ByteSize

/-- What a search for files gives: those that it finds, in order, and what it
breaks off with, if it does. -/
structure Search where
  found : List Path
  failure : Option FileError := none
  deriving Repr, Inhabited

/-- A search that another one follows, unless it breaks off. -/
def Search.andThen (first second : Search) : Search :=
  match first.failure with
  | some _ => first
  | none => { second with found := first.found ++ second.found }

namespace Tree

/-- What stands at exactly this place below the working directory. The working
directory itself and every directory on the way to a listed place are there. -/
def contentBelow (tree : Tree) (parts : List String) : Option Content :=
  match tree.entries.find? fun entry => entry.1 = parts with
  | some entry => some entry.2
  | none =>
    if parts.isEmpty || tree.entries.any fun entry => parts.isPrefixOf entry.1 then
      some .directory
    else none

/-- What stands at exactly this place, given by the parts from the root on. -/
def contentAt (tree : Tree) (place : List String) : Option Content :=
  if tree.base.parts.isPrefixOf place then
    tree.contentBelow (place.drop tree.base.parts.length)
  else if place.isPrefixOf tree.base.parts then some .directory
  else none

/-- Follows the parts of a path from the place `here`. -/
def follow (tree : Tree) (here : List String) : List String → Node
  | [] =>
    match tree.contentAt here with
    | some content => .found here content
    | none => .missing
  | part :: rest =>
    match tree.contentAt here with
    | none => .missing
    | some (.file _) => .notDirectory
    | some .directory =>
      if part = ".." then tree.follow here.dropLast rest
      else if isLongName part then .nameTooLong
      else tree.follow (here ++ [part]) rest

/-- What a path leads to. -/
def node (tree : Tree) (path : Path) : Node :=
  if path.hasNull then .missing
  else if path.isLong then .nameTooLong
  else tree.follow (if path.isAbsolute then [] else tree.base.parts) path.parts

/-- Something stands at the path. -/
def holds (tree : Tree) (path : Path) : Bool :=
  match tree.node path with
  | .found _ _ => true
  | _ => false

/-- A file stands at the path. -/
def isFile (tree : Tree) (path : Path) : Bool :=
  match tree.node path with
  | .found _ (.file _) => true
  | _ => false

/-- A directory stands at the path. -/
def isDirectory (tree : Tree) (path : Path) : Bool :=
  match tree.node path with
  | .found _ .directory => true
  | _ => false

/-- The path cannot even be looked at. -/
def refuses (tree : Tree) (path : Path) : Bool :=
  match tree.node path with
  | .nameTooLong => true
  | _ => false

/-- The bytes of the file at the path. -/
def readBytes (tree : Tree) (path : Path) : Except FileError (List UInt8) :=
  if path.hasNull then .error .nullCharacter
  else
    match tree.node path with
    | .found _ (.file bytes) => .ok bytes
    | .found _ .directory => .error (.isDirectory path)
    | .notDirectory => .error (.notDirectory path)
    | .nameTooLong => .error (.nameTooLong path)
    | .missing => .error (.missing path)

/-- The text of the file at the path, with replacement characters for malformed
bytes and with unified newlines. -/
def readText (tree : Tree) (path : Path) : Except FileError (List Char) :=
  (tree.readBytes path).map fun bytes => Text.unifyNewlines (Text.decodeUtf8Lenient bytes)

/-- A directory stands at exactly this place. -/
def isDirectoryAt (tree : Tree) (place : List String) : Bool :=
  match tree.contentAt place with
  | some .directory => true
  | _ => false

/-- Every place that is there: the working directory, the listed places below it
and the directories on the way to them. -/
def places (tree : Tree) : List (List String) :=
  let listed := tree.base.parts :: tree.entries.map fun entry => tree.base.parts ++ entry.1
  (listed.flatMap fun place => (List.range (place.length + 1)).map place.take).eraseDups

/-- What stands at any depth below a place, by the names that lead there, sorted. -/
def namesBelow (tree : Tree) (here : List String) : List (List String) :=
  let below := tree.places.filter fun place =>
    here.isPrefixOf place && here.length < place.length
  (below.map fun place => place.drop here.length).mergeSort Path.partsLE

/-- The files at any depth below the directory at the path, sorted. All the
directories are listed first, and one whose path is too long cannot be; then what
they hold is looked at in order, up to the first path that is too long. -/
def filesBelow (tree : Tree) (path : Path) : Search :=
  match tree.node path with
  | .found here .directory =>
    let below := tree.namesBelow here
    let isTooLong (names : List String) : Bool := (path.descend names).isLong
    let failureAt (names : List String) : FileError := .nameTooLong (path.descend names)
    match below.find? fun names => tree.isDirectoryAt (here ++ names) && isTooLong names with
    | some names => { found := [], failure := some (failureAt names) }
    | none =>
      { found := ((below.takeWhile fun names => !isTooLong names).map path.descend).filter
          tree.isFile
        failure := (below.find? isTooLong).map failureAt }
  | _ => { found := [] }

end Tree

end StyleCheck
