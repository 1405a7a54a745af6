/-
# Loading settings

Settings come from an explicit file, or from the first file that exists at one
of the usual places below a root, or are the standard ones. A file that was
chosen has to be there, readable, UTF-8 and well-formed, and hold a mapping; a
file that holds nothing, or a value that counts as false, sets nothing. How the
text of a file becomes a value is left open up to the last definition.

Key definitions: `LoadError`, `discover`, `settingsFrom`, `loadSettings`.
-/
import StyleCheck.Config.Settings
import StyleCheck.Config.Yaml.Node
import StyleCheck.Source.Tree

namespace StyleCheck

/-- Why settings cannot be loaded. -/
inductive LoadError where
  | notFound (path : Path)
  | unreadable (path : Path)
  | notUtf8 (path : Path)
  | malformed (path : Path)
  | badValue (cause : Yaml.BadValue)
  | noMapping (path : Path)
  /-- The place of a settings file cannot even be looked at. -/
  | refused (path : Path)
  deriving DecidableEq, Repr, Inhabited

/-- The text of the error. -/
def LoadError.message : LoadError → String
  | notFound path => "Configuration file not found: " ++ path.text
  | unreadable path => "Failed to read configuration file " ++ path.text
  | notUtf8 path => "Configuration file is not UTF-8: " ++ path.text
  | malformed path => "Invalid YAML/JSON in configuration file " ++ path.text
  | badValue cause => cause.message
  | noMapping path => "Configuration file must contain a mapping: " ++ path.text
  | refused path => (FileError.nameTooLong path).message

/-- The usual places of a settings file. -/
def usualLocations : List Path :=
  [".cubtek.json", ".cubtek.yaml", ".vscode/cubtek-config.json"].map Path.ofString

/-- The first file at one of the places below a root, looked for in order. -/
def discover (tree : Tree) (locations : List Path) (root : Path) :
    Except LoadError (Option Path) :=
  match (locations.map root.join).find? fun path => tree.isFile path || tree.refuses path with
  | some path => if tree.refuses path then .error (.refused path) else .ok (some path)
  | none => .ok none

/-- The mapping that a value counts as: what counts as false is empty. -/
def mappingOf? : Value → Option Mapping
  | .map entries => some entries
  | value => if value.isTruthy then none else some []

/-- The mapping in a file of settings whose text is read by `parse`. -/
def loadMapping (parse : List Char → Except Yaml.Fault Value) (tree : Tree) (path : Path) :
    Except LoadError Mapping :=
  if tree.refuses path then .error (.refused path)
  else if !tree.holds path then .error (.notFound path)
  else
    match tree.readBytes path with
    | .error _ => .error (.unreadable path)
    | .ok bytes =>
      match Text.decodeUtf8? bytes with
      | none => .error (.notUtf8 path)
      | some text =>
        match parse (Text.unifyNewlines text) with
        | .error .malformed => .error (.malformed path)
        | .error (.badValue cause) => .error (.badValue cause)
        | .ok value =>
          match mappingOf? value with
          | some entries => .ok entries
          | none => .error (.noMapping path)

/-- The file that settings are read from: the explicit one if there is one, and
what is found below the root otherwise. -/
def chosenFile (tree : Tree) (locations : List Path) (explicit root : Option Path) :
    Except LoadError (Option Path) :=
  match explicit, root with
  | some path, _ => .ok (some path)
  | none, some root => discover tree locations root
  | none, none => .ok none

/-- The settings of a project: those of the chosen file, whose text is read by
`parse`, over the standard ones. -/
def settingsFrom (parse : List Char → Except Yaml.Fault Value) (tree : Tree)
    (locations : List Path) (explicit root : Option Path) : Traced (Except LoadError Settings) :=
  match chosenFile tree locations explicit root with
  | .error e => pure (.error e)
  | .ok none => pure (.ok .standard)
  | .ok (some path) =>
    match loadMapping parse tree path with
    | .error e => pure (.error e)
    | .ok data => do
      let settings ← Settings.standard.merge data (some path)
      pure (.ok settings)

/-- The settings of a project, read from YAML or JSON. -/
def loadSettings (tree : Tree) (locations : List Path) (explicit root : Option Path) :
    Traced (Except LoadError Settings) :=
  settingsFrom Yaml.parse tree locations explicit root

end StyleCheck
