/-
# Checking a project

The documents of a project are checked one after another. Before each of them
a flag is looked at that asks for an early stop; what was finished by then is
kept. A file that cannot be read is an error of its own and stops nothing, but
a name with a null character in it ends the check without a result. Results are
kept by path: a path that comes up again keeps its first place and
takes the later result.

Key definitions: `Item`, `ProjectResult`, `Checker.checkProject`.
-/
import StyleCheck.Checker

namespace StyleCheck

/-- Something to check: a document at hand, or the file of a given name. -/
inductive Item where
  | document (d : Document)
  | file (name : String)
  deriving Repr, Inhabited

/-- The results of checking a project, by path. -/
structure ProjectResult where
  results : List (String × CheckResult) := []
  cancelled : Bool := false
  deriving Repr, Inhabited

namespace ProjectResult

/-- All diagnostics, document by document. -/
def diagnostics (p : ProjectResult) : List Diagnostic :=
  p.results.flatMap fun entry => entry.2.diagnostics

/-- All errors, document by document. -/
def errors (p : ProjectResult) : List String :=
  p.results.flatMap fun entry => entry.2.errors

end ProjectResult

/-- The document in the file of a given name. -/
def Tree.document (tree : Tree) (name : String) : Except FileError Document :=
  let path := Path.ofString name
  (tree.readText path).map fun text => { text, language := path.language, path := some path }

namespace Checker

/-- The result of one item and what it is kept under; `index` is the item's
place in the project. -/
def checkItem (c : Checker) (around : Surroundings) (index : Nat) (item : Item) :
    Traced (Except FileError (String × CheckResult)) :=
  let checked (d : Document) : Traced (Except FileError (String × CheckResult)) := do
    let result ← c.check around d
    pure (result.map fun result =>
      ((d.path.map Path.text).getD ("<document " ++ toString index ++ ">"), result))
  match item with
  | .document d => checked d
  | .file name =>
    match around.tree.document name with
    | .ok d => checked d
    | .error .nullCharacter => pure (.error .nullCharacter)
    | .error e => pure (.ok (name, {
        diagnostics := []
        errors := ["Failed to read " ++ name ++ ": " ++ e.message] }))

/-- Checks items of which the first has the given index; `cancelled` tells what
the flag shows before an item. -/
def checkFrom (c : Checker) (around : Surroundings) (cancelled : Nat → Bool) (index : Nat)
    (done : List (String × CheckResult)) : List Item → Traced (Except FileError ProjectResult)
  | [] => pure (.ok ⟨done, false⟩)
  | item :: rest =>
    if cancelled index then do
      Traced.note .info .service
        ("Project check cancelled after " ++ toString done.length ++ " documents")
      pure (.ok ⟨done, true⟩)
    else do
      match ← c.checkItem around index item with
      | .error e => pure (.error e)
      | .ok (key, result) =>
        c.checkFrom around cancelled (index + 1) (putEntry key result done) rest

/-- Checks the items of a project in order. -/
def checkProject (c : Checker) (around : Surroundings) (cancelled : Nat → Bool)
    (items : List Item) : Traced (Except FileError ProjectResult) :=
  c.checkFrom around cancelled 0 [] items

end Checker

end StyleCheck
