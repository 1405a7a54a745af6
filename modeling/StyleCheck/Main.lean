/-
# The command line program

Gathers the files below the working directory, lets the command line run on
them and prints what comes of it. The external analyzer is not started from
here: every run finds it missing, so its diagnostics do not appear and the log
says so, unless the command line leaves it out.

Key definitions: `gather`, `runHere`.
-/
import StyleCheck.Command.Run

namespace StyleCheck.Command

/-- The file names that the words of a command line may lead to: the last part
of each word, and of what stands behind an equals sign in it. -/
def namesInWords (words : List String) : List String :=
  words.flatMap fun word =>
    (word.toList :: (cutAtEquals word.toList).2.toList).map fun text => (Path.ofChars text).name

/-- A file whose content a run may read: a source file, a file that a word may
lead to, or settings at a usual place. -/
def mayBeRead (words : List String) (file : Path) : Bool :=
  isSourceFile file || (namesInWords words).contains file.name ||
    (usualLocations.map Path.name).contains file.name

/-- The files and directories at and below an entry of a directory whose parts
are `above`. A link to a directory is not followed. -/
partial def gather (words : List String) (above : List String) (entry : IO.FS.DirEntry) :
    IO (List (List String × Content)) := do
  let parts := above ++ [entry.fileName]
  if ← entry.path.isDir then
    match (← entry.path.symlinkMetadata).type with
    | .dir =>
      let below ← (← entry.path.readDir).toList.mapM (gather words parts)
      pure ((parts, .directory) :: below.flatten)
    | _ => pure [(parts, .directory)]
  else if mayBeRead words ⟨"", parts⟩ then
    let bytes ← IO.FS.readBinFile entry.path
    pure [(parts, .file bytes.toList)]
  else
    pure [(parts, .file [])]

/-- Runs the words of a command line in the working directory. -/
def runHere (words : List String) : IO UInt32 := do
  let here ← IO.currentDir
  let entries ← (← here.readDir).toList.mapM (gather words [])
  let tree : Tree := ⟨Path.ofString here.toString, entries.flatten⟩
  let outcome := run words ⟨tree, fun _ => .notFound⟩
  IO.print outcome.output
  outcome.log.forM fun line => IO.eprintln line
  match outcome.ending with
  | .exit status => pure status.toUInt32
  | .crash crash =>
    IO.eprintln crash.message
    pure 1

end StyleCheck.Command

/-- The program: the words of its command line, run in the working directory. -/
def main (words : List String) : IO UInt32 :=
  StyleCheck.Command.runHere words
