/-
# The words of a command line

Each word of a command line is an argument, one of the known flags, something
that looks like a flag but is not known, or the double hyphen behind which all
words are arguments. A long flag may be shortened as long as only one flag
begins that way, and its value may stand behind an equals sign or in the next
word. A negative number and a word with a blank in it are arguments.

Key definitions: `Flag`, `Reading`, `UsageError`, `readWord`, `readWords`.
-/
import StyleCheck.Source.Path
import StyleCheck.Text.Digit
import StyleCheck.Text.Quoted
import StyleCheck.Text.Search

namespace StyleCheck.Command

open Text

/-- What a flag sets. -/
inductive Setting where
  | help
  | logLevel
  | config
  | noExternal
  | analyzerProgram
  | timeout
  | minSeverity
  | rule
  | failOn
  | format
  deriving DecidableEq, Repr, Inhabited

/-- The flag takes a value. -/
def Setting.takesValue : Setting → Bool
  | help => false
  | noExternal => false
  | _ => true

/-- A flag and its names. -/
structure Flag where
  names : List String
  setting : Setting
  deriving DecidableEq, Repr, Inhabited

/-- The flag in messages. -/
def Flag.title (flag : Flag) : String :=
  String.intercalate "/" flag.names

/-- What is wrong with a command line. -/
inductive UsageError where
  | ambiguous (word : String) (candidates : List String)
  | ignoredValue (flag : Flag) (value : String)
  | missingValue (flag : Flag)
  | badChoice (title value : String) (choices : List String)
  | badFloat (flag : Flag) (value : String)
  | unrecognized (words : List String)
  deriving DecidableEq, Repr, Inhabited

/-- A text in quotes. -/
def shownText (s : String) : String :=
  String.ofList (quoted s.toList)

/-- The text of the error. -/
def UsageError.message : UsageError → String
  | ambiguous word candidates =>
    "ambiguous option: " ++ word ++ " could match " ++ String.intercalate ", " candidates
  | ignoredValue flag value =>
    "argument " ++ flag.title ++ ": ignored explicit argument " ++ shownText value
  | missingValue flag => "argument " ++ flag.title ++ ": expected one argument"
  | badChoice title value choices =>
    "argument " ++ title ++ ": invalid choice: " ++ shownText value ++ " (choose from " ++
      String.intercalate ", " (choices.map shownText) ++ ")"
  | badFloat flag value =>
    "argument " ++ flag.title ++ ": invalid float value: " ++ shownText value
  | unrecognized words => "unrecognized arguments: " ++ String.intercalate " " words

/-- How a word is read. A flag comes with the name that was meant and with the
value in the same word. -/
inductive Reading where
  | argument
  | separator
  | flag (flag : Flag) (name : String) (value : Option String)
  | unknown
  deriving DecidableEq, Repr, Inhabited

/-- The names of some flags, each with its flag. -/
def namesOf (flags : List Flag) : List (String × Flag) :=
  flags.flatMap fun flag => flag.names.map fun name => (name, flag)

/-- The text before the first equals sign, and the text behind it. -/
def cutAtEquals (word : List Char) : List Char × Option (List Char) :=
  let before := word.takeWhile (· ≠ '=')
  match word.dropWhile (· ≠ '=') with
  | [] => (before, none)
  | _ :: behind => (before, some behind)

/-- A word such as `-5` or `-.5`; one newline at its end is overlooked. -/
def isNegativeNumber : List Char → Bool
  | '-' :: cs =>
    let isEnd (rest : List Char) : Bool := rest.isEmpty || rest == ['\n']
    let whole := cs.takeWhile isDigit
    match cs.dropWhile isDigit with
    | '.' :: rest =>
      !(rest.takeWhile isDigit).isEmpty && isEnd (rest.dropWhile isDigit)
    | rest => !whole.isEmpty && isEnd rest
  | _ => false

/-- The flags that a word may be short for: a long flag by its beginning, a
flag of one letter with its value directly behind it. -/
def candidatesFor (flags : List Flag) (word : List Char) :
    List (Flag × String × Option String) :=
  let (before, behind) := cutAtEquals word
  match word with
  | '-' :: '-' :: _ =>
    (namesOf flags).filterMap fun (name, flag) =>
      if before.isPrefixOf name.toList then
        some (flag, name, behind.map String.ofList)
      else none
  | _ =>
    (namesOf flags).filterMap fun (name, flag) =>
      if name.toList = word.take 2 then
        some (flag, name, some (String.ofList (word.drop 2)))
      else if word.isPrefixOf name.toList then some (flag, name, none)
      else none

/-- Reads a word that stands before any separator. -/
def readWord (flags : List Flag) (word : String) : Except UsageError Reading :=
  let cs := word.toList
  if cs.head? ≠ some '-' then .ok .argument
  else
    match (namesOf flags).find? fun entry => entry.1 = word with
    | some (name, flag) => .ok (.flag flag name none)
    | none =>
      if cs.length = 1 then .ok .argument
      else
        let (before, behind) := cutAtEquals cs
        match behind, (namesOf flags).find? fun entry => entry.1 = String.ofList before with
        | some value, some (name, flag) => .ok (.flag flag name (some (String.ofList value)))
        | _, _ =>
          match candidatesFor flags cs with
          | [(flag, name, value)] => .ok (.flag flag name value)
          | [] => .ok (if isNegativeNumber cs || cs.contains ' ' then .argument else .unknown)
          | candidates => .error (.ambiguous word (candidates.map fun candidate => candidate.2.1))

/-- Reads all words of a command line. -/
def readWords (flags : List Flag) : List String → Except UsageError (List (String × Reading))
  | [] => .ok []
  | word :: rest =>
    if word = "--" then
      .ok ((word, .separator) :: rest.map fun argument => (argument, .argument))
    else do
      let reading ← readWord flags word
      let others ← readWords flags rest
      pure ((word, reading) :: others)

/-- Whether what stands directly behind a flag of one letter that takes no value
makes sense: only further such flags may follow it, of which `h` is the one that
there is. -/
def checkShortTail (flag : Flag) : List Char → Except UsageError Unit
  | [] => .error (.ignoredValue flag "")
  | c :: cs =>
    if c ≠ 'h' then .error (.ignoredValue flag (String.ofList (c :: cs)))
    else if cs.isEmpty then .ok ()
    else checkShortTail flag cs

end StyleCheck.Command
