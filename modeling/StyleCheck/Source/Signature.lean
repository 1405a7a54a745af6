/-
# Function signatures

A function definition is recognised by its shape: a return type word, a name,
a parameter list up to the first closing parenthesis, optionally `const`, and
the opening brace of the body. Blanks, newlines included, may stand between
these. Two words before a parenthesis and a brace may also be a control
statement: what is read as one counts as no function, yet the search goes on
behind it.

Key definitions: `Signature`, `signatureShape`, `signatures`, `callShape`,
`declaratorShape`.
-/
import StyleCheck.Source.Brace
import StyleCheck.Source.Declaration

namespace StyleCheck.Source

open Text

/-- A function definition in a text: where it starts, where its opening brace
stops, its return type, its name and where the name starts. -/
structure Signature where
  start : Nat
  stop : Nat
  returnType : List Char
  nameAt : Nat
  name : List Char
  deriving DecidableEq, Repr, Inhabited

/-- The words of control statements and operators, which name no function. -/
def controlWords : List String :=
  ["if", "for", "while", "switch", "catch", "return", "sizeof"]

/-- The text behind the first closing parenthesis. -/
def afterParenthesis : List Char → Option (List Char)
  | [] => none
  | c :: cs => if c = ')' then some cs else afterParenthesis cs

/-- The text behind the opening brace that follows a parameter list. -/
def afterOpening (text : List Char) : Option (List Char) :=
  let rest := trimStart text
  let rest := trimStart ((dropWord? "const".toList rest).getD rest)
  match rest with
  | c :: cs => if c = openBrace then some cs else none
  | [] => none

/-- Two words with blanks between them at the beginning of a text: the first
word, the text from the second word on, and the text from behind it and the
blanks that follow. -/
def twoWords (afterAWord : Bool) (text : List Char) :
    Option (List Char × List Char × List Char) :=
  if afterAWord || !startsWord text then none
  else
    let rest := afterWord text
    let second := trimStart rest
    if leadingBlanks rest ≠ [] && startsWord second then
      some (leadingWord text, second, trimStart (afterWord second))
    else none

/-- Anything of the shape of a function definition that begins with the text. -/
def signatureShape : Shape Signature := fun offset afterAWord text =>
  match twoWords afterAWord text with
  | some (returnType, second, '(' :: parameters) =>
    match (afterParenthesis parameters).bind afterOpening with
    | some rest =>
      let length := text.length - rest.length
      some (⟨offset, offset + length, returnType, offset + (text.length - second.length),
        leadingWord second⟩, length)
    | none => none
  | _ => none

/-- The signature is a function's and no control statement's. -/
def Signature.isFunction (s : Signature) : Bool :=
  !controlWords.contains (String.ofList s.name) &&
    !controlWords.contains (String.ofList s.returnType) &&
    String.ofList s.returnType != "else"

/-- The function definitions in a text, from left to right. -/
def signatures (text : List Char) : List Signature :=
  (scan signatureShape text).filter Signature.isFunction

/-- The name that a function on one line is called or declared by: the second
of two words before an opening parenthesis, as first and last offset. -/
def callShape : Shape (Nat × Nat) := fun offset afterAWord text =>
  match twoWords afterAWord text with
  | some (_, second, '(' :: rest) =>
    let first := offset + (text.length - second.length)
    some ((first, first + (leadingWord second).length), text.length - rest.length)
  | _ => none

/-- The name of a variable on one line: the second of two words before a blank
or the end of a declarator, as first and last offset. -/
def declaratorShape : Shape (Nat × Nat) := fun offset afterAWord text =>
  match twoWords afterAWord text with
  | some (_, second, rest) =>
    let name := leadingWord second
    let blanks := leadingBlanks (afterWord second)
    if blanks ≠ [] || (rest.head?.map endsDeclarator).getD false then
      let first := offset + (text.length - second.length)
      some ((first, first + name.length), text.length - rest.length)
    else none
  | none => none

end StyleCheck.Source
