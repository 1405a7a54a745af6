/-
# Masked source

Comments and the bodies of string literals are hidden before source text is
looked at: every character of them becomes a space, so every offset still means
the same place. The quotes of a string literal stay, and so do the newlines in
a comment; an escaped newline in a string literal is hidden with the rest of
its body. A quote that opens no literal, because its line or the text ends
first, is a character like any other. A character literal is code.

Key definitions: `closesString`, `MaskState`, `mask`.
Key theorem: `length_mask`.
-/

namespace StyleCheck.Source

/-- The text after an opening quote closes the literal: an unescaped quote
comes before any unescaped newline. -/
def closesString : List Char → Bool
  | [] => false
  | '"' :: _ => true
  | '\n' :: _ => false
  | ['\\'] => false
  | '\\' :: _ :: cs => closesString cs
  | _ :: cs => closesString cs

/-- Where in a source text a character stands. -/
inductive MaskState where
  | code
  | string
  | lineComment
  | blockComment
  deriving DecidableEq, Repr

/-- What hides a character of a comment: a newline stays. -/
def commentBlank (c : Char) : Char :=
  if c = '\n' then '\n' else ' '

/-- Hides comments and string bodies in a text whose first character stands in
the given state. -/
def maskFrom : MaskState → List Char → List Char
  | _, [] => []
  | .code, '"' :: cs => '"' :: maskFrom (if closesString cs then .string else .code) cs
  | .code, '/' :: '/' :: cs => ' ' :: ' ' :: maskFrom .lineComment cs
  | .code, '/' :: '*' :: cs => ' ' :: ' ' :: maskFrom .blockComment cs
  | .code, c :: cs => c :: maskFrom .code cs
  | .string, '"' :: cs => '"' :: maskFrom .code cs
  | .string, '\\' :: _ :: cs => ' ' :: ' ' :: maskFrom .string cs
  | .string, _ :: cs => ' ' :: maskFrom .string cs
  | .lineComment, '\n' :: cs => '\n' :: maskFrom .code cs
  | .lineComment, _ :: cs => ' ' :: maskFrom .lineComment cs
  | .blockComment, '*' :: '/' :: cs => ' ' :: ' ' :: maskFrom .code cs
  | .blockComment, c :: cs => commentBlank c :: maskFrom .blockComment cs

/-- The source text with its comments and the bodies of its string literals
hidden. -/
def mask (text : List Char) : List Char :=
  maskFrom .code text

theorem length_maskFrom (state : MaskState) (text : List Char) :
    (maskFrom state text).length = text.length := by
  fun_induction maskFrom state text <;> simp_all

/-- Masking keeps the length of a text. -/
theorem length_mask (text : List Char) : (mask text).length = text.length :=
  length_maskFrom .code text

end StyleCheck.Source
