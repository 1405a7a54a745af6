/-
# Corrected names

How a name is changed to answer a complaint. The complaint is recognised by
words in its message, in any letter case and in this order: a global or a
static variable gets its mark, a parameter a small first letter, and what
should be camelCase is converted.

Key definitions: `toCamelCase`, `correctedName`.
-/
import StyleCheck.Source.Path
import StyleCheck.Text.Case
import StyleCheck.Text.Search

namespace StyleCheck.Fix

open Text

/-- The text with its first character in lower case. -/
def lowerFirst (text : List Char) : List Char :=
  lower (text.take 1) ++ text.drop 1

/-- The text with its first character in upper case and the others in lower
case. -/
def capitalized (text : List Char) : List Char :=
  upper (text.take 1) ++ lower (text.drop 1)

/-- The first part of a camelCase name: all in lower case if it is all capital,
and with a small first letter otherwise. -/
def camelHead (part : List Char) : List Char :=
  if isUpperCase part then lower part else lowerFirst part

/-- The parts of a name between its underscores, the empty ones left out. -/
def nameParts (name : List Char) : List (List Char) :=
  (Path.splitAtChar '_' name).filter (· ≠ [])

/-- The name in camelCase: the parts between underscores run together, each
after the first capitalized. A name of underscores alone stays. -/
def toCamelCase (name : List Char) : List Char :=
  match nameParts name with
  | [] => name
  | head :: tail => camelHead head ++ tail.flatMap capitalized

/-- The name with a mark in front, which is not doubled. -/
def marked (mark name : List Char) : List Char :=
  mark ++ (dropWord? mark name).getD name

/-- The name changed as the message asks. -/
def correctedName (name message : List Char) : List Char :=
  let complaint := lower message
  if occursIn "global variable".toList complaint then marked ['g', '_'] name
  else if occursIn "static variable".toList complaint then marked ['s', '_'] name
  else if occursIn "parameter".toList complaint then lowerFirst name
  else if occursIn "camelcase".toList complaint then toCamelCase name
  else name

end StyleCheck.Fix
