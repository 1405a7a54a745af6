/-
# JSON text

JSON values with ordered fields, written over several lines with an
indentation of two spaces a level. Everything outside printable ASCII is
escaped, characters beyond the basic plane as two units.

Key definitions: `Json`, `Json.quoted`, `Json.indented`.
-/
import StyleCheck.Number.Basic
import StyleCheck.Text.Quoted

namespace StyleCheck

/-- A JSON value; the numbers of a report are whole. -/
inductive Json where
  | null
  | bool (b : Bool)
  | number (n : Int)
  | string (s : String)
  | array (items : List Json)
  | object (fields : List (String × Json))
  deriving Repr, Inhabited

namespace Json

/-- A unit of sixteen bits, escaped. -/
def unitEscape (n : Nat) : List Char :=
  '\\' :: 'u' :: Text.hexadecimal 4 n

/-- One character of a JSON text. -/
def quotedChar (c : Char) : List Char :=
  if c = '"' ∨ c = '\\' then ['\\', c]
  else if c = '\n' then ['\\', 'n']
  else if c = '\r' then ['\\', 'r']
  else if c = '\t' then ['\\', 't']
  else if c = '\x08' then ['\\', 'b']
  else if c = '\x0c' then ['\\', 'f']
  else if 32 ≤ c.toNat ∧ c.toNat < 127 then [c]
  else if c.toNat < 0x10000 then unitEscape c.toNat
  else
    let n := c.toNat - 0x10000
    unitEscape (0xD800 + n / 0x400) ++ unitEscape (0xDC00 + n % 0x400)

/-- A text in quotes. -/
def quoted (text : List Char) : List Char :=
  '"' :: text.flatMap quotedChar ++ ['"']

/-- A line break and the indentation of a level. -/
def newline (level : Nat) : List Char :=
  '\n' :: List.replicate (2 * level) ' '

/-- Parts between brackets, each on a line of its own one level further in. -/
def bracketed (opening closing : Char) (level : Nat) (parts : List (List Char)) : List Char :=
  if parts.isEmpty then [opening, closing]
  else
    opening :: newline (level + 1) ++ List.intercalate (',' :: newline (level + 1)) parts ++
      newline level ++ [closing]

mutual

/-- A JSON value over several lines, at a level of indentation. -/
def indented (level : Nat) : Json → List Char
  | null => "null".toList
  | bool b => (if b then "true" else "false").toList
  | number n => integerText n
  | string s => quoted s.toList
  | array items => bracketed '[' ']' level (indentedItems (level + 1) items)
  | object fields => bracketed '\x7b' '\x7d' level (indentedFields (level + 1) fields)

/-- The items of an array. -/
def indentedItems (level : Nat) : List Json → List (List Char)
  | [] => []
  | item :: rest => indented level item :: indentedItems level rest

/-- The fields of an object. -/
def indentedFields (level : Nat) : List (String × Json) → List (List Char)
  | [] => []
  | (name, value) :: rest =>
    (quoted name.toList ++ ':' :: ' ' :: indented level value) :: indentedFields level rest

end

end Json

end StyleCheck
