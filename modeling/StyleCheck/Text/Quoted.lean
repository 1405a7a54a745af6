/-
# Quoted texts

A text is quoted for messages between single quotes, or between double quotes
when it holds a single quote and no double quote. The quote in use and the
backslash are escaped, newline, carriage return and tab have their letters,
and every other character that is not printable is written by its code point
in two, four or eight hexadecimal digits.

Key definition: `quoted`.
-/
import StyleCheck.Text.Printable

namespace StyleCheck.Text

/-- `n` in lower-case hexadecimal, filled with zeros to `width` digits. -/
def hexadecimal (width n : Nat) : List Char :=
  let digits := Nat.toDigits 16 n
  List.replicate (width - digits.length) '0' ++ digits

/-- A code point in hexadecimal digits behind a letter for their number. -/
def codeEscape (n : Nat) : List Char :=
  if n < 0x100 then '\\' :: 'x' :: hexadecimal 2 n
  else if n < 0x10000 then '\\' :: 'u' :: hexadecimal 4 n
  else '\\' :: 'U' :: hexadecimal 8 n

/-- One character of a text quoted with `quote`. -/
def quotedChar (quote c : Char) : List Char :=
  if c = quote ∨ c = '\\' then ['\\', c]
  else if c = '\n' then ['\\', 'n']
  else if c = '\r' then ['\\', 'r']
  else if c = '\t' then ['\\', 't']
  else if isPrintable c then [c]
  else codeEscape c.toNat

/-- The quote that a text is written with. -/
def quoteFor (text : List Char) : Char :=
  if text.contains '\'' && !text.contains '"' then '"' else '\''

/-- The text between quotes, on one line and with every invisible character
spelt out. -/
def quoted (text : List Char) : List Char :=
  let quote := quoteFor text
  quote :: text.flatMap (quotedChar quote) ++ [quote]

end StyleCheck.Text
