/-
# Characters of settings files

The classes of characters that settings files are cut by, the lines that start
or end a document, and hexadecimal digits.

Key definitions: `isBreak`, `isSeparator`, `isAllowed`, `atDocumentMarker`,
`hexValue?`.
-/

namespace StyleCheck.Yaml

/-- A character that ends a line. -/
def isBreak (c : Char) : Bool :=
  c == '\n' || c == '\r' || c == '\x85' || c == '\u2028' || c == '\u2029'

/-- A space, a tab or a line break. -/
def isSeparator (c : Char) : Bool :=
  c == ' ' || c == '\t' || isBreak c

/-- The text ends here, or a separator comes next. -/
def atSeparator : List Char → Bool
  | [] => true
  | c :: _ => isSeparator c

/-- A bracket, a brace or a comma of a flow collection. -/
def isFlowMark (c : Char) : Bool :=
  c == ',' || c == '[' || c == ']' || c == '\x7b' || c == '\x7d'

/-- A character that a settings file may hold. -/
def isAllowed (c : Char) : Bool :=
  let n := c.toNat
  n == 9 || n == 10 || n == 13 || (0x20 ≤ n && n ≤ 0x7E) || n == 0x85 ||
    (0xA0 ≤ n && n ≤ 0xD7FF) || (0xE000 ≤ n && n ≤ 0xFFFD) || 0x10000 ≤ n

/-- The text begins with the three characters `mark`, with a separator or the
end behind them. -/
def startsMarker (mark : Char) : List Char → Bool
  | a :: b :: c :: rest => a == mark && b == mark && c == mark && atSeparator rest
  | _ => false

/-- The text begins with a line that starts or ends a document. -/
def atDocumentMarker (text : List Char) : Bool :=
  startsMarker '-' text || startsMarker '.' text

/-- The value of a hexadecimal digit. -/
def hexDigit? (c : Char) : Option Nat :=
  if c.isDigit then some (c.toNat - 48)
  else if 'a' ≤ c ∧ c ≤ 'f' then some (c.toNat - 87)
  else if 'A' ≤ c ∧ c ≤ 'F' then some (c.toNat - 55)
  else none

/-- The value of hexadecimal digits. -/
def hexValue? (digits : List Char) : Option Nat :=
  digits.foldlM (fun n c => (hexDigit? c).map (16 * n + ·)) 0

end StyleCheck.Yaml
