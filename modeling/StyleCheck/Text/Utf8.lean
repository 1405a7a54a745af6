/-
# UTF-8

Bytes become characters in one of two ways: strictly, where any malformed
sequence is refused, or leniently, where each maximal malformed sequence
becomes one replacement character.

Key definitions: `decodeUtf8?`, `decodeUtf8Lenient`.
-/

namespace StyleCheck.Text

/-- The replacement character. -/
def replacement : Char := '\uFFFD'

/-- What a leading byte asks for: the number of continuation bytes, the least
and the greatest value of the first of them, and the leading byte's own bits. -/
def leadingByte? (b : Nat) : Option (Nat × Nat × Nat × Nat) :=
  if b < 0x80 then some (0, 0x80, 0xBF, b)
  else if b < 0xC2 then none
  else if b < 0xE0 then some (1, 0x80, 0xBF, b - 0xC0)
  else if b = 0xE0 then some (2, 0xA0, 0xBF, 0)
  else if b = 0xED then some (2, 0x80, 0x9F, 0xD)
  else if b < 0xF0 then some (2, 0x80, 0xBF, b - 0xE0)
  else if b = 0xF0 then some (3, 0x90, 0xBF, 0)
  else if b < 0xF4 then some (3, 0x80, 0xBF, b - 0xF0)
  else if b = 0xF4 then some (3, 0x80, 0x8F, 4)
  else none

/-- A character begun: the continuation bytes still owed (at least one), the
bounds of the next one, and the bits so far. -/
structure Pending where
  owed : Nat
  least : Nat
  greatest : Nat
  bits : Nat

/-- A byte that begins a character, or is malformed: what is finished with it,
`none` standing for a malformed sequence, and what is begun. -/
def beginChar (b : Nat) : List (Option Char) × Option Pending :=
  match leadingByte? b with
  | none => ([none], none)
  | some (0, _, _, bits) => ([some (Char.ofNat bits)], none)
  | some (owed, least, greatest, bits) => ([], some ⟨owed, least, greatest, bits⟩)

/-- The next byte: what is finished with it, and what is begun. A byte that does
not go on with the character begun ends that one as malformed and begins
another. -/
def readByte (pending : Option Pending) (b : Nat) : List (Option Char) × Option Pending :=
  match pending with
  | none => beginChar b
  | some p =>
    if p.least ≤ b ∧ b ≤ p.greatest then
      let bits := p.bits * 64 + (b - 0x80)
      if p.owed ≤ 1 then ([some (Char.ofNat bits)], none)
      else ([], some ⟨p.owed - 1, 0x80, 0xBF, bits⟩)
    else
      let (finished, begun) := beginChar b
      (none :: finished, begun)

/-- Decodes bytes into characters, `none` standing for a maximal malformed
sequence. -/
def decodeFrom (pending : Option Pending) : List UInt8 → List (Option Char)
  | [] => if pending.isSome then [none] else []
  | byte :: bytes =>
    let (finished, begun) := readByte pending byte.toNat
    finished ++ decodeFrom begun bytes

/-- The characters of well-formed UTF-8, and nothing for malformed bytes. -/
def decodeUtf8? (bytes : List UInt8) : Option (List Char) :=
  (decodeFrom none bytes).mapM id

/-- The characters of UTF-8 with a replacement character for each maximal
malformed sequence. -/
def decodeUtf8Lenient (bytes : List UInt8) : List Char :=
  (decodeFrom none bytes).map (·.getD replacement)

end StyleCheck.Text
