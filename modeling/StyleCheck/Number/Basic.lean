/-
# Numbers

A number of a settings file or of the command line is a whole number of any
size or a double. Texts are read as numbers leniently: blanks around them are
passed over, the digits may be of any script, and single underscores may stand
between digits. A whole number of very many digits is neither read nor written
in base ten.

Key definitions: `Number`, `Number.text`, `isWritable`, `NumberError`,
`writtenInteger`, `readInteger?`, `readReal?`.
-/
import StyleCheck.Number.Shortest
import StyleCheck.Text.Blank
import StyleCheck.Text.Digit

namespace StyleCheck

/-- A whole number of any size, or a double. -/
inductive Number where
  | whole (n : Int)
  | real (x : Binary64)
  deriving DecidableEq, Repr, Inhabited

/-- A whole number of more digits than this is neither read nor written. -/
def maxIntegerDigits : Nat := 4300

/-- The least number of too many digits. -/
@[irreducible]  -- proofs go by `10 ^ maxIntegerDigits`, and nobody should try to compute it
def leastLongInteger : Nat := Binary64.tenTo maxIntegerDigits

/-- A whole number that can be written. -/
def isWritable (n : Int) : Bool :=
  n.natAbs < leastLongInteger

/-- Why a number cannot be written. -/
inductive NumberError where
  | tooLong
  deriving DecidableEq, Repr, Inhabited

/-- The text of the error. -/
def NumberError.message : NumberError → String
  | tooLong =>
    "Exceeds the limit (" ++ toString maxIntegerDigits ++
      " digits) for integer string conversion; " ++
      "use sys.set_int_max_str_digits() to increase the limit"

/-- The text of a whole number. -/
def integerText (n : Int) : List Char :=
  (if n < 0 then ['-'] else []) ++ Nat.toDigits 10 n.natAbs

/-- A whole number as a message writes it, unless it has too many digits. -/
def writtenInteger (n : Int) : Except NumberError String :=
  if isWritable n then .ok (String.ofList (integerText n)) else .error .tooLong

namespace Number

/-- The text of a number. -/
def text : Number → List Char
  | whole n => integerText n
  | real x => x.text

/-- The number can be written. -/
def isWritable : Number → Bool
  | whole n => StyleCheck.isWritable n
  | real _ => true

/-- The number is zero. -/
def isZero : Number → Bool
  | whole n => n == 0
  | real x => x.isZero

end Number

open Text

/-- A blank that may stand around a number: any blank but the four information
separators. -/
def isNumberBlank (c : Char) : Bool :=
  isBlank c && !(28 ≤ c.toNat && c.toNat ≤ 31)

/-- The text without the blanks around it. -/
def trimNumber (text : List Char) : List Char :=
  dropEndWhile isNumberBlank (text.dropWhile isNumberBlank)

/-- Takes a leading sign off; the flag says that it is a minus. -/
def takeSign : List Char → Bool × List Char
  | '-' :: cs => (true, cs)
  | '+' :: cs => (false, cs)
  | cs => (false, cs)

/-- The digits of a text of digits with single underscores between them;
`afterDigit` says that a digit stands before the text. -/
def joinedDigits? (afterDigit : Bool) : List Char → Option (List Char)
  | [] => if afterDigit then some [] else none
  | c :: cs =>
    if c = '_' then if afterDigit then joinedDigits? false cs else none
    else if isDigit c then (joinedDigits? true cs).map (c :: ·)
    else none

/-- The whole number that a text writes. -/
def readInteger? (text : List Char) : Option Int :=
  let (negative, cs) := takeSign (trimNumber text)
  match joinedDigits? false cs with
  | some digits =>
    if digits.length ≤ maxIntegerDigits then
      some (if negative then -(decimalValue digits : Int) else decimalValue digits)
    else none
  | none => none

/-- Digits with single underscores between them, or no text at all. -/
def optionalDigits? (text : List Char) : Option (List Char) :=
  if text.isEmpty then some [] else joinedDigits? false text

/-- The exponent that ends a decimal number: nothing, or `e` with a signed
whole number. -/
def readExponent? : List Char → Option Int
  | [] => some 0
  | c :: cs =>
    if c = 'e' ∨ c = 'E' then
      let (negative, cs) := takeSign cs
      (joinedDigits? false cs).map fun digits =>
        if negative then -(decimalValue digits : Int) else decimalValue digits
    else none

/-- A digit or an underscore. -/
def isDigitOrLow (c : Char) : Bool :=
  isDigit c || c == '_'

/-- The decimal number without sign that a text writes: digits, a fraction, an
exponent. -/
def readDecimal? (negative : Bool) (text : List Char) : Option Binary64 :=
  let whole := text.takeWhile isDigitOrLow
  let rest := text.dropWhile isDigitOrLow
  let (fraction, rest) :=
    match rest with
    | '.' :: cs => (cs.takeWhile isDigitOrLow, cs.dropWhile isDigitOrLow)
    | _ => ([], rest)
  match optionalDigits? whole, optionalDigits? fraction, readExponent? rest with
  | some whole, some fraction, some exponent =>
    if whole.isEmpty && fraction.isEmpty then none
    else some (Binary64.ofDecimal negative (decimalValue (whole ++ fraction))
      (exponent - fraction.length))
  | _, _, _ => none

/-- The double that a text writes: a decimal number, an infinity or not a
number. -/
def readReal? (text : List Char) : Option Binary64 :=
  let (negative, cs) := takeSign (trimNumber text)
  let word := String.ofList (cs.map Char.toLower)
  if word = "inf" ∨ word = "infinity" then some (.infinite negative)
  else if word = "nan" then some .nan
  else readDecimal? negative cs

end StyleCheck
