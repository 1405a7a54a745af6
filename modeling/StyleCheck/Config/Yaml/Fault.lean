/-
# Faults of settings files

A settings file is malformed, or it is well formed but holds something that is
written like a value and stands for none: a number without digits or with too
many of them, a fraction of too many parts, an escape beyond the last code
point, a day that does not exist.

Key definitions: `BadValue`, `BadValue.message`, `Fault`.
-/
import StyleCheck.Moment

namespace StyleCheck.Yaml

/-- Why something that is written like a value stands for none. -/
inductive BadValue where
  | noDigits (base : Nat)
  | tooManyDigits (count : Nat)
  /-- A fraction in base sixty with a part that counts more than any double. -/
  | tooManyParts
  /-- An escape that names a number beyond the last code point. -/
  | noCodePoint
  /-- An escape that names a number beyond thirty-one bits. -/
  | hugeCodePoint
  | badMoment (flaw : MomentFlaw)
  deriving DecidableEq, Repr, Inhabited

/-- The text for a value that there is none of. -/
def BadValue.message : BadValue → String
  | noDigits base => "invalid literal for int() with base " ++ toString base ++ ": ''"
  | tooManyDigits count =>
    "Exceeds the limit (" ++ toString maxIntegerDigits ++
      " digits) for integer string conversion: value has " ++ toString count ++
      " digits; use sys.set_int_max_str_digits() to increase the limit"
  | tooManyParts => "int too large to convert to float"
  | noCodePoint => "chr() arg not in range(0x110000)"
  | hugeCodePoint => "Python int too large to convert to C int"
  | badMoment flaw => flaw.message

/-- Why a settings file has no value. -/
inductive Fault where
  | malformed
  | badValue (cause : BadValue)
  deriving DecidableEq, Repr, Inhabited

end StyleCheck.Yaml
