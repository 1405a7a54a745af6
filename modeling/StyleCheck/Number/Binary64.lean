/-
# Binary floating-point numbers

A double is kept as what it means: not a number, an infinity, or a sign, a
significand below `2 ^ 53` and an exponent of two. Decimal numbers are rounded
to the nearest double, a tie to the even significand, in exact arithmetic.

Key definitions: `Binary64`, `Binary64.ofDecimal`, `Binary64.truncate?`,
`Binary64.sum`, `Binary64.product`.
-/

namespace StyleCheck

/-- A double. A finite one is `± significand * 2 ^ exponent`. -/
inductive Binary64 where
  | nan
  | infinite (negative : Bool)
  | finite (negative : Bool) (significand : Nat) (exponent : Int)
  deriving DecidableEq, Repr, Inhabited

namespace Binary64

/-- A power of two. -/
def twoTo (n : Nat) : Nat := Nat.pow 2 n

/-- A power of ten. -/
def tenTo (n : Nat) : Nat := Nat.pow 10 n

/-- The least exponent of a double. -/
def leastExponent : Int := -1074

/-- The greatest exponent of a double. -/
def greatestExponent : Int := 971

/-- The quotient `n / d` rounded to the nearest integer, a tie to the even one. -/
def roundedQuotient (n d : Nat) : Nat :=
  let q := n / d
  let r := n % d
  if d < 2 * r ∨ (2 * r = d ∧ q % 2 = 1) then q + 1 else q

/-- Numerator and denominator of `n / d / 2 ^ exponent`. -/
def scaled (n d : Nat) (exponent : Int) : Nat × Nat :=
  if 0 ≤ exponent then (n, d * twoTo exponent.toNat) else (n * twoTo (-exponent).toNat, d)

/-- The double nearest to `± n / d`. -/
def ofRatio (negative : Bool) (n d : Nat) : Binary64 :=
  if n = 0 then finite negative 0 leastExponent
  else
    let guess := max ((Nat.log2 n : Int) - Nat.log2 d - 53) leastExponent
    let (gn, gd) := scaled n d guess
    let exponent := if twoTo 53 ≤ gn / gd then guess + 1 else guess
    let (en, ed) := scaled n d exponent
    let significand := roundedQuotient en ed
    let (significand, exponent) :=
      if significand = twoTo 53 then (twoTo 52, exponent + 1) else (significand, exponent)
    if greatestExponent < exponent then infinite negative
    else finite negative significand exponent

/-- The double nearest to `± digits * 10 ^ exponent`. -/
def ofDecimal (negative : Bool) (digits : Nat) (exponent : Int) : Binary64 :=
  let magnitude := ((Nat.toDigits 10 digits).length : Int) + exponent
  if digits = 0 ∨ magnitude < -400 then finite negative 0 leastExponent
  else if 400 < magnitude then infinite negative
  else if 0 ≤ exponent then ofRatio negative (digits * tenTo exponent.toNat) 1
  else ofRatio negative digits (tenTo (-exponent).toNat)

/-- The double nearest to `n * 2 ^ exponent`. -/
def ofScaled (n : Nat) (exponent : Int) : Binary64 :=
  if 0 ≤ exponent then ofRatio false (n * twoTo exponent.toNat) 1
  else ofRatio false n (twoTo (-exponent).toNat)

/-- The sum of two doubles that are not negative. -/
def sum : Binary64 → Binary64 → Binary64
  | finite _ m e, finite _ n f =>
    let least := min e f
    ofScaled (m * twoTo (e - least).toNat + n * twoTo (f - least).toNat) least
  | _, _ => infinite false

/-- The product of two doubles that are not negative, the second one neither
zero nor infinite. -/
def product : Binary64 → Binary64 → Binary64
  | finite _ m e, finite _ n f => ofScaled (m * n) (e + f)
  | _, _ => infinite false

/-- The double with the opposite sign. -/
def negate : Binary64 → Binary64
  | nan => nan
  | infinite negative => infinite (!negative)
  | finite negative significand exponent => finite (!negative) significand exponent

/-- A finite double is zero. -/
def isZero : Binary64 → Bool
  | finite _ significand _ => significand == 0
  | _ => false

/-- The integer part, the fraction being cut off; only a finite double has one. -/
def truncate? : Binary64 → Option Int
  | finite negative significand exponent =>
    let magnitude : Nat :=
      if 0 ≤ exponent then significand * twoTo exponent.toNat
      else significand / twoTo (-exponent).toNat
    some (if negative then -(magnitude : Int) else magnitude)
  | _ => none

/-- The integer that a double is equal to, if it is one. -/
def toInt? (x : Binary64) : Option Int :=
  match x with
  | finite _ significand exponent =>
    if 0 ≤ exponent ∨ significand % twoTo (-exponent).toNat = 0 then x.truncate? else none
  | _ => none

end Binary64

end StyleCheck
