/-
# The shortest decimal of a double

A double is written with the fewest significant digits that still read back as
the same double, and among those by the decimal nearest to it. Every decimal
that lies between the midpoints to the neighbouring doubles reads back as the
double, the midpoints themselves exactly when its significand is even.

Key definitions: `Binary64.shortest`, `Binary64.text`.
-/
import StyleCheck.Number.Binary64

namespace StyleCheck.Binary64

/-- The number of decimal digits of `n`. -/
def digitCount (n : Nat) : Nat :=
  (Nat.toDigits 10 n).length

/-- The exponent `p` with `10 ^ p ≤ n / d < 10 ^ (p + 1)`, for positive `n` and `d`. -/
def decimalExponent (n d : Nat) : Int :=
  if d ≤ n then digitCount (n / d) - 1 else -(digitCount ((d - 1) / n) : Int)

/-- A decimal with `count` significant digits that reads back as
`significand * 2 ^ exponent`, as the integer that its digits write; `top` is
the power of ten of its first digit. Of the two neighbours on that grid the
nearer one is taken, a tie going to the even digit. -/
def decimalWith? (significand : Nat) (exponent top : Int) (count : Nat) : Option Nat :=
  let unit := top - count + 1
  let (un, ud) := scaled 1 4 (-exponent)
  let a := un * tenTo (-unit).toNat
  let b := ud * tenTo unit.toNat
  let value := 4 * significand * a
  let low := (4 * significand - if significand = twoTo 52 ∧ leastExponent < exponent then 1 else 2) * a
  let high := (4 * significand + 2) * a
  let even := significand % 2 = 0
  let fits (d : Nat) : Bool :=
    if even then low ≤ d * b && d * b ≤ high else low < d * b && d * b < high
  let below := value / b
  let above := below + 1
  let belowIsNearer := 2 * value < (below + above) * b ∨
    (2 * value = (below + above) * b ∧ below % 2 = 0)
  if fits below && (!fits above || belowIsNearer) then some below
  else if fits above then some above
  else none

/-- The shortest digits of a positive finite double, and the power of ten of
the first of them. -/
def shortest (significand : Nat) (exponent : Int) : List Char × Int :=
  let (n, d) := scaled significand 1 (-exponent)
  let top := decimalExponent n d
  let found := (List.range 17).findSome? fun i =>
    (decimalWith? significand exponent top (i + 1)).map fun decimal => (decimal, i + 1)
  let (decimal, count) := found.getD (0, 1)
  let digits := Nat.toDigits 10 decimal
  let significant := (digits.reverse.dropWhile (· == '0')).reverse
  (significant, top + digits.length - count)

/-- Writes digits whose first has the power of ten `top`: positionally from
`1e-4` up to below `1e16`, with an exponent of at least two digits otherwise. -/
def layout (digits : List Char) (top : Int) : List Char :=
  if -4 ≤ top ∧ top < 16 then
    if top < 0 then
      '0' :: '.' :: List.replicate ((-top).toNat - 1) '0' ++ digits
    else
      let whole := digits.take (top.toNat + 1)
      let fraction := digits.drop (top.toNat + 1)
      whole ++ List.replicate (top.toNat + 1 - digits.length) '0' ++ '.' ::
        (if fraction.isEmpty then ['0'] else fraction)
  else
    let size := Nat.toDigits 10 top.natAbs
    digits.take 1 ++ (if digits.length ≤ 1 then [] else '.' :: digits.drop 1) ++
      'e' :: (if top < 0 then '-' else '+') ::
      (List.replicate (2 - size.length) '0' ++ size)

/-- The text of a double. -/
def text : Binary64 → List Char
  | nan => "nan".toList
  | infinite negative => (if negative then "-inf" else "inf").toList
  | finite negative significand exponent =>
    (if negative then ['-'] else []) ++
      if significand = 0 then "0.0".toList
      else
        let (digits, top) := shortest significand exponent
        layout digits top

end StyleCheck.Binary64
