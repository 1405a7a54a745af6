/-
# Sets of code points

Character classes outside ASCII are tables of inclusive ranges.

Key definitions: `inRanges`, `inRow`.
-/

namespace StyleCheck.Text

/-- `c` lies in one of the inclusive ranges of `table`. -/
def inRanges (table : List (Nat × Nat)) (c : Char) : Bool :=
  table.any fun (first, last) => first ≤ c.toNat && c.toNat ≤ last

/-- The code point `n` lies between `first` and `last`, a multiple of `step`
from `first`. -/
def inRow (first last step n : Nat) : Bool :=
  first ≤ n && n ≤ last && (n - first) % step == 0

end StyleCheck.Text
