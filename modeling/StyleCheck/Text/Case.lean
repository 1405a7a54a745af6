/-
# Letter case

Lower and upper case of whole texts. A letter's other case may be a sequence
of letters, and a capital sigma becomes a final sigma at the end of a word, so
the functions work on texts and not on characters.

Key definitions: `lower`, `upper`, `isUpperCase`.
-/
import StyleCheck.Text.Case.Table

namespace StyleCheck.Text

/-- A lower-case letter. -/
def isLowerLetter (c : Char) : Bool :=
  if c.toNat < 128 then c.isLower
  else lowerRows.any fun (first, last, step) => inRow first last step c.toNat

/-- An upper-case letter. -/
def isUpperLetter (c : Char) : Bool :=
  if c.toNat < 128 then c.isUpper
  else upperRows.any fun (first, last, step) => inRow first last step c.toNat

/-- A title-case letter. -/
def isTitleLetter (c : Char) : Bool :=
  128 ≤ c.toNat && inRanges titleRanges c

/-- A letter with case. -/
def isCased (c : Char) : Bool :=
  isLowerLetter c || isUpperLetter c || isTitleLetter c

/-- A character that is passed over when a capital sigma's neighbours are
inspected. -/
def isCaseIgnorable (c : Char) : Bool :=
  inRanges caseIgnorableRanges c

/-- The character at the distance that the first fitting row gives, and `c`
itself when no row fits. -/
def shiftBy (rows : List (Nat × Nat × Nat × Int)) (c : Char) : Char :=
  match rows.find? fun (first, last, step, _) => inRow first last step c.toNat with
  | some (_, _, _, distance) => Char.ofNat (Int.toNat (c.toNat + distance))
  | none => c

/-- The lower case of one character outside the context of a word. -/
def lowerLetter (c : Char) : List Char :=
  if c.toNat < 128 then [c.toLower]
  else if c.toNat = 0x130 then ['i', '\u0307']
  else [shiftBy toLowerRows c]

/-- The upper case of one character. -/
def upperLetter (c : Char) : List Char :=
  if c.toNat < 128 then [c.toUpper]
  else
    match toUpperSequences.find? fun row => row.1 = c.toNat with
    | some (_, letters) => letters.map Char.ofNat
    | none => [shiftBy toUpperRows c]

/-- The first character of `text` that is not passed over is a letter with
case. -/
def casedAhead (text : List Char) : Bool :=
  ((text.dropWhile isCaseIgnorable).head?.map isCased).getD false

/-- The lower case of a text after a character that is a letter with case
(`afterCased`) or not, ignorable characters left out. A capital sigma is final
when a letter with case precedes it and none follows. -/
def lowerAfter (afterCased : Bool) : List Char → List Char
  | [] => []
  | c :: cs =>
    (if c.toNat = 0x3A3 then [if afterCased && !casedAhead cs then '\u03C2' else '\u03C3']
      else lowerLetter c) ++
      lowerAfter (if isCaseIgnorable c then afterCased else isCased c) cs

/-- The text in lower case. -/
def lower (text : List Char) : List Char :=
  lowerAfter false text

/-- The text in upper case. -/
def upper (text : List Char) : List Char :=
  text.flatMap upperLetter

/-- The text has a letter, and every letter with case in it is upper case. -/
def isUpperCase (text : List Char) : Bool :=
  text.any isUpperLetter && text.all fun c => !isLowerLetter c && !isTitleLetter c

end StyleCheck.Text
