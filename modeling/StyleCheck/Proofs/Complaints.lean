/-
# How a complaint is recognised

A name is corrected by what its message complains about, and the complaint is
looked for as a word anywhere in the message in lower case. The messages of the
naming rule hold the name itself, between quotes. A quote is no letter and is
not passed over when the neighbours of a letter are inspected, so the lower
case of such a message is put together from the lower case of its parts
(`lower_quoting`); and a word without quotes stands in it only where it stands
in one of the parts (`occursIn_quoting`).

So the complaint about a global variable is always recognised as such
(`correctedName_global`). The complaint about a function is taken for one about
a parameter if the name says so (`correctedName_function`).

Key definitions: `casedBefore`, `isAscii`, `quoting`.
Key theorems: `lower_quoting`, `occursIn_quoting`, `correctedName_global`,
`correctedName_function`.
-/
import StyleCheck.Fix.Identifier
import StyleCheck.Proofs.Words
import StyleCheck.Rule.Naming

namespace StyleCheck.Text

/-! ### Lower case, part by part -/

/-- The last character of a text that is not passed over is a letter with case,
where `afterCased` says so for the text before. -/
def casedBefore (afterCased : Bool) (text : List Char) : Bool :=
  text.foldl (fun cased c => if isCaseIgnorable c then cased else isCased c) afterCased

/-- All characters of the text are ASCII characters. -/
def isAscii (text : List Char) : Bool :=
  text.all fun c => c.toNat < 128

/-- The lower case of an ASCII text does not depend on what surrounds it. -/
theorem lowerAfter_append_ascii {x : List Char} (hx : isAscii x = true) (y : List Char) :
    ∀ cased, lowerAfter cased (x ++ y) =
      x.map Char.toLower ++ lowerAfter (casedBefore cased x) y := by
  induction x with
  | nil => exact fun cased => rfl
  | cons c x ih =>
    intro cased
    obtain ⟨hc, hx⟩ : c.toNat < 128 ∧ isAscii x = true := by simpa [isAscii] using hx
    have hletter : lowerLetter c = [c.toLower] := if_pos hc
    rw [List.cons_append, lowerAfter, if_neg (by omega), hletter, ih hx]
    rfl

theorem lowerAfter_ascii {x : List Char} (hx : isAscii x = true) (cased : Bool) :
    lowerAfter cased x = x.map Char.toLower := by
  have := lowerAfter_append_ascii hx [] cased
  simpa [lowerAfter] using this

section Stop

variable {stop : Char}

theorem casedAhead_append (hignore : isCaseIgnorable stop = false) (hcased : isCased stop = false)
    (x y : List Char) : casedAhead (x ++ stop :: y) = casedAhead x := by
  unfold casedAhead
  induction x with
  | nil =>
    rw [List.nil_append, List.dropWhile_cons_of_neg (by simp [hignore])]
    exact hcased
  | cons c x ih =>
    by_cases hc : isCaseIgnorable c = true
    · rw [List.cons_append, List.dropWhile_cons_of_pos hc, List.dropWhile_cons_of_pos hc]
      exact ih
    · rw [List.cons_append, List.dropWhile_cons_of_neg hc, List.dropWhile_cons_of_neg hc]
      rfl

/-- The lower case of a text does not depend on what follows a character that
is neither a letter with case nor passed over. -/
theorem lowerAfter_append_stop (hignore : isCaseIgnorable stop = false)
    (hcased : isCased stop = false) (x y : List Char) : ∀ cased,
    lowerAfter cased (x ++ stop :: y) =
      lowerAfter cased x ++ lowerAfter (casedBefore cased x) (stop :: y) := by
  induction x with
  | nil => exact fun cased => rfl
  | cons c x ih =>
    intro cased
    rw [List.cons_append, lowerAfter, lowerAfter, casedAhead_append hignore hcased, ih,
      List.append_assoc]
    rfl

end Stop

/-! ### Words in a text -/

theorem occursIn_iff (w : List Char) : ∀ text : List Char, occursIn w text = true ↔ w <:+: text
  | [] => by simp [occursIn]
  | c :: cs => by
    rw [occursIn, Bool.or_eq_true, occursIn_iff w cs, List.isPrefixOf_iff_prefix,
      List.infix_cons_iff]

theorem isPrefixOf_append_cons {w : List Char} {c : Char} (hc : c ∉ w) (y : List Char) :
    ∀ x : List Char, w.isPrefixOf (x ++ c :: y) = w.isPrefixOf x := by
  induction w with
  | nil => exact fun x => by cases x <;> rfl
  | cons a w ih =>
    intro x
    have hac : a ≠ c := fun h => hc (h ▸ List.mem_cons_self)
    cases x with
    | nil => simp [List.isPrefixOf, hac]
    | cons b x => simp [List.isPrefixOf, ih fun hmem => hc (List.mem_cons_of_mem a hmem)]

theorem occursIn_append_cons {w : List Char} {c : Char} (hc : c ∉ w) (hne : w ≠ []) (y : List Char) :
    ∀ x : List Char, occursIn w (x ++ c :: y) = (occursIn w x || occursIn w y)
  | [] => by
    obtain ⟨a, w, rfl⟩ := List.exists_cons_of_ne_nil hne
    have hac : a ≠ c := fun h => hc (h ▸ List.mem_cons_self)
    simp [occursIn, List.isPrefixOf, hac]
  | b :: x => by
    have hhead := isPrefixOf_append_cons hc y (b :: x)
    rw [List.cons_append] at hhead
    rw [List.cons_append, occursIn, occursIn, hhead, occursIn_append_cons hc hne y x, Bool.or_assoc]

/-- A text with a name between quotes in it. -/
def quoting (before name after : List Char) : List Char :=
  before ++ '"' :: (name ++ '"' :: after)

theorem occursIn_quoting {w : List Char} (hquote : '"' ∉ w) (hne : w ≠ [])
    (before name after : List Char) :
    occursIn w (quoting before name after) =
      (occursIn w before || (occursIn w name || occursIn w after)) := by
  unfold quoting
  rw [occursIn_append_cons hquote hne, occursIn_append_cons hquote hne]

theorem lower_quoting {before after : List Char} (hbefore : isAscii before = true)
    (hafter : isAscii after = true) (name : List Char) :
    lower (quoting before name after) =
      quoting (before.map Char.toLower) (lower name) (after.map Char.toLower) := by
  have hignore : isCaseIgnorable '"' = false := by decide +kernel
  have hcased : isCased '"' = false := by decide +kernel
  have hquote : ∀ (cased : Bool) (text : List Char),
      lowerAfter cased ('"' :: text) = '"' :: lowerAfter false text := by
    intro cased text
    rw [lowerAfter, if_neg (by decide), hignore, if_neg Bool.false_ne_true, hcased]
    rfl
  unfold lower quoting
  rw [lowerAfter_append_ascii hbefore, hquote, lowerAfter_append_stop hignore hcased, hquote,
    lowerAfter_ascii hafter]

/-! ### The lower case of a name -/

theorem le_of_mem_toLowerRows : ∀ row ∈ toLowerRows, 97 ≤ (row.1 : Int) + row.2.2.2 := by
  decide +kernel

/-- A character outside ASCII has no ASCII character below the small letters
for its lower case. -/
theorem shiftBy_toLowerRows {c : Char} (hc : 128 ≤ c.toNat) :
    (shiftBy toLowerRows c).toNat = 0 ∨ 97 ≤ (shiftBy toLowerRows c).toNat := by
  unfold shiftBy
  split
  · rename_i first last step distance hrow
    have hmem := le_of_mem_toLowerRows _ (List.mem_of_find?_eq_some hrow)
    have hin : inRow first last step c.toNat = true := by simpa using List.find?_some hrow
    simp only [inRow, Bool.and_eq_true, decide_eq_true_eq] at hin
    by_cases hvalid : (Int.toNat (c.toNat + distance)).isValidChar
    · right
      rw [Char.ofNat, dif_pos hvalid]
      change 97 ≤ Int.toNat (c.toNat + distance)
      simp only at hmem
      omega
    · left
      rw [Char.ofNat, dif_neg hvalid]
      rfl
  · omega

theorem toNat_of_mem_lowerLetter {c e : Char} (hc : isWord c = true) (he : e ∈ lowerLetter c) :
    e.toNat = 0 ∨ 48 ≤ e.toNat := by
  unfold lowerLetter at he
  split at he
  · rename_i hascii
    have hsmall : ∀ n < 128, 48 ≤ n → 48 ≤ (Char.ofNat n).toLower.toNat := by decide
    have := hsmall c.toNat hascii (toNat_ge_of_isWord hc)
    rw [Char.ofNat_toNat] at this
    rw [List.mem_singleton.mp he]
    exact Or.inr this
  · split at he
    · rcases List.mem_cons.mp he with rfl | he
      · decide
      · rw [List.mem_singleton.mp he]
        decide
    · have := shiftBy_toLowerRows (c := c) (by omega)
      rw [List.mem_singleton.mp he]
      omega

theorem toNat_of_mem_lower {name : List Char} (hname : ∀ c ∈ name, isWord c = true) :
    ∀ cased, ∀ e ∈ lowerAfter cased name, e.toNat = 0 ∨ 48 ≤ e.toNat := by
  induction name with
  | nil => simp [lowerAfter]
  | cons c name ih =>
    intro cased e he
    obtain ⟨hc, hname⟩ := List.forall_mem_cons.mp hname
    rw [lowerAfter] at he
    rcases List.mem_append.mp he with he | he
    · split at he
      · split at he
        · rw [List.mem_singleton.mp he]
          decide
        · rw [List.mem_singleton.mp he]
          decide
      · exact toNat_of_mem_lowerLetter hc he
    · exact ih hname _ e he

theorem occursIn_lower_of_blank {w name : List Char} (hname : ∀ c ∈ name, isWord c = true)
    (hw : ' ' ∈ w) : occursIn w (lower name) = false := by
  rw [Bool.eq_false_iff]
  intro hoccurs
  have hmem : ' ' ∈ lower name := ((occursIn_iff w _).mp hoccurs).subset hw
  exact absurd (toNat_of_mem_lower hname false ' ' hmem) (by decide)

end StyleCheck.Text

namespace StyleCheck.Fix

open Text

/-! ### The corrections -/

/-- **The complaint about a global variable** is recognised whatever the
variable is called: its name gets the mark. -/
theorem correctedName_global (offset : Nat) (name : List Char) :
    correctedName name (globalFinding offset name).message.toList =
      marked globalMark.toList name := by
  have hmessage : (globalFinding offset name).message.toList =
      quoting "Global variable ".toList name " should start with \"g_\" prefix".toList := by
    simp [globalFinding, quoting, globalMark]
  have hlower : lower (globalFinding offset name).message.toList =
      quoting "global variable ".toList (lower name) " should start with \"g_\" prefix".toList := by
    rw [hmessage, lower_quoting (by decide) (by decide)]
    rfl
  have hglobal : occursIn "global variable".toList
      (lower (globalFinding offset name).message.toList) = true := by
    rw [hlower, occursIn_quoting (by decide) (by decide),
      show occursIn "global variable".toList "global variable ".toList = true by decide, Bool.true_or]
  unfold correctedName
  simp only
  rw [hglobal, if_pos rfl]
  rfl

/-- **The complaint about a function** is taken for one about a parameter if the
function's name says so in any letter case, and for one about camelCase
otherwise. It is never taken for one about a variable: that takes two words,
and a name is one. -/
theorem correctedName_function {s : Source.Signature} (hname : ∀ c ∈ s.name, isWord c = true) :
    correctedName s.name (functionFinding s).message.toList =
      if occursIn "parameter".toList (lower s.name) then lowerFirst s.name
      else toCamelCase s.name := by
  have hmessage : (functionFinding s).message.toList =
      quoting "Function name ".toList s.name " should be camelCase or PascalCase".toList := by
    simp [functionFinding, quoting]
  have hlower : lower (functionFinding s).message.toList =
      quoting "function name ".toList (lower s.name) " should be camelcase or pascalcase".toList := by
    rw [hmessage, lower_quoting (by decide) (by decide)]
    rfl
  have hvariable : ∀ w : List Char, '"' ∉ w → ' ' ∈ w →
      occursIn w "function name ".toList = false →
      occursIn w " should be camelcase or pascalcase".toList = false →
      occursIn w (lower (functionFinding s).message.toList) = false := by
    intro w hquote hblank hbefore hafter
    rw [hlower, occursIn_quoting hquote (List.ne_nil_of_mem hblank), hbefore, hafter,
      occursIn_lower_of_blank hname hblank]
    rfl
  have hparameter : occursIn "parameter".toList (lower (functionFinding s).message.toList) =
      occursIn "parameter".toList (lower s.name) := by
    rw [hlower, occursIn_quoting (by decide) (by decide),
      show occursIn "parameter".toList "function name ".toList = false by decide,
      show occursIn "parameter".toList " should be camelcase or pascalcase".toList = false by decide,
      Bool.false_or, Bool.or_false]
  have hcamel : occursIn "camelcase".toList (lower (functionFinding s).message.toList) = true := by
    rw [hlower, occursIn_quoting (by decide) (by decide),
      show occursIn "camelcase".toList " should be camelcase or pascalcase".toList = true by decide,
      Bool.or_true, Bool.or_true]
  unfold correctedName
  simp only
  rw [hvariable _ (by decide) (by decide) (by decide) (by decide),
    hvariable _ (by decide) (by decide) (by decide) (by decide), hparameter, hcamel]
  rfl

end StyleCheck.Fix
