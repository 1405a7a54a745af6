/-
# Names in camelCase

The conversion of a name leaves out its underscores and changes nothing else but the case of
letters. So an identifier with anything but underscores in it becomes the small form of its
first other character, with letters and digits behind it (`toCamelCase_eq_cons`).

If that character is a letter, the result is in camelCase. An identifier may also have a
digit behind its first underscores: then the result begins with the digit, and it is
neither in camelCase nor an identifier at all (`toCamelCase_acceptable_iff`).

Key definitions: `IsShaped`, `IsIdentifier`.
Key theorems: `isShaped_iff`, `toCamelCase_eq_cons`,
`toCamelCase_acceptable_iff`.
-/
import StyleCheck.Proofs.ConvertedNames
import StyleCheck.Source.Casing

namespace StyleCheck.Source

/-! ### The shape of a name -/

/-- A character of the class `first`, and then ASCII letters and digits. -/
def IsShaped (first : Char → Bool) (name : List Char) : Prop :=
  ∃ c rest, name = c :: rest ∧ first c = true ∧ ∀ d ∈ rest, d.isAlphanum = true

/-- An ASCII letter or an underscore, and then ASCII letters, digits and underscores. -/
def IsIdentifier (name : List Char) : Prop :=
  ∃ c rest, name = c :: rest ∧ (c.isAlpha = true ∨ c = '_') ∧
    ∀ d ∈ rest, d.isAlphanum = true ∨ d = '_'

theorem isShaped_cons {first : Char → Bool} {c : Char} {rest : List Char} :
    IsShaped first (c :: rest) ↔ first c = true ∧ ∀ d ∈ rest, d.isAlphanum = true :=
  ⟨fun ⟨_, _, heq, h⟩ => by cases heq; exact h, fun h => ⟨c, rest, rfl, h⟩⟩

theorem isAlphanumericRest_iff : ∀ {rest : List Char}, '\n' ∉ rest →
    (isAlphanumericRest rest = true ↔ ∀ d ∈ rest, d.isAlphanum = true)
  | [], _ => by simp [isAlphanumericRest]
  | c :: rest, h => by
    have hc : c ≠ '\n' := fun heq => h (heq ▸ List.mem_cons_self)
    have ih := isAlphanumericRest_iff fun hmem => h (List.mem_cons_of_mem c hmem)
    rw [isAlphanumericRest, Bool.and_eq_true, ih, List.forall_mem_cons]
    exact fun hnewline _ => hc hnewline

/-- What looks at the first character and at the letters and digits behind it tells, on one
line, whether a name has this shape. -/
theorem isShaped_iff {first : Char → Bool} {name : List Char} {p : List Char → Bool}
    (hnil : p [] = false) (hcons : ∀ c rest, p (c :: rest) = (first c && isAlphanumericRest rest))
    (h : '\n' ∉ name) : p name = true ↔ IsShaped first name := by
  cases name with
  | nil => simp [hnil, IsShaped]
  | cons c rest =>
    rw [hcons, Bool.and_eq_true,
      isAlphanumericRest_iff fun hmem => h (List.mem_cons_of_mem c hmem), isShaped_cons]

theorem isCamelCase_iff {name : List Char} (h : '\n' ∉ name) :
    isCamelCase name = true ↔ IsShaped Char.isLower name :=
  isShaped_iff rfl (fun _ _ => rfl) h

theorem isPascalCase_iff {name : List Char} (h : '\n' ∉ name) :
    isPascalCase name = true ↔ IsShaped Char.isUpper name :=
  isShaped_iff rfl (fun _ _ => rfl) h

theorem isIdentifier_cons {c : Char} {rest : List Char} :
    IsIdentifier (c :: rest) ↔
      (c.isAlpha = true ∨ c = '_') ∧ ∀ d ∈ rest, d.isAlphanum = true ∨ d = '_' :=
  ⟨fun ⟨_, _, heq, h⟩ => by cases heq; exact h, fun h => ⟨c, rest, rfl, h⟩⟩

theorem IsIdentifier.forall_mem {name : List Char} (h : IsIdentifier name) :
    ∀ d ∈ name, d.isAlphanum = true ∨ d = '_' := by
  obtain ⟨c, rest, rfl, hc, hrest⟩ := h
  refine List.forall_mem_cons.mpr ⟨hc.imp_left fun hletter => ?_, hrest⟩
  rw [Char.isAlphanum, hletter, Bool.true_or]

end StyleCheck.Source

namespace StyleCheck.Fix

open Text Source

/-! ### Letters and digits in either case -/

theorem forall_isAlphanum (p : Char → Prop) (h : ∀ n < 128, p (Char.ofNat n)) {c : Char}
    (hc : c.isAlphanum = true) : p c :=
  forall_ascii p h (toNat_of_isAlphanum hc)

theorem isAlphanum_toLower {c : Char} (h : c.isAlphanum = true) : c.toLower.isAlphanum = true :=
  forall_isAlphanum (fun c => c.isAlphanum = true → c.toLower.isAlphanum = true) (by decide) h h

theorem isAlphanum_of_toLower {c : Char} (h : c.toLower.isAlphanum = true) : c.isAlphanum = true :=
  forall_ascii (fun c => c.toLower.isAlphanum = true → c.isAlphanum = true) (by decide)
    (toNat_of_toLower (toNat_of_isAlphanum h)) h

theorem isLower_toLower {c : Char} (h : c.isAlphanum = true) : c.toLower.isLower = c.isAlpha :=
  forall_isAlphanum (fun c => c.toLower.isLower = c.isAlpha) (by decide) h

theorem isAlpha_toLower {c : Char} (h : c.isAlphanum = true) : c.toLower.isAlpha = c.isAlpha :=
  forall_isAlphanum (fun c => c.toLower.isAlpha = c.isAlpha) (by decide) h

theorem isDigit_of_not_isAlpha {c : Char} (h : c.isAlphanum = true) (hc : c.isAlpha = false) :
    c.isDigit = true ∧ c.toLower = c :=
  forall_isAlphanum (fun c => c.isAlphanum = true → c.isAlpha = false →
    c.isDigit = true ∧ c.toLower = c) (by decide) h h hc

/-! ### The conversion -/

/-- **What the conversion gives**: the small form of the first character other than an
underscore, and then letters and digits. -/
theorem toCamelCase_eq_cons {name : List Char}
    (hname : ∀ c ∈ name, c.isAlphanum = true ∨ c = '_') {c : Char}
    (hc : name.find? (· ≠ '_') = some c) :
    c.isAlphanum = true ∧ ∃ rest, toCamelCase name = c.toLower :: rest ∧
      ∀ d ∈ rest, d.isAlphanum = true := by
  have hascii : isAscii name = true := isAscii_iff.mpr fun c hc =>
    (hname c hc).elim toNat_of_isAlphanum fun hmark => hmark ▸ by decide
  have halnum : ∀ c ∈ name, c ≠ '_' → c.isAlphanum = true :=
    fun c hmem hne => (hname c hmem).resolve_right hne
  have hmem : c ∈ name := List.mem_of_find?_eq_some hc
  have hne : c ≠ '_' := by simpa using List.find?_some hc
  obtain ⟨rest, hrest⟩ := List.head?_eq_some_iff.mp (head?_toCamelCase hascii hc)
  refine ⟨halnum c hmem hne, rest, hrest, fun d hd => isAlphanum_of_toLower ?_⟩
  obtain ⟨e, he, heq⟩ := exists_of_map_toLower (map_toLower_toCamelCase hascii ⟨c, hmem, hne⟩)
    (hrest ▸ List.mem_cons_of_mem _ hd)
  obtain ⟨he, hmark⟩ := List.mem_filter.mp he
  exact heq ▸ isAlphanum_toLower (halnum e he (by simpa using hmark))

/-- **A proposed name is acceptable exactly if it begins with a letter.** The characters of
an identifier other than underscores begin with a letter or a digit. A letter makes the
proposed name camelCase and an identifier; a digit comes first in the proposed name too, which
is then neither. -/
theorem toCamelCase_acceptable_iff {name : List Char} (hname : IsIdentifier name)
    (hother : ∃ c ∈ name, c ≠ '_') :
    ∃ c, name.find? (· ≠ '_') = some c ∧
      (isCamelCase (toCamelCase name) = true ↔ c.isAlpha = true) ∧
      (IsIdentifier (toCamelCase name) ↔ c.isAlpha = true) ∧
      (c.isAlpha = true ∨ c.isDigit = true ∧ (toCamelCase name).head? = some c) := by
  obtain ⟨c, hc⟩ : ∃ c, name.find? (· ≠ '_') = some c := by
    obtain ⟨d, hd, hne⟩ := hother
    exact Option.isSome_iff_exists.mp (List.find?_isSome.mpr ⟨d, hd, by simpa using hne⟩)
  have hchars := hname.forall_mem
  obtain ⟨halnum, rest, heq, hrest⟩ := toCamelCase_eq_cons hchars hc
  have hone : '\n' ∉ toCamelCase name := fun hmem => by
    have hall : ∀ d ∈ toCamelCase name, d.isAlphanum = true :=
      heq ▸ List.forall_mem_cons.mpr ⟨isAlphanum_toLower halnum, hrest⟩
    exact absurd (hall _ hmem) (by decide)
  refine ⟨c, hc, ?_, ?_, ?_⟩
  · rw [isCamelCase_iff hone, heq, isShaped_cons, isLower_toLower halnum]
    exact and_iff_left hrest
  · rw [heq, isIdentifier_cons, isAlpha_toLower halnum]
    refine ⟨fun h => h.1.resolve_right fun hmark => ?_,
      fun h => ⟨.inl h, fun d hd => .inl (hrest d hd)⟩⟩
    exact absurd (isAlphanum_toLower halnum) (hmark ▸ by decide)
  · rw [heq]
    refine or_iff_not_imp_left.mpr fun hletter => ?_
    obtain ⟨hdigit, hsame⟩ := isDigit_of_not_isAlpha halnum (by simpa using hletter)
    exact ⟨hdigit, congrArg some hsame⟩

/-- A capital name behind two underscores, with a digit at the start of a later part. -/
theorem toCamelCase_acceptable_capital :
    (IsIdentifier "__MAX_2nd".toList ∧ ∃ c ∈ "__MAX_2nd".toList, c ≠ '_') ∧
      toCamelCase "__MAX_2nd".toList = "max2nd".toList ∧
      ∃ c, "__MAX_2nd".toList.find? (· ≠ '_') = some c ∧
        (isCamelCase (toCamelCase "__MAX_2nd".toList) = true ↔ c.isAlpha = true) ∧
        (IsIdentifier (toCamelCase "__MAX_2nd".toList) ↔ c.isAlpha = true) ∧
        (c.isAlpha = true ∨ c.isDigit = true ∧ (toCamelCase "__MAX_2nd".toList).head? = some c) :=
  have hname : IsIdentifier "__MAX_2nd".toList :=
    ⟨'_', "_MAX_2nd".toList, rfl, .inr rfl, by simp⟩
  have hother : ∃ c ∈ "__MAX_2nd".toList, c ≠ '_' := ⟨'M', by decide⟩
  ⟨⟨hname, hother⟩, by decide, toCamelCase_acceptable_iff hname hother⟩

/-- Of an identifier whose first other character is a digit no camelCase name is made. -/
theorem toCamelCase_leaves_digit_first :
    IsIdentifier "_1st".toList ∧ (∃ c ∈ "_1st".toList, c ≠ '_') ∧
      toCamelCase "_1st".toList = "1st".toList ∧
      isCamelCase (toCamelCase "_1st".toList) = false ∧
      ¬ IsIdentifier (toCamelCase "_1st".toList) := by
  have hname : IsIdentifier "_1st".toList := ⟨'_', "1st".toList, rfl, .inr rfl, by simp⟩
  have heq : toCamelCase "_1st".toList = "1st".toList := by decide
  refine ⟨hname, ⟨'1', by decide⟩, heq, by rw [heq]; decide, ?_⟩
  rw [heq]
  exact fun h => absurd (isIdentifier_cons.mp h).1 (by decide)

end StyleCheck.Fix
