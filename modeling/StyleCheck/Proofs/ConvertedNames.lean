/-
# What a converted name keeps

The conversion to camelCase leaves out the underscores of a name and changes nothing else but
the case of letters. Its parts, run together, are the name without its underscores
(`flatten_nameParts`), and each of them has the same letters before and behind the conversion,
if those in small letters are compared (`map_toLower_camelHead`, `map_toLower_capitalized`).
So has the whole name (`map_toLower_toCamelCase`), and as no other character has the
underscore for its small form, none is left.

What comes out is a single part, which begins with the small form of the first character
(`head?_toCamelCase`). If that is a letter, the part is not all capital, and converting it
again changes nothing (`camelHead_eq_self`).

All this is about ASCII names: elsewhere a letter may have several letters for its other case.

Key theorems: `forall_ascii`, `flatten_nameParts`, `map_toLower_toCamelCase`,
`head?_toCamelCase`, `toCamelCase_of_not_mem`, `camelHead_eq_self`,
`toCamelCase_keeps_letters`.
-/
import StyleCheck.Proofs.Complaints
import StyleCheck.Proofs.PathTexts

namespace StyleCheck.Text

/-! ### ASCII characters in either case -/

theorem isAscii_iff {text : List Char} : isAscii text = true ↔ ∀ c ∈ text, c.toNat < 128 := by
  simp [isAscii]

theorem isAscii_of_subset {u v : List Char} (h : isAscii v = true) (hsub : u ⊆ v) :
    isAscii u = true :=
  isAscii_iff.mpr fun _ hc => isAscii_iff.mp h _ (hsub hc)

theorem forall_ascii (p : Char → Prop) (h : ∀ n < 128, p (Char.ofNat n)) {c : Char}
    (hc : c.toNat < 128) : p c := by
  have hchecked := h c.toNat hc
  rwa [Char.ofNat_toNat] at hchecked

theorem toLower_toLower {c : Char} (h : c.toNat < 128) : c.toLower.toLower = c.toLower :=
  forall_ascii (fun c => c.toLower.toLower = c.toLower) (by decide) h

theorem toLower_toUpper {c : Char} (h : c.toNat < 128) : c.toUpper.toLower = c.toLower :=
  forall_ascii (fun c => c.toUpper.toLower = c.toLower) (by decide) h

theorem isAlphanum_of_isAlpha {c : Char} (h : c.isAlpha = true) : c.isAlphanum = true :=
  Bool.or_eq_true_iff.mpr (Or.inl h)

theorem toNat_of_isAlphanum {c : Char} (h : c.isAlphanum = true) : c.toNat < 128 := by
  rcases Bool.or_eq_true_iff.mp h with hletter | hdigit
  · rcases Bool.or_eq_true_iff.mp hletter with hcapital | hsmall
    · have hle : c.toNat ≤ 'Z'.toNat := (of_decide_eq_true hcapital).2
      exact Nat.lt_of_le_of_lt hle (by decide)
    · have hle : c.toNat ≤ 'z'.toNat := of_decide_eq_true (Bool.and_eq_true_iff.mp hsmall).2
      exact Nat.lt_of_le_of_lt hle (by decide)
  · have hle : c.toNat ≤ '9'.toNat := of_decide_eq_true (Bool.and_eq_true_iff.mp hdigit).2
    exact Nat.lt_of_le_of_lt hle (by decide)

theorem toNat_of_toLower {c : Char} (h : c.toLower.toNat < 128) : c.toNat < 128 := by
  by_contra hwide
  have hsame : c.toLower = c := by
    refine dif_neg fun hcapital => hwide ?_
    have hle : c.toNat ≤ 'Z'.toNat := hcapital.2
    exact Nat.lt_of_le_of_lt hle (by decide)
  exact hwide (hsame ▸ h)

section Ascii

variable {text : List Char} (h : isAscii text = true)

include h

theorem lower_of_isAscii : lower text = text.map Char.toLower :=
  lowerAfter_ascii h false

theorem upper_of_isAscii : upper text = text.map Char.toUpper := by
  have hletter : ∀ c ∈ text, upperLetter c = [c.toUpper] := fun c hc => if_pos (isAscii_iff.mp h c hc)
  rw [upper, List.flatMap_def, List.map_congr_left hletter, ← List.flatMap_def]
  exact List.map_eq_flatMap.symm

theorem map_toLower_lower : (lower text).map Char.toLower = text.map Char.toLower := by
  rw [lower_of_isAscii h, List.map_map]
  exact List.map_congr_left fun c hc => toLower_toLower (isAscii_iff.mp h c hc)

theorem map_toLower_upper : (upper text).map Char.toLower = text.map Char.toLower := by
  rw [upper_of_isAscii h, List.map_map]
  exact List.map_congr_left fun c hc => toLower_toUpper (isAscii_iff.mp h c hc)

end Ascii

theorem exists_of_map_toLower {u v : List Char} (h : v.map Char.toLower = u.map Char.toLower)
    {d : Char} (hd : d ∈ v) : ∃ c ∈ u, c.toLower = d.toLower :=
  List.mem_map.mp (h ▸ List.mem_map_of_mem hd)

theorem isAscii_of_map_toLower {u v : List Char} (h : v.map Char.toLower = u.map Char.toLower)
    (hu : isAscii u = true) : isAscii v = true := by
  refine isAscii_iff.mpr fun d hd => toNat_of_toLower ?_
  obtain ⟨c, hc, heq⟩ := exists_of_map_toLower h hd
  exact heq ▸ forall_ascii (fun c => c.toLower.toNat < 128) (by decide) (isAscii_iff.mp hu c hc)

end StyleCheck.Text

namespace StyleCheck.Fix

open Text

/-! ### The parts of a name -/

/-- **The parts of a name are the name** without its underscores. -/
theorem flatten_nameParts (name : List Char) : (nameParts name).flatten = name.filter (· ≠ '_') := by
  rw [nameParts, List.flatten_filter_ne_nil, Path.flatten_splitAtChar]

theorem subset_of_mem_nameParts {name part : List Char} (h : part ∈ nameParts name) : part ⊆ name := by
  intro c hc
  have hmem : c ∈ (nameParts name).flatten := List.mem_flatten.mpr ⟨part, h, hc⟩
  rw [flatten_nameParts] at hmem
  exact List.mem_of_mem_filter hmem

theorem ne_nil_of_mem_nameParts {name part : List Char} (h : part ∈ nameParts name) : part ≠ [] := by
  simpa using (List.mem_filter.mp h).2

theorem toCamelCase_of_not_mem {name : List Char} (h : '_' ∉ name) (hne : name ≠ []) :
    toCamelCase name = camelHead name := by
  have hparts : nameParts name = [name] := by
    rw [nameParts, Path.splitAtChar_of_not_mem h, List.filter_cons_of_pos (by simpa using hne)]
    rfl
  rw [toCamelCase, hparts]
  exact List.append_nil _

/-! ### Converting one part -/

section Part

variable {part : List Char} (h : isAscii part = true)

include h

theorem map_toLower_lowerFirst : (lowerFirst part).map Char.toLower = part.map Char.toLower := by
  have hfirst := map_toLower_lower (isAscii_of_subset h (List.take_subset 1 part))
  rw [lowerFirst, List.map_append, hfirst, ← List.map_append, List.take_append_drop]

theorem map_toLower_capitalized : (capitalized part).map Char.toLower = part.map Char.toLower := by
  have hfirst := map_toLower_upper (isAscii_of_subset h (List.take_subset 1 part))
  have hrest := map_toLower_lower (isAscii_of_subset h (List.drop_subset 1 part))
  rw [capitalized, List.map_append, hfirst, hrest, ← List.map_append, List.take_append_drop]

theorem map_toLower_camelHead : (camelHead part).map Char.toLower = part.map Char.toLower := by
  unfold camelHead
  split
  · exact map_toLower_lower h
  · exact map_toLower_lowerFirst h

end Part

theorem head?_camelHead {c : Char} {rest : List Char} (h : isAscii (c :: rest) = true) :
    (camelHead (c :: rest)).head? = some c.toLower := by
  unfold camelHead
  split
  · rw [lower_of_isAscii h]
    rfl
  · have hfirst : lower [c] = [c.toLower] :=
      lower_of_isAscii (isAscii_of_subset h (List.cons_subset_cons c (List.nil_subset rest)))
    rw [lowerFirst, List.take_succ_cons, List.take_zero, hfirst]
    rfl

theorem camelHead_eq_self {c : Char} {rest : List Char} (h : c.isLower = true) :
    camelHead (c :: rest) = c :: rest := by
  have hascii : c.toNat < 128 :=
    toNat_of_isAlphanum (isAlphanum_of_isAlpha (Bool.or_eq_true_iff.mpr (Or.inr h)))
  have hletter : isLowerLetter c = true := by rw [isLowerLetter, if_pos hascii, h]
  have hsmall : isUpperCase (c :: rest) = false := by
    rw [isUpperCase, List.all_cons, hletter]
    simp
  have hfirst : lower [c] = [c] := by
    rw [lower_of_isAscii (isAscii_iff.mpr (by simpa using hascii))]
    exact congrArg (fun d => [d])
      (forall_ascii (fun c => c.isLower = true → c.toLower = c) (by decide) hascii h)
  rw [camelHead, if_neg (by simp [hsmall]), lowerFirst, List.take_succ_cons, List.take_zero, hfirst]
  rfl

/-! ### Converting a name -/

section Conversion

variable {name : List Char} (hname : isAscii name = true)

include hname

/-- **The conversion keeps all letters** but for their case, and all characters but the
underscores. -/
theorem map_toLower_toCamelCase (hother : ∃ c ∈ name, c ≠ '_') :
    (toCamelCase name).map Char.toLower = (name.filter (· ≠ '_')).map Char.toLower := by
  have hparts : ∀ part ∈ nameParts name, isAscii part = true :=
    fun _ hpart => isAscii_of_subset hname (subset_of_mem_nameParts hpart)
  have hflat := flatten_nameParts name
  unfold toCamelCase
  cases hcut : nameParts name with
  | nil =>
    rw [hcut] at hflat
    obtain ⟨c, hc, hne⟩ := hother
    exact absurd (List.filter_eq_nil_iff.mp hflat.symm c hc) (by simpa using hne)
  | cons head tail =>
    rw [hcut] at hparts hflat
    obtain ⟨hhead, htail⟩ := List.forall_mem_cons.mp hparts
    calc (camelHead head ++ tail.flatMap capitalized).map Char.toLower
        = head.map Char.toLower ++ tail.flatMap fun part => (capitalized part).map Char.toLower := by
          rw [List.map_append, map_toLower_camelHead hhead, List.map_flatMap]
      _ = head.map Char.toLower ++ tail.flatMap fun part => part.map Char.toLower := by
          rw [List.flatMap_def, List.map_congr_left fun part hpart =>
            map_toLower_capitalized (htail part hpart), ← List.flatMap_def]
      _ = ((head :: tail).flatten).map Char.toLower := by
          rw [List.flatten_cons, List.map_append, List.map_flatten, List.flatMap_def]
      _ = (name.filter (· ≠ '_')).map Char.toLower := by rw [hflat]

/-- The result begins with the small form of the first character other than an underscore. -/
theorem head?_toCamelCase {c : Char} (hc : name.find? (· ≠ '_') = some c) :
    (toCamelCase name).head? = some c.toLower := by
  have hflat : (nameParts name).flatten.head? = some c := by
    rw [flatten_nameParts, List.head?_filter, hc]
  unfold toCamelCase
  cases hcut : nameParts name with
  | nil =>
    rw [hcut] at hflat
    exact absurd hflat nofun
  | cons head tail =>
    have hmem : head ∈ nameParts name := hcut ▸ List.mem_cons_self
    obtain ⟨first, rest, rfl⟩ := List.exists_cons_of_ne_nil (ne_nil_of_mem_nameParts hmem)
    rw [hcut] at hflat
    obtain rfl : first = c := Option.some.inj hflat
    have hfirst := head?_camelHead (isAscii_of_subset hname (subset_of_mem_nameParts hmem))
    simp only [List.head?_append, hfirst, Option.some_or]

end Conversion

/-- **A converted name loses nothing but underscores, and is settled.** An ASCII name with
anything but underscores in it comes out without an underscore, and in lower case it is what
the name without its underscores is. If its first other character is a letter, converting the
result once more changes nothing. -/
theorem toCamelCase_keeps_letters {name : List Char} (hname : isAscii name = true)
    (hother : ∃ c ∈ name, c ≠ '_') :
    '_' ∉ toCamelCase name ∧
    lower (toCamelCase name) = lower (name.filter (· ≠ '_')) ∧
    ∃ first, name.find? (· ≠ '_') = some first ∧
      (first.isAlpha = true → toCamelCase (toCamelCase name) = toCamelCase name) := by
  have hsame := map_toLower_toCamelCase hname hother
  have hkept : isAscii (name.filter (· ≠ '_')) = true :=
    isAscii_of_subset hname (List.filter_sublist.subset)
  have hresult := isAscii_of_map_toLower hsame hkept
  have hmark : '_' ∉ toCamelCase name := by
    intro hmem
    obtain ⟨c, hc, heq⟩ := exists_of_map_toLower hsame hmem
    have honly : c = '_' := forall_ascii (fun c => c.toLower = '_'.toLower → c = '_') (by decide)
      (isAscii_iff.mp hkept c hc) heq
    exact absurd honly (by simpa using (List.mem_filter.mp hc).2)
  obtain ⟨first, hfirst⟩ : ∃ first, name.find? (· ≠ '_') = some first := by
    obtain ⟨c, hc, hne⟩ := hother
    exact Option.isSome_iff_exists.mp (List.find?_isSome.mpr ⟨c, hc, by simpa using hne⟩)
  refine ⟨hmark, ?_, first, hfirst, fun hletter => ?_⟩
  · rw [lower_of_isAscii hresult, lower_of_isAscii hkept, hsame]
  · have hhead := head?_toCamelCase hname hfirst
    have hsmall : first.toLower.isLower = true :=
      forall_ascii (fun c => c.isAlpha = true → c.toLower.isLower = true) (by decide)
        (isAscii_iff.mp hname first (List.mem_of_find?_eq_some hfirst)) hletter
    obtain ⟨rest, hrest⟩ : ∃ rest, toCamelCase name = first.toLower :: rest :=
      List.head?_eq_some_iff.mp hhead
    rw [toCamelCase_of_not_mem hmark (by simp [hrest]), hrest, camelHead_eq_self hsmall]

/-- A capital part in front, a part in both cases and one that begins with a digit. -/
theorem toCamelCase_keeps_letters_mixed :
    (isAscii "_HTTP__serverPort_2Go_".toList = true ∧
        ∃ c ∈ "_HTTP__serverPort_2Go_".toList, c ≠ '_') ∧
      toCamelCase "_HTTP__serverPort_2Go_".toList = "httpServerport2go".toList ∧
      '_' ∉ toCamelCase "_HTTP__serverPort_2Go_".toList ∧
      lower (toCamelCase "_HTTP__serverPort_2Go_".toList) =
        lower ("_HTTP__serverPort_2Go_".toList.filter (· ≠ '_')) ∧
      ∃ first, "_HTTP__serverPort_2Go_".toList.find? (· ≠ '_') = some first ∧
        (first.isAlpha = true →
          toCamelCase (toCamelCase "_HTTP__serverPort_2Go_".toList) =
            toCamelCase "_HTTP__serverPort_2Go_".toList) :=
  have hname : isAscii "_HTTP__serverPort_2Go_".toList = true := by decide
  have hother : ∃ c ∈ "_HTTP__serverPort_2Go_".toList, c ≠ '_' := ⟨'H', by decide⟩
  ⟨⟨hname, hother⟩, by decide, toCamelCase_keeps_letters hname hother⟩

/-- A name that begins with a digit may come out all capital, and is converted again. -/
example : toCamelCase "1_B".toList = "1B".toList ∧ toCamelCase "1B".toList = "1b".toList := by
  decide

end StyleCheck.Fix
