/-
# Blocks inside blocks

Blocks are found by counting braces from each opening brace anew, and still they
nest: a block that is opened inside another one is closed inside it
(`blockEnd?_nested`). For where the count for the outer block comes to the inner
opening brace, the outer brace is still open, so that from there on one brace
less is to be closed for the inner block, and fewer braces are closed sooner
(`exists_blockEndFrom_lt`).

A signature ends with the opening brace of its block, and signatures do not
overlap. So of two signatures the block of the second one lies behind the block
of the first one or in it; and if it lies in it, the second function has no more
lines than the first, and is reported as too long only if the first one is
(`nested_signatures`).

Key definition: `ReportsLength`.
Key theorems: `exists_blockEndFrom_lt`, `blockEnd?_nested`,
`opening_of_mem_signatures`, `pairwise_stop_le_start`, `linesBetween_le`,
`reportsLength_iff`, `nested_signatures`.
-/
import Mathlib.Data.List.Nodup
import StyleCheck.Proofs.Findings
import StyleCheck.Proofs.FunctionLengths

namespace StyleCheck

open Text

namespace Source

/-! ### Where blocks end -/

section Block

variable {last : Nat}

/-- A character of an open block closes it, or leaves at least one brace open. -/
theorem blockEndFrom_cons_cases {depth offset : Nat} {c : Char} {text : List Char}
    (h : blockEndFrom (depth + 1) offset (c :: text) = some last) :
    last = offset ∨ ∃ depth', blockEndFrom (depth' + 1) (offset + 1) text = some last := by
  by_cases hopen : c = openBrace
  · subst hopen
    rw [blockEndFrom_open] at h
    exact Or.inr ⟨depth + 1, h⟩
  by_cases hclose : c = closeBrace
  · subst hclose
    cases depth with
    | zero =>
      rw [blockEndFrom_close_last] at h
      exact Or.inl (Option.some.inj h).symm
    | succ depth =>
      rw [blockEndFrom_close_inner] at h
      exact Or.inr ⟨depth, h⟩
  · rw [blockEndFrom_other _ _ _ hopen hclose] at h
    exact Or.inr ⟨depth, h⟩

theorem le_of_blockEndFrom (text : List Char) (depth offset : Nat)
    (h : blockEndFrom (depth + 1) offset text = some last) : offset ≤ last := by
  induction text generalizing depth offset with
  | nil => simp [blockEndFrom] at h
  | cons c text ih =>
    rcases blockEndFrom_cons_cases h with rfl | ⟨depth', h⟩
    · exact Nat.le_refl _
    · have := ih depth' (offset + 1) h
      omega

/-- A block is closed before a place further on, or is still open there. -/
theorem blockEndFrom_append_cases (v u : List Char) (depth offset : Nat)
    (h : blockEndFrom (depth + 1) offset (u ++ v) = some last) :
    last < offset + u.length ∨
      ∃ depth', blockEndFrom (depth' + 1) (offset + u.length) v = some last := by
  induction u generalizing depth offset with
  | nil => exact Or.inr ⟨depth, h⟩
  | cons c u ih =>
    rw [List.length_cons, ← Nat.add_assoc, Nat.add_right_comm]
    rcases blockEndFrom_cons_cases h with rfl | ⟨depth', h⟩
    · exact Or.inl (by omega)
    · exact ih depth' (offset + 1) h

/-- **Fewer braces are closed sooner.** If all of some open braces are closed,
the inner ones of them are closed before. -/
theorem exists_blockEndFrom_lt (text : List Char) (depth more offset : Nat)
    (h : blockEndFrom (depth + 1 + (more + 1)) offset text = some last) :
    ∃ inner, blockEndFrom (depth + 1) offset text = some inner ∧ inner < last := by
  induction text generalizing depth offset with
  | nil => simp [blockEndFrom] at h
  | cons c text ih =>
    by_cases hopen : c = openBrace
    · subst hopen
      rw [blockEndFrom_open] at h ⊢
      exact ih (depth + 1) (offset + 1) (by rwa [Nat.add_right_comm (depth + 1)])
    by_cases hclose : c = closeBrace
    · subst hclose
      cases depth with
      | zero =>
        -- the last inner brace is closed here, and the outer ones further on
        rw [Nat.zero_add, Nat.add_comm 1, blockEndFrom_close_inner] at h
        have := le_of_blockEndFrom text more (offset + 1) h
        exact ⟨offset, blockEndFrom_close_last offset text, by omega⟩
      | succ depth =>
        rw [show depth + 1 + 1 + (more + 1) = depth + more + 1 + 2 by omega,
          blockEndFrom_close_inner] at h
        rw [blockEndFrom_close_inner]
        rw [show depth + more + 1 + 1 = depth + 1 + (more + 1) by omega] at h
        exact ih depth (offset + 1) h
    · rw [blockEndFrom_other _ _ _ hopen hclose] at h ⊢
      exact ih depth (offset + 1) h

theorem blockEnd?_of_open {text : List Char} {i : Nat} (h : text[i]? = some openBrace) :
    blockEnd? text i = blockEndFrom 1 (i + 1) (text.drop (i + 1)) := by
  obtain ⟨hlt, hi⟩ := List.getElem?_eq_some_iff.mp h
  rw [blockEnd?, Int.toNat_natCast, List.drop_eq_getElem_cons hlt, hi, blockEndFrom_open]

/-- **Blocks nest.** A block that is opened behind the opening brace of another
one lies behind that other block, or is closed inside it. -/
theorem blockEnd?_nested {text : List Char} {i j : Nat} (hi : text[i]? = some openBrace)
    (hj : text[j]? = some openBrace) (hij : i < j) (h : blockEnd? text i = some last) :
    last < j ∨ ∃ inner, blockEnd? text j = some inner ∧ j < inner ∧ inner < last := by
  obtain ⟨k, rfl⟩ := Nat.exists_eq_add_of_le (Nat.succ_le_of_lt hij)
  obtain ⟨hlt, hbrace⟩ := List.getElem?_eq_some_iff.mp hj
  have hbehind : (text.drop (i + 1)).drop k = openBrace :: text.drop (i.succ + k + 1) := by
    rw [List.drop_drop, ← hbrace]
    exact List.drop_eq_getElem_cons hlt
  have hsplit := (List.take_append_drop k (text.drop (i + 1))).symm
  rw [hbehind] at hsplit
  have hlength : i + 1 + ((text.drop (i + 1)).take k).length = i.succ + k := by
    rw [List.length_take, List.length_drop]
    omega
  rw [blockEnd?_of_open hi, hsplit] at h
  rcases blockEndFrom_append_cases _ _ _ _ h with hbefore | ⟨depth, hopen⟩
  · exact Or.inl (hlength ▸ hbefore)
  · rw [hlength, blockEndFrom_open, Nat.add_comm depth 1, Nat.add_assoc 1] at hopen
    obtain ⟨inner, hinner, hsooner⟩ := exists_blockEndFrom_lt _ 0 depth _ (by rwa [Nat.zero_add])
    exact Or.inr ⟨inner, (blockEnd?_of_open hj).trans hinner, le_of_blockEndFrom _ 0 _ hinner,
      hsooner⟩

end Block

/-! ### Signatures and their blocks -/

theorem signatureShape_opening {offset length : Nat} {a : Bool} {text : List Char} {s : Signature}
    (h : signatureShape offset a text = some (s, length)) :
    s.start = offset ∧ s.stop = offset + length ∧
      ∃ lead rest, text = lead ++ openBrace :: rest ∧ length = lead.length + 1 := by
  unfold signatureShape at h
  split at h
  · rename_i returnType second parameters hwords
    obtain ⟨words, hlead, -⟩ := exists_lead_of_twoWords hwords
    split at h
    · rename_i rest hrest
      obtain ⟨opened, hparen, hopening⟩ := Option.bind_eq_some_iff.mp hrest
      obtain ⟨inside, rfl⟩ := eq_of_afterParenthesis hparen
      obtain ⟨qualifier, rfl⟩ := eq_of_afterOpening hopening
      simp only [Option.some.injEq, Prod.mk.injEq] at h
      obtain ⟨rfl, rfl⟩ := h
      refine ⟨rfl, rfl, words ++ '(' :: (inside ++ ')' :: qualifier), rest, by simp [hlead], ?_⟩
      rw [hlead]
      simp only [List.length_append, List.length_cons]
      omega
    · simp at h
  · simp at h

theorem opening_of_mem_signatures {text : List Char} {s : Signature} (h : s ∈ signatures text) :
    s.start < s.stop ∧ text[s.stop - 1]? = some openBrace := by
  have hscan : s ∈ scan signatureShape text := (List.mem_filter.mp h).1
  obtain ⟨before, found, length, rfl, hshape⟩ := exists_of_mem_scanFrom text 0 0 false hscan
  obtain ⟨hstart, hstop, lead, rest, rfl, rfl⟩ := signatureShape_opening hshape
  refine ⟨by omega, ?_⟩
  have hplace : s.stop - 1 = (before ++ lead).length := by
    rw [hstop, List.length_append]
    omega
  rw [hplace, ← List.append_assoc, List.getElem?_append_right (Nat.le_refl _), Nat.sub_self]
  rfl

theorem pairwise_stop_le_start (text : List Char) :
    (signatures text).Pairwise fun s t => s.stop ≤ t.start := by
  refine List.Pairwise.filter _
    (pairwise_scanFrom (fun offset a text s length h => ?_) text 0 0 false).2
  obtain ⟨hstart, hstop, -⟩ := signatureShape_opening h
  omega

theorem eq_of_nameAt_eq {text : List Char} {s t : Signature} (hs : s ∈ signatures text)
    (ht : t ∈ signatures text) (h : s.nameAt = t.nameAt) : s = t := by
  have hnodup : ((signatures text).map (·.nameAt)).Nodup :=
    List.pairwise_map.mpr ((pairwise_signatures text).imp fun hle => by omega)
  exact List.inj_on_of_nodup_map hnodup hs ht h

end Source

open Source

/-! ### The lines of blocks -/

theorem Document.line_positionAt_le (d : Document) {first last : Nat} (h : first ≤ last) :
    (d.positionAt first).line ≤ (d.positionAt last).line := by
  have hsublist : (d.text.take first).Sublist (d.text.take last) :=
    (List.take_prefix_take_left h).sublist
  unfold positionAt
  simp only [Int.toNat_natCast]
  exact Int.ofNat_le.mpr (hsublist.count_le '\n')

theorem Document.linesBetween_le (d : Document) {first first' last last' : Nat}
    (hfirst : first ≤ first') (hlast : last' ≤ last) :
    d.linesBetween first' last' ≤ d.linesBetween first last := by
  have := d.line_positionAt_le hfirst
  have := d.line_positionAt_le hlast
  unfold linesBetween
  omega

/-- With this limit the length rule reports the function: a finding stands at its
name. -/
def ReportsLength (limit : Int) (d : Document) (s : Signature) : Prop :=
  ∃ findings, (longFunctions limit d).value = .ok findings ∧
    ∃ f ∈ findings, f.offset = some (s.nameAt : Int)

/-- Where the length rule does not fail, a function whose block is closed is reported
exactly if it has more lines than the limit. -/
theorem reportsLength_iff {limit : Int} {d : Document} {s : Signature} {last : Nat}
    (hs : s ∈ signatures (mask d.text))
    (hlast : blockEnd? (mask d.text) ((s.stop : Int) - 1) = some last) :
    ReportsLength limit d s ↔
      (∀ e ∈ excesses limit d, IsShown limit e.2) ∧ limit < d.linesBetween s.start last := by
  constructor
  · rintro ⟨findings, hfindings, f, hf, hoffset⟩
    refine ⟨(longFunctions_eq_ok_iff.mp hfindings).1, ?_⟩
    obtain ⟨t, ht, last', hlast', hlong, rfl⟩ := (mem_of_longFunctions hfindings).mp hf
    obtain rfl : t = s := eq_of_nameAt_eq ht hs (Int.ofNat.inj (Option.some.inj hoffset))
    obtain rfl : last' = last := Option.some.inj (hlast'.symm.trans hlast)
    exact hlong
  · rintro ⟨hshown, hlong⟩
    obtain ⟨findings, hfindings⟩ := exists_longFunctions_eq_ok_iff.mpr hshown
    exact ⟨findings, hfindings, _,
      (mem_of_longFunctions hfindings).mpr ⟨s, hs, last, hlast, hlong, rfl⟩, rfl⟩

/-- **Functions in functions.** Of two signatures of a text, the opening brace of
the second stands behind that of the first. If the block of the first is closed,
it is closed in front of the second brace, or else the block of the second is
closed inside it. In that case the second function has no more lines than the
first, and whatever the limit is, it is reported only if the first one is. -/
theorem nested_signatures (d : Document) (s t : Signature)
    (hst : [s, t].Sublist (signatures (mask d.text))) (last : Nat)
    (hlast : blockEnd? (mask d.text) ((s.stop : Int) - 1) = some last) :
    ((mask d.text)[s.stop - 1]? = some openBrace ∧ (mask d.text)[t.stop - 1]? = some openBrace ∧
      s.stop - 1 < t.stop - 1) ∧
    (last < t.stop - 1 ∨ ∃ inner, blockEnd? (mask d.text) ((t.stop : Int) - 1) = some inner ∧
      t.stop - 1 < inner ∧ inner < last ∧
      d.linesBetween t.start inner ≤ d.linesBetween s.start last ∧
      ∀ limit : Int, ReportsLength limit d t → ReportsLength limit d s) := by
  have hs : s ∈ signatures (mask d.text) := hst.subset (by simp)
  have ht : t ∈ signatures (mask d.text) := hst.subset (by simp)
  obtain ⟨hsstop, hsbrace⟩ := opening_of_mem_signatures hs
  obtain ⟨htstop, htbrace⟩ := opening_of_mem_signatures ht
  have hapart : s.stop ≤ t.start :=
    List.pairwise_iff_forall_sublist.mp (pairwise_stop_le_start (mask d.text)) hst
  refine ⟨⟨hsbrace, htbrace, by omega⟩, ?_⟩
  have hscast : ((s.stop : Int) - 1) = ((s.stop - 1 : Nat) : Int) := by omega
  have htcast : ((t.stop : Int) - 1) = ((t.stop - 1 : Nat) : Int) := by omega
  have hblock := hlast
  rw [hscast] at hblock
  rcases blockEnd?_nested hsbrace htbrace (by omega) hblock with hbefore | ⟨inner, hinner, hlt, hin⟩
  · exact Or.inl hbefore
  · rw [← htcast] at hinner
    have hlines : d.linesBetween t.start inner ≤ d.linesBetween s.start last :=
      d.linesBetween_le (by omega) (by omega)
    refine Or.inr ⟨inner, hinner, hlt, hin, hlines, fun limit hreported => ?_⟩
    obtain ⟨hshown, hlong⟩ := (reportsLength_iff ht hinner).mp hreported
    exact (reportsLength_iff hs hlast).mpr ⟨hshown, by omega⟩

/-- A function with another one in its block, and a brace too many behind. -/
def sourceWithInnerFunction : Document where
  text := "int outer(int a) \x7b\nint inner(int b)\n\x7b a;\n\x7d \x7d \x7d\n".toList

/-- With a limit of two lines both functions are reported, with one of three only
the outer one. -/
theorem nested_signatures_inner :
    let s : Signature := ⟨0, 18, "int".toList, 4, "outer".toList⟩
    let t : Signature := ⟨19, 37, "int".toList, 23, "inner".toList⟩
    let d := sourceWithInnerFunction
    [s, t].Sublist (signatures (mask d.text)) ∧
      blockEnd? (mask d.text) ((s.stop : Int) - 1) = some 43 ∧
      d.linesBetween s.start 43 = 4 ∧
      ∃ inner, blockEnd? (mask d.text) ((t.stop : Int) - 1) = some inner ∧ inner < 43 ∧
        d.linesBetween t.start inner ≤ 4 ∧
        (ReportsLength 2 d t ∧ ReportsLength 2 d s) ∧ ¬ ReportsLength 3 d t ∧
        ReportsLength 3 d s := by
  intro s t d
  have hfound : signatures (mask d.text) = [s, t] := rfl
  have hst : [s, t].Sublist (signatures (mask d.text)) := hfound ▸ List.Sublist.refl _
  have hs : s ∈ signatures (mask d.text) := hst.subset (by simp)
  have ht : t ∈ signatures (mask d.text) := hst.subset (by simp)
  have hlast : blockEnd? (mask d.text) ((s.stop : Int) - 1) = some 43 := rfl
  have hclosed : blockEnd? (mask d.text) ((t.stop : Int) - 1) = some 41 := rfl
  have hlines : d.linesBetween s.start 43 = 4 := rfl
  refine ⟨hst, hlast, hlines, ?_⟩
  obtain hbefore | ⟨inner, hinner, -, hlt, hle, hreports⟩ :=
    (nested_signatures d s t hst 43 hlast).2
  · exact absurd hbefore (by decide)
  · obtain rfl : 41 = inner := Option.some.inj (hclosed.symm.trans hinner)
    have hboth : ReportsLength 2 d t := (reportsLength_iff ht hinner).mpr (by decide +kernel)
    refine ⟨41, hinner, hlt, hlines ▸ hle, ⟨hboth, hreports 2 hboth⟩, ?_, ?_⟩
    · rw [reportsLength_iff ht hinner]
      decide +kernel
    · rw [reportsLength_iff hs hlast]
      decide +kernel

end StyleCheck
