/-
# Sorted diagnostics

Diagnostics are reported by severity and line. What is reported is the stable sort of
what passes: it stands in the order of these two (`Diagnostic.sortKey`), and the
diagnostics of one severity and line are those of the input that pass, in its order
and as often (`filter_filterAndSort`).

There is only one list like that (`eq_of_filter_key_eq`), and everything else
follows: what is sorted and let through once stays as it is, and of two thresholds, one
after the other, the more severe one counts (`filterAndSort_filterAndSort`).

Key definitions: `Diagnostic.sortKey`, `Severity.moreSevere`.
Key theorems: `eq_of_filter_key_eq`, `filter_mergeSort_precedes`,
`filter_filterAndSort`, `filterAndSort_filterAndSort`, `filterAndSort_is_stable`.
-/
import Mathlib.Data.Prod.Lex
import StyleCheck.Proofs.ExitStatus

namespace StyleCheck

/-! ### Lists in the order of a key -/

section Key

variable {α κ : Type} [LinearOrder κ] {key : α → κ}

theorem eq_nil_of_filter_key {items : List α}
    (h : ∀ k, items.filter (fun a => key a = k) = []) : items = [] := by
  cases items with
  | nil => rfl
  | cons a items =>
    have hnil := h (key a)
    rw [List.filter_cons_of_pos (by simp)] at hnil
    exact absurd hnil (List.cons_ne_nil _ _)

/-- The first of some members in the order of a key has the least key, also of those of a
list with the same members of each key. -/
theorem key_le_of_filter_key {a b : α} {xs ys : List α}
    (hxs : (a :: xs).Pairwise fun x y => key x ≤ key y)
    (h : ∀ k, (a :: xs).filter (fun x => key x = k) = (b :: ys).filter (fun y => key y = k)) :
    key a ≤ key b := by
  have hmem : b ∈ (a :: xs).filter (fun x => key x = key b) := by
    rw [h (key b)]
    exact List.mem_filter.mpr ⟨List.mem_cons_self, decide_eq_true rfl⟩
  rcases List.mem_cons.mp (List.mem_filter.mp hmem).1 with rfl | hb
  · exact le_refl _
  · exact List.rel_of_pairwise_cons hxs hb

/-- **The order and the members of each key are all there is to a sorted list.** -/
theorem eq_of_filter_key_eq {xs ys : List α} (hxs : xs.Pairwise fun a b => key a ≤ key b)
    (hys : ys.Pairwise fun a b => key a ≤ key b)
    (h : ∀ k, xs.filter (fun a => key a = k) = ys.filter (fun a => key a = k)) : xs = ys := by
  induction xs generalizing ys with
  | nil => exact (eq_nil_of_filter_key fun k => (h k).symm).symm
  | cons a xs ih =>
    cases ys with
    | nil => exact eq_nil_of_filter_key h
    | cons b ys =>
      have hkey : key a = key b :=
        le_antisymm (key_le_of_filter_key hxs h) (key_le_of_filter_key hys fun k => (h k).symm)
      have hhead := h (key a)
      rw [List.filter_cons_of_pos (by simp),
        List.filter_cons_of_pos (by simpa using hkey.symm)] at hhead
      obtain ⟨rfl, hsame⟩ := List.cons.inj hhead
      have htails : ∀ k, xs.filter (fun x => key x = k) = ys.filter (fun x => key x = k) := by
        intro k
        by_cases hk : key a = k
        · rw [← hk]
          exact hsame
        · have hrest := h k
          rw [List.filter_cons_of_neg (by simpa using hk),
            List.filter_cons_of_neg (by simpa using hk)] at hrest
          exact hrest
      rw [ih hxs.of_cons hys.of_cons htails]

end Key

/-! ### The order of diagnostics -/

/-- What diagnostics are ordered by: the severity, and then the line where the range
starts. -/
def Diagnostic.sortKey (d : Diagnostic) : Nat ×ₗ Int :=
  toLex (d.severity.rank, d.range.start.line)

theorem Diagnostic.precedes_iff {a b : Diagnostic} :
    a.precedes b = true ↔ a.sortKey ≤ b.sortKey := by
  unfold precedes sortKey
  rw [Prod.Lex.toLex_le_toLex]
  simp

theorem Diagnostic.precedes_trans (a b c : Diagnostic) (hab : a.precedes b = true)
    (hbc : b.precedes c = true) : a.precedes c = true := by
  rw [precedes_iff] at hab hbc ⊢
  exact le_trans hab hbc

theorem Diagnostic.precedes_total (a b : Diagnostic) :
    (a.precedes b || b.precedes a) = true := by
  rw [Bool.or_eq_true, precedes_iff, precedes_iff]
  exact le_total a.sortKey b.sortKey

/-- **Sorting keeps the diagnostics of one severity and line** as they are, in order. -/
theorem filter_mergeSort_precedes (ds : List Diagnostic) (key : Nat ×ₗ Int) :
    (ds.mergeSort Diagnostic.precedes).filter (fun d => d.sortKey = key) =
      ds.filter (fun d => d.sortKey = key) := by
  have hordered : (ds.filter (fun d => d.sortKey = key)).Pairwise fun a b =>
      a.precedes b = true := by
    refine List.pairwise_of_forall_mem_list fun a ha b hb => ?_
    have hakey : a.sortKey = key := of_decide_eq_true (List.mem_filter.mp ha).2
    have hbkey : b.sortKey = key := of_decide_eq_true (List.mem_filter.mp hb).2
    rw [Diagnostic.precedes_iff, hakey, hbkey]
  have hsublist : (ds.filter (fun d => d.sortKey = key)).Sublist
      ((ds.mergeSort Diagnostic.precedes).filter (fun d => d.sortKey = key)) := by
    have hsorted := List.sublist_mergeSort Diagnostic.precedes_trans Diagnostic.precedes_total
      hordered List.filter_sublist
    have hfilter := hsorted.filter fun d => decide (d.sortKey = key)
    simpa only [List.filter_filter, Bool.and_self] using hfilter
  have hlength := ((List.mergeSort_perm ds Diagnostic.precedes).filter
    fun d => decide (d.sortKey = key)).length_eq
  exact (hsublist.eq_of_length hlength.symm).symm

/-! ### Filtered and sorted -/

section FilterAndSort

variable (threshold : Option Severity) (words : List String) (ds : List Diagnostic)

theorem pairwise_filterAndSort :
    (filterAndSort threshold words ds).Pairwise fun a b => a.sortKey ≤ b.sortKey := by
  have hsorted := List.pairwise_mergeSort Diagnostic.precedes_trans Diagnostic.precedes_total
    (ds.filter (Diagnostic.passes threshold words))
  exact hsorted.imp Diagnostic.precedes_iff.mp

/-- **The diagnostics of one severity and line** that are reported are those that pass,
in order. -/
theorem filter_filterAndSort (key : Nat ×ₗ Int) :
    (filterAndSort threshold words ds).filter (fun d => d.sortKey = key) =
      ds.filter fun d => d.sortKey = key ∧ d.IsKept threshold words := by
  have hpasses : Diagnostic.passes threshold words =
      fun d => decide (d.IsKept threshold words) := by
    funext d
    rw [Bool.eq_iff_iff, Diagnostic.passes_iff, decide_eq_true_iff]
  rw [filterAndSort, filter_mergeSort_precedes, List.filter_filter, hpasses]
  simp only [Bool.decide_and]

end FilterAndSort

/-- The more severe of two severities. -/
def Severity.moreSevere (s t : Severity) : Severity :=
  if s.rank ≤ t.rank then s else t

theorem Severity.le_rank_moreSevere_iff {n : Nat} (s t : Severity) :
    n ≤ (s.moreSevere t).rank ↔ n ≤ s.rank ∧ n ≤ t.rank := by
  unfold moreSevere
  split
  · omega
  · omega

/-- What passes two thresholds passes the more severe of them; no threshold lets all
pass. -/
theorem Diagnostic.isKept_merge_iff {t t' : Option Severity} {words : List String}
    {d : Diagnostic} : d.IsKept (t.merge Severity.moreSevere t') words ↔
      d.IsKept t words ∧ d.IsKept t' words := by
  have hthreshold : (∀ s ∈ t.merge Severity.moreSevere t', d.severity.rank ≤ s.rank) ↔
      (∀ s ∈ t, d.severity.rank ≤ s.rank) ∧ ∀ s ∈ t', d.severity.rank ≤ s.rank := by
    cases t with
    | none => cases t' <;> simp
    | some s =>
      cases t' with
      | none => simp
      | some s' => simp [Severity.le_rank_moreSevere_iff]
  unfold IsKept
  rw [hthreshold]
  exact and_and_left

/-- **Of two thresholds the more severe one counts.** -/
theorem filterAndSort_filterAndSort (t t' : Option Severity) (words : List String)
    (ds : List Diagnostic) : filterAndSort t' words (filterAndSort t words ds) =
      filterAndSort (t.merge Severity.moreSevere t') words ds := by
  refine eq_of_filter_key_eq (pairwise_filterAndSort t' words _)
    (pairwise_filterAndSort _ words ds) fun key => ?_
  calc (filterAndSort t' words (filterAndSort t words ds)).filter (fun d => d.sortKey = key)
      = (filterAndSort t words ds).filter (fun d => d.sortKey = key ∧ d.IsKept t' words) :=
        filter_filterAndSort t' words _ key
    _ = ((filterAndSort t words ds).filter (fun d => d.sortKey = key)).filter
          (fun d => d.IsKept t' words) := by
        rw [List.filter_filter]
        simp only [Bool.decide_and, Bool.and_comm]
    _ = (ds.filter fun d => d.sortKey = key ∧ d.IsKept t words).filter
          (fun d => d.IsKept t' words) := by
        rw [filter_filterAndSort]
    _ = ds.filter fun d => d.sortKey = key ∧ d.IsKept (t.merge Severity.moreSevere t') words := by
        rw [List.filter_filter]
        congr 1
        funext d
        rw [Bool.eq_iff_iff]
        simp only [Diagnostic.isKept_merge_iff, Bool.and_eq_true, decide_eq_true_iff]
        tauto
    _ = (filterAndSort (t.merge Severity.moreSevere t') words ds).filter
          (fun d => d.sortKey = key) :=
        (filter_filterAndSort _ words ds key).symm

/-- **What is reported is the stable sort of what passes.** It is in the order of
severity and line, and for each severity and line it has the diagnostics of the input
that pass, in their order and as often. Doing it again changes nothing, and with another
threshold it comes to the more severe one of the two. Words that are not given are like
no words. -/
theorem filterAndSort_is_stable (threshold : Option Severity) (words : Option (List String))
    (ds : List Diagnostic) :
    let result := filterAndSort threshold (words.getD []) ds
    (result.Pairwise fun a b => a.sortKey ≤ b.sortKey) ∧
    (∀ key, result.filter (fun d => d.sortKey = key) =
      ds.filter fun d => d.sortKey = key ∧ d.IsKept threshold (words.getD [])) ∧
    filterAndSort threshold (words.getD []) result = result ∧
    ∀ threshold', filterAndSort threshold' (words.getD []) result =
      filterAndSort (threshold.merge Severity.moreSevere threshold') (words.getD []) ds := by
  have hsame : threshold.merge Severity.moreSevere threshold = threshold := by
    cases threshold with
    | none => rfl
    | some t => simp [Severity.moreSevere]
  refine ⟨pairwise_filterAndSort threshold _ ds, filter_filterAndSort threshold _ ds, ?_,
    fun threshold' => filterAndSort_filterAndSort threshold threshold' _ ds⟩
  rw [filterAndSort_filterAndSort, hsame]

end StyleCheck
