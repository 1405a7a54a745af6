/-
# Where global variables are reported

The naming rule asks once for each line whether it begins outside every block:
whether the lines before it, in the masked text, close at least as many braces as
they open. A line can open a block itself, and what is declared in it further on is
reported as a global variable (`badNames_reports_local`).

What holds of every such finding is that its line begins outside every block,
and that a block its name is inside of was opened on that line, in front of the
name (`global_inBlock_iff`): where the braces before a name are counted, the
last one that makes them more open than closed stands there (`opensBlock_iff`).

Key definitions: `InBlock`, `OpensBlock`.
Key theorems: `opensBlock_iff`, `global_inBlock_iff`.
-/
import Mathlib.Data.List.Induction
import StyleCheck.Proofs.Findings

namespace StyleCheck

open Text Source

namespace Source

/-- More braces are opened than closed before the offset. -/
def InBlock (text : List Char) (offset : Nat) : Prop :=
  (text.take offset).count closeBrace < (text.take offset).count openBrace

instance (text : List Char) (offset : Nat) : Decidable (InBlock text offset) :=
  inferInstanceAs (Decidable (_ < _))

theorem inBlock_iff (text : List Char) (offset : Nat) :
    InBlock text offset ↔ 0 < braceBalance (text.take offset) := by
  unfold InBlock braceBalance
  omega

/-- Behind `before`, a brace in `lead` opens a block that is outside every
other, and `lead` does not close it. -/
def OpensBlock (before lead : List Char) : Prop :=
  ∃ p q, lead = p ++ openBrace :: q ∧ braceBalance (before ++ p) = 0 ∧
    ∀ r, r <+: q → 0 < braceBalance (before ++ (p ++ openBrace :: r))

theorem braceBalance_openBrace : braceBalance [openBrace] = 1 := by decide

theorem braceBalance_le_zero {c : Char} (h : c ≠ openBrace) : braceBalance [c] ≤ 0 := by
  unfold braceBalance
  rw [List.count_singleton, List.count_singleton]
  split
  · rename_i hc
    exact absurd (eq_of_beq hc) h
  · split
    · decide
    · decide

/-- **How a text comes to be inside a block**: it begins outside every block,
and one of its braces opens a block that it does not close. -/
theorem opensBlock_iff {before : List Char} (hbefore : braceBalance before ≤ 0)
    (lead : List Char) : 0 < braceBalance (before ++ lead) ↔ OpensBlock before lead := by
  constructor
  · -- the last character that leads inside: by induction on the text from its end
    intro h
    induction lead using List.reverseRecOn with
    | nil =>
      rw [List.append_nil] at h
      omega
    | append_singleton lead c ih =>
      rw [← List.append_assoc, braceBalance_append] at h
      by_cases hinside : 0 < braceBalance (before ++ lead)
      · obtain ⟨p, q, rfl, hp, hq⟩ := ih hinside
        refine ⟨p, q ++ [c], by simp, hp, fun r hr => ?_⟩
        rcases List.prefix_concat_iff.mp hr with rfl | hr
        · have hwhole : before ++ (p ++ openBrace :: (q ++ [c])) =
              (before ++ (p ++ openBrace :: q)) ++ [c] := by simp
          rw [hwhole, braceBalance_append]
          exact h
        · exact hq r hr
      · have hc : c = openBrace := by
          by_contra hne
          have hle := braceBalance_le_zero hne
          omega
        subst hc
        rw [braceBalance_openBrace] at h
        refine ⟨lead, [], rfl, by omega, fun r hr => ?_⟩
        obtain rfl := List.prefix_nil.mp hr
        rw [← List.append_assoc, braceBalance_append, braceBalance_openBrace]
        exact h
  · rintro ⟨p, q, rfl, -, hq⟩
    exact hq q List.prefix_rfl

end Source

theorem getLast?_closedLines (lines : List (List Char)) :
    ∀ c ∈ (closedLines lines).getLast?, c = '\n' := by
  rcases List.eq_nil_or_concat lines with rfl | ⟨init, line, rfl⟩
  · simp [closedLines]
  · rw [List.concat_eq_append, closedLines_append]
    simp [closedLines]

/-- **Global variables are those of lines that begin outside every block.** The
name reported stands on a line of the masked text before which no more braces
are opened than closed. It is inside a block exactly if a brace in front of it
on the same line opens one outside every other, and none closes it. -/
theorem global_inBlock_iff (d : Document) (f : Finding) (h : f ∈ badNames d)
    (hkind : f.kind = .variableName) :
    ∃ (before lead rest : List Char) (offset : Nat),
      mask d.text = before ++ (lead ++ rest) ∧ (before ++ lead).length = offset ∧
      f.offset = some (offset : Int) ∧
      (∀ c ∈ before.getLast?, c = '\n') ∧ '\n' ∉ lead ∧
      before.count openBrace ≤ before.count closeBrace ∧
      (InBlock (mask d.text) offset ↔ OpensBlock before lead) := by
  obtain ⟨ls, u, v, ls', hlines, hdepth, -, -, -, rfl⟩ :=
    exists_of_mem_globalFindings (mem_globalFindings_of_kind h hkind)
  obtain ⟨rest, hmask, -⟩ := exists_cut_of_splitLines hlines
  have hmem : u ++ v ∈ splitLines (mask d.text) := by
    rw [hlines]
    simp
  have hline : '\n' ∉ u ++ v := not_mem_of_mem_splitLines hmem
  refine ⟨closedLines ls, u, v ++ rest, (closedLines ls ++ u).length, ?_, rfl, ?_,
    getLast?_closedLines ls, fun hu => hline (List.mem_append_left v hu), ?_, ?_⟩
  · rw [hmask, List.append_assoc]
  · rw [List.length_append]
    rfl
  · unfold braceBalance at hdepth
    omega
  · rw [inBlock_iff, hmask, List.take_left' rfl]
    exact opensBlock_iff hdepth u

/-- A function with its block on one line, and a variable in it. -/
def sourceWithLocal : Document where
  text := ("void run(void)\n\x7b int count; \x7d\n" ++ "int total;\n").toList

theorem badNames_sourceWithLocal :
    badNames sourceWithLocal = [globalFinding 21 "count".toList, globalFinding 34 "total".toList] :=
  rfl

/-- The variable in the function is reported, and the block it is inside of was
opened on its line. -/
theorem global_inBlock_iff_local :
    globalFinding 21 "count".toList ∈ badNames sourceWithLocal ∧
    (globalFinding 21 "count".toList).kind = .variableName ∧
    ∃ (before lead rest : List Char) (offset : Nat),
      mask sourceWithLocal.text = before ++ (lead ++ rest) ∧ (before ++ lead).length = offset ∧
      (globalFinding 21 "count".toList).offset = some (offset : Int) ∧
      (∀ c ∈ before.getLast?, c = '\n') ∧ '\n' ∉ lead ∧
      before.count openBrace ≤ before.count closeBrace ∧
      (InBlock (mask sourceWithLocal.text) offset ↔ OpensBlock before lead) := by
  have hmem : globalFinding 21 "count".toList ∈ badNames sourceWithLocal := by
    rw [badNames_sourceWithLocal]
    exact List.mem_cons_self
  exact ⟨hmem, rfl, global_inBlock_iff sourceWithLocal _ hmem rfl⟩

/-- Not only declarations outside every block are reported as global ones. -/
theorem badNames_reports_local :
    ¬ ∀ (d : Document) (f : Finding) (offset : Nat), f ∈ badNames d → f.kind = .variableName →
      f.offset = some (offset : Int) → ¬ InBlock (mask d.text) offset := by
  intro h
  have hmem : globalFinding 21 "count".toList ∈ badNames sourceWithLocal := by
    rw [badNames_sourceWithLocal]
    exact List.mem_cons_self
  exact h sourceWithLocal _ 21 hmem rfl rfl (by decide)

end StyleCheck
