/-
# What the rules find

Every finding of the naming rule and of the length rule points at a whole word
of the masked text, its identifier (`Finding.PointsAt`): a global variable on
the line that declares it, a function where its signature names it. Masking
lets whole words through unchanged, so the finding points at the same word of
the source.

No two findings of the naming rule have the same offset
(`nodup_offsets_badNames`): declarations and signatures follow each other
without overlap, and no name is both declared and called.

Key definitions: `Finding.PointsAt`, `Finding.EndsBefore`.
Key theorems: `exists_of_mem_globalFindings`, `pointsAt_of_mem_badNames`,
`pointsAt_of_mem_longFunctions`, `nodup_offsets_badNames`.
-/
import StyleCheck.Proofs.LengthFindings
import StyleCheck.Proofs.Masking
import StyleCheck.Proofs.Positions
import StyleCheck.Proofs.Readings
import StyleCheck.Rule.Naming

namespace StyleCheck

open Text Source

/-! ### Global variables -/

theorem braceBalance_closedLines_cons (line : List Char) (lines : List (List Char)) :
    braceBalance (closedLines (line :: lines)) =
      braceBalance line + braceBalance (closedLines lines) := by
  have hnewline : braceBalance ['\n'] = 0 := by decide
  rw [closedLines_cons, ← List.singleton_append, braceBalance_append, braceBalance_append,
    hnewline, Int.zero_add]

/-- The findings about some lines and about those behind them, where the depth
is that of all the lines before. -/
theorem globalFindingsFrom_append (ks : List (List Char)) :
    ∀ (ls : List (List Char)) (offset index : Nat) (depth : Int),
      globalFindingsFrom offset (lineDepthsFrom index depth (ls ++ ks)) =
        globalFindingsFrom offset (lineDepthsFrom index depth ls) ++
          globalFindingsFrom (offset + (closedLines ls).length)
            (lineDepthsFrom (index + ls.length) (depth + braceBalance (closedLines ls)) ks)
  | [], offset, index, depth => by
    simp [lineDepthsFrom, globalFindingsFrom, closedLines, braceBalance]
  | line :: ls, offset, index, depth => by
    have hindex : index + (line :: ls).length = index + 1 + ls.length := by
      rw [List.length_cons]
      omega
    rw [List.cons_append, lineDepthsFrom, lineDepthsFrom, globalFindingsFrom, globalFindingsFrom,
      globalFindingsFrom_append ks ls, List.append_assoc, braceBalance_closedLines_cons,
      ← Int.add_assoc, length_closedLines_cons, hindex]
    simp only [Nat.add_assoc]

/-- The finding with its offset moved on by `width`. -/
def Finding.movedBy (width : Int) (f : Finding) : Finding :=
  { f with offset := f.offset.map (· + width) }

theorem globalFindingsFrom_movedBy (width : Nat) :
    ∀ (lines : List (List Char)) (offset index index' : Nat) (depth : Int),
      globalFindingsFrom (offset + width) (lineDepthsFrom index depth lines) =
        (globalFindingsFrom offset (lineDepthsFrom index' depth lines)).map (.movedBy width)
  | [], offset, index, index', depth => rfl
  | line :: lines, offset, index, index', depth => by
    have hline : globalFindingsOn (offset + width) line =
        (globalFindingsOn offset line).map (.movedBy width) := by
      unfold globalFindingsOn
      rw [List.map_map]
      refine List.map_congr_left fun d _ => ?_
      rw [Nat.add_right_comm]
      rfl
    have hnext : offset + width + line.length + 1 = offset + line.length + 1 + width := by omega
    rw [lineDepthsFrom, lineDepthsFrom, globalFindingsFrom, globalFindingsFrom, List.map_append,
      hnext, globalFindingsFrom_movedBy width lines _ _ (index' + 1)]
    congr 1
    split
    · exact hline
    · rfl

/-- A finding about a global variable is one about a line that may declare
some, at the depth of all the lines before it. -/
theorem exists_line_of_mem_globalFindingsFrom {f : Finding} :
    ∀ (lines : List (List Char)) (offset index : Nat) (depth : Int),
      f ∈ globalFindingsFrom offset (lineDepthsFrom index depth lines) →
      ∃ ls line ls', lines = ls ++ line :: ls' ∧
        mayDeclareGlobals line (depth + braceBalance (closedLines ls)) = true ∧
        f ∈ globalFindingsOn (offset + (closedLines ls).length) line
  | [], offset, index, depth, h => by simp [lineDepthsFrom, globalFindingsFrom] at h
  | line :: lines, offset, index, depth, h => by
    rw [lineDepthsFrom, globalFindingsFrom] at h
    rcases List.mem_append.mp h with h | h
    · split at h
      · rename_i hmay
        exact ⟨[], line, lines, rfl, by simpa [closedLines, braceBalance] using hmay, h⟩
      · exact absurd h List.not_mem_nil
    · obtain ⟨ls, line', ls', rfl, hmay, hf⟩ :=
        exists_line_of_mem_globalFindingsFrom lines _ _ _ h
      refine ⟨line :: ls, line', ls', rfl, ?_, ?_⟩
      · rwa [braceBalance_closedLines_cons, ← Int.add_assoc]
      · rwa [length_closedLines_cons, ← Nat.add_assoc, ← Nat.add_assoc]

/-- A finding about a global variable names a word of a line, which its type
leads up to and the end of the declarator follows. The line begins outside every
block. -/
theorem exists_of_mem_globalFindings {f : Finding} {masked : List Char}
    (h : f ∈ globalFindings masked) :
    ∃ ls u v ls', splitLines masked = ls ++ (u ++ v) :: ls' ∧
      braceBalance (closedLines ls) ≤ 0 ∧ AwaitsName u ∧ DeclaresName v ∧
      globalMark.toList.isPrefixOf (leadingWord v) = false ∧
      f = globalFinding ((closedLines ls).length + u.length) (leadingWord v) := by
  obtain ⟨ls, line, ls', hlines, hmay, hf⟩ := exists_line_of_mem_globalFindingsFrom _ _ _ _ h
  obtain ⟨declaration, hmem, rfl⟩ := List.mem_map.mp hf
  obtain ⟨hmem, hmark⟩ := List.mem_filter.mp hmem
  obtain ⟨u, v, rfl, hu, hv, hat, hname⟩ := exists_of_mem_declarations hmem
  have hdepth : braceBalance (closedLines ls) ≤ 0 := by
    simp only [mayDeclareGlobals, Bool.and_eq_true, decide_eq_true_eq, Int.zero_add] at hmay
    exact hmay.1.1.1
  rw [hname] at hmark
  refine ⟨ls, u, v, ls', hlines, hdepth, hu, hv, by simpa using hmark, ?_⟩
  rw [hat, hname, Nat.zero_add]

/-- What the naming rule reports about a variable is a finding about a global
one. -/
theorem mem_globalFindings_of_kind {d : Document} {f : Finding} (h : f ∈ badNames d)
    (hkind : f.kind = .variableName) : f ∈ globalFindings (mask d.text) := by
  rcases List.mem_append.mp h with h | h
  · exact h
  · obtain ⟨s, -, rfl⟩ := List.mem_map.mp h
    exact LocationKind.noConfusion hkind

/-! ### The word a finding points at -/

/-- The finding's identifier is a whole word of the text, at its offset. -/
def Finding.PointsAt (f : Finding) (text : List Char) : Prop :=
  ∃ (offset : Nat) (name : List Char), f.offset = some (offset : Int) ∧
    f.identifier = some (String.ofList name) ∧ WholeWord name text offset

/-- A finding about a global variable names a word of the whole text, which its
type leads up to and the end of the declarator follows. -/
theorem exists_declared_of_mem_globalFindings {f : Finding} {masked : List Char}
    (h : f ∈ globalFindings masked) :
    ∃ x y, masked = x ++ y ∧ AwaitsName x ∧ DeclaresName y ∧
      f = globalFinding x.length (leadingWord y) := by
  obtain ⟨ls, u, v, ls', hlines, -, hu, hv, -, rfl⟩ := exists_of_mem_globalFindings h
  obtain ⟨rest, hmasked, -⟩ := exists_cut_of_splitLines hlines
  refine ⟨closedLines ls ++ u, v ++ rest, hmasked, hu.append_left _, hv.append rest, ?_⟩
  rw [hv.leadingWord_append, List.length_append]

theorem pointsAt_of_mem_globalFindings {f : Finding} {masked : List Char}
    (h : f ∈ globalFindings masked) : f.PointsAt masked := by
  obtain ⟨x, y, rfl, hx, hy, rfl⟩ := exists_declared_of_mem_globalFindings h
  exact ⟨_, _, rfl, rfl, hx.wholeWord hy.1⟩

theorem wholeWord_of_mem_signatures {s : Signature} {masked : List Char}
    (h : s ∈ signatures masked) : WholeWord s.name masked s.nameAt := by
  obtain ⟨x, y, rfl, hx, hy, hat, hname⟩ := exists_of_mem_signatures h
  rw [hat, hname]
  exact hx.wholeWord hy.1

/-- **The naming rule points at whole words** of the masked text. -/
theorem pointsAt_of_mem_badNames {f : Finding} {d : Document} (h : f ∈ badNames d) :
    f.PointsAt (mask d.text) := by
  rcases List.mem_append.mp h with h | h
  · exact pointsAt_of_mem_globalFindings h
  · obtain ⟨s, hs, rfl⟩ := List.mem_map.mp h
    exact ⟨_, _, rfl, rfl, wholeWord_of_mem_signatures (List.mem_filter.mp hs).1⟩

/-- **The length rule points at whole words** of the masked text. -/
theorem pointsAt_of_mem_longFunctions {f : Finding} {limit : Int} {d : Document}
    {findings : List Finding} (h : (longFunctions limit d).value = .ok findings)
    (hf : f ∈ findings) : f.PointsAt (mask d.text) := by
  obtain ⟨s, hs, last, -, -, rfl⟩ := (mem_of_longFunctions h).mp hf
  exact ⟨_, _, rfl, rfl, wholeWord_of_mem_signatures hs⟩

/-! ### The order of the findings -/

/-- The word that `f` points at ends before the offset of `g`, with room
between. -/
def Finding.EndsBefore (f g : Finding) : Prop :=
  ∃ (offset next : Nat) (name : List Char), f.offset = some (offset : Int) ∧
    f.identifier = some (String.ofList name) ∧ g.offset = some (next : Int) ∧
    offset + name.length < next

theorem Finding.EndsBefore.offset_ne {f g : Finding} (h : f.EndsBefore g) :
    f.offset ≠ g.offset := by
  obtain ⟨offset, next, name, hf, -, hg, hlt⟩ := h
  rw [hf, hg]
  intro heq
  have := Option.some.inj heq
  omega

theorem pairwise_globalFindingsOn (offset : Nat) (line : List Char) :
    (globalFindingsOn offset line).Pairwise Finding.EndsBefore := by
  unfold globalFindingsOn
  rw [List.pairwise_map]
  refine ((pairwise_declarations line).filter _).imp fun {d e} h => ?_
  exact ⟨_, _, d.name, rfl, rfl, rfl, by omega⟩

theorem exists_of_mem_globalFindingsOn {f : Finding} {offset : Nat} {line : List Char}
    (h : f ∈ globalFindingsOn offset line) :
    ∃ (first : Nat) (name : List Char), f.offset = some (first : Int) ∧
      f.identifier = some (String.ofList name) ∧ first + name.length ≤ offset + line.length := by
  obtain ⟨d, hd, rfl⟩ := List.mem_map.mp h
  obtain ⟨x, y, rfl, -, -, hat, hname⟩ := exists_of_mem_declarations (List.mem_filter.mp hd).1
  refine ⟨_, _, rfl, rfl, ?_⟩
  have hword := congrArg List.length (leadingWord_append_afterWord y)
  rw [List.length_append] at hword
  rw [hat, hname, List.length_append]
  omega

theorem pairwise_globalFindingsFrom :
    ∀ (lines : List (List Char)) (offset index : Nat) (depth : Int),
      (globalFindingsFrom offset (lineDepthsFrom index depth lines)).Pairwise Finding.EndsBefore
  | [], offset, index, depth => List.Pairwise.nil
  | line :: lines, offset, index, depth => by
    rw [lineDepthsFrom, globalFindingsFrom]
    refine List.pairwise_append.mpr ⟨?_, pairwise_globalFindingsFrom lines _ _ _, ?_⟩
    · split
      · exact pairwise_globalFindingsOn offset line
      · exact List.Pairwise.nil
    · intro f hf g hg
      split at hf
      · obtain ⟨first, name, hat, hname, hle⟩ := exists_of_mem_globalFindingsOn hf
        obtain ⟨ls, line', ls', -, -, hg⟩ := exists_line_of_mem_globalFindingsFrom _ _ _ _ hg
        obtain ⟨d, -, rfl⟩ := List.mem_map.mp hg
        exact ⟨first, _, name, hat, hname, rfl, by omega⟩
      · simp at hf

theorem pairwise_globalFindings (masked : List Char) :
    (globalFindings masked).Pairwise Finding.EndsBefore :=
  pairwise_globalFindingsFrom _ _ _ _

theorem pairwise_functionFindings (masked : List Char) :
    (functionFindings masked).Pairwise Finding.EndsBefore := by
  unfold functionFindings
  rw [List.pairwise_map]
  refine ((pairwise_signatures masked).filter _).imp fun {s t} h => ?_
  exact ⟨_, _, s.name, rfl, rfl, rfl, by omega⟩

/-- A name that is declared is not called, so no finding of the one pass has
the offset of one of the other. -/
theorem offset_ne_of_mem_functionFindings {x y : List Char} {f : Finding} (hy : DeclaresName y)
    (hf : f ∈ functionFindings (x ++ y)) : f.offset ≠ some (x.length : Int) := by
  obtain ⟨s, hs, rfl⟩ := List.mem_map.mp hf
  obtain ⟨x', y', hsplit, -, hcall, hat, -⟩ := exists_of_mem_signatures (List.mem_filter.mp hs).1
  intro heq
  have hlen : x'.length = x.length := by
    rw [← hat]
    exact Int.ofNat.inj (Option.some.inj heq)
  obtain ⟨-, rfl⟩ := List.append_inj hsplit hlen.symm
  exact hy.not_callsName hcall

/-- **No two findings of the naming rule have the same offset.** -/
theorem nodup_offsets_badNames (d : Document) : ((badNames d).map (·.offset)).Nodup := by
  unfold badNames
  rw [List.Nodup, List.pairwise_map]
  refine List.pairwise_append.mpr ⟨(pairwise_globalFindings _).imp fun h => h.offset_ne,
    (pairwise_functionFindings _).imp fun h => h.offset_ne, fun f hf g hg => ?_⟩
  obtain ⟨x, y, hsplit, -, hy, rfl⟩ := exists_declared_of_mem_globalFindings hf
  rw [hsplit] at hg
  exact (offset_ne_of_mem_functionFindings hy hg).symm

end StyleCheck
