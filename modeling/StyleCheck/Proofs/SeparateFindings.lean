/-
# Findings stand apart

The rules look for names in three passes over the masked text: for the names of global
variables, for those of functions, and for functions that are too long. In each of them
the name that a finding is about ends before the next finding begins
(`pairwise_globalFindings`, `pairwise_functionFindings`, `pairwise_longFunctions`). A pass
that also remembers the offsets it has reported, and passes over what stands at one of them,
therefore reports the same (`atNewOffsets_eq_self`).

What a pass reports is settled by the names alone: a declared global variable without the
mark (`mem_globalFindings_iff`), and a signature whose name has neither of the two shapes
(`mem_functionFindings_iff`). The third pass reports what is closed and longer than the limit,
unless it fails (`mem_of_longFunctions`).

Key definitions: `DeclaresGlobal`, `atNewOffsets`, `namePasses`.
Key theorems: `mem_globalFindings_iff`, `mem_functionFindings_iff`,
`atNewOffsets_eq_self`, `namePasses_stand_apart`.
-/
import StyleCheck.Proofs.CamelCase
import StyleCheck.Proofs.Findings

namespace StyleCheck

open Text Source

/-! ### What the passes report -/

/-- A global variable of this name is declared at this offset: on a line that may declare
some, at the depth of all the lines before it. -/
def DeclaresGlobal (masked : List Char) (offset : Nat) (name : List Char) : Prop :=
  ∃ ls line ls' declaration, splitLines masked = ls ++ line :: ls' ∧
    mayDeclareGlobals line (braceBalance (closedLines ls)) = true ∧
    declaration ∈ declarations line ∧
    offset = (closedLines ls).length + declaration.nameAt ∧ name = declaration.name

theorem mem_globalFindingsOn_iff {f : Finding} {offset : Nat} {line : List Char} :
    f ∈ globalFindingsOn offset line ↔
      ∃ declaration ∈ declarations line, ¬ globalMark.toList <+: declaration.name ∧
        f = globalFinding (offset + declaration.nameAt) declaration.name := by
  simp only [globalFindingsOn, List.mem_map, List.mem_filter, Bool.not_eq_true',
    ← Bool.not_eq_true, List.isPrefixOf_iff_prefix, and_assoc, eq_comm (a := f)]

/-- **The pass over global variables** reports those whose name lacks the mark. -/
theorem mem_globalFindings_iff {f : Finding} {masked : List Char} :
    f ∈ globalFindings masked ↔
      ∃ offset name, DeclaresGlobal masked offset name ∧ ¬ globalMark.toList <+: name ∧
        f = globalFinding offset name := by
  constructor
  · intro h
    obtain ⟨ls, line, ls', hlines, hmay, hf⟩ := exists_line_of_mem_globalFindingsFrom _ _ _ _ h
    obtain ⟨declaration, hmem, hmark, rfl⟩ := mem_globalFindingsOn_iff.mp hf
    rw [Int.zero_add] at hmay
    rw [Nat.zero_add]
    exact ⟨_, _, ⟨ls, line, ls', declaration, hlines, hmay, hmem, rfl, rfl⟩, hmark, rfl⟩
  · rintro ⟨_, _, ⟨ls, line, ls', declaration, hlines, hmay, hmem, rfl, rfl⟩, hmark, rfl⟩
    -- the findings are those on the lines before, on this line and on the lines behind
    rw [globalFindings, lineDepths, hlines, globalFindingsFrom_append, lineDepthsFrom,
      globalFindingsFrom, Int.zero_add, Nat.zero_add, if_pos hmay]
    exact List.mem_append_right _ (List.mem_append_left _
      (mem_globalFindingsOn_iff.mpr ⟨declaration, hmem, hmark, rfl⟩))

theorem newline_not_mem_of_mem_signatures {s : Signature} {masked : List Char}
    (h : s ∈ signatures masked) : '\n' ∉ s.name := by
  obtain ⟨-, -, -, -, -, hword, -⟩ := wholeWord_of_mem_signatures h
  exact fun hmem => absurd (hword _ hmem) (by decide)

/-- **The pass over the names of functions** reports those that begin with neither a small
nor a capital letter, or have something other than letters and digits behind it. -/
theorem mem_functionFindings_iff {f : Finding} {masked : List Char} :
    f ∈ functionFindings masked ↔
      ∃ s ∈ signatures masked, ¬ IsShaped Char.isLower s.name ∧
        ¬ IsShaped Char.isUpper s.name ∧ f = functionFinding s := by
  unfold functionFindings
  rw [List.mem_map]
  refine exists_congr fun s => ?_
  rw [List.mem_filter, and_assoc, Bool.and_eq_true, Bool.not_eq_true', Bool.not_eq_true',
    ← Bool.not_eq_true, ← Bool.not_eq_true, and_assoc]
  refine and_congr_right fun hs => ?_
  have hline := newline_not_mem_of_mem_signatures hs
  rw [isCamelCase_iff hline, isPascalCase_iff hline, eq_comm]

/-! ### How the findings of a pass follow each other -/

theorem pairwise_longFunctions {limit : Int} {d : Document} {findings : List Finding}
    (h : (longFunctions limit d).value = .ok findings) : findings.Pairwise Finding.EndsBefore := by
  obtain ⟨-, rfl⟩ := longFunctions_eq_ok_iff.mp h
  rw [List.pairwise_map]
  refine List.pairwise_filterMap.mpr ((pairwise_signatures _).imp ?_)
  intro s t hbefore e he e' he'
  obtain ⟨lineCount, -, rfl⟩ := Option.map_eq_some_iff.mp he
  obtain ⟨lineCount', -, rfl⟩ := Option.map_eq_some_iff.mp he'
  exact ⟨s.nameAt, t.nameAt, s.name, rfl, rfl, rfl, by omega⟩

/-- The findings at an offset that is neither one of `seen` nor that of a finding before. -/
def atNewOffsets (seen : List (Option Int)) : List Finding → List Finding
  | [] => []
  | f :: fs =>
    if f.offset ∈ seen then atNewOffsets seen fs
    else f :: atNewOffsets (f.offset :: seen) fs

/-- **Remembering offsets is of no effect** on findings that stand apart. -/
theorem atNewOffsets_eq_self :
    ∀ {fs : List Finding} {seen : List (Option Int)}, fs.Pairwise Finding.EndsBefore →
      (∀ f ∈ fs, f.offset ∉ seen) → atNewOffsets seen fs = fs
  | [], seen, _, _ => rfl
  | f :: fs, seen, hfs, hseen => by
    obtain ⟨hf, hfs⟩ := List.pairwise_cons.mp hfs
    obtain ⟨hnew, hseen⟩ := List.forall_mem_cons.mp hseen
    have hrest : ∀ g ∈ fs, g.offset ∉ f.offset :: seen := fun g hg hmem =>
      (List.mem_cons.mp hmem).elim (hf g hg).offset_ne.symm (hseen g hg)
    rw [atNewOffsets, if_neg hnew, atNewOffsets_eq_self hfs hrest]

/-- The findings of each pass over a document; the third has none where it fails. -/
def namePasses (limit : Int) (d : Document) : List (List Finding) :=
  [globalFindings (mask d.text), functionFindings (mask d.text),
    (longFunctions limit d).value.toOption.getD []]

theorem pairwise_of_mem_namePasses {limit : Int} {d : Document} {pass : List Finding}
    (h : pass ∈ namePasses limit d) : pass.Pairwise Finding.EndsBefore := by
  simp only [namePasses, List.mem_cons, List.not_mem_nil, or_false] at h
  rcases h with rfl | rfl | rfl
  · exact pairwise_globalFindings _
  · exact pairwise_functionFindings _
  · cases hlengths : (longFunctions limit d).value with
    | error e => exact List.Pairwise.nil
    | ok findings => exact pairwise_longFunctions hlengths

/-- **Within a pass no name is reported twice, and no two overlap.** Each finding's name ends
before the next finding begins, so remembering the reported offsets would change nothing. The
naming rule reports exactly the declared global variables whose name lacks the mark and the
functions whose name is neither a small nor a capital letter with letters and digits behind,
and the length rule the functions that are closed and longer than the limit, if it can show
the limit and the number of lines for each of them. -/
theorem namePasses_stand_apart (limit : Int) (d : Document) :
    (∀ pass ∈ namePasses limit d,
      pass.Pairwise Finding.EndsBefore ∧ atNewOffsets [] pass = pass) ∧
    badNames d = globalFindings (mask d.text) ++ functionFindings (mask d.text) ∧
    (∀ f, f ∈ globalFindings (mask d.text) ↔
      ∃ offset name, DeclaresGlobal (mask d.text) offset name ∧ ¬ "g_".toList <+: name ∧
        f = globalFinding offset name) ∧
    (∀ f, f ∈ functionFindings (mask d.text) ↔
      ∃ s ∈ signatures (mask d.text), ¬ IsShaped Char.isLower s.name ∧
        ¬ IsShaped Char.isUpper s.name ∧ f = functionFinding s) ∧
    ((∃ findings, (longFunctions limit d).value = .ok findings) ↔
      ∀ s ∈ signatures (mask d.text), ∀ last,
        blockEnd? (mask d.text) ((s.stop : Int) - 1) = some last →
        limit < d.linesBetween s.start last → IsShown limit (d.linesBetween s.start last)) ∧
    (∀ findings, (longFunctions limit d).value = .ok findings → ∀ f, f ∈ findings ↔
      ∃ s ∈ signatures (mask d.text), ∃ last,
        blockEnd? (mask d.text) ((s.stop : Int) - 1) = some last ∧
        limit < d.linesBetween s.start last ∧
        f = longFinding limit s (d.linesBetween s.start last)) := by
  refine ⟨fun pass hpass => ?_, rfl, fun f => mem_globalFindings_iff,
    fun f => mem_functionFindings_iff, ?_, fun findings h f => mem_of_longFunctions h⟩
  · have hapart := pairwise_of_mem_namePasses hpass
    exact ⟨hapart, atNewOffsets_eq_self hapart fun _ _ => List.not_mem_nil⟩
  · rw [exists_longFunctions_eq_ok_iff, forall_excesses_iff]

/-- Two global variables on one line. -/
def sourceOfTwoVariables : Document where
  text := "int a; int b;".toList

/-- Their names are reported one behind the other. -/
theorem namePasses_stand_apart_two_variables :
    globalFindings (mask sourceOfTwoVariables.text) ∈ namePasses 50 sourceOfTwoVariables ∧
      globalFindings (mask sourceOfTwoVariables.text) =
        [globalFinding 4 ['a'], globalFinding 11 ['b']] ∧
      (globalFindings (mask sourceOfTwoVariables.text)).Pairwise Finding.EndsBefore ∧
      atNewOffsets [] (globalFindings (mask sourceOfTwoVariables.text)) =
        globalFindings (mask sourceOfTwoVariables.text) :=
  have hpass : globalFindings (mask sourceOfTwoVariables.text) ∈
      namePasses 50 sourceOfTwoVariables := List.mem_cons_self
  ⟨hpass, rfl, (namePasses_stand_apart 50 sourceOfTwoVariables).1 _ hpass⟩

end StyleCheck
