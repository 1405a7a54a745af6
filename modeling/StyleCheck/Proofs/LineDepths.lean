/-
# The depth before each line

How many braces are open where a line begins is counted in two ways: anew from the first
line for each line that is asked about, and once for all lines with a count that is carried
along. Both are the balance of the whole lines before it (`depthBefore_eq`,
`lineDepths_eq`), and these lines are the text up to the offset at which the line
begins (`take_lineStart`). Closing braces count wherever they stand, so a depth may be
negative.

Behind the last line the depth is the balance of the text, as its newlines are no braces
(`braceBalance_closedLines_splitLines`).

Key definitions: `lineStart`.
Key theorems: `foldl_braceBalance`, `depthBefore_eq`, `lineDepths_eq`, `take_lineStart`,
`lineDepths_count_before`.
-/
import Mathlib.Algebra.BigOperators.Group.List.Basic
import Mathlib.Algebra.GroupWithZero.Nat
import StyleCheck.Proofs.Findings

namespace StyleCheck.Source

open Text

/-! ### Balances of whole lines -/

/-- A count that is carried along lines comes to their balance. -/
theorem foldl_braceBalance (lines : List (List Char)) (depth : Int) :
    lines.foldl (fun depth line => depth + braceBalance line) depth =
      depth + braceBalance (closedLines lines) := by
  induction lines generalizing depth with
  | nil => simp [closedLines, braceBalance]
  | cons line lines ih =>
    rw [List.foldl_cons, ih, braceBalance_closedLines_cons, Int.add_assoc]

theorem braceBalance_closedLines_splitLines (text : List Char) :
    braceBalance (closedLines (splitLines text)) = braceBalance text := by
  obtain ⟨lines, last, hsplit⟩ := exists_splitLines_append text
  obtain ⟨htext, -, -⟩ := eq_closedLines_append text lines last hsplit
  have hnewline : braceBalance ['\n'] = 0 := by decide
  calc braceBalance (closedLines (splitLines text))
      = braceBalance (text ++ ['\n']) := by
        rw [hsplit, closedLines_append, htext, List.append_assoc]
        simp [closedLines]
    _ = braceBalance text := by
        rw [braceBalance_append, hnewline, Int.add_zero]

/-! ### The two ways of counting -/

/-- **Counted anew**, the depth before a line is the balance of the whole lines before it. -/
theorem depthBefore_eq (text : List Char) (line : Int) :
    depthBefore text line = braceBalance (closedLines ((splitLines text).take line.toNat)) := by
  rw [depthBefore, foldl_braceBalance, Int.zero_add]

/-- The lines with the numbers from `index` on, and with `depth` and the balance of the
lines before each of them. -/
theorem lineDepthsFrom_eq : ∀ (lines : List (List Char)) (index : Nat) (depth : Int),
    lineDepthsFrom index depth lines =
      lines.mapIdx fun i line => (index + i, line, depth + braceBalance (closedLines (lines.take i)))
  | [], _, _ => rfl
  | line :: lines, index, depth => by
    have hempty : braceBalance (closedLines []) = 0 := by decide
    rw [lineDepthsFrom, lineDepthsFrom_eq lines, List.mapIdx_cons]
    simp only [List.take_zero, List.take_succ_cons, hempty, braceBalance_closedLines_cons,
      Nat.add_zero, Int.add_zero, Nat.add_comm, Nat.add_left_comm, Int.add_assoc]

/-- **Counted in one pass**, it is the same. -/
theorem lineDepths_eq (text : List Char) :
    lineDepths text = (splitLines text).mapIdx fun i line => (i, line, depthBefore text i) := by
  rw [lineDepths, lineDepthsFrom_eq]
  simp only [depthBefore_eq, Nat.zero_add, Int.zero_add, Int.toNat_natCast]

/-! ### Where a line begins -/

/-- The offset at which the line of this number begins: the lengths of the lines before it,
each with its newline. -/
def lineStart (lines : List (List Char)) (index : Nat) : Nat :=
  ((lines.take index).map fun line => line.length + 1).sum

theorem lineStart_eq (lines : List (List Char)) (index : Nat) :
    lineStart lines index = (closedLines (lines.take index)).length := by
  unfold lineStart
  induction lines.take index with
  | nil => rfl
  | cons line lines ih => rw [length_closedLines_cons, List.map_cons, List.sum_cons, ih]

section Line

variable {text line : List Char} {index : Nat} (h : (splitLines text)[index]? = some line)

include h

theorem exists_cut_at_lineStart : ∃ ls ls', splitLines text = ls ++ line :: ls' ∧
    ls.length = index ∧ (splitLines text).take index = ls ∧
    lineStart (splitLines text) index = (closedLines ls).length := by
  obtain ⟨ls, ls', hsplit, hlength⟩ := exists_cut_of_getElem? h
  have hbefore : (splitLines text).take index = ls := by rw [hsplit, List.take_left' hlength]
  exact ⟨ls, ls', hsplit, hlength, hbefore, by rw [lineStart_eq, hbefore]⟩

/-- **The text up to where a line begins** is the whole lines before it. -/
theorem take_lineStart : text.take (lineStart (splitLines text) index) =
    closedLines ((splitLines text).take index) := by
  obtain ⟨ls, ls', hsplit, -, hbefore, hstart⟩ := exists_cut_at_lineStart h
  obtain ⟨rest, htext, -⟩ := exists_eq_append_of_splitLines hsplit
  have htake := congrArg (List.take (closedLines ls).length) htext
  rw [hbefore, hstart, htake, List.take_left' rfl]

theorem positionAt_lineStart : ({ text } : Document).positionAt
    (lineStart (splitLines text) index : Nat) = ⟨index, 0⟩ := by
  obtain ⟨ls, ls', hsplit, rfl, -, hstart⟩ := exists_cut_at_lineStart h
  have hcut : splitLines text = ls ++ ([] ++ line) :: ls' := hsplit
  rw [hstart]
  exact ({ text } : Document).positionAt_of_line hcut

end Line

/-- **The depths of one pass are those counted anew.** The lines of a text are numbered from
zero without a gap and joined by newlines are the text. The depth before each of them is the
one that is counted anew, and it is the balance of the text up to the offset where the line
begins. Counted anew behind the last line, the depth is the balance of the whole text, and in
front of the first one it is zero. -/
theorem lineDepths_count_before (text : List Char) :
    (lineDepths text).map (fun row => row.1) = List.range (newlineCount text + 1) ∧
    joinLines ((lineDepths text).map fun row => row.2.1) = text ∧
    (∀ index line depth, (index, line, depth) ∈ lineDepths text →
      depth = depthBefore text index ∧
      ∃ start : Nat, start = lineStart ((lineDepths text).map fun row => row.2.1) index ∧
        ({ text } : Document).positionAt start = ⟨index, 0⟩ ∧
        depth = ((text.take start).count openBrace : Int) - (text.take start).count closeBrace) ∧
    (∀ index : Int, newlineCount text < index → depthBefore text index = braceBalance text) ∧
    ∀ index : Int, index < 0 → depthBefore text index = 0 := by
  have hlines : (lineDepths text).map (fun row => row.2.1) = splitLines text := by
    rw [lineDepths_eq]
    exact List.ext_getElem (by simp) fun i _ _ => by simp
  refine ⟨?_, ?_, ?_, ?_, ?_⟩
  · rw [lineDepths_eq]
    refine List.ext_getElem (by simp [length_splitLines]) fun i _ _ => by simp
  · rw [hlines, joinLines_splitLines]
  · intro index line depth hmem
    rw [lineDepths_eq] at hmem
    obtain ⟨i, hi, heq⟩ := List.mem_mapIdx.mp hmem
    obtain ⟨rfl, rfl, rfl⟩ : i = index ∧ (splitLines text)[i] = line ∧ depthBefore text i = depth := by
      simpa using heq
    have hline := List.getElem?_eq_getElem hi
    refine ⟨rfl, _, rfl, ?_, ?_⟩
    · rw [hlines]
      exact positionAt_lineStart hline
    · rw [hlines, take_lineStart hline, depthBefore_eq, Int.toNat_natCast]
      rfl
  · intro index hindex
    have hall : (splitLines text).take index.toNat = splitLines text :=
      List.take_of_length_le (by rw [length_splitLines]; omega)
    rw [depthBefore_eq, hall, braceBalance_closedLines_splitLines]
  · intro index hindex
    have hnone : index.toNat = 0 := by omega
    rw [depthBefore_eq, hnone]
    rfl

/-- A brace too many is closed on the first line, an empty line follows, and two braces are
opened on the third one. -/
def unevenLines : List Char :=
  "\x7d \n\n\x7b a \x7b\n b \x7d".toList

/-- The third line begins at depth minus one, at the fifth character. -/
theorem lineDepths_count_before_uneven :
    (2, "\x7b a \x7b".toList, -1) ∈ lineDepths unevenLines ∧
      (∃ start : Nat,
        start = lineStart ((lineDepths unevenLines).map fun row => row.2.1) 2 ∧ start = 4 ∧
        -1 = ((unevenLines.take start).count openBrace : Int) -
          (unevenLines.take start).count closeBrace) ∧
      depthBefore unevenLines 9 = braceBalance unevenLines ∧ depthBefore unevenLines (-9) = 0 := by
  have hmem : (2, "\x7b a \x7b".toList, -1) ∈ lineDepths unevenLines := by decide
  obtain ⟨-, -, hrow, hbehind, hbefore⟩ := lineDepths_count_before unevenLines
  obtain ⟨-, start, rfl, -, hcount⟩ := hrow _ _ _ hmem
  exact ⟨hmem, ⟨_, rfl, by decide, hcount⟩, hbehind 9 (by decide), hbefore (-9) (by decide)⟩

end StyleCheck.Source
