/-
# Offsets and positions in order

Positions are ordered by line and then by column, offsets as numbers, and the
two orders agree: an offset comes before the offset of a position exactly if
its own position comes before that position (`Document.positions_correspond`).
So a position that is not in the text, because its column or its line is past
the end, has the offset of the last position in the text that comes before it;
those that are in the text are the ones that their offset leads back to.

Both directions rest on one view of the text: an offset and a position stand
each on a line (`exists_line_of_offset`, `exists_line_of_lt`), and of two
different lines the earlier one ends before the later one begins
(`length_closedLines_lt`).

Key theorems: `Position.upTo_iff`, `Document.le_offsetAt_iff`,
`Document.before_positionAt`, `Document.positionAt_offsetAt_iff`, `Document.positions_correspond`.
-/
import StyleCheck.Proofs.Positions
import StyleCheck.Proofs.Words

namespace StyleCheck.Text

theorem length_closedLines_lt {ls ls' ks ks' : List (List Char)} {line later : List Char}
    (h : ls ++ line :: ls' = ks ++ later :: ks') (hlt : ls.length < ks.length) :
    (closedLines ls).length + line.length < (closedLines ks).length := by
  rcases List.append_eq_append_iff.mp h with ⟨m, rfl, hm⟩ | ⟨m, rfl, -⟩
  · cases m with
    | nil => simp at hlt
    | cons first m =>
      obtain ⟨rfl, -⟩ := List.cons.inj hm
      rw [closedLines_append, closedLines_cons]
      simp only [List.length_append, List.length_cons]
      omega
  · rw [List.length_append] at hlt
    omega

end StyleCheck.Text

namespace StyleCheck

open Text

theorem Position.upTo_iff {p q : Position} :
    p.upTo q = true ↔ p.line < q.line ∨ p.line = q.line ∧ p.character ≤ q.character := by
  simp only [upTo, before, Bool.or_eq_true, Bool.and_eq_true, decide_eq_true_eq, beq_iff_eq,
    Position.ext_iff]
  omega

theorem Position.before_iff_not_upTo {p q : Position} : p.before q = true ↔ ¬ q.upTo p = true := by
  rw [upTo_iff]
  simp only [before, Bool.or_eq_true, Bool.and_eq_true, decide_eq_true_eq, beq_iff_eq]
  omega

namespace Document

variable (d : Document)

/-! ### The line of a position -/

theorem exists_line_of_lt {p : Position} (hline : 0 ≤ p.line) (h : p.line < d.lineCount) :
    ∃ ls line ls', splitLines d.text = ls ++ line :: ls' ∧ p.line = ls.length ∧
      (splitLines d.text).getD p.line.toNat [] = line := by
  have hlt : p.line.toNat < (splitLines d.text).length := by
    rw [length_splitLines]
    unfold lineCount at h
    omega
  have hget := List.getElem?_eq_getElem hlt
  obtain ⟨ls, ls', hsplit, hlength⟩ := Source.exists_cut_of_getElem? hget
  refine ⟨ls, _, ls', hsplit, by omega, ?_⟩
  rw [List.getD_eq_getElem?_getD, hget, Option.getD_some]

theorem length_lt_lineCount {ls ls' : List (List Char)} {line : List Char}
    (h : splitLines d.text = ls ++ line :: ls') : ls.length < d.lineCount := by
  have hlength := congrArg List.length h
  rw [length_splitLines, List.length_append, List.length_cons] at hlength
  unfold lineCount
  omega

/-- A line that is not there stands for the end of the text. -/
theorem offsetAt_of_lineCount_le {p : Position} (h : d.lineCount ≤ p.line) :
    d.offsetAt p = d.text.length := by
  have hlength := length_splitLines d.text
  have hpast := offsetFrom_append p [] (splitLines d.text) 0 0 (by
    unfold lineCount at h
    omega)
  rw [List.append_nil] at hpast
  rw [offsetAt, hpast]
  rfl

/-! ### The two orders -/

/-- An offset comes before that of a position on a line exactly if its own
position comes before that position. -/
theorem le_offsetAt_iff_of_line {offset : Nat} {p : Position} {ls ls' : List (List Char)}
    {line : List Char} (hoffset : offset ≤ d.text.length) (hcharacter : 0 ≤ p.character)
    (hsplit : splitLines d.text = ls ++ line :: ls') (hline : p.line = ls.length) :
    (offset : Int) ≤ d.offsetAt p ↔ (d.positionAt offset).upTo p = true := by
  obtain ⟨ks, before, after, ks', hsplit', rfl⟩ := d.exists_line_of_offset hoffset
  rw [d.positionAt_of_line hsplit', d.offsetAt_of_line hsplit hline, Position.upTo_iff, hline]
  have hsame := hsplit'.symm.trans hsplit
  simp only
  rcases Nat.lt_trichotomy ks.length ls.length with hlt | heq | hgt
  · -- the offset stands on an earlier line
    have hbefore := length_closedLines_lt hsame hlt
    rw [List.length_append] at hbefore
    omega
  · obtain ⟨rfl, hrest⟩ := List.append_inj hsame heq
    obtain ⟨rfl, -⟩ := List.cons.inj hrest
    rw [List.length_append]
    omega
  · -- the offset stands on a later line
    have hbehind := length_closedLines_lt hsame.symm hgt
    omega

/-- **The orders agree**: an offset comes before that of a position exactly if
its own position comes before that position. -/
theorem le_offsetAt_iff {offset : Nat} {p : Position} (hoffset : offset ≤ d.text.length)
    (hline : 0 ≤ p.line) (hcharacter : 0 ≤ p.character) :
    (offset : Int) ≤ d.offsetAt p ↔ (d.positionAt offset).upTo p = true := by
  by_cases hcount : p.line < d.lineCount
  · obtain ⟨ls, line, ls', hsplit, hnumber, -⟩ := d.exists_line_of_lt hline hcount
    exact d.le_offsetAt_iff_of_line hoffset hcharacter hsplit hnumber
  · -- every line of the text comes before a line that is not there
    obtain ⟨ks, before, after, ks', hsplit', rfl⟩ := d.exists_line_of_offset hoffset
    have hlast := d.length_lt_lineCount hsplit'
    rw [d.offsetAt_of_lineCount_le (Int.not_lt.mp hcount), d.positionAt_of_line hsplit',
      Position.upTo_iff]
    simp only
    omega

theorem before_positionAt {offset later : Nat} (hlt : offset < later)
    (hlater : later ≤ d.text.length) :
    (d.positionAt offset).before (d.positionAt later) = true := by
  rw [Position.before_iff_not_upTo, ← d.le_offsetAt_iff hlater (Int.natCast_nonneg _)
    (Int.natCast_nonneg _), d.offsetAt_positionAt (by omega)]
  omega

/-- **The positions of a text** are those that their offset leads back to: on a
line that is there, in a column up to its end. -/
theorem positionAt_offsetAt_iff {p : Position} (hline : 0 ≤ p.line) (hcharacter : 0 ≤ p.character) :
    d.positionAt (d.offsetAt p) = p ↔
      p.line < d.lineCount ∧ p.character ≤ ((splitLines d.text).getD p.line.toNat []).length := by
  by_cases hcount : p.line < d.lineCount
  · obtain ⟨ls, line, ls', hsplit, hnumber, hget⟩ := d.exists_line_of_lt hline hcount
    -- the line up to the column, or the whole line
    have hcut : splitLines d.text =
        ls ++ (line.take p.character.toNat ++ line.drop p.character.toNat) :: ls' := by
      rw [List.take_append_drop]
      exact hsplit
    have hoffset : d.offsetAt p =
        ((closedLines ls).length + (line.take p.character.toNat).length : Nat) := by
      rw [d.offsetAt_of_line hsplit hnumber, List.length_take]
      omega
    rw [hoffset, d.positionAt_of_line hcut, hget, List.length_take, Position.ext_iff]
    simp only [hcount, true_and]
    omega
  · obtain ⟨ks, before, after, ks', hsplit, hend⟩ := d.exists_line_of_offset (Nat.le_refl _)
    have hlast := d.length_lt_lineCount hsplit
    rw [d.offsetAt_of_lineCount_le (Int.not_lt.mp hcount), hend, d.positionAt_of_line hsplit,
      Position.ext_iff]
    simp only
    omega

theorem positionAt_of_outside (offset : Int) :
    (offset < 0 → d.positionAt offset = d.positionAt 0) ∧
      (d.text.length < offset → d.positionAt offset = d.positionAt d.text.length) := by
  refine ⟨fun h => ?_, fun h => ?_⟩
  · unfold positionAt
    rw [Int.toNat_of_nonpos (by omega), Int.toNat_zero]
  · unfold positionAt
    rw [List.take_of_length_le (by omega), Int.toNat_natCast, List.take_length]

/-- **Offsets and positions correspond.** An offset of the text comes before
that of a position exactly if its own position comes before that position. The
position of an offset leads back to the offset, and the offset of a position
leads back to the position exactly if it is one of the text. An offset outside
the text has the position of the nearest one inside. -/
theorem positions_correspond :
    (∀ (offset : Int) (p : Position), 0 ≤ offset → offset ≤ d.text.length →
      0 ≤ p.line → 0 ≤ p.character →
      (offset ≤ d.offsetAt p ↔ (d.positionAt offset).upTo p = true)) ∧
    (∀ offset : Int, 0 ≤ offset → offset ≤ d.text.length →
      d.offsetAt (d.positionAt offset) = offset) ∧
    (∀ p : Position, 0 ≤ p.line → 0 ≤ p.character →
      (d.positionAt (d.offsetAt p) = p ↔ p.line < d.lineCount ∧
        p.character ≤ ((splitLines d.text).getD p.line.toNat []).length)) ∧
    ∀ offset : Int, (offset < 0 → d.positionAt offset = d.positionAt 0) ∧
      (d.text.length < offset → d.positionAt offset = d.positionAt d.text.length) := by
  refine ⟨fun offset p hpos hle hline hcharacter => ?_, fun offset hpos hle => ?_,
    fun p hline hcharacter => d.positionAt_offsetAt_iff hline hcharacter, d.positionAt_of_outside⟩
  · obtain ⟨offset, rfl⟩ := Int.eq_ofNat_of_zero_le hpos
    exact d.le_offsetAt_iff (by omega) hline hcharacter
  · obtain ⟨offset, rfl⟩ := Int.eq_ofNat_of_zero_le hpos
    exact d.offsetAt_positionAt (by omega)

/-- A text with a carriage return, an empty line and a newline at its end. -/
def textWithEmptyLines : Document where
  text := "a\r\n\nb\n".toList

/-- A column past the end of its line stands for the newline that ends it, and
a line past the end for the end of the text. The empty last line is a line. -/
theorem positions_correspond_past_end :
    ((2 : Int) ≤ textWithEmptyLines.offsetAt ⟨0, 9⟩ ∧
      ¬ (3 : Int) ≤ textWithEmptyLines.offsetAt ⟨0, 9⟩) ∧
    (6 : Int) ≤ textWithEmptyLines.offsetAt ⟨7, 0⟩ ∧
    textWithEmptyLines.offsetAt (textWithEmptyLines.positionAt 4) = 4 ∧
    textWithEmptyLines.positionAt (textWithEmptyLines.offsetAt ⟨3, 0⟩) = ⟨3, 0⟩ ∧
    textWithEmptyLines.positionAt (textWithEmptyLines.offsetAt ⟨3, 1⟩) ≠ ⟨3, 1⟩ ∧
    textWithEmptyLines.positionAt (-1) = textWithEmptyLines.positionAt 0 ∧
    textWithEmptyLines.positionAt 9 = textWithEmptyLines.positionAt 6 := by
  obtain ⟨horder, hoffset, hposition, houtside⟩ := positions_correspond textWithEmptyLines
  refine ⟨⟨?_, ?_⟩, ?_, ?_, ?_, ?_, ?_, ?_⟩
  · exact (horder 2 ⟨0, 9⟩ (by decide) (by decide) (by decide) (by decide)).mpr (by decide)
  · rw [horder 3 ⟨0, 9⟩ (by decide) (by decide) (by decide) (by decide)]
    decide
  · exact (horder 6 ⟨7, 0⟩ (by decide) (by decide) (by decide) (by decide)).mpr (by decide)
  · exact hoffset 4 (by decide) (by decide)
  · exact (hposition ⟨3, 0⟩ (by decide) (by decide)).mpr (by decide)
  · rw [Ne, hposition ⟨3, 1⟩ (by decide) (by decide)]
    decide
  · exact (houtside (-1)).1 (by decide)
  · exact (houtside 9).2 (by decide)

end Document

end StyleCheck
