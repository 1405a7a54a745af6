/-
# Parts of a line

The lines of a document are those of its text without the carriage returns at their
ends. So a column up to the end of such a line is a column of the text's own line, and
the part of the line between two columns is the text of the range between them
(`Document.textIn_onLine`): no offset is off by what was taken away at the end of an
earlier line.

A line that is not there is an error, whose message shows its number and that of the last
line. Where one of the two has too many digits there is no message, and the error is
another one (`Document.MessageTooLong`).

What a search for a word finds on a line is the least offset at which the word stands
there, and it finds nothing exactly if the word stands nowhere (`indexOf?_eq_some_iff`,
`indexOf?_eq_none_iff`).

Key definitions: `StandsAt`, `Document.MessageTooLong`.
Key theorems: `indexOf?_eq_some_iff`, `indexOf?_eq_none_iff`,
`Document.exists_text_of_lineText`, `Document.exists_lineText_iff`,
`Document.exists_message_of_outside`, `Document.textIn_onLine`.
-/
import Mathlib.Order.Bounds.Basic
import StyleCheck.Proofs.FailingSteps
import StyleCheck.Proofs.PositionOrder
import StyleCheck.Proofs.Words

namespace StyleCheck.Text

/-! ### The first place of a word -/

/-- The text goes on with `word` at `offset`. -/
def StandsAt (word text : List Char) (offset : Nat) : Prop :=
  ∃ before after, text = before ++ (word ++ after) ∧ before.length = offset

section StandsAt

variable {word text : List Char}

theorem standsAt_zero_iff : StandsAt word text 0 ↔ word <+: text := by
  constructor
  · rintro ⟨before, after, rfl, hzero⟩
    rw [List.length_eq_zero_iff.mp hzero]
    exact List.prefix_append word after
  · rintro ⟨after, rfl⟩
    exact ⟨[], after, rfl, rfl⟩

theorem standsAt_cons_succ_iff {c : Char} {offset : Nat} :
    StandsAt word (c :: text) (offset + 1) ↔ StandsAt word text offset := by
  constructor
  · rintro ⟨before, after, htext, hoffset⟩
    cases before with
    | nil => simp at hoffset
    | cons b before => exact ⟨before, after, (List.cons.inj htext).2, Nat.succ.inj hoffset⟩
  · rintro ⟨before, after, rfl, rfl⟩
    exact ⟨c :: before, after, rfl, rfl⟩

theorem standsAt_nil_iff {offset : Nat} : StandsAt word [] offset ↔ word = [] ∧ offset = 0 := by
  constructor
  · rintro ⟨before, after, hnil, rfl⟩
    simp only [List.nil_eq, List.append_eq_nil_iff] at hnil
    exact ⟨hnil.2.1, by rw [hnil.1]; rfl⟩
  · rintro ⟨rfl, rfl⟩
    exact ⟨[], [], rfl, rfl⟩

theorem exists_standsAt_singleton_iff {c : Char} : (∃ offset, StandsAt [c] text offset) ↔ c ∈ text := by
  constructor
  · rintro ⟨offset, before, after, rfl, -⟩
    simp
  · intro hc
    obtain ⟨before, after, rfl⟩ := List.append_of_mem hc
    exact ⟨before.length, before, after, rfl, rfl⟩

/-- **Nothing is found** exactly if the word stands nowhere. -/
theorem indexOf?_eq_none_iff : indexOf? word text = none ↔ ∀ offset, ¬ StandsAt word text offset := by
  induction text with
  | nil =>
    simp only [indexOf?, List.isEmpty_iff, standsAt_nil_iff]
    by_cases hword : word = []
    · simp [hword]
    · simp [hword]
  | cons c text ih =>
    rw [indexOf?]
    by_cases hhere : word <+: c :: text
    · rw [if_pos (List.isPrefixOf_iff_prefix.mpr hhere)]
      exact iff_of_false nofun fun hnone => hnone 0 (standsAt_zero_iff.mpr hhere)
    · rw [if_neg (mt List.isPrefixOf_iff_prefix.mp hhere), Option.map_eq_none_iff, ih]
      constructor
      · intro hnone offset hstands
        cases offset with
        | zero => exact hhere (standsAt_zero_iff.mp hstands)
        | succ offset => exact hnone offset (standsAt_cons_succ_iff.mp hstands)
      · exact fun hnone offset hstands => hnone (offset + 1) (standsAt_cons_succ_iff.mpr hstands)

theorem isLeast_of_indexOf? {offset : Nat} (h : indexOf? word text = some offset) :
    IsLeast {i | StandsAt word text i} offset := by
  induction text generalizing offset with
  | nil =>
    rw [indexOf?] at h
    split at h
    · rename_i hword
      rw [← Option.some.inj h]
      exact ⟨standsAt_nil_iff.mpr ⟨List.isEmpty_iff.mp hword, rfl⟩, fun i _ => Nat.zero_le i⟩
    · exact absurd h nofun
  | cons c text ih =>
    rw [indexOf?] at h
    split at h
    · rename_i hhere
      rw [← Option.some.inj h]
      exact ⟨standsAt_zero_iff.mpr (List.isPrefixOf_iff_prefix.mp hhere), fun i _ => Nat.zero_le i⟩
    · rename_i hhere
      obtain ⟨found, hfound, rfl⟩ := Option.map_eq_some_iff.mp h
      obtain ⟨hstands, hleast⟩ := ih hfound
      refine ⟨standsAt_cons_succ_iff.mpr hstands, fun i hi => ?_⟩
      cases i with
      | zero => exact absurd (List.isPrefixOf_iff_prefix.mpr (standsAt_zero_iff.mp hi)) hhere
      | succ i => exact Nat.succ_le_succ (hleast (standsAt_cons_succ_iff.mp hi))

/-- **A search finds the least place.** -/
theorem indexOf?_eq_some_iff {offset : Nat} :
    indexOf? word text = some offset ↔ IsLeast {i | StandsAt word text i} offset := by
  refine ⟨isLeast_of_indexOf?, fun hleast => ?_⟩
  cases hfound : indexOf? word text with
  | none => exact absurd hleast.1 (indexOf?_eq_none_iff.mp hfound offset)
  | some found => rw [(isLeast_of_indexOf? hfound).unique hleast]

end StandsAt

end StyleCheck.Text

namespace StyleCheck

open Text

@[simp]
theorem Range.isSingleLine_onLine (line first last : Int) :
    (Range.onLine line first last).isSingleLine = true := by
  simp [isSingleLine, onLine]

namespace Document

variable (d : Document) {line : Int} {text : List Char}

/-! ### The lines of a document -/

theorem length_lines : d.lines.length = d.lineCount := by
  rw [lines, List.length_map, length_splitLines, lineCount]

/-- The message about a line of this number that is not there would show a number of too
many digits: its own, or that of the last line. -/
def MessageTooLong (line : Int) : Prop :=
  10 ^ maxIntegerDigits ≤ line.natAbs ∨ 10 ^ maxIntegerDigits < d.lineCount

instance (line : Int) : Decidable (d.MessageTooLong line) :=
  inferInstanceAs (Decidable (_ ∨ _))

theorem missing_of_messageTooLong (h : d.MessageTooLong line) :
    LineError.missing line d.lineCount = .number .tooLong := by
  unfold LineError.missing outsideMessage
  cases hline : isWritable line with
  | false =>
    rw [writtenInteger_of_not_isWritable hline]
    rfl
  | true =>
    have hlast : isWritable ((d.lineCount : Int) - 1) = false := by
      rw [isWritable_iff] at hline
      rw [isWritable_eq_false_iff]
      rcases h with h | h <;> omega
    rw [writtenInteger_of_isWritable hline, writtenInteger_of_not_isWritable hlast]
    rfl

theorem exists_missing_eq_outside (h : ¬ d.MessageTooLong line) :
    ∃ message, LineError.missing line d.lineCount = .outside message := by
  rw [MessageTooLong, not_or, Nat.not_le, Nat.not_lt] at h
  obtain ⟨hshort, hfew⟩ := h
  have hline : isWritable line = true := isWritable_iff.mpr hshort
  have hlast : isWritable ((d.lineCount : Int) - 1) = true := by
    have hpos : 0 < d.lineCount := Nat.succ_pos _
    rw [isWritable_iff]
    omega
  rw [LineError.missing, outsideMessage, writtenInteger_of_isWritable hline,
    writtenInteger_of_isWritable hlast]
  exact ⟨_, rfl⟩

theorem lineText_of_outside (h : line < 0 ∨ d.lineCount ≤ line) :
    d.lineText line = .error (.missing line d.lineCount) := by
  have hnone : (if line < 0 then none else d.lines[line.toNat]?) = none := by
    by_cases hneg : line < 0
    · rw [if_pos hneg]
    · rw [if_neg hneg]
      refine List.getElem?_eq_none ?_
      rw [length_lines]
      omega
  rw [lineText, hnone, length_lines]

theorem lineText_of_messageTooLong (h : line < 0 ∨ d.lineCount ≤ line)
    (hlong : d.MessageTooLong line) : d.lineText line = .error (.number .tooLong) := by
  rw [d.lineText_of_outside h, d.missing_of_messageTooLong hlong]

theorem exists_message_of_outside (h : line < 0 ∨ d.lineCount ≤ line)
    (hshort : ¬ d.MessageTooLong line) :
    ∃ message, d.lineText line = .error (.outside message) := by
  obtain ⟨message, hmessage⟩ := d.exists_missing_eq_outside hshort
  exact ⟨message, by rw [d.lineText_of_outside h, hmessage]⟩

/-- A line of a document is a line of the text up to the carriage returns at its end. -/
theorem exists_line_of_lineText (h : d.lineText line = .ok text) :
    ∃ ls returns ls', splitLines d.text = ls ++ (text ++ returns) :: ls' ∧ line = ls.length ∧
      ∀ c ∈ returns, c = '\r' := by
  unfold lineText at h
  split at h
  · rename_i found hfound
    obtain rfl := Except.ok.inj h
    split at hfound
    · exact absurd hfound nofun
    · rename_i hnonneg
      rw [lines, List.getElem?_map] at hfound
      obtain ⟨whole, hwhole, rfl⟩ := Option.map_eq_some_iff.mp hfound
      obtain ⟨ls, ls', hsplit, hlength⟩ := Source.exists_cut_of_getElem? hwhole
      obtain ⟨returns, hreturns, hclass⟩ := Source.exists_dropEndWhile_append (· == '\r') whole
      exact ⟨ls, returns, ls', by rw [hreturns, hsplit], by omega,
        fun c hc => beq_iff_eq.mp (hclass c hc)⟩
  · exact absurd h nofun

theorem exists_lineText_iff :
    (∃ text, d.lineText line = .ok text) ↔ 0 ≤ line ∧ line < d.lineCount := by
  constructor
  · rintro ⟨text, htext⟩
    obtain ⟨ls, returns, ls', hsplit, rfl, -⟩ := d.exists_line_of_lineText htext
    have := d.length_lt_lineCount hsplit
    omega
  · rintro ⟨hnonneg, hlt⟩
    have hlines : line.toNat < d.lines.length := by
      rw [length_lines]
      omega
    refine ⟨d.lines[line.toNat], ?_⟩
    rw [lineText, if_neg (by omega), List.getElem?_eq_getElem hlines]

/-- A line as part of the text: its columns are positions there. -/
theorem exists_text_of_lineText (h : d.lineText line = .ok text) :
    ∃ before after, d.text = before ++ (text ++ after) ∧
      ∀ column ≤ text.length, d.positionAt (before.length + column : Nat) = ⟨line, column⟩ := by
  obtain ⟨ls, returns, ls', hsplit, rfl, -⟩ := d.exists_line_of_lineText h
  obtain ⟨rest, htext, -⟩ := exists_eq_append_of_splitLines hsplit
  refine ⟨closedLines ls, returns ++ rest, by rw [htext, List.append_assoc], ?_⟩
  intro column hcolumn
  have hcut : splitLines d.text =
      ls ++ (text.take column ++ (text.drop column ++ returns)) :: ls' := by
    rw [← List.append_assoc, List.take_append_drop]
    exact hsplit
  have hposition := d.positionAt_of_line hcut
  rwa [List.length_take, Nat.min_eq_left hcolumn] at hposition

/-- **The text of a range on a line** is the part of the line between its columns. -/
theorem textIn_onLine {first last : Nat} (h : d.lineText line = .ok text) (hle : first ≤ last)
    (hlast : last ≤ text.length) :
    d.textIn (Range.onLine line first last) = (text.take last).drop first := by
  obtain ⟨before, after, htext, hposition⟩ := d.exists_text_of_lineText h
  have hparts : text = text.take first ++ ((text.take last).drop first ++ text.drop last) := by
    have htake : (text.take last).take first = text.take first := by
      rw [List.take_take, Nat.min_eq_left hle]
    rw [← htake, ← List.append_assoc, List.take_append_drop, List.take_append_drop]
  have hwhole : d.text =
      (before ++ text.take first) ++ ((text.take last).drop first ++ (text.drop last ++ after)) := by
    rw [htext]
    conv_lhs => rw [hparts]
    simp only [List.append_assoc]
  have hbetween := d.textIn_between hwhole
  have hlength : (before ++ text.take first).length = before.length + first := by
    rw [List.length_append, List.length_take, Nat.min_eq_left (by omega)]
  have hlength' : ((text.take last).drop first).length = last - first := by
    rw [List.length_drop, List.length_take, Nat.min_eq_left hlast]
  rw [hlength, hlength', Nat.add_assoc, Nat.add_sub_cancel' hle, hposition first (by omega),
    hposition last hlast] at hbetween
  exact hbetween

end Document

end StyleCheck
