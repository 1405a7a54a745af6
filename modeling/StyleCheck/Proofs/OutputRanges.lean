/-
# What a report highlights

A line of the analyzer's output names a line and a column of the document, and these
may be any numbers. Where the document has the line, and the column is at most the
line's length, the highlight goes from there through the first semicolon, or, without
one, to the end of the line (`Document.textIn_report`). Everywhere else it is empty, and
it stays where the report says (`endColumn_of_outside`). In both cases it lies on one
line and does not end before it begins (`parseOutput_ranges`).

Key definitions: `throughSemicolon`, `Range.BeginsOn`, `Document.IsReportRange`.
Key theorems: `endColumn_of_line`, `endColumn_of_outside`, `Document.textIn_report`,
`parseOutput_ranges`.
-/
import StyleCheck.Proofs.LineParts
import StyleCheck.Proofs.OutputBatches

namespace StyleCheck

open Text

/-! ### Up to a semicolon -/

/-- The text up to its first semicolon and with it, or else the whole text. -/
def throughSemicolon (text : List Char) : List Char :=
  text.takeWhile (· ≠ ';') ++ (text.dropWhile (· ≠ ';')).take 1

theorem throughSemicolon_of_cut {before after : List Char} (h : ';' ∉ before) :
    throughSemicolon (before ++ ';' :: after) = before ++ [';'] := by
  rw [throughSemicolon, Source.takeWhile_append_stop after h, Source.dropWhile_append_stop after h]
  rfl

theorem throughSemicolon_of_not_mem {text : List Char} (h : ';' ∉ text) :
    throughSemicolon text = text := by
  have hall : ∀ c ∈ text, decide (c ≠ ';') = true :=
    fun c hc => decide_eq_true fun heq => h (heq ▸ hc)
  rw [throughSemicolon, List.takeWhile_eq_self_iff.mpr hall, List.dropWhile_eq_nil_iff.mpr hall,
    List.take_nil, List.append_nil]

theorem eq_nil_of_throughSemicolon {text before after : List Char}
    (h : throughSemicolon text = before ++ ';' :: after) : after = [] := by
  by_cases hmem : ';' ∈ text
  · obtain ⟨u, v, rfl, hu⟩ := List.eq_append_cons_of_mem hmem
    rw [throughSemicolon_of_cut hu] at h
    rcases List.eq_nil_or_concat after with hnil | ⟨init, last, rfl⟩
    · exact hnil
    · -- the semicolon would stand in front of the first one
      rw [List.concat_eq_append, ← List.cons_append, ← List.append_assoc] at h
      exact absurd (by rw [(List.append_inj' h rfl).1]; simp) hu
  · rw [throughSemicolon_of_not_mem hmem] at h
    exact absurd (by rw [h]; simp) hmem

theorem getLast?_throughSemicolon {text : List Char} (h : ';' ∈ text) :
    (throughSemicolon text).getLast? = some ';' := by
  obtain ⟨before, after, rfl, hbefore⟩ := List.eq_append_cons_of_mem h
  rw [throughSemicolon_of_cut hbefore, List.getLast?_concat]

theorem prefix_throughSemicolon (text : List Char) : throughSemicolon text <+: text := by
  by_cases hmem : ';' ∈ text
  · obtain ⟨before, after, rfl, hbefore⟩ := List.eq_append_cons_of_mem hmem
    rw [throughSemicolon_of_cut hbefore]
    exact ⟨after, by rw [List.append_assoc, List.singleton_append]⟩
  · exact ⟨[], by rw [throughSemicolon_of_not_mem hmem, List.append_nil]⟩

/-! ### The end of a report's range -/

namespace OutputLine

variable {d : Document} {line column : Nat} {text : List Char}

/-- On a line of the document a report goes through the next semicolon. -/
theorem endColumn_of_line (h : d.lineText line = .ok text) (hcolumn : column ≤ text.length) :
    endColumn d line column = column + (throughSemicolon (text.drop column)).length := by
  unfold endColumn
  rw [h]
  simp only
  split
  · rename_i distance hdistance
    obtain ⟨⟨before, after, hcut, rfl⟩, hleast⟩ := indexOf?_eq_some_iff.mp hdistance
    have hbefore : ';' ∉ before := by
      intro hmem
      obtain ⟨u, v, rfl⟩ := List.append_of_mem hmem
      have hearlier := hleast ⟨u, v ++ ';' :: after, by simpa using hcut, rfl⟩
      rw [List.length_append, List.length_cons] at hearlier
      omega
    rw [hcut, List.singleton_append, throughSemicolon_of_cut hbefore, List.length_append,
      List.length_singleton, Nat.add_assoc]
  · rename_i hnone
    have hfree : ';' ∉ text.drop column := fun hmem => by
      obtain ⟨offset, hstands⟩ := exists_standsAt_singleton_iff.mpr hmem
      exact indexOf?_eq_none_iff.mp hnone offset hstands
    rw [throughSemicolon_of_not_mem hfree, List.length_drop]
    omega

theorem endColumn_of_outside (h : ∀ text, d.lineText line = .ok text → text.length < column) :
    endColumn d line column = column := by
  unfold endColumn
  split
  · rfl
  · rename_i text htext
    have hlt := h text htext
    have hnone : indexOf? [';'] (text.drop column) = none := by
      rw [List.drop_of_length_le (by omega)]
      rfl
    rw [hnone]
    simp only
    omega

theorem range_of_diagnose {o : OutputLine} {diagnostic : Diagnostic}
    (h : o.diagnose d = .ok diagnostic) :
    ∃ line column : Nat, decimalValue o.line = line + 1 ∧ decimalValue o.column = column + 1 ∧
      diagnostic.range = Range.onLine line column (endColumn d line column) := by
  unfold diagnose number at h
  split at h
  · split at h
    · simp only [bind, Except.bind] at h
      split at h
      · exact absurd h nofun
      · rename_i hnonzero
        have hrange := congrArg Diagnostic.range (Except.ok.inj h)
        refine ⟨_, _, ?_, ?_, hrange.symm⟩
        · omega
        · omega
    · exact absurd h nofun
  · exact absurd h nofun

end OutputLine

theorem exists_reports_of_mem_parseOutput {d : Document} {output : List Char}
    {diagnostic : Diagnostic} (h : diagnostic ∈ (parseOutput d output).value) :
    ∃ line ∈ outputLines output, Reports d line diagnostic := by
  rw [parseOutput, value_parseOutputLines] at h
  obtain ⟨line, hline, hmem⟩ := List.mem_flatMap.mp h
  refine ⟨line, hline, ?_⟩
  rcases parseOutputLine_cases d line with ⟨-, hnone⟩ | ⟨-, reported, hreports, hsome⟩
  · rw [hnone] at hmem
    exact absurd hmem List.not_mem_nil
  · rw [hsome] at hmem
    rwa [List.mem_singleton.mp hmem]

/-! ### Ranges of reports -/

/-- The range begins on this line of the document, or at the line's end. -/
def Range.BeginsOn (r : Range) (d : Document) (text : List Char) : Prop :=
  d.lineText r.start.line = .ok text ∧ r.start.character ≤ text.length

/-- What the range of a report about a document is like, wherever the report places it. -/
structure Document.IsReportRange (d : Document) (r : Range) : Prop where
  single_line : r.isSingleLine = true
  line_nonneg : 0 ≤ r.start.line
  column_nonneg : 0 ≤ r.start.character
  columns_le : r.start.character ≤ r.stop.character
  /-- On a line of the document it stays there. -/
  stop_le : ∀ text, r.BeginsOn d text → r.stop.character ≤ text.length
  /-- A semicolon that is highlighted is the last character. -/
  one_semicolon : ∀ text, r.BeginsOn d text →
    ∀ before after, d.textIn r = before ++ ';' :: after → after = []
  /-- If there is a semicolon to highlight, the highlight ends with it. -/
  through_semicolon : ∀ text, r.BeginsOn d text → ';' ∈ text.drop r.start.character.toNat →
    (d.textIn r).getLast? = some ';'
  /-- If there is none, the rest of the line is highlighted. -/
  to_end : ∀ text, r.BeginsOn d text → ';' ∉ text.drop r.start.character.toNat →
    d.textIn r = text.drop r.start.character.toNat
  /-- Outside the document it is empty. -/
  outside : (∀ text, ¬ r.BeginsOn d text) → r.stop = r.start

namespace Document

variable (d : Document) {line column : Nat} {text : List Char}

/-- **What a report highlights** on a line of the document. -/
theorem textIn_report (h : d.lineText line = .ok text) (hcolumn : column ≤ text.length) :
    OutputLine.endColumn d line column ≤ text.length ∧
      d.textIn (Range.onLine line column (OutputLine.endColumn d line column)) =
        throughSemicolon (text.drop column) := by
  have hbegins := prefix_throughSemicolon (text.drop column)
  have hlength := hbegins.length_le
  rw [List.length_drop] at hlength
  rw [OutputLine.endColumn_of_line h hcolumn]
  refine ⟨by omega, ?_⟩
  rw [d.textIn_onLine h (by omega) (by omega), List.drop_take, Nat.add_sub_cancel_left]
  exact (List.prefix_iff_eq_take.mp hbegins).symm

theorem isReportRange_onLine (line column : Nat) :
    d.IsReportRange (Range.onLine line column (OutputLine.endColumn d line column)) := by
  have hle : column ≤ OutputLine.endColumn d line column := by
    by_cases hinside : ∃ text, d.lineText line = .ok text ∧ column ≤ text.length
    · obtain ⟨text, htext, hcolumn⟩ := hinside
      rw [OutputLine.endColumn_of_line htext hcolumn]
      omega
    · rw [OutputLine.endColumn_of_outside fun text htext =>
        Nat.lt_of_not_le fun hcolumn => hinside ⟨text, htext, hcolumn⟩]
  have hinside : ∀ text,
      (Range.onLine line column (OutputLine.endColumn d line column)).BeginsOn d text →
        OutputLine.endColumn d line column ≤ text.length ∧
          d.textIn (Range.onLine line column (OutputLine.endColumn d line column)) =
            throughSemicolon (text.drop column) :=
    fun text hbegins => d.textIn_report hbegins.1 (Int.ofNat_le.mp hbegins.2)
  refine ⟨Range.isSingleLine_onLine _ _ _, Int.natCast_nonneg line,
    Int.natCast_nonneg column, Int.ofNat_le.mpr hle,
    fun text hbegins => Int.ofNat_le.mpr (hinside text hbegins).1, ?_, ?_, ?_, ?_⟩
  · intro text hbegins before after hcut
    rw [(hinside text hbegins).2] at hcut
    exact eq_nil_of_throughSemicolon hcut
  · intro text hbegins hmem
    rw [(hinside text hbegins).2]
    exact getLast?_throughSemicolon hmem
  · intro text hbegins hfree
    rw [(hinside text hbegins).2]
    exact throughSemicolon_of_not_mem hfree
  · intro houtside
    rw [OutputLine.endColumn_of_outside fun text htext => Nat.lt_of_not_le fun hcolumn =>
      houtside text ⟨htext, Int.ofNat_le.mpr hcolumn⟩]
    rfl

end Document

/-- **The ranges of reports are well formed.** Every diagnostic of an output is reported by
one of its lines and begins where that line says, counted from one there and from zero here;
its range lies on one line and does not end before it begins. If it begins on a line of the
document, it stays on it and covers the text through the next semicolon, or the rest of the
line if there is none; otherwise it is empty. -/
theorem parseOutput_ranges (d : Document) (output : List Char) (diagnostic : Diagnostic)
    (h : diagnostic ∈ (parseOutput d output).value) :
    d.IsReportRange diagnostic.range ∧
      ∃ line ∈ outputLines output, ∃ o, OutputLine.read? line = some o ∧
        diagnostic.range.start =
          ⟨(decimalValue o.line : Int) - 1, (decimalValue o.column : Int) - 1⟩ := by
  obtain ⟨reported, hreported, o, hread, hdiagnose⟩ := exists_reports_of_mem_parseOutput h
  obtain ⟨line, column, hline, hcolumn, hrange⟩ := OutputLine.range_of_diagnose hdiagnose
  refine ⟨?_, reported, hreported, o, hread, ?_⟩
  · rw [hrange]
    exact d.isReportRange_onLine line column
  · rw [hrange, hline, hcolumn]
    simp [Range.onLine]

/-- A source with two statements on a line that ends with a carriage return. -/
def sourceOfTwoStatements : Document where
  text := "int a; int b; \r\nint c".toList

/-- A report about the second statement, with a wide digit for the line, and two about places
that the source does not have. -/
def reportsOfPlaces : List Char :=
  "a.c:１:8: error: b [r-in]\na.c:1:16: note: blank [r-behind]\na.c:99:3: note: none [r-below]".toList

/-- What the first of them says. -/
def reportOfSecondStatement : Diagnostic where
  range := Range.onLine 0 7 13
  message := "b [r-in]"
  severity := .error
  ruleId := "r-in"
  origin := .analyzer
  details := [("path", .text "a.c")]

/-- The statement is highlighted with its semicolon; the other two highlights are empty. -/
theorem parseOutput_ranges_wide_digit :
    (reportOfSecondStatement ∈ (parseOutput sourceOfTwoStatements reportsOfPlaces).value ∧
      (parseOutput sourceOfTwoStatements reportsOfPlaces).value.map (·.range) =
        [Range.onLine 0 7 13, Range.onLine 0 15 15, Range.onLine 98 2 2]) ∧
    sourceOfTwoStatements.IsReportRange reportOfSecondStatement.range ∧
      ∃ line ∈ outputLines reportsOfPlaces, ∃ o, OutputLine.read? line = some o ∧
        reportOfSecondStatement.range.start =
          ⟨(decimalValue o.line : Int) - 1, (decimalValue o.column : Int) - 1⟩ := by
  have hvalue : ∃ others, (parseOutput sourceOfTwoStatements reportsOfPlaces).value =
      reportOfSecondStatement :: others ∧
        others.map (·.range) = [Range.onLine 0 15 15, Range.onLine 98 2 2] := ⟨_, rfl, rfl⟩
  obtain ⟨others, hvalue, hothers⟩ := hvalue
  have hmem : reportOfSecondStatement ∈
      (parseOutput sourceOfTwoStatements reportsOfPlaces).value := by
    rw [hvalue]
    exact List.mem_cons_self
  refine ⟨⟨hmem, ?_⟩, parseOutput_ranges _ _ reportOfSecondStatement hmem⟩
  rw [hvalue, List.map_cons, hothers]
  rfl

end StyleCheck
