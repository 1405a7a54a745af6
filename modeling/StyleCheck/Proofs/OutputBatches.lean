/-
# Outputs one behind the other

The analyzer's output is read line by line, and what one line reports does not hang on
the others. So an output with a line break in it reports what the text in front of the
break reports, and then what the text behind it reports
(`value_parseOutput_append`). This holds for every character that breaks a line, and
also where the break and a character beside it are one break, a carriage return and a
newline: at most an empty line comes in or goes away, and an empty line reports nothing
(`flatMap_outputLinesFrom_append`).

A line is passed over exactly if it cannot be cut into the parts of a report, or its
numbers cannot be used (`isNone_parseOutputLine_iff`). Every other line gives one
diagnostic, and such lines may be put in between any two others without any effect on
these (`parseOutput_batches`).

Key definitions: `OutputLine.HasFlawedNumbers`, `IsPassedOver`, `Reports`.
Key theorems: `flatMap_outputLinesFrom_append`, `value_parseOutput_append`,
`isNone_parseOutputLine_iff`, `forall₂_reports`, `parseOutput_batches`.
-/
import Mathlib.Data.List.Forall2
import StyleCheck.Proofs.OutputShapes

namespace StyleCheck

open Text

/-! ### Lines of two texts -/

namespace Text

section Append

variable {α : Type} (gives : List Char → List α) {c : Char}

/-- A break ends the current line. If it is one break with the newline behind it, the
lines behind it by themselves have an empty one in front. -/
theorem flatMap_outputLinesFrom_break (hempty : gives [] = []) (hc : isLineBreak c = true)
    (line text : List Char) :
    (outputLinesFrom line (c :: text)).flatMap gives =
      gives line.reverse ++ (outputLines text).flatMap gives := by
  by_cases hpair : ∃ rest, c = '\r' ∧ text = '\n' :: rest
  · obtain ⟨rest, rfl, rfl⟩ := hpair
    have hone : outputLinesFrom line ('\r' :: '\n' :: rest) = line.reverse :: outputLines rest :=
      rfl
    have htwo : outputLines ('\n' :: rest) = [] :: outputLines rest := rfl
    rw [hone, htwo, List.flatMap_cons, List.flatMap_cons, hempty, List.nil_append]
  · have hbreak : outputLinesFrom line (c :: text) = line.reverse :: outputLines text := by
      rw [outputLinesFrom, if_pos hc]
      · rfl
      · exact fun rest hreturn hnewline => hpair ⟨rest, hreturn, hnewline⟩
    rw [hbreak, List.flatMap_cons]

/-- **Lines at a break.** Whatever is taken from the lines of a text, if an empty line
gives nothing, then a text with a break gives what the text in front of the break
gives, and then what the text behind it gives. -/
theorem flatMap_outputLinesFrom_append (hempty : gives [] = []) (hc : isLineBreak c = true)
    (b line a : List Char) :
    (outputLinesFrom line (a ++ c :: b)).flatMap gives =
      (outputLinesFrom line a).flatMap gives ++ (outputLines b).flatMap gives := by
  fun_induction outputLinesFrom line a with
  | case1 line hline =>
    rw [List.nil_append, flatMap_outputLinesFrom_break gives hempty hc, List.isEmpty_iff.mp hline,
      List.reverse_nil, hempty]
    rfl
  | case2 line hline =>
    rw [List.nil_append, flatMap_outputLinesFrom_break gives hempty hc, List.flatMap_singleton]
  | case3 line cs ih =>
    have hpair : outputLinesFrom line ('\r' :: '\n' :: cs ++ c :: b) =
        line.reverse :: outputLinesFrom [] (cs ++ c :: b) := rfl
    rw [hpair, List.flatMap_cons, List.flatMap_cons, ih, List.append_assoc]
  | case4 line d cs _ hd ih =>
    -- the newline of a pair may stand in front of the seam or be the break itself
    rw [List.cons_append, flatMap_outputLinesFrom_break gives hempty hd, outputLines, ih,
      List.flatMap_cons, List.append_assoc]
  | case5 line d cs _ hd ih =>
    rw [List.cons_append, outputLinesFrom_unbroken (Bool.eq_false_iff.mpr hd), ih]

end Append

end Text

/-! ### Outputs -/

theorem events_parseOutputLines (d : Document) (lines : List (List Char)) :
    (parseOutputLines d lines).events =
      lines.flatMap fun line => (parseOutputLine d line).events := by
  induction lines with
  | nil => rfl
  | cons line lines ih =>
    simp only [parseOutputLines, Traced.events_bind, Traced.events_pure, List.append_nil,
      List.flatMap_cons, ih]

section Seam

variable (d : Document) {c : Char} (hc : isLineBreak c = true) (a b : List Char)

include hc

/-- **Reading goes along with putting outputs together**: an output with a line break
reports what its two parts report. -/
theorem value_parseOutput_append : (parseOutput d (a ++ c :: b)).value =
    (parseOutput d a).value ++ (parseOutput d b).value := by
  have hempty : (parseOutputLine d []).value.toList = [] := rfl
  unfold parseOutput
  rw [value_parseOutputLines, value_parseOutputLines, value_parseOutputLines]
  exact flatMap_outputLinesFrom_append (fun line => (parseOutputLine d line).value.toList) hempty
    hc b [] a

theorem events_parseOutput_append : (parseOutput d (a ++ c :: b)).events =
    (parseOutput d a).events ++ (parseOutput d b).events := by
  have hempty : (parseOutputLine d []).events = [] := rfl
  unfold parseOutput
  rw [events_parseOutputLines, events_parseOutputLines, events_parseOutputLines]
  exact flatMap_outputLinesFrom_append (fun line => (parseOutputLine d line).events) hempty hc b
    [] a

end Seam

/-! ### Lines that are passed over -/

/-- The numbers of a line cannot be used: one of them is zero or too long. -/
def OutputLine.HasFlawedNumbers (o : OutputLine) : Prop :=
  (maxIntegerDigits < o.line.length ∨ maxIntegerDigits < o.column.length) ∨
    decimalValue o.line = 0 ∨ decimalValue o.column = 0

/-- The line reports nothing: it cannot be cut into the parts of a report, or its numbers
cannot be used. -/
def IsPassedOver (line : List Char) : Prop :=
  (¬ ∃ o, OutputLine.IsWrittenAs o (trim line)) ∨
    ∃ o, OutputLine.read? line = some o ∧ o.HasFlawedNumbers

/-- The line is read and reports the diagnostic. -/
def Reports (d : Document) (line : List Char) (diagnostic : Diagnostic) : Prop :=
  ∃ o, OutputLine.read? line = some o ∧ o.diagnose d = .ok diagnostic

/-- **Flawed numbers are the only reason** for which a line that is read reports nothing. -/
theorem OutputLine.diagnose_cases (o : OutputLine) (d : Document) :
    (o.HasFlawedNumbers ∧ ∃ flaw, o.diagnose d = .error flaw) ∨
      (¬ o.HasFlawedNumbers ∧ ∃ diagnostic, o.diagnose d = .ok diagnostic) := by
  unfold HasFlawedNumbers diagnose number
  by_cases hline : o.line.length ≤ maxIntegerDigits
  · by_cases hcolumn : o.column.length ≤ maxIntegerDigits
    · by_cases hzero : decimalValue o.line = 0 ∨ decimalValue o.column = 0
      · left
        refine ⟨Or.inr hzero, .notFromOne, ?_⟩
        rw [if_pos hline, if_pos hcolumn]
        simp only [bind, Except.bind, if_pos hzero]
        rfl
      · right
        refine ⟨fun hflawed => ?_, ?_⟩
        · rcases hflawed with hlong | hflawed
          · omega
          · exact hzero hflawed
        · rw [if_pos hline, if_pos hcolumn]
          simp only [bind, Except.bind, if_neg hzero]
          exact ⟨_, rfl⟩
    · left
      refine ⟨Or.inl (Or.inr (by omega)), .tooManyDigits o.column.length, ?_⟩
      rw [if_pos hline, if_neg hcolumn]
      rfl
  · left
    refine ⟨Or.inl (Or.inl (by omega)), .tooManyDigits o.line.length, ?_⟩
    rw [if_neg hline]
    rfl

/-- **The two kinds of lines.** A line is passed over and gives nothing, or it is not and
gives what it reports. -/
theorem parseOutputLine_cases (d : Document) (line : List Char) :
    (IsPassedOver line ∧ (parseOutputLine d line).value = none) ∨
      (¬ IsPassedOver line ∧ ∃ diagnostic, Reports d line diagnostic ∧
        (parseOutputLine d line).value = some diagnostic) := by
  unfold parseOutputLine IsPassedOver
  rw [← OutputLine.read?_isSome_iff]
  cases hread : OutputLine.read? line with
  | none =>
    left
    exact ⟨Or.inl nofun, rfl⟩
  | some o =>
    rcases o.diagnose_cases d with ⟨hflawed, flaw, hdiagnose⟩ | ⟨hnot, diagnostic, hdiagnose⟩
    · left
      refine ⟨Or.inr ⟨o, rfl, hflawed⟩, ?_⟩
      simp only [hdiagnose, Traced.value_bind, Traced.value_pure]
    · right
      refine ⟨?_, diagnostic, ⟨o, hread, hdiagnose⟩, ?_⟩
      · rintro (hunread | ⟨o', ho', hflawed⟩)
        · exact hunread ⟨o, rfl⟩
        · obtain rfl := Option.some.inj ho'
          exact hnot hflawed
      · simp only [hdiagnose, Traced.value_pure]

/-- **Exactly the lines that are passed over give nothing**, about whatever document. -/
theorem isNone_parseOutputLine_iff (d : Document) (line : List Char) :
    (parseOutputLine d line).value.isNone = true ↔ IsPassedOver line := by
  rcases parseOutputLine_cases d line with ⟨hpassed, hnone⟩ | ⟨hnot, diagnostic, -, hsome⟩
  · exact iff_of_true (by rw [hnone]; rfl) hpassed
  · exact iff_of_false (by rw [hsome]; exact nofun) hnot

instance (line : List Char) : Decidable (IsPassedOver line) :=
  decidable_of_iff _ (isNone_parseOutputLine_iff { text := [] } line)

/-- **Every other line gives one diagnostic**, in order. -/
theorem forall₂_reports (d : Document) (lines : List (List Char)) :
    List.Forall₂ (Reports d) (lines.filter fun line => ¬ IsPassedOver line)
      (parseOutputLines d lines).value := by
  rw [value_parseOutputLines]
  induction lines with
  | nil => exact .nil
  | cons line lines ih =>
    rw [List.flatMap_cons]
    rcases parseOutputLine_cases d line with ⟨hpassed, hnone⟩ | ⟨hnot, diagnostic, hreports, hsome⟩
    · rw [List.filter_cons_of_neg (by simpa using hpassed), hnone]
      exact ih
    · rw [List.filter_cons_of_pos (by simpa using hnot), hsome]
      exact .cons hreports ih

theorem value_parseOutput_of_passedOver (d : Document) {output : List Char}
    (h : ∀ line ∈ outputLines output, IsPassedOver line) : (parseOutput d output).value = [] := by
  have hreports := forall₂_reports d (outputLines output)
  have hnone : (outputLines output).filter (fun line => ¬ IsPassedOver line) = [] := by
    rw [List.filter_eq_nil_iff]
    intro line hline
    simpa using h line hline
  rw [hnone, List.forall₂_nil_left_iff] at hreports
  exact hreports

/-- **Outputs in batches.** Where a character breaks a line of an output, a newline for
one, the output reports what the text in front of it reports, followed by what the text
behind it reports, and leaves the notes of the two in this order. Every output gives one
diagnostic for each line that is not passed over, in order. So lines that are passed over,
put in behind any line, neither add nor remove nor change a diagnostic. -/
theorem parseOutput_batches (d : Document) (a b : List Char) (c : Char)
    (hc : isLineBreak c = true) :
    (parseOutput d (a ++ c :: b)).value = (parseOutput d a).value ++ (parseOutput d b).value ∧
    (parseOutput d (a ++ c :: b)).events = (parseOutput d a).events ++ (parseOutput d b).events ∧
    List.Forall₂ (Reports d) ((outputLines a).filter fun line => ¬ IsPassedOver line)
      (parseOutput d a).value ∧
    ∀ passed c', isLineBreak c' = true → (∀ line ∈ outputLines passed, IsPassedOver line) →
      (parseOutput d (a ++ c :: (passed ++ c' :: b))).value =
        (parseOutput d (a ++ c :: b)).value := by
  refine ⟨value_parseOutput_append d hc a b, events_parseOutput_append d hc a b,
    forall₂_reports d (outputLines a), fun passed c' hc' hpassed => ?_⟩
  calc (parseOutput d (a ++ c :: (passed ++ c' :: b))).value
      = (parseOutput d a).value ++ ((parseOutput d passed).value ++ (parseOutput d b).value) := by
        rw [value_parseOutput_append d hc, value_parseOutput_append d hc']
    _ = (parseOutput d a).value ++ (parseOutput d b).value := by
        rw [value_parseOutput_of_passedOver d hpassed, List.nil_append]
    _ = (parseOutput d (a ++ c :: b)).value := (value_parseOutput_append d hc a b).symm

/-- A report behind which a carriage return stands. -/
def reportBeforeReturn : List Char :=
  "a.c:1:2: warning: first [r-one]\r".toList

/-- A line without the shape of a report, one whose line number is zero, and one without
a grade. -/
def linesWithoutReport : List Char :=
  "In file included from a.c:\n a.c:0:4: error: none [r-none]\u2028a.c:3:4: fine: m [r]".toList

/-- Between the two reports, these lines change nothing; and the carriage return in front of
the newline is one break with it. -/
theorem parseOutput_batches_without_report :
    (isLineBreak '\n' = true ∧ isLineBreak '\x0b' = true ∧
      ∀ line ∈ outputLines linesWithoutReport, IsPassedOver line) ∧
    (parseOutput { text := [] } (reportBeforeReturn ++ '\n' :: (linesWithoutReport ++ '\x0b' ::
        "b.c:3:4: error: second [r-two]".toList))).value.map (fun d => (d.ruleId, d.severity)) =
      [("r-one", .warning), ("r-two", .error)] := by
  have hnewline : isLineBreak '\n' = true := by decide
  have htab : isLineBreak '\x0b' = true := by decide
  have hpassed : ∀ line ∈ outputLines linesWithoutReport, IsPassedOver line := by decide +kernel
  obtain ⟨hvalue, -, -, hinsert⟩ := parseOutput_batches { text := [] } reportBeforeReturn
    "b.c:3:4: error: second [r-two]".toList '\n' hnewline
  refine ⟨⟨hnewline, htab, hpassed⟩, ?_⟩
  rw [hinsert linesWithoutReport '\x0b' htab hpassed, hvalue]
  rfl

end StyleCheck
