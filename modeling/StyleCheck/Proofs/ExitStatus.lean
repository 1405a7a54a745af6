/-
# The status of a check

The status of a check says whether the report holds a diagnostic that is too
severe. What the report holds is what the raw results hold and the rule words and
the threshold let pass (`Diagnostic.IsKept`), sorted file by file, and the status
follows from the most severe of it; all the same it says that *some* diagnostic of
*some* file passes and is severe enough. In the report the numbers of diagnostics by
severity add up to their number, and the most severe of them is named.

A report with a number of too many digits could not be written, and there would be no
status; what the command comes to has no such number, and its status is the same in every
format (`endingOn_agrees_with_results`).

Key definitions: `Diagnostic.IsKept`, `ProjectResult.Reports`,
`ProjectResult.ShowsTooLong`, `Json.IsSummary`, `Command.endingOn`.
Key theorems: `Report.highestSeverity_eq_some_iff`, `Report.fails_iff`,
`Report.sum_count`, `Report.isSummary_toJson`,
`ProjectResult.IsOfCommand.not_showsTooLong`, `Command.endingOn_agrees_with_results`.
-/
import Mathlib.Algebra.BigOperators.Group.List.Basic
import Mathlib.Algebra.GroupWithZero.Nat
import StyleCheck.Proofs.Complaints
import StyleCheck.Proofs.ShownNumbers

namespace StyleCheck

/-! ### Severities -/

namespace Severity

theorem mem_all (s : Severity) : s ∈ all := by
  cases s <;> decide

theorem rank_injective {s t : Severity} (h : s.rank = t.rank) : s = t := by
  cases s <;> cases t <;> first | rfl | exact absurd h (by decide)

theorem pairwise_all : all.Pairwise fun s t => s.rank < t.rank := by
  decide

/-- The first severity with a property is the most severe of those that have it. -/
theorem find?_all_eq_some_iff {p : Severity → Bool} {s : Severity} :
    all.find? p = some s ↔ p s = true ∧ ∀ t, p t = true → s.rank ≤ t.rank := by
  have hleast : ∀ {s}, all.find? p = some s → ∀ t, p t = true → s.rank ≤ t.rank := by
    intro s hs t ht
    obtain ⟨-, before, after, hall, hbefore⟩ := List.find?_eq_some_iff_append.mp hs
    have hordered := pairwise_all
    have hmem := mem_all t
    rw [hall, List.pairwise_append, List.pairwise_cons] at hordered
    rw [hall, List.mem_append, List.mem_cons] at hmem
    rcases hmem with hearlier | rfl | hlater
    · have hnot := hbefore t hearlier
      rw [ht] at hnot
      exact absurd hnot (by decide)
    · exact Nat.le_refl _
    · exact Nat.le_of_lt (hordered.2.1.1 t hlater)
  constructor
  · exact fun h => ⟨List.find?_some h, hleast h⟩
  · rintro ⟨hs, hmin⟩
    cases hfound : all.find? p with
    | none => exact absurd hs (List.find?_eq_none.mp hfound s (mem_all s))
    | some t =>
      have ht : p t = true := List.find?_some hfound
      have hrank : t.rank = s.rank := Nat.le_antisymm (hleast hfound s hs) (hmin t ht)
      rw [rank_injective hrank]

end Severity

/-! ### Diagnostics that pass -/

/-- The rule id holds one of the words, if there are any, and the severity is at
least the threshold, if there is one. -/
def Diagnostic.IsKept (threshold : Option Severity) (words : List String) (d : Diagnostic) : Prop :=
  (words = [] ∨ ∃ word ∈ words, word.toList <:+: d.ruleId.toList) ∧
    ∀ t ∈ threshold, d.severity.rank ≤ t.rank

theorem mentionsAny_iff {words : List String} {ruleId : String} :
    mentionsAny words ruleId = true ↔ ∃ word ∈ words, word.toList <:+: ruleId.toList := by
  rw [mentionsAny, List.any_eq_true]
  simp only [Text.occursIn_iff]

theorem Diagnostic.passes_iff {threshold : Option Severity} {words : List String}
    {d : Diagnostic} : d.passes threshold words = true ↔ d.IsKept threshold words := by
  rw [passes, IsKept, Bool.and_eq_true, Bool.or_eq_true, mentionsAny_iff, List.isEmpty_iff,
    and_comm]
  cases threshold with
  | none => simp
  | some t => simp [Severity.reaches]

instance (threshold : Option Severity) (words : List String) (d : Diagnostic) :
    Decidable (d.IsKept threshold words) :=
  decidable_of_iff _ Diagnostic.passes_iff

/-- The diagnostic is in the results of some file, and it passes. -/
def ProjectResult.Reports (result : ProjectResult) (threshold : Option Severity)
    (words : List String) (d : Diagnostic) : Prop :=
  (∃ file ∈ result.results, d ∈ file.2.diagnostics) ∧ d.IsKept threshold words

/-! ### Rows -/

namespace Report

section Rows

variable {result : ProjectResult} {threshold : Option Severity} {words : List String}

theorem exists_row_iff {p : Diagnostic → Prop} :
    (∃ row ∈ (ofResult result threshold words).rows, p row.2) ↔
      ∃ d, result.Reports threshold words d ∧ p d := by
  simp only [ofResult, List.mem_flatMap, List.mem_map, filterAndSort, List.mem_mergeSort,
    List.mem_filter, Diagnostic.passes_iff]
  constructor
  · rintro ⟨-, ⟨file, hfile, d, ⟨hd, hkept⟩, rfl⟩, hp⟩
    exact ⟨d, ⟨⟨file, hfile, hd⟩, hkept⟩, hp⟩
  · rintro ⟨d, ⟨⟨file, hfile, hd⟩, hkept⟩, hp⟩
    exact ⟨(file.1, d), ⟨file, hfile, d, ⟨hd, hkept⟩, rfl⟩, hp⟩

/-- Sorting file by file does not change the numbers. -/
theorem count_ofResult (s : Severity) :
    (ofResult result threshold words).count s =
      result.diagnostics.countP fun d => d.severity = s ∧ d.IsKept threshold words := by
  unfold count ofResult ProjectResult.diagnostics
  rw [List.countP_flatMap, List.countP_flatMap]
  congr 1
  refine List.map_congr_left fun file _ => ?_
  calc (((filterAndSort threshold words file.2.diagnostics).map fun d => (file.1, d)).countP
          fun row => row.2.severity = s)
      = (filterAndSort threshold words file.2.diagnostics).countP fun d => d.severity = s := by
        rw [List.countP_map]
        rfl
    _ = (file.2.diagnostics.filter (Diagnostic.passes threshold words)).countP
          fun d => d.severity = s :=
        (List.mergeSort_perm _ _).countP_eq _
    _ = file.2.diagnostics.countP fun d => d.severity = s ∧ d.IsKept threshold words := by
        rw [List.countP_filter]
        simp only [← Diagnostic.passes_iff, Bool.decide_and, Bool.decide_eq_true]

end Rows

/-! ### The summary -/

variable (r : Report)

theorem count_pos_iff {s : Severity} : 0 < r.count s ↔ ∃ row ∈ r.rows, row.2.severity = s := by
  rw [count, List.countP_pos_iff]
  simp

/-- **The numbers by severity add up to the number of rows.** -/
theorem sum_count : (Severity.all.map r.count).sum = r.rows.length := by
  unfold count
  induction r.rows with
  | nil => rfl
  | cons row rows ih =>
    -- a row counts for its own severity and for no other
    have hone : (Severity.all.map fun s => if row.2.severity = s then 1 else 0).sum = 1 := by
      cases row.2.severity <;> decide
    simp only [List.countP_cons, decide_eq_true_eq, List.length_cons]
    rw [List.sum_map_add, ih, hone]

/-- **The severity that is named is the most severe** of those that come up. -/
theorem highestSeverity_eq_some_iff {s : Severity} :
    r.highestSeverity = some s ↔ 0 < r.count s ∧ ∀ t, 0 < r.count t → s.rank ≤ t.rank := by
  rw [highestSeverity, Severity.find?_all_eq_some_iff]
  simp only [List.any_eq_true, decide_eq_true_eq, count_pos_iff]

theorem highestSeverity_eq_none_iff : r.highestSeverity = none ↔ r.rows = [] := by
  rw [highestSeverity, List.find?_eq_none]
  constructor
  · intro h
    cases hrows : r.rows with
    | nil => rfl
    | cons row rows =>
      have hnone := h row.2.severity (Severity.mem_all _)
      rw [hrows, List.any_cons] at hnone
      simp at hnone
  · intro h s _
    simp [h]

/-- **A report fails if a row of it is severe enough.** -/
theorem fails_iff {failOn : Severity} :
    r.fails failOn = true ↔ ∃ row ∈ r.rows, row.2.severity.rank ≤ failOn.rank := by
  rw [fails, Option.any_eq_true]
  constructor
  · rintro ⟨s, hs, hreaches⟩
    obtain ⟨row, hrow, rfl⟩ := r.count_pos_iff.mp (r.highestSeverity_eq_some_iff.mp hs).1
    exact ⟨row, hrow, by simpa [Severity.reaches] using hreaches⟩
  · rintro ⟨row, hrow, hrank⟩
    cases hs : r.highestSeverity with
    | none =>
      rw [r.highestSeverity_eq_none_iff.mp hs] at hrow
      exact absurd hrow List.not_mem_nil
    | some s =>
      have hleast := (r.highestSeverity_eq_some_iff.mp hs).2 row.2.severity
        (r.count_pos_iff.mpr ⟨row, hrow, rfl⟩)
      exact ⟨s, rfl, by simpa [Severity.reaches] using Nat.le_trans hleast hrank⟩

end Report

/-! ### JSON -/

/-- What stands in a field of an object. -/
def Json.field? (name : String) : Json → Option Json
  | .object fields => entryAt? name fields
  | _ => none

/-- What stands at the end of a chain of fields. -/
def Json.at? (names : List String) (json : Json) : Option Json :=
  names.foldlM (fun json name => json.field? name) json

/-- The JSON lists a number of diagnostics and says in its summary how many there
are, how many of each severity, and which severity is the most severe. -/
structure Json.IsSummary (json : Json) (total : Nat) (count : Severity → Nat)
    (highest : Option Severity) : Prop where
  rows : ∃ rows, json.at? ["diagnostics"] = some (.array rows) ∧ rows.length = total
  total : json.at? ["summary", "total_diagnostics"] = some (.number total)
  counts : ∀ s : Severity, json.at? ["summary", "counts", s.name] = some (.number (count s))
  highest : json.at? ["summary", "highest_severity"] =
    some (match highest with
      | some s => .string s.name
      | none => .null)

theorem Report.isSummary_toJson (r : Report) :
    r.toJson.IsSummary r.rows.length r.count r.highestSeverity where
  rows := ⟨_, rfl, List.length_map _⟩
  total := rfl
  counts s := by cases s <;> rfl
  highest := rfl

/-! ### Numbers of too many digits -/

/-- A diagnostic that passes shows a number of too many digits in the format. -/
def ProjectResult.ShowsTooLong (result : ProjectResult) (threshold : Option Severity)
    (words : List String) (format : ReportFormat) : Prop :=
  ∃ d, result.Reports threshold words d ∧
    ∃ n ∈ Report.numbersOf format d, 10 ^ maxIntegerDigits ≤ n.natAbs

theorem Report.isWritable_ofResult_eq_false_iff {result : ProjectResult}
    {threshold : Option Severity} {words : List String} {format : ReportFormat} :
    (Report.ofResult result threshold words).isWritable format = false ↔
      result.ShowsTooLong threshold words format := by
  unfold ProjectResult.ShowsTooLong Report.isWritable
  rw [← Report.exists_row_iff, List.all_eq_false]
  simp only [Bool.not_eq_true, List.all_eq_false, isWritable_eq_false_iff]

theorem ProjectResult.IsOfCommand.not_showsTooLong {result : ProjectResult}
    (h : result.IsOfCommand) (threshold : Option Severity) (words : List String)
    (format : ReportFormat) : ¬ result.ShowsTooLong threshold words format := by
  rintro ⟨d, ⟨⟨file, hfile, hd⟩, -⟩, n, hn, hlong⟩
  exact Nat.not_lt.mpr hlong (h.fitsReports file hfile d hd format n hn)

/-! ### Endings -/

namespace Command

/-- The options of a check with these settings, none of which got lost. -/
def Options.reporting (o : Options) (threshold : Option Severity) (words : List String)
    (failOn : Severity) (format : ReportFormat) : Options :=
  { o with minSeverity := threshold, rules := words.map some, failOn, format, lost := [] }

/-- How a check with these settings ends that reports on a result. -/
def endingOn (o : Options) (result : ProjectResult) (threshold : Option Severity)
    (words : List String) (failOn : Severity) (format : ReportFormat) : Ending :=
  (reportOn (o.reporting threshold words failOn format) result).1

variable (o : Options) (result : ProjectResult) (threshold : Option Severity)
  (words : List String) (failOn : Severity)

theorem needsLostRule_reporting (format : ReportFormat) (d : Diagnostic) :
    needsLostRule (o.reporting threshold words failOn format) d = false := by
  unfold needsLostRule Options.reporting
  simp

/-- **A report that cannot be written ends the check**, and one that can gives the
status. -/
theorem endingOn_eq (format : ReportFormat) :
    endingOn o result threshold words failOn format =
      if (Report.ofResult result threshold words).isWritable format then
        .exit (if (Report.ofResult result threshold words).fails failOn then 1 else 0)
      else .crash (.number .tooLong) := by
  have hneeds : result.diagnostics.any
      (needsLostRule (o.reporting threshold words failOn format)) = false :=
    List.any_eq_false.mpr fun d _ => by simp [needsLostRule_reporting]
  have hwords : (words.map some).filterMap id = words := by
    simp
  unfold endingOn reportOn
  rw [hneeds]
  simp only [Options.reporting, hwords, List.contains_nil, Bool.false_eq_true, if_false]
  unfold Report.format
  by_cases hwritable : (Report.ofResult result threshold words).isWritable format = true
  · rw [if_pos hwritable, if_pos hwritable]
  · rw [if_neg hwritable, if_neg hwritable]

/-- **Status and report agree with the raw results.** Let a result come of a check by the
command, or let none of its diagnostics that pass show a number of too many digits in the
format. The check's status is one exactly if some diagnostic that passes is at least as
severe as `failOn`, and zero exactly if there is none; so for what the command comes to, the
format does not matter. The report's summary has the number of its rows as total; for each
severity it counts the raw diagnostics that pass, and these numbers add up to the total; and
it names no severity exactly if the total is zero, and else the most severe one that is
counted. -/
theorem endingOn_agrees_with_results :
    (∀ format, result.IsOfCommand ∨ ¬ result.ShowsTooLong threshold words format →
      (endingOn o result threshold words failOn format = .exit 1 ↔
        ∃ d, result.Reports threshold words d ∧ d.severity.rank ≤ failOn.rank) ∧
      (endingOn o result threshold words failOn format = .exit 0 ↔
        ¬ ∃ d, result.Reports threshold words d ∧ d.severity.rank ≤ failOn.rank)) ∧
    (result.IsOfCommand → ∀ format other,
      endingOn o result threshold words failOn format =
        endingOn o result threshold words failOn other) ∧
    ∃ total count highest,
      (Report.ofResult result threshold words).toJson.IsSummary total count highest ∧
      (∀ s, count s =
        result.diagnostics.countP fun d => d.severity = s ∧ d.IsKept threshold words) ∧
      (Severity.all.map count).sum = total ∧
      (highest = none ↔ total = 0) ∧
      ∀ s, highest = some s ↔ 0 < count s ∧ ∀ t, 0 < count t → s.rank ≤ t.rank := by
  have hwritable : ∀ {format}, ¬ result.ShowsTooLong threshold words format →
      (Report.ofResult result threshold words).isWritable format = true := fun hshort => by
    rwa [← Report.isWritable_ofResult_eq_false_iff, Bool.not_eq_false] at hshort
  have hfails : (Report.ofResult result threshold words).fails failOn = true ↔
      ∃ d, result.Reports threshold words d ∧ d.severity.rank ≤ failOn.rank := by
    rw [Report.fails_iff, ← Report.exists_row_iff]
  refine ⟨fun format hshown => ?_, fun hcommand format other => ?_, ?_⟩
  · have hshort : ¬ result.ShowsTooLong threshold words format :=
      hshown.elim (fun hcommand => hcommand.not_showsTooLong threshold words format) id
    rw [endingOn_eq, if_pos (hwritable hshort), ← hfails]
    cases (Report.ofResult result threshold words).fails failOn <;> decide
  · rw [endingOn_eq, endingOn_eq, if_pos (hwritable (hcommand.not_showsTooLong _ _ format)),
      if_pos (hwritable (hcommand.not_showsTooLong _ _ other))]
  · have hnone := (Report.ofResult result threshold words).highestSeverity_eq_none_iff
    rw [← List.length_eq_zero_iff] at hnone
    exact ⟨_, _, _, (Report.ofResult result threshold words).isSummary_toJson,
      Report.count_ofResult, Report.sum_count _, hnone,
      fun s => Report.highestSeverity_eq_some_iff _⟩

/-- An analyzer that reports an error on every document. -/
def complainingAnalyzer : Surroundings where
  tree := default
  tool _ := .finished (some ("a.c:1:1: error: unknown [clang-diagnostic-error]".toList.map
    fun c => c.toNat.toUInt8)) none 1

/-- Two documents: a variable without its mark, and one with it. -/
def twoVariables : List Item :=
  [.document { text := "int z;".toList }, .document { text := "int g_z;".toList }]

theorem exists_isOfCommand_twoVariables :
    ∃ result : ProjectResult, result.IsOfCommand ∧
      result.diagnostics.map (·.severity) = [.error, .warning, .error] ∧
      (result.diagnostics.filter fun d => d.IsKept none ["NAME", "FUNC"]).map (·.severity) =
        [.warning] := by
  have hshort : ∀ item ∈ twoVariables, ∀ d, item.Holds complainingAnalyzer.tree d →
      d.text.length < 10 ^ maxIntegerDigits := by
    intro item hitem d hd
    rcases List.mem_cons.mp hitem with rfl | hitem
    · obtain rfl := hd
      decide +kernel
    · obtain rfl := List.mem_singleton.mp hitem
      obtain rfl := hd
      decide +kernel
  exact ⟨_, ⟨{}, complainingAnalyzer, true, _, fun _ => false, twoVariables, rfl, hshort, rfl⟩,
    rfl, rfl⟩

/-- So there is no status of one unless warnings give one; and then they do in both
formats. -/
theorem endingOn_two_variables :
    ∃ result : ProjectResult, result.IsOfCommand ∧
      result.diagnostics.map (·.severity) = [.error, .warning, .error] ∧
      endingOn {} result none ["NAME", "FUNC"] .error .table = .exit 0 ∧
      endingOn {} result none ["NAME", "FUNC"] .warning .table = .exit 1 ∧
      endingOn {} result none ["NAME", "FUNC"] .warning .table =
        endingOn {} result none ["NAME", "FUNC"] .warning .json := by
  obtain ⟨result, hcommand, hall, hkept⟩ := exists_isOfCommand_twoVariables
  have hreports : ∀ d, result.Reports none ["NAME", "FUNC"] d ↔
      d ∈ result.diagnostics.filter fun d => d.IsKept none ["NAME", "FUNC"] := by
    intro d
    rw [List.mem_filter, ProjectResult.diagnostics, List.mem_flatMap, decide_eq_true_eq]
    rfl
  obtain ⟨hstatus, -⟩ := endingOn_agrees_with_results {} result none ["NAME", "FUNC"] .error
  obtain ⟨hstatus', hsame, -⟩ :=
    endingOn_agrees_with_results {} result none ["NAME", "FUNC"] .warning
  refine ⟨result, hcommand, hall, ?_, ?_, hsame hcommand .table .json⟩
  · refine (hstatus .table (Or.inl hcommand)).2.mpr ?_
    rintro ⟨d, hd, hrank⟩
    have hseverity := List.mem_map_of_mem (f := (·.severity)) ((hreports d).mp hd)
    rw [hkept, List.mem_singleton] at hseverity
    rw [hseverity] at hrank
    exact absurd hrank (by decide)
  · have hwarning : Severity.warning ∈ (result.diagnostics.filter fun d =>
        d.IsKept none ["NAME", "FUNC"]).map (·.severity) := by
      rw [hkept]
      exact List.mem_singleton_self _
    obtain ⟨d, hd, hseverity⟩ := List.mem_map.mp hwarning
    exact (hstatus' .table (Or.inl hcommand)).1.mpr ⟨d, (hreports d).mpr hd, by rw [hseverity]⟩

end Command

end StyleCheck
