/-
# Checks with an analyzer

What the external analyzer does is not in a checker's hands: it may be missing,
take too long, or end with any status and print anything. A run of it comes out
in one of three ways (`analyze_cases`). Its input cannot be written, because of
the name that the document's suffix gives it. Or the run fails, in a way that is
said here without the program (`Analyzer.Fails`). Or it gives what its output
reports.

Where the input can be written, a check has a result whatever the analyzer does.
The diagnostics of the rules are those of the same checker without an analyzer,
a failure is one error beside them, and without a failure the output's
diagnostics stand in front of them. Where it cannot be written there is no
result at all, and the diagnostics of the rules are lost as well
(`check_survives_analyzer`).

Key definitions: `ToolOutcome.Fails`, `Analyzer.outcome`, `Analyzer.Fails`,
`AnalyzerError.IsReported`.
Key theorems: `Analyzer.analyze_cases`, `Checker.outcomeWith_cases`,
`Checker.check_survives_analyzer`.
-/
import StyleCheck.Proofs.RuleBlocks
import StyleCheck.Proofs.Words

namespace StyleCheck

/-! ### Runs of the analyzer -/

/-- What came of starting the analyzer is a failure: it was not started or took
too long, or it ended with a status other than zero, reported nothing that can
be used, and its complaints are not blank. -/
def ToolOutcome.Fails (d : Document) : ToolOutcome → Prop
  | notFound => True
  | timedOut => True
  | failed _ _ => True
  | finished output errors status =>
    status ≠ 0 ∧ (parseOutput d (outputText output)).value = [] ∧
      ∃ c ∈ outputText errors, Text.isBlank c = false

/-- What comes of starting the analyzer on a document. -/
def Analyzer.outcome (a : Analyzer) (around : Surroundings) (d : Document) : ToolOutcome :=
  around.tool (a.callFor around.tree d)

/-- The run of the analyzer on a document fails: the project's set-up keeps it
from being run, or what comes of starting it is a failure. -/
def Analyzer.Fails (a : Analyzer) (around : Surroundings) (d : Document) : Prop :=
  (∃ setup, a.setupPath? = some setup ∧ around.tree.refuses setup = true) ∨
    (a.outcome around d).Fails d

/-- The error is one of the analyzer's run, which a check reports. -/
def AnalyzerError.IsReported (e : AnalyzerError) : Prop :=
  ∀ error, e ≠ .notHandedOver error

namespace Analyzer

variable (a : Analyzer) (around : Surroundings) (d : Document)

/-- What came of starting the analyzer is a failure and gives an error, or it is
a run with an output and gives its diagnostics. -/
theorem interpret_cases (tool : ToolOutcome) :
    (tool.Fails d ∧ ∃ e, (a.interpret tool d).value = .error e ∧ e.IsReported) ∨
      (¬ tool.Fails d ∧ ∃ output errors status, tool = .finished output errors status ∧
        (a.interpret tool d).value = .ok (parseOutput d (outputText output)).value) := by
  cases tool with
  | notFound => exact Or.inl ⟨trivial, _, rfl, nofun⟩
  | timedOut => exact Or.inl ⟨trivial, _, rfl, nofun⟩
  | failed number reason =>
    refine Or.inl ⟨trivial, _, rfl, fun error => ?_⟩
    split
    · exact nofun
    · exact nofun
  | finished output errors status =>
    have hfails : (ToolOutcome.finished output errors status).Fails d ↔
        status ≠ 0 ∧ (parseOutput d (outputText output)).value.isEmpty = true ∧
          Text.trim (outputText errors) ≠ [] := by
      have hcomplaint : Text.trim (outputText errors) ≠ [] ↔
          ∃ c ∈ outputText errors, Text.isBlank c = false := by
        rw [ne_eq, Source.trim_eq_nil_iff]
        simp
      rw [ToolOutcome.Fails, List.isEmpty_iff, hcomplaint]
    unfold interpret
    simp only [Traced.value_bind]
    by_cases h : status ≠ 0 ∧ (parseOutput d (outputText output)).value.isEmpty = true ∧
        Text.trim (outputText errors) ≠ []
    · rw [if_pos h]
      exact Or.inl ⟨hfails.mpr h, _, rfl, nofun⟩
    · rw [if_neg h]
      exact Or.inr ⟨fun hf => h (hfails.mp hf), output, errors, status, rfl, rfl⟩

/-- **The three ways a run of the analyzer comes out.** -/
theorem analyze_cases :
    (∃ error, a.inputError? d = some error ∧
      (a.analyze around d).value = .error (.notHandedOver error)) ∨
    (a.inputError? d = none ∧ a.Fails around d ∧
      ∃ e, (a.analyze around d).value = .error e ∧ e.IsReported) ∨
    (a.inputError? d = none ∧ ¬ a.Fails around d ∧
      ∃ output errors status, a.outcome around d = .finished output errors status ∧
        (a.analyze around d).value = .ok (parseOutput d (outputText output)).value) := by
  cases hinput : a.inputError? d with
  | some error =>
    refine Or.inl ⟨error, rfl, ?_⟩
    simp [analyze, obstacle?, hinput]
  | none =>
    by_cases hsetup : ∃ setup, a.setupPath? = some setup ∧ around.tree.refuses setup = true
    · obtain ⟨setup, hpath, hrefused⟩ := hsetup
      refine Or.inr (Or.inl ⟨rfl, Or.inl ⟨setup, hpath, hrefused⟩,
        .notSetUp a.program (.nameTooLong setup), ?_, nofun⟩)
      simp [analyze, obstacle?, hinput, hpath, hrefused]
    · have hnone : a.obstacle? around.tree d = none := by
        unfold obstacle?
        rw [hinput]
        cases hpath : a.setupPath? with
        | none => rfl
        | some setup =>
          have hrefused : ¬ around.tree.refuses setup = true := fun h => hsetup ⟨setup, hpath, h⟩
          simp [hrefused]
      have hanalyze : (a.analyze around d).value = (a.interpret (a.outcome around d) d).value := by
        simp [analyze, hnone, outcome]
      rw [hanalyze]
      rcases a.interpret_cases d (a.outcome around d) with ⟨hfails, h⟩ | ⟨hfails, h⟩
      · exact Or.inr (Or.inl ⟨rfl, Or.inr hfails, h⟩)
      · exact Or.inr (Or.inr ⟨rfl, fun hf => hf.elim hsetup hfails, h⟩)

theorem analyze_error_iff (hinput : a.inputError? d = none) :
    (∃ e, (a.analyze around d).value = .error e ∧ e.IsReported) ↔ a.Fails around d := by
  rcases a.analyze_cases around d with ⟨error, hsome, -⟩ | ⟨-, hfails, h⟩ |
    ⟨-, hfails, output, errors, status, -, hvalue⟩
  · exact absurd (hinput.symm.trans hsome) nofun
  · exact iff_of_true h hfails
  · refine iff_of_false ?_ hfails
    rintro ⟨e, he, -⟩
    exact absurd (hvalue.symm.trans he) nofun

end Analyzer

/-! ### Checks -/

namespace Checker

theorem outcomeWith_cases (c : Checker) {a : Analyzer} (ha : c.analyzer = some a)
    (around : Surroundings) (d : Document) (own : List Diagnostic) :
    (∃ error, a.inputError? d = some error ∧ c.outcomeWith around d own = .error error) ∨
    (a.inputError? d = none ∧ a.Fails around d ∧
      ∃ error, c.outcomeWith around d own = .ok (c.resultOf d own ([], [error]))) ∨
    (a.inputError? d = none ∧ ¬ a.Fails around d ∧
      ∃ output errors status, a.outcome around d = .finished output errors status ∧
        c.outcomeWith around d own =
          .ok (c.resultOf d own ((parseOutput d (outputText output)).value, []))) := by
  unfold outcomeWith
  rw [ha]
  simp only
  rcases a.analyze_cases around d with ⟨error, hinput, hvalue⟩ | ⟨hinput, hfails, e, hvalue, he⟩ |
    ⟨hinput, hfails, output, errors, status, houtcome, hvalue⟩
  · exact Or.inl ⟨error, hinput, by rw [hvalue]⟩
  · refine Or.inr (Or.inl ⟨hinput, hfails, "Checker error: " ++ e.message, ?_⟩)
    rw [hvalue]
    cases e with
    | notHandedOver error => exact absurd rfl (he error)
    | _ => rfl
  · exact Or.inr (Or.inr ⟨hinput, hfails, output, errors, status, houtcome, by rw [hvalue]⟩)

/-- Beside the rules' diagnostics a result has only some that an output of the analyzer
reports. -/
theorem exists_external_parts {c : Checker} {around : Surroundings} {d : Document}
    {own : List Diagnostic} {result : CheckResult}
    (h : c.outcomeWith around d own = .ok result) :
    ∃ external errors, result = c.resultOf d own (external, errors) ∧
      ∀ x ∈ external, ∃ output, x ∈ (parseOutput d output).value := by
  cases ha : c.analyzer with
  | none =>
    rw [outcomeWith, ha] at h
    exact ⟨[], [], (Except.ok.inj h).symm, fun _ hx => absurd hx List.not_mem_nil⟩
  | some a =>
    rcases c.outcomeWith_cases ha around d own with ⟨error, -, hvalue⟩ | ⟨-, -, error, hvalue⟩ |
      ⟨-, -, output, complaints, status, -, hvalue⟩
    · cases h.symm.trans hvalue
    · exact ⟨[], [error], Except.ok.inj (h.symm.trans hvalue),
        fun _ hx => absurd hx List.not_mem_nil⟩
    · exact ⟨_, [], Except.ok.inj (h.symm.trans hvalue), fun x hx => ⟨_, hx⟩⟩

/-- The checker without its analyzer. -/
def alone (c : Checker) : Checker :=
  { c with analyzer := none }

/-- Without an analyzer a check reports the blocks of the rules, whatever
surrounds it. -/
theorem value_check_alone (c : Checker) (around : Surroundings) {d : Document}
    (hd : d.isSupported = true) :
    (c.alone.check around d).value =
      .ok (c.resultOf d (c.registry.enabled.flatMap (c.block d)) ([], [])) := by
  rw [value_check c.alone around hd]
  rfl

/-- **What the analyzer can do to a check.** A check ends without a result
exactly if the analyzer's input cannot be written. Where it can be written, the
analyzer gives an error exactly if its run fails. A check then has one error and
the diagnostics of the same checker without analyzer. Otherwise it has no error,
and the diagnostics of the analyzer's output in front of those. -/
theorem check_survives_analyzer (c : Checker) (a : Analyzer) (around : Surroundings) (d : Document)
    (hd : d.isSupported = true) (ha : c.analyzer = some a) :
    (∀ error, (c.check around d).value = .error error ↔ a.inputError? d = some error) ∧
    (a.inputError? d = none →
      ((∃ e, (a.analyze around d).value = .error e ∧ e.IsReported) ↔ a.Fails around d) ∧
      ∃ result own, (c.check around d).value = .ok result ∧
        (∀ elsewhere, (c.alone.check elsewhere d).value = .ok own) ∧
        (a.Fails around d →
          (∃ error, result.errors = [error]) ∧ result.diagnostics = own.diagnostics) ∧
        (¬ a.Fails around d →
          result.errors = [] ∧ ∃ output errors status,
            a.outcome around d = .finished output errors status ∧
            result.diagnostics =
              (parseOutput d (outputText output)).value ++ own.diagnostics)) := by
  refine ⟨fun error => ?_, fun hinput => ⟨a.analyze_error_iff around d hinput, ?_⟩⟩
  · rw [c.value_check_eq_error_iff around hd, ha]
    simp
  have hcheck := c.value_check around hd
  have halone : ∀ elsewhere, (c.alone.check elsewhere d).value = _ :=
    fun elsewhere => c.value_check_alone elsewhere hd
  rcases c.outcomeWith_cases ha around d _ with ⟨error, hsome, -⟩ | ⟨-, hfails, error, hvalue⟩ |
    ⟨-, hfails, output, errors, status, houtcome, hvalue⟩
  · exact absurd (hinput.symm.trans hsome) nofun
  · rw [hvalue] at hcheck
    exact ⟨_, _, hcheck, halone, fun _ => ⟨⟨error, rfl⟩, rfl⟩, fun h => absurd hfails h⟩
  · rw [hvalue] at hcheck
    exact ⟨_, _, hcheck, halone, fun h => absurd h hfails,
      fun _ => ⟨rfl, output, errors, status, houtcome, rfl⟩⟩

/-- Surroundings in which the analyzer ends with status one, prints nothing and
complains. -/
def complainingTool : Surroundings :=
  ⟨default, fun _ => .finished none (some [33, 10]) 1⟩

/-- The complaint is the one error, and the rule's diagnostic is there. -/
theorem check_survives_complaint :
    (({ text := "int z;".toList } : Document).isSupported = true ∧
      analyzingChecker.analyzer = some {} ∧
      ({} : Analyzer).inputError? { text := "int z;".toList } = none ∧
      ({} : Analyzer).Fails complainingTool { text := "int z;".toList }) ∧
    ∃ result own, (analyzingChecker.check complainingTool { text := "int z;".toList }).value =
        .ok result ∧
      (analyzingChecker.alone.check default { text := "int z;".toList }).value = .ok own ∧
      (∃ error, result.errors = [error]) ∧ result.diagnostics = own.diagnostics := by
  have hinput : ({} : Analyzer).inputError? { text := "int z;".toList } = none := by decide +kernel
  have hfails : ({} : Analyzer).Fails complainingTool { text := "int z;".toList } :=
    Or.inr ⟨by decide, rfl, '!', by decide +kernel, by decide⟩
  obtain ⟨-, result, own, hresult, hown, hfailed, -⟩ :=
    (check_survives_analyzer analyzingChecker {} complainingTool { text := "int z;".toList }
      rfl rfl).2 hinput
  exact ⟨⟨rfl, rfl, hinput, hfails⟩, result, own, hresult, hown default, hfailed hfails⟩

/-- A document whose suffix is no part of a file name cannot be handed over, and
its check has no result, although the analyzer finds nothing wrong. -/
theorem check_loses_null_suffix :
    ¬ ∀ (c : Checker) (a : Analyzer) (around : Surroundings) (d : Document),
      d.isSupported = true → c.analyzer = some a →
      ∃ result, (c.check around d).value = .ok result := by
  intro h
  obtain ⟨result, hresult⟩ := h analyzingChecker {} ⟨default, fun _ => .finished none none 0⟩
    { text := "int z;".toList, path := some ⟨"", ["x.\x00"]⟩ } rfl rfl
  have herror : (analyzingChecker.check ⟨default, fun _ => .finished none none 0⟩
      { text := "int z;".toList, path := some ⟨"", ["x.\x00"]⟩ }).value =
      .error .nullCharacter := rfl
  rw [herror] at hresult
  exact absurd hresult nofun

end Checker

end StyleCheck
