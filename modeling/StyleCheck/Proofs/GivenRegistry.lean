/-
# The registry of a checker

A checker reports for the rules of its registry and for no others: what does not
come from the analyzer is the diagnostic of a finding of a rule that is on, and
the rules that are counted are those that are on (`Checker.checksAgainst`).

So it matters which registry a checker has. One that is given and holds rules is
taken as it is, whatever settings are given beside it. One that holds no rules
counts as none: the checker then has the standard's rules, set up by the
settings, and reports what nobody asked for (`Checker.create_uses_registry`,
`Checker.create_replaces_empty_registry`).

Key definitions: `Checker.Gives`, `Checker.ChecksAgainst`.
Key theorems: `origin_of_mem_parseOutput`, `Checker.checksAgainst`,
`Checker.create_uses_registry`.
-/
import StyleCheck.Proofs.AnalyzerRuns
import StyleCheck.Proofs.OutputLines

namespace StyleCheck

/-! ### Where a diagnostic comes from -/

theorem OutputLine.origin_of_diagnose {o : OutputLine} {d : Document} {x : Diagnostic}
    (h : o.diagnose d = .ok x) : x.origin = .analyzer := by
  unfold OutputLine.diagnose at h
  simp only [bind, Except.bind] at h
  split at h
  · exact absurd h nofun
  · split at h
    · exact absurd h nofun
    · split at h
      · exact absurd h nofun
      · obtain rfl := Except.ok.inj h
        rfl

theorem origin_of_mem_parseOutput {d : Document} {output : List Char} {x : Diagnostic}
    (h : x ∈ (parseOutput d output).value) : x.origin = .analyzer := by
  rw [parseOutput, value_parseOutputLines] at h
  obtain ⟨line, -, hx⟩ := List.mem_flatMap.mp h
  rw [Option.mem_toList] at hx
  unfold parseOutputLine at hx
  split at hx
  · exact absurd hx (Option.not_mem_none x)
  · rename_i parts hparts
    split at hx
    · rename_i diagnostic hdiagnostic
      obtain rfl := Option.some.inj hx
      exact OutputLine.origin_of_diagnose hdiagnostic
    · exact absurd hx (Option.not_mem_none x)

namespace Checker

/-- The diagnostic is that of a finding of one of the rules of the registry that are
on. -/
def Gives (c : Checker) (r : Registry) (d : Document) (x : Diagnostic) : Prop :=
  ∃ rule ∈ r.enabled, ∃ findings, (rule.check d).value = some findings ∧
    ∃ f ∈ findings, (c.diagnose d f).value = .ok x

/-- The checker reports for the rules of this registry. A check of a document
whose language is checked counts the rules that are on, and every diagnostic
that is not the analyzer's comes from one of them; other documents are skipped.
Only where the analyzer's input cannot be written there is no result. -/
def ChecksAgainst (c : Checker) (r : Registry) : Prop :=
  ∀ (around : Surroundings) (d : Document),
    (∃ result, (c.check around d).value = .ok result ∧
      result.coverage =
        (if d.isSupported then .checked d.language r.enabled.length d.path else .skipped) ∧
      ∀ x ∈ result.diagnostics, x.origin = .rules → c.Gives r d x) ∨
    ∃ a error, c.analyzer = some a ∧ a.inputError? d = some error ∧
      (c.check around d).value = .error error

theorem gives_of_mem_block {c : Checker} {d : Document} {x : Diagnostic}
    (h : x ∈ c.registry.enabled.flatMap (c.block d)) : c.Gives c.registry d x := by
  obtain ⟨rule, hrule, hx⟩ := List.mem_flatMap.mp h
  obtain ⟨findings, diagnostics, hfindings, hdiagnostics, hmem⟩ := exists_of_mem_block hx
  obtain ⟨f, hf, hdiagnose⟩ := exists_of_mem_mapM hdiagnostics hmem
  exact ⟨rule, hrule, findings, hfindings, f, hf, hdiagnose⟩

/-- **A checker reports for the rules of its registry.** -/
theorem checksAgainst (c : Checker) : c.ChecksAgainst c.registry := by
  intro around d
  by_cases hd : d.isSupported = true
  · cases hcheck : (c.check around d).value with
    | error error =>
      obtain ⟨a, ha, hinput⟩ := (c.value_check_eq_error_iff around hd error).mp hcheck
      exact Or.inr ⟨a, error, ha, hinput, rfl⟩
    | ok result =>
      rw [c.value_check around hd] at hcheck
      obtain ⟨external, errors, rfl, hexternal⟩ := exists_external_parts hcheck
      refine Or.inl ⟨_, rfl, by rw [if_pos hd]; rfl, fun x hx hlocal => ?_⟩
      rcases List.mem_append.mp hx with hx | hx
      · obtain ⟨output, hx⟩ := hexternal x hx
        rw [origin_of_mem_parseOutput hx] at hlocal
        exact absurd hlocal nofun
      · exact gives_of_mem_block hx
  · refine Or.inl ⟨_, by rw [check, if_neg hd]; rfl, by rw [if_neg hd], ?_⟩
    exact fun x hx => absurd hx List.not_mem_nil

/-! ### Making a checker -/

section Making

variable (settings : Option Settings) (synthesizer : Option Synthesizer)
  (analyzer : Option Analyzer)

theorem value_create_cons (rule : Rule) (rules : List Rule) :
    (create settings (some ⟨rule :: rules⟩) synthesizer analyzer).value =
      .ok ⟨settings.getD .standard, ⟨rule :: rules⟩, analyzer,
        synthesizer.getD { settings := settings.getD .standard }⟩ := rfl

/-- Without rules of its own a checker has those of the standard, set up by the
settings. -/
theorem apply_of_create_nil {c : Checker}
    (h : (create settings (some ⟨[]⟩) synthesizer analyzer).value = .ok c) :
    (Registry.builtin.apply (settings.getD .standard)).value = (c.registry, none) ∧
      c.synthesizer = synthesizer.getD { settings := settings.getD .standard } := by
  unfold create at h
  simp only [Traced.value_bind] at h
  rcases hbuiltin : (Registry.builtin.apply (settings.getD .standard)).value with
    ⟨registry, _ | e⟩
  · rw [hbuiltin] at h
    obtain rfl := Except.ok.inj h
    exact ⟨rfl, rfl⟩
  · rw [hbuiltin] at h
    exact absurd h nofun

/-- **Which registry a checker has.** One that is given and holds rules is the one
that the checker reports for, whatever settings are given beside it. One that
holds none is passed over, and the checker reports for the rules of the standard
as the settings set them up. In both cases the diagnostics come from the synthesizer
that is given, or else from one with the settings and these rules. -/
theorem create_uses_registry (r : Registry) :
    (r.rules ≠ [] → ∃ c, (create settings (some r) synthesizer analyzer).value = .ok c ∧
      c.registry = r ∧ c.synthesizer = synthesizer.getD { settings := settings.getD .standard } ∧
      c.ChecksAgainst r) ∧
    (r.rules = [] → ∀ c, (create settings (some r) synthesizer analyzer).value = .ok c →
      (Registry.builtin.apply (settings.getD .standard)).value = (c.registry, none) ∧
      c.synthesizer = synthesizer.getD { settings := settings.getD .standard } ∧
      c.ChecksAgainst c.registry) := by
  obtain ⟨rules⟩ := r
  cases rules with
  | nil =>
    refine ⟨fun h => absurd rfl h, fun _ c hc => ?_⟩
    obtain ⟨hregistry, hsynthesizer⟩ := apply_of_create_nil settings synthesizer analyzer hc
    exact ⟨hregistry, hsynthesizer, c.checksAgainst⟩
  | cons rule rules =>
    exact ⟨fun _ => ⟨_, value_create_cons settings synthesizer analyzer rule rules, rfl, rfl,
      checksAgainst _⟩, fun h => absurd h nofun⟩

end Making

/-- A registry with one rule, which is off. -/
def silentRegistry : Registry :=
  ⟨[{ Rule.naming with enabled := false }]⟩

/-- Settings that switch that rule on do not reach it: the checker counts no rule
and reports nothing of its own. -/
theorem create_uses_silent_registry :
    silentRegistry.rules ≠ [] ∧
    ∃ c, (create (some .standard) (some silentRegistry) none none).value = .ok c ∧
      ∃ result, (c.check default { text := "int z;".toList }).value = .ok result ∧
        result.coverage = .checked "c" 0 none ∧ ∀ x ∈ result.diagnostics, x.origin ≠ .rules := by
  have hne : silentRegistry.rules ≠ [] := nofun
  obtain ⟨c, hc, -, -, hagainst⟩ :=
    (create_uses_registry (some .standard) none none silentRegistry).1 hne
  refine ⟨hne, c, hc, ?_⟩
  rcases hagainst default { text := "int z;".toList } with ⟨result, hresult, hcoverage, hlocal⟩ |
    ⟨a, error, ha, -, -⟩
  · refine ⟨result, hresult, hcoverage, fun x hx horigin => ?_⟩
    obtain ⟨rule, hrule, -⟩ := hlocal x hx horigin
    exact absurd hrule List.not_mem_nil
  · obtain rfl := Except.ok.inj hc
    exact absurd ha nofun

/-- A registry without rules is given, and two rules are counted. -/
theorem create_replaces_empty_registry :
    ¬ ∀ (settings : Option Settings) (r : Registry) (analyzer : Option Analyzer) (c : Checker),
      (create settings (some r) none analyzer).value = .ok c → c.ChecksAgainst r := by
  intro h
  rcases h none ⟨[]⟩ none _ rfl default { text := "int z;".toList } with
    ⟨result, hresult, hcoverage, -⟩ | ⟨a, error, ha, -, -⟩
  · obtain rfl := Except.ok.inj hresult
    exact absurd hcoverage (by decide)
  · exact absurd ha nofun

end Checker

end StyleCheck
