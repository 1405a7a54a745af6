/-
# The block of each rule

What a checker reports about a document is what the analyzer reports, and then
one block for each rule that is on, in the order of the registry: the
diagnostics of the rule's findings, in their order, or nothing where the rule
fails or one of its findings has no diagnostic (`block`). The analyzer's part is
what its run gives (`outcomeWith`): its diagnostics, or the error that is reported
in their place; only a document that cannot be handed over has no result.

A block depends on the settings, on the severities of the registered rules and on
what its own rule finds, and on nothing that another rule finds. So giving one
rule another way to look at documents, one that fails for instance, changes that
rule's block and nothing else (`check_isolates_rules`).

Key definitions: `Checker.block`, `Checker.resultOf`, `Checker.outcomeWith`,
`Checker.withRules`.
Key theorems: `Checker.value_diagnoseAll`, `Checker.value_runRules`,
`Checker.value_check`, `Checker.check_isolates_rules`.
-/
import StyleCheck.Checker
import StyleCheck.Proofs.FailingSteps

namespace StyleCheck

/-! ### Severities -/

/-- The rule found for an id has the same severity, whatever a rule among them
looks at. -/
theorem Registry.severity_rule? (before after : List Rule) (rule : Rule) (inspection : Inspection)
    (id : String) :
    ((⟨before ++ { rule with inspection } :: after⟩ : Registry).rule? id).map (·.severity) =
      ((⟨before ++ rule :: after⟩ : Registry).rule? id).map (·.severity) := by
  unfold Registry.rule?
  induction before with
  | nil =>
    rw [List.nil_append, List.nil_append, List.find?_cons, List.find?_cons]
    by_cases hid : rule.info.id = id
    · simp [hid]
    · simp [hid]
  | cons first before ih =>
    rw [List.cons_append, List.cons_append, List.find?_cons, List.find?_cons]
    by_cases hid : first.info.id = id
    · simp [hid]
    · simpa [hid] using ih

theorem severityOf_eq (settings : Settings) (registry : Registry) (id : String)
    (projectDefault : Option Severity) :
    severityOf settings registry id projectDefault =
      ((settings.rule? id).bind (·.severity)).getD
        (((registry.rule? id).map (·.severity)).getD (projectDefault.getD settings.severity)) := by
  unfold severityOf
  cases (settings.rule? id).bind (·.severity) with
  | some severity => rfl
  | none =>
    cases registry.rule? id with
    | some rule => rfl
    | none => rfl

/-- The diagnostic of a finding takes from the registry only the severity of the
finding's rule. -/
theorem Finding.value_diagnose_congr {r s : Registry} (f : Finding) (settings : Settings)
    (d : Document)
    (h : (r.rule? f.ruleId).map (·.severity) = (s.rule? f.ruleId).map (·.severity)) :
    (f.diagnose settings r d).value = (f.diagnose settings s d).value := by
  have hseverity : severityOf settings r f.ruleId none = severityOf settings s f.ruleId none := by
    rw [severityOf_eq, severityOf_eq, h]
  unfold Finding.diagnose
  cases f.range d with
  | error e => rfl
  | ok range =>
    simp only [StyleCheck.diagnose, Traced.value_bind, Traced.value_pure, hseverity]

namespace Checker

/-! ### Blocks -/

/-- The diagnostics that a rule contributes: those of its findings, in order, and
none where it fails or one of its findings has no diagnostic. -/
def block (c : Checker) (d : Document) (rule : Rule) : List Diagnostic :=
  match (rule.check d).value with
  | some findings => ((findings.mapM fun f => (c.diagnose d f).value).toOption).getD []
  | none => []

theorem exists_of_mem_block {c : Checker} {d : Document} {rule : Rule} {x : Diagnostic}
    (h : x ∈ c.block d rule) : ∃ findings diagnostics, (rule.check d).value = some findings ∧
      (findings.mapM fun f => (c.diagnose d f).value) = .ok diagnostics ∧ x ∈ diagnostics := by
  unfold block at h
  split at h
  · rename_i findings hfindings
    cases hdiagnostics : findings.mapM fun f => (c.diagnose d f).value with
    | error e =>
      rw [hdiagnostics] at h
      exact absurd h List.not_mem_nil
    | ok diagnostics =>
      rw [hdiagnostics] at h
      exact ⟨findings, diagnostics, hfindings, hdiagnostics, h⟩
  · exact absurd h List.not_mem_nil

/-- The result for a document of the analyzer's diagnostics and errors and the
diagnostics of the rules. -/
def resultOf (c : Checker) (d : Document) (own : List Diagnostic)
    (external : List Diagnostic × List String) : CheckResult where
  diagnostics := external.1 ++ own
  errors := external.2
  coverage := .checked d.language c.registry.enabled.length d.path

/-- The outcome of a check in which the rules report `own`. -/
def outcomeWith (c : Checker) (around : Surroundings) (d : Document) (own : List Diagnostic) :
    Except FileError CheckResult :=
  match c.analyzer with
  | none => .ok (c.resultOf d own ([], []))
  | some analyzer =>
    match (analyzer.analyze around d).value with
    | .ok diagnostics => .ok (c.resultOf d own (diagnostics, []))
    | .error (.notHandedOver e) => .error e
    | .error e => .ok (c.resultOf d own ([], ["Checker error: " ++ e.message]))

/-- The checker with other rules. -/
def withRules (c : Checker) (rules : List Rule) : Checker :=
  { c with registry := ⟨rules⟩ }

/-- **Findings are resolved together**: the first that has no diagnostic leaves
none of them one. -/
theorem value_diagnoseAll (c : Checker) (d : Document) : ∀ findings : List Finding,
    (c.diagnoseAll d findings).value = findings.mapM fun f => (c.diagnose d f).value
  | [] => rfl
  | f :: findings => by
    have ih := value_diagnoseAll c d findings
    rw [diagnoseAll, Traced.value_bind, List.mapM_cons]
    cases (c.diagnose d f).value with
    | error e => rfl
    | ok first =>
      simp only [Traced.value_bind, Traced.value_pure, ih]
      rfl

theorem value_resolve (c : Checker) (d : Document) (rule : Rule) :
    (c.resolve d rule).value = (rule.check d).value.bind fun findings =>
      (findings.mapM fun f => (c.diagnose d f).value).toOption := by
  rw [resolve, Traced.value_bind]
  cases (rule.check d).value with
  | none => rfl
  | some findings =>
    simp only [Traced.value_bind, Traced.value_pure, value_diagnoseAll, Option.bind_some]

theorem value_runRule (c : Checker) (d : Document) (rule : Rule) :
    (c.runRule d rule).value = c.block d rule := by
  have hblock : c.block d rule = (c.resolve d rule).value.getD [] := by
    rw [value_resolve, block]
    cases (rule.check d).value with
    | none => rfl
    | some findings => rfl
  rw [hblock, runRule, Traced.value_bind]
  cases (c.resolve d rule).value with
  | some diagnostics => rfl
  | none => rfl

/-- **The rules report block by block.** -/
theorem value_runRules (c : Checker) (d : Document) : ∀ rules : List Rule,
    (c.runRules d rules).value = rules.flatMap (c.block d)
  | [] => rfl
  | rule :: rules => by
    simp only [runRules, Traced.value_bind, Traced.value_pure, List.flatMap_cons,
      value_runRule, value_runRules c d rules]

theorem outcomeWith_eq (c : Checker) (around : Surroundings) (d : Document)
    (own : List Diagnostic) :
    c.outcomeWith around d own = (c.runAnalyzer around d).value.map (c.resultOf d own) := by
  unfold outcomeWith runAnalyzer
  cases c.analyzer with
  | none => rfl
  | some analyzer =>
    simp only [Traced.value_bind]
    cases (analyzer.analyze around d).value with
    | ok diagnostics => rfl
    | error e =>
      cases e with
      | notHandedOver error => rfl
      | _ => rfl

/-- **What a check gives**: the analyzer's part, and behind it the block of every
rule that is on. -/
theorem value_check (c : Checker) (around : Surroundings) {d : Document}
    (hd : d.isSupported = true) :
    (c.check around d).value =
      c.outcomeWith around d (c.registry.enabled.flatMap (c.block d)) := by
  rw [outcomeWith_eq, check, if_pos hd, Traced.value_bind]
  cases (c.runAnalyzer around d).value with
  | error e => rfl
  | ok external =>
    obtain ⟨diagnostics, errors⟩ := external
    simp only [Traced.value_bind, Traced.value_pure, value_runRules]
    rfl

/-! ### Documents that cannot be handed over -/

theorem interpret_ne_notHandedOver (a : Analyzer) (tool : ToolOutcome) (d : Document)
    (e : FileError) : (a.interpret tool d).value ≠ .error (.notHandedOver e) := by
  unfold Analyzer.interpret
  split
  · exact nofun
  · exact nofun
  · simp only [Traced.value_pure]
    split
    · exact nofun
    · exact nofun
  · simp only [Traced.value_bind]
    split
    · exact nofun
    · exact nofun

theorem analyze_eq_notHandedOver_iff (a : Analyzer) (around : Surroundings) (d : Document)
    (e : FileError) :
    (a.analyze around d).value = .error (.notHandedOver e) ↔ a.inputError? d = some e := by
  unfold Analyzer.analyze Analyzer.obstacle?
  cases a.inputError? d with
  | some error => simp
  | none =>
    refine iff_of_false ?_ nofun
    cases a.setupPath? with
    | none => exact interpret_ne_notHandedOver a _ d e
    | some setup =>
      by_cases hrefused : around.tree.refuses setup = true
      · simp [hrefused]
      · simpa [hrefused] using interpret_ne_notHandedOver a _ d e

/-- A check has no result exactly if its document cannot be handed to the analyzer. -/
theorem value_check_eq_error_iff (c : Checker) (around : Surroundings) {d : Document}
    (hd : d.isSupported = true) (e : FileError) :
    (c.check around d).value = .error e ↔
      ∃ a, c.analyzer = some a ∧ a.inputError? d = some e := by
  rw [c.value_check around hd, outcomeWith]
  cases c.analyzer with
  | none => simp
  | some a =>
    simp only [Option.some.injEq, exists_eq_left', ← analyze_eq_notHandedOver_iff a around d e]
    cases (a.analyze around d).value with
    | ok diagnostics => simp
    | error error =>
      cases error with
      | notHandedOver error => simp
      | _ => simp

/-! ### One rule changes -/

section Replacement

variable (c : Checker) {before after : List Rule} {rule : Rule} (inspection : Inspection)

/-- Neither the checker's own rules nor others give a finding another severity
when one of the rules looks at documents in another way. -/
theorem severity_severityRules_withRules (hrules : c.registry.rules = before ++ rule :: after)
    (id : String) :
    ((c.withRules (before ++ { rule with inspection } :: after)).severityRules.rule? id).map
        (·.severity) = (c.severityRules.rule? id).map (·.severity) := by
  unfold severityRules withRules
  cases c.synthesizer.registry with
  | some others => rfl
  | none =>
    have hregistry : c.registry = ⟨before ++ rule :: after⟩ := by rw [← hrules]
    rw [Option.getD_none, Option.getD_none, hregistry]
    exact Registry.severity_rule? before after rule inspection id

theorem block_withRules (d : Document) (hrules : c.registry.rules = before ++ rule :: after)
    (other : Rule) :
    (c.withRules (before ++ { rule with inspection } :: after)).block d other =
      c.block d other := by
  have hdiagnose : (fun f => ((c.withRules
      (before ++ { rule with inspection } :: after)).diagnose d f).value) =
      fun f => (c.diagnose d f).value := by
    funext f
    exact f.value_diagnose_congr _ d
      (c.severity_severityRules_withRules inspection hrules f.ruleId)
  unfold block
  rw [hdiagnose]

theorem length_enabled_withRules (hrules : c.registry.rules = before ++ rule :: after) :
    (c.withRules (before ++ { rule with inspection } :: after)).registry.enabled.length =
      c.registry.enabled.length := by
  unfold Registry.enabled
  rw [hrules]
  by_cases hon : rule.enabled = true
  · simp [withRules, hon]
  · simp [withRules, hon]

theorem flatMap_enabled_withRules (block : Rule → List Diagnostic) :
    (c.withRules (before ++ rule :: after)).registry.enabled.flatMap block =
      (before.filter (·.enabled)).flatMap block ++
        ((if rule.enabled then block rule else []) ++
          (after.filter (·.enabled)).flatMap block) := by
  unfold Registry.enabled
  by_cases hon : rule.enabled = true
  · simp [withRules, hon]
  · simp [withRules, hon]

/-- What is around the rules' diagnostics does not depend on how one of the rules
looks at documents. -/
theorem outcomeWith_withRules (around : Surroundings) (d : Document)
    (hrules : c.registry.rules = before ++ rule :: after) :
    (c.withRules (before ++ { rule with inspection } :: after)).outcomeWith around d =
      c.outcomeWith around d := by
  have hresult : (c.withRules (before ++ { rule with inspection } :: after)).resultOf d =
      c.resultOf d := by
    funext own external
    unfold resultOf
    rw [c.length_enabled_withRules inspection hrules]
  unfold outcomeWith
  rw [hresult]
  rfl

end Replacement

/-- **Rules do not disturb each other.** A check reports what the analyzer's run
gives, and behind it a block for each rule that is on, in order: the diagnostics of
all the rule's findings, or none of them where the rule fails or one of its findings
has no diagnostic. Whatever way to look at documents one of the rules is given, one
that fails or reports anything else, the analyzer's part, the blocks before and behind
that rule, the errors and what was checked stay the same. There is no result, whatever
the rules find, exactly if the document cannot be handed to the analyzer. -/
theorem check_isolates_rules (c : Checker) (around : Surroundings) (d : Document)
    (hd : d.isSupported = true) :
    (c.check around d).value =
      c.outcomeWith around d (c.registry.enabled.flatMap (c.block d)) ∧
    (∀ (before after : List Rule) (rule : Rule), c.registry.rules = before ++ rule :: after →
      ∀ inspection : Inspection,
        ((c.withRules (before ++ { rule with inspection } :: after)).check around d).value =
          c.outcomeWith around d
            ((before.filter (·.enabled)).flatMap (c.block d) ++
              ((if rule.enabled then c.block d { rule with inspection } else []) ++
                (after.filter (·.enabled)).flatMap (c.block d)))) ∧
    ∀ error, (c.check around d).value = .error error ↔
      ∃ a, c.analyzer = some a ∧ a.inputError? d = some error := by
  refine ⟨c.value_check around hd, fun before after rule hrules inspection => ?_,
    c.value_check_eq_error_iff around hd⟩
  have hblock : (c.withRules (before ++ { rule with inspection } :: after)).block d =
      c.block d := funext (c.block_withRules inspection d hrules)
  rw [value_check _ around hd, hblock, c.outcomeWith_withRules inspection around d hrules,
    flatMap_enabled_withRules]

/-- The reminder of a rule, on a line. -/
def reminderOn (line : Int) : Finding where
  ruleId := "CUBTEK-NAME-001"
  message := "Mind the names"
  line := some line

/-- A rule that finds the same on every document. -/
def remindingRule (findings : List Finding) : Rule :=
  Rule.custom ⟨"CUBTEK-STYLE-001", "Reminder", "", "Style", .hint⟩ "Reminder"
    fun _ => some findings

/-- A checker with such a rule in front of the naming rule. -/
def remindingChecker (findings : List Finding) : Checker :=
  { settings := {}, registry := ⟨[remindingRule findings, Rule.naming]⟩ }

/-- A document that names a variable of its own. -/
def countingDocument : Document where
  text := "int count;".toList

/-- One of three reminders is on a line that cannot be shown, and none of the three is
reported; the naming rule's diagnostic is. Where that rule fails instead, the reminders
are reported, with its severity, since they have its id. -/
theorem check_isolates_reminder_out_of_reach :
    (countingDocument.isSupported = true ∧
      (remindingChecker [reminderOn 0]).registry.rules =
        [remindingRule [reminderOn 0]] ++ Rule.naming :: []) ∧
    ((remindingChecker [reminderOn 0, reminderOn (leastLongInteger : Int), reminderOn 0]).check
        default countingDocument).value.map
        (fun result => result.diagnostics.map fun d => (d.message, d.severity)) =
      .ok [("Global variable \"count\" should start with \"g_\" prefix", .warning)] ∧
    (((remindingChecker [reminderOn 0]).withRules
        ([remindingRule [reminderOn 0]] ++
          { Rule.naming with inspection := .custom "Naming" fun _ => none } :: [])).check
        default countingDocument).value.map
        (fun result => result.diagnostics.map fun d => (d.message, d.severity)) =
      .ok [("Mind the names", .warning)] := by
  refine ⟨⟨rfl, rfl⟩, ?_, ?_⟩
  · rw [(check_isolates_rules _ default countingDocument rfl).1]
    decide +kernel
  · rw [(check_isolates_rules (remindingChecker [reminderOn 0]) default countingDocument rfl).2.1
      [remindingRule [reminderOn 0]] [] Rule.naming rfl]
    decide +kernel

/-- A checker with the naming rule and the standard analyzer. -/
def analyzingChecker : Checker :=
  { settings := {}, registry := ⟨[Rule.naming]⟩, analyzer := some {} }

/-- A document whose suffix is no part of a file name has no result, and so the block of
the naming rule is lost. -/
theorem check_loses_blocks :
    ¬ ∀ (c : Checker) (around : Surroundings) (d : Document), d.isSupported = true →
      ∃ result external, (c.check around d).value = .ok result ∧
        result.diagnostics = external ++ c.registry.enabled.flatMap (c.block d) := by
  intro h
  obtain ⟨result, -, hresult, -⟩ := h analyzingChecker default
    { text := "int z;".toList, path := some ⟨"", ["x.\x00"]⟩ } rfl
  have herror : (analyzingChecker.check default
      { text := "int z;".toList, path := some ⟨"", ["x.\x00"]⟩ }).value =
      .error .nullCharacter := rfl
  rw [herror] at hresult
  exact absurd hresult nofun

end Checker

end StyleCheck
