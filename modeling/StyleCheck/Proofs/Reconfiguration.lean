/-
# Settings that come after others

A checker keeps its rules for as long as it lives, and settings are put into
force on the same rules again and again. Some of these attempts may fail half
way: the rules before the one that fails are then set up by the new settings,
that rule partly, and the rules behind it still by older ones.

None of this lasts. Applying settings to a rule starts from the rule as it was
made, so the outcome is the same whatever state the rule was in
(`Rule.apply_eq_of_isStateOf`). Settings that go through to the end have replaced
every trace of what came before: the rules are as if the settings had been
applied once to rules just made, and the severity of a rule's diagnostics
follows from these settings alone (`Checker.reconfigure_forgets_history`).

Key definitions: `Rule.IsNew`, `Rule.IsStateOf`, `Checker.RunsOn`,
`Checker.reconfigured`.
Key theorems: `Rule.apply_eq_of_isStateOf`, `Registry.value_applyTo_eq`,
`Checker.RunsOn.reconfigured`, `Checker.reconfigure_forgets_history`.
-/
import Mathlib.Data.List.Forall2
import StyleCheck.Proofs.RuleBlocks

namespace StyleCheck

namespace Rule

/-! ### One rule -/

/-- The rule is as it was made: one of the standard's, or one of a caller's. -/
def IsNew (r : Rule) : Prop :=
  (∃ standard, r = functionLength standard) ∨ r = naming ∨
    ∃ info kind run, r = custom info kind run

/-- The rule in another state: switched on or off, with a severity and, for the
function length rule, with a limit. -/
def inState (r : Rule) (enabled : Bool) (severity : Severity) (limit : Int) : Rule where
  info := r.info
  inspection :=
    match r.inspection with
    | .functionLength standard _ => .functionLength standard limit
    | other => other
  enabled
  severity

/-- The first rule is the second one in some state. -/
def IsStateOf (r origin : Rule) : Prop :=
  ∃ enabled severity limit, r = origin.inState enabled severity limit

theorem isStateOf_self (r : Rule) : r.IsStateOf r := by
  refine ⟨r.enabled, r.severity, r.limit?.getD 0, ?_⟩
  obtain ⟨info, inspection, enabled, severity⟩ := r
  cases inspection with
  | functionLength standard limit => rfl
  | naming => rfl
  | custom kind run => rfl

theorem IsStateOf.info_eq {r origin : Rule} (h : r.IsStateOf origin) : r.info = origin.info := by
  obtain ⟨enabled, severity, limit, rfl⟩ := h
  rfl

theorem inState_inState (r : Rule) (enabled on : Bool) (severity own : Severity)
    (limit bound : Int) :
    (r.inState enabled severity limit).inState on own bound = r.inState on own bound := by
  obtain ⟨info, inspection, _, _⟩ := r
  cases inspection with
  | functionLength standard limit => rfl
  | naming => rfl
  | custom kind run => rfl

theorem reset_inState (r : Rule) (enabled : Bool) (severity : Severity) (limit : Int) :
    (r.inState enabled severity limit).reset = r.reset := by
  obtain ⟨info, inspection, on, own⟩ := r
  cases inspection with
  | functionLength standard limit => rfl
  | naming => rfl
  | custom kind run => rfl

/-- **What settings make of a rule does not depend on its state.** -/
theorem apply_eq_of_isStateOf {r origin : Rule} (h : r.IsStateOf origin)
    (settings : Option RuleSettings) : r.apply settings = origin.apply settings := by
  obtain ⟨enabled, severity, limit, rfl⟩ := h
  have hreset := origin.reset_inState enabled severity limit
  cases settings with
  | none => rw [apply, apply, hreset]
  | some s =>
    unfold apply
    rw [hreset]
    rfl

theorem exists_eq_inState_of_configure {r configured : Rule} {params : Mapping}
    (h : (r.configure params).value = .ok configured) :
    ∃ limit, configured = r.inState r.enabled r.severity limit := by
  obtain ⟨info, inspection, enabled, severity⟩ := r
  cases inspection with
  | functionLength standard limit =>
    simp only [configure, Traced.value_bind] at h
    cases hlimit : (configureLimit standard params).value with
    | ok limit =>
      rw [hlimit] at h
      exact ⟨limit, (Except.ok.inj h).symm⟩
    | error e =>
      rw [hlimit] at h
      exact absurd h nofun
  | naming => exact ⟨0, (Except.ok.inj h).symm⟩
  | custom kind run => exact ⟨0, (Except.ok.inj h).symm⟩

/-- The state that settings give a rule, also where its parameters fail: it is
on unless they switch it off, and has the severity that they give or else its
default. -/
theorem exists_value_apply_eq (r : Rule) (settings : Option RuleSettings) :
    ∃ limit, (r.apply settings).value.1 =
      r.inState ((settings.map (·.enabled)).getD true)
        ((settings.bind (·.severity)).getD r.info.defaultSeverity) limit := by
  have hreset : ∀ enabled severity, ∃ limit,
      { r.reset with enabled, severity } = r.inState enabled severity limit := by
    intro enabled severity
    obtain ⟨info, inspection, on, own⟩ := r
    cases inspection with
    | functionLength standard limit => exact ⟨standard, rfl⟩
    | naming => exact ⟨0, rfl⟩
    | custom kind run => exact ⟨0, rfl⟩
  cases settings with
  | none => exact hreset true r.info.defaultSeverity
  | some s =>
    obtain ⟨limit, hswitched⟩ := hreset s.enabled (s.severity.getD r.info.defaultSeverity)
    simp only [apply, Traced.value_bind]
    rw [hswitched]
    cases hconfigured : ((r.inState s.enabled (s.severity.getD r.info.defaultSeverity)
        limit).configure s.params).value with
    | ok configured =>
      obtain ⟨own, rfl⟩ := exists_eq_inState_of_configure hconfigured
      exact ⟨own, r.inState_inState _ _ _ _ _ _⟩
    | error e => exact ⟨limit, rfl⟩

theorem isStateOf_value_apply (r : Rule) (settings : Option RuleSettings) :
    (r.apply settings).value.1.IsStateOf r := by
  obtain ⟨limit, hstate⟩ := r.exists_value_apply_eq settings
  exact ⟨_, _, limit, hstate⟩

theorem severity_value_apply (r : Rule) (settings : Option RuleSettings) :
    (r.apply settings).value.1.severity =
      (settings.bind (·.severity)).getD r.info.defaultSeverity := by
  obtain ⟨limit, hstate⟩ := r.exists_value_apply_eq settings
  rw [hstate]
  rfl

end Rule

/-! ### All rules of a registry -/

namespace Registry

variable {rules origins : List Rule} (settings : Settings)

theorem value_applyTo_cons (rule : Rule) (rest : List Rule) :
    (applyTo settings (rule :: rest)).value =
      match (rule.apply (settings.rule? rule.info.id)).value with
      | (applied, some e) => (applied :: rest, some e)
      | (applied, none) =>
        (applied :: (applyTo settings rest).value.1, (applyTo settings rest).value.2) := by
  rw [applyTo, Traced.value_bind]
  rcases (rule.apply (settings.rule? rule.info.id)).value with ⟨applied, _ | e⟩
  · rfl
  · rfl

/-- Applying settings, even if it fails at some rule, changes no more than the
states of the rules. -/
theorem forall₂_isStateOf_applyTo (h : List.Forall₂ Rule.IsStateOf rules origins) :
    List.Forall₂ Rule.IsStateOf (applyTo settings rules).value.1 origins := by
  induction h with
  | nil => exact .nil
  | @cons rule origin rules origins hrule hrules ih =>
    have hstate := origin.isStateOf_value_apply (settings.rule? origin.info.id)
    rw [value_applyTo_cons, Rule.apply_eq_of_isStateOf hrule, hrule.info_eq]
    rcases horigin : (origin.apply (settings.rule? origin.info.id)).value with ⟨applied, _ | e⟩
    · rw [horigin] at hstate
      exact .cons hstate ih
    · rw [horigin] at hstate
      exact .cons hstate hrules

/-- **Settings fail or go through whatever states the rules are in**, and where
they go through they leave the same rules. -/
theorem value_applyTo_eq (h : List.Forall₂ Rule.IsStateOf rules origins) :
    (applyTo settings rules).value.2 = (applyTo settings origins).value.2 ∧
      ((applyTo settings rules).value.2 = none →
        (applyTo settings rules).value.1 = (applyTo settings origins).value.1) := by
  induction h with
  | nil => exact ⟨rfl, fun _ => rfl⟩
  | @cons rule origin rules origins hrule hrules ih =>
    rw [value_applyTo_cons, value_applyTo_cons, Rule.apply_eq_of_isStateOf hrule, hrule.info_eq]
    rcases (origin.apply (settings.rule? origin.info.id)).value with ⟨applied, _ | e⟩
    · exact ⟨ih.1, fun hnone => congrArg (applied :: ·) (ih.2 hnone)⟩
    · exact ⟨rfl, fun hnone => absurd hnone nofun⟩

theorem forall₂_apply_of_applyTo (h : (applyTo settings rules).value.2 = none) :
    List.Forall₂ (fun applied rule => applied = (rule.apply (settings.rule? rule.info.id)).value.1)
      (applyTo settings rules).value.1 rules := by
  induction rules with
  | nil => exact .nil
  | cons rule rules ih =>
    rw [value_applyTo_cons] at h ⊢
    rcases hrule : (rule.apply (settings.rule? rule.info.id)).value with ⟨applied, _ | e⟩
    · rw [hrule] at h
      refine .cons ?_ (ih h)
      rw [hrule]
    · rw [hrule] at h
      exact absurd h nofun

theorem rule?_eq_some_of_mem (hnodup : (rules.map (·.info.id)).Nodup) {rule : Rule}
    (hmem : rule ∈ rules) : (⟨rules⟩ : Registry).rule? rule.info.id = some rule := by
  unfold rule?
  induction rules with
  | nil => exact absurd hmem List.not_mem_nil
  | cons first rules ih =>
    obtain ⟨hfirst, hrest⟩ := List.nodup_cons.mp hnodup
    rw [List.find?_cons]
    rcases List.mem_cons.mp hmem with rfl | hmem
    · simp
    · have hne : first.info.id ≠ rule.info.id := fun heq =>
        hfirst (List.mem_map.mpr ⟨rule, hmem, heq.symm⟩)
      simpa [hne] using ih hrest hmem

theorem nodup_of_foldlM_register {registry result : Registry}
    (hnodup : (registry.rules.map (·.info.id)).Nodup)
    (h : rules.foldlM register registry = .ok result) :
    ((registry.rules ++ rules).map (·.info.id)).Nodup := by
  induction rules generalizing registry with
  | nil => simpa using hnodup
  | cons rule rules ih =>
    rw [List.foldlM_cons] at h
    cases hcontains : registry.contains rule.info.id with
    | true =>
      rw [register, if_pos hcontains] at h
      exact absurd h nofun
    | false =>
      rw [register, if_neg (by simp [hcontains])] at h
      have hnot : rule.info.id ∉ registry.rules.map (·.info.id) := by
        simpa [contains, rule?] using hcontains
      have hmore : ((registry.rules ++ [rule]).map (·.info.id)).Nodup := by
        rw [List.map_append, List.nodup_append]
        refine ⟨hnodup, by simp, ?_⟩
        rintro id hid _ hsingle rfl
        rw [List.map_singleton, List.mem_singleton] at hsingle
        exact hnot (hsingle ▸ hid)
      have := ih hmore h
      rwa [List.append_assoc, List.singleton_append] at this

theorem nodup_of_ofRules {registry : Registry} (h : ofRules rules = .ok registry) :
    (rules.map (·.info.id)).Nodup :=
  @nodup_of_foldlM_register rules ⟨[]⟩ registry List.nodup_nil h

/-- Where settings have gone through, the severity of a rule is the one that they
give or else the rule's default. -/
theorem severity_rule?_applyTo (h : (applyTo settings rules).value.2 = none) (id : String) :
    ((⟨(applyTo settings rules).value.1⟩ : Registry).rule? id).map (·.severity) =
      ((⟨rules⟩ : Registry).rule? id).map fun rule =>
        ((settings.rule? id).bind (·.severity)).getD rule.info.defaultSeverity := by
  have happly := forall₂_apply_of_applyTo settings h
  clear h
  unfold rule?
  generalize (applyTo settings rules).value.1 = results at happly ⊢
  induction happly with
  | nil => rfl
  | @cons applied rule others rules happlied _ ih =>
    have hinfo : applied.info = rule.info :=
      happlied ▸ (rule.isStateOf_value_apply (settings.rule? rule.info.id)).info_eq
    rw [List.find?_cons, List.find?_cons, hinfo]
    by_cases hid : rule.info.id = id
    · subst hid
      simpa [happlied] using rule.severity_value_apply (settings.rule? rule.info.id)
    · simpa [hid] using ih

theorem map_id_eq (h : List.Forall₂ Rule.IsStateOf rules origins) :
    rules.map (·.info.id) = origins.map (·.info.id) := by
  induction h with
  | nil => rfl
  | cons hrule _ ih => rw [List.map_cons, List.map_cons, ih, hrule.info_eq]

end Registry

/-- Where settings have gone through, the severity of an id follows from them and
from what is fixed about the rules. -/
theorem severityOf_applyTo {settings : Settings} {rules : List Rule}
    (h : (Registry.applyTo settings rules).value.2 = none) (id : String)
    (projectDefault : Option Severity) :
    severityOf settings ⟨(Registry.applyTo settings rules).value.1⟩ id projectDefault =
      ((settings.rule? id).bind (·.severity)).getD
        ((((⟨rules⟩ : Registry).rule? id).map (·.info.defaultSeverity)).getD
          (projectDefault.getD settings.severity)) := by
  rw [severityOf_eq, Registry.severity_rule?_applyTo settings h]
  cases (settings.rule? id).bind (·.severity) with
  | some severity => rfl
  | none => simp only [Option.getD_none]

theorem severityOf_applyTo_of_mem {settings : Settings} {rules : List Rule}
    (h : (Registry.applyTo settings rules).value.2 = none)
    (hnodup : ((Registry.applyTo settings rules).value.1.map (·.info.id)).Nodup) {rule : Rule}
    (hrule : rule ∈ (Registry.applyTo settings rules).value.1)
    (projectDefault : Option Severity) :
    severityOf settings ⟨(Registry.applyTo settings rules).value.1⟩ rule.info.id projectDefault =
      rule.severity := by
  have hsome := Registry.rule?_eq_some_of_mem hnodup hrule
  have hseverity := Registry.severity_rule?_applyTo settings h rule.info.id
  rw [severityOf_eq, hsome]
  rw [hsome] at hseverity
  cases hoverride : (settings.rule? rule.info.id).bind (·.severity) with
  | none => rfl
  | some severity =>
    rw [hoverride] at hseverity
    obtain ⟨_, -, hown⟩ := Option.map_eq_some_iff.mp hseverity.symm
    exact hown

/-! ### Checkers -/

namespace Checker

/-- The checker runs these rules: each of them was just made, they were
registered together, and the checker holds them in whatever states. Findings take
their severity from the same rules. -/
structure RunsOn (c : Checker) (origins : List Rule) : Prop where
  isNew : ∀ rule ∈ origins, rule.IsNew
  registered : Registry.ofRules origins = .ok ⟨origins⟩
  states : List.Forall₂ Rule.IsStateOf c.registry.rules origins
  ownRules : c.synthesizer.registry = none

/-- The checker after settings were put into force one after the other, each of
them as far as it went. -/
def reconfigured (c : Checker) (history : List Settings) : Checker :=
  history.foldl (fun c settings => (c.reconfigure settings).value.1) c

variable {c : Checker} {origins : List Rule}

theorem value_reconfigure (c : Checker) (settings : Settings) :
    (c.reconfigure settings).value =
      ({ c with
          settings
          registry := ⟨(Registry.applyTo settings c.registry.rules).value.1⟩
          synthesizer := { c.synthesizer with settings } },
        (Registry.applyTo settings c.registry.rules).value.2) := rfl

/-- One reconfiguration, complete or not, leaves the checker with its rules. -/
theorem RunsOn.reconfigure (h : c.RunsOn origins) (settings : Settings) :
    (c.reconfigure settings).value.1.RunsOn origins :=
  ⟨h.isNew, h.registered, Registry.forall₂_isStateOf_applyTo settings h.states, h.ownRules⟩

/-- So does every run of them. -/
theorem RunsOn.reconfigured (h : c.RunsOn origins) (history : List Settings) :
    (c.reconfigured history).RunsOn origins := by
  induction history generalizing c with
  | nil => exact h
  | cons settings history ih => exact ih (h.reconfigure settings)

/-- **The settings applied last decide alone.** Whatever settings a checker was
given before, and wherever these failed, once settings go through its rules are
as if these settings had been applied once to the rules just made. The severity
of a rule id is then the one that the settings give for it, else the default of
the registered rule, else the project's default if there is one, else the
settings' own; for a registered rule it is the severity that the rule holds. -/
theorem reconfigure_forgets_history (c : Checker) (origins : List Rule) (hc : c.RunsOn origins)
    (history : List Settings) (settings : Settings) (last : Checker)
    (hlast : ((c.reconfigured history).reconfigure settings).value = (last, none)) :
    ((⟨origins⟩ : Registry).apply settings).value = (last.registry, none) ∧
      last.settings = settings ∧
      (∀ (id : String) (projectDefault : Option Severity),
        last.severityOf id projectDefault =
          ((settings.rule? id).bind (·.severity)).getD
            ((((⟨origins⟩ : Registry).rule? id).map (·.info.defaultSeverity)).getD
              (projectDefault.getD settings.severity))) ∧
      ∀ rule ∈ last.registry.rules, ∀ projectDefault : Option Severity,
        last.severityOf rule.info.id projectDefault = rule.severity := by
  have hstates := (hc.reconfigured history).states
  have hown : ∀ registry : Registry, (c.reconfigured history).synthesizer.registry.getD registry =
      registry := fun registry => by rw [(hc.reconfigured history).ownRules, Option.getD_none]
  rw [value_reconfigure] at hlast
  obtain ⟨rfl, hnone⟩ := Prod.mk.inj hlast
  simp only [Checker.severityOf, severityRules, hown]
  obtain ⟨hfailure, hrules⟩ := Registry.value_applyTo_eq settings hstates
  have hdone : (Registry.applyTo settings origins).value.2 = none := hfailure.symm.trans hnone
  simp only [hrules hnone]
  refine ⟨Prod.ext rfl hdone, trivial, severityOf_applyTo hdone, fun rule hrule => ?_⟩
  have hids : (Registry.applyTo settings origins).value.1.map (·.info.id) =
      origins.map (·.info.id) := by
    rw [← hrules hnone]
    exact Registry.map_id_eq (Registry.forall₂_isStateOf_applyTo settings hstates)
  exact severityOf_applyTo_of_mem hdone (hids ▸ Registry.nodup_of_ofRules hc.registered) hrule

theorem runsOn_of_ofRules (settings : Settings) (analyzer : Option Analyzer)
    (hnew : ∀ rule ∈ origins, rule.IsNew) (h : Registry.ofRules origins = .ok ⟨origins⟩) :
    ({ settings, registry := ⟨origins⟩, analyzer } : Checker).RunsOn origins :=
  ⟨hnew, h, List.forall₂_same.mpr fun rule _ => rule.isStateOf_self, rfl⟩

/-- Settings that switch the naming rule off and shorten the limit. -/
def lenientNames : Settings where
  rules :=
    [(("CUBTEK-FUNC-001" : String), { params := [(.text "maxLines", .number (.whole 7))] }),
     (("CUBTEK-NAME-001" : String), { enabled := false, severity := some .hint })]

/-- Settings that fail at the function length rule. -/
def infiniteLimit : Settings where
  rules :=
    [(("CUBTEK-FUNC-001" : String),
      { severity := some .error,
        params := [(.text "maxLines", .number (.real (.infinite false)))] })]

/-- Behind settings that failed, and left the naming rule off and the length rule
an error, settings without entries bring everything back. -/
theorem reconfigure_forgets_infinite_limit :
    let c : Checker := { settings := .standard, registry := .builtin }
    ∃ last, ((c.reconfigured [lenientNames, infiniteLimit]).reconfigure {}).value = (last, none) ∧
      c.RunsOn builtinRules ∧
      ((c.reconfigured [lenientNames]).reconfigure infiniteLimit).value.2 = some .infinite ∧
      (c.reconfigured [lenientNames, infiniteLimit]).registry.enabled.map (·.severity) =
        [.error] ∧
      last.registry.enabled.map (·.severity) = [.warning, .warning] ∧
      last.severityOf "CUBTEK-FUNC-001" (some .hint) = .warning := by
  intro c
  have hc : c.RunsOn builtinRules := by
    refine runsOn_of_ofRules _ none ?_ rfl
    intro rule hrule
    rcases List.mem_cons.mp hrule with rfl | hrule
    · exact Or.inl ⟨standardLimit, rfl⟩
    · exact Or.inr (Or.inl (List.mem_singleton.mp hrule))
  obtain ⟨honce, -, hseverity, -⟩ := reconfigure_forgets_history c builtinRules hc
    [lenientNames, infiniteLimit] {} _ rfl
  refine ⟨_, rfl, hc, rfl, rfl, ?_, hseverity "CUBTEK-FUNC-001" (some .hint)⟩
  rw [← (Prod.mk.inj honce).1]
  rfl

end Checker

end StyleCheck
