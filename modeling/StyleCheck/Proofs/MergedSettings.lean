/-
# Settings laid over settings

Laying a mapping over settings reads its entries for rules one after the other.
An entry sets a rule up if its key is a text and its value a truth value or a
mapping; the rule's id is that text without the blanks around it. Entries of any
other form count for nothing, so they erase nothing either.

Of all entries that set up one rule, under whatever keys, the last one holds, and
it replaces what stood there as a whole: the new settings of the rule follow from
its value alone (`RuleSettings.IsReadFrom`). The ids keep their places, and new
ones come behind them in the order in which they first came up. The project's
severity and its switches change only where the mapping names them, and laying
the same mapping over the outcome once more changes nothing
(`Settings.merge_takes_last_entries`).

Key definitions: `Mapping.ruleEntries`, `Mapping.Switches`, `ruleSetUp?`,
`RuleSettings.IsReadFrom`.
Key theorems: `Settings.value_mergeRules`, `Settings.value_merge`,
`Settings.merge_merge`, `Settings.merge_takes_last_entries`.
-/
import Mathlib.Data.List.Basic
import StyleCheck.Proofs.Entries

namespace StyleCheck

open Text

/-! ### The entry of one rule -/

/-- The entries for rules in a mapping of settings. -/
def Mapping.ruleEntries (data : Mapping) : Mapping :=
  match data.get? "rules" with
  | some (.map entries) => entries
  | _ => []

/-- Laid over settings, the mapping takes a switch from `earlier` to `later`: to the
truth of what stands under its key, and nowhere without the key. -/
def Mapping.Switches (data : Mapping) (key : String) (earlier later : Bool) : Prop :=
  (data.get? key = none → later = earlier) ∧
    ∀ value, data.get? key = some value → later = value.isTruthy

/-- The id of the rule that an entry sets up, if it sets up one: the key is a
text, and the value a truth value or a mapping. -/
def ruleSetUp? : Value × Value → Option PointText
  | (.text key, .bool _) => some (trimPoints key)
  | (.text key, .map _) => some (trimPoints key)
  | _ => none

namespace RuleSettings

/-- The settings of a rule are what a value says about it. A truth value switches
the rule and says nothing else. A mapping leaves the rule on unless it switches it
off by the truth value, and gives no severity or parameters but its own. -/
def IsReadFrom (settings : RuleSettings) : Value → Prop
  | .bool b => settings = { enabled := b }
  | .map entry =>
    (settings.enabled = false ↔ Mapping.get? entry "enabled" = some (.bool false)) ∧
      settings.severity = (Mapping.get? entry "severity").bind Severity.ofValue? ∧
      (∀ params, Mapping.get? entry "params" = some (.map params) → settings.params = params) ∧
      ((∀ params, Mapping.get? entry "params" ≠ some (.map params)) → settings.params = [])
  | _ => False

theorem value_enabledOf_eq_false_iff (entry : Mapping) :
    (enabledOf entry).value = false ↔ entry.get? "enabled" = some (.bool false) := by
  unfold enabledOf
  split
  · rename_i b hget
    simp [hget]
  · rename_i hget
    simp [hget]
  · rename_i hget
    simp [hget]
  · rename_i value hnot _ hget
    rw [hget]
    exact iff_of_false nofun fun heq => hnot false (Option.some.inj heq)

theorem isReadFrom_of_value_ofValue? {value : Value} {settings : RuleSettings}
    (h : (ofValue? value).value = some settings) : settings.IsReadFrom value := by
  cases value with
  | bool b => exact (Option.some.inj h).symm
  | map entry =>
    obtain rfl := Option.some.inj h
    refine ⟨value_enabledOf_eq_false_iff entry, rfl, fun params hparams => ?_, fun hnot => ?_⟩
    · simp only [hparams]
    · split
      · rename_i params hparams
        exact absurd hparams (hnot params)
      · rfl
  | null => exact absurd h nofun
  | number n => exact absurd h nofun
  | moment m => exact absurd h nofun
  | text t => exact absurd h nofun
  | list items => exact absurd h nofun

theorem IsReadFrom.unique {value : Value} {a b : RuleSettings} (ha : a.IsReadFrom value)
    (hb : b.IsReadFrom value) : a = b := by
  cases value with
  | bool on => exact ha.trans hb.symm
  | map entry =>
    obtain ⟨hswitch, hseverity, hparams, hnone⟩ := ha
    obtain ⟨hswitch', hseverity', hparams', hnone'⟩ := hb
    have henabled : a.enabled = b.enabled := Bool.eq_iff_iff.mpr (by
      rw [← Bool.not_eq_false, ← Bool.not_eq_false, hswitch, hswitch'])
    have hsame : a.params = b.params := by
      by_cases hgiven : ∃ params, Mapping.get? entry "params" = some (.map params)
      · obtain ⟨params, hget⟩ := hgiven
        rw [hparams params hget, hparams' params hget]
      · have hno := not_exists.mp hgiven
        rw [hnone hno, hnone' hno]
    obtain ⟨_, _, _⟩ := a
    obtain ⟨_, _, _⟩ := b
    simp only at henabled hsame hseverity hseverity'
    rw [henabled, hsame, hseverity, hseverity']
  | null => exact ha.elim
  | number n => exact ha.elim
  | moment m => exact ha.elim
  | text t => exact ha.elim
  | list items => exact ha.elim

end RuleSettings

/-- The rule that an entry sets up, with its settings. -/
def givenRule? : Value × Value → Option (PointText × RuleSettings)
  | (.text key, value) =>
    (RuleSettings.ofValue? value).value.map fun settings => (trimPoints key, settings)
  | _ => none

theorem id_givenRule? (entry : Value × Value) : (givenRule? entry).map (·.1) = ruleSetUp? entry := by
  obtain ⟨key, value⟩ := entry
  cases key with
  | text t => cases value <;> rfl
  | null => rfl
  | bool b => rfl
  | number n => rfl
  | moment m => rfl
  | list items => rfl
  | map entries => rfl

theorem ids_givenRules (entries : Mapping) :
    (entries.filterMap givenRule?).map (·.1) = entries.filterMap ruleSetUp? := by
  rw [List.map_filterMap]
  exact List.filterMap_congr fun entry _ => id_givenRule? entry

theorem exists_of_ruleSetUp? {key value : Value} {id : PointText}
    (h : ruleSetUp? (key, value) = some id) :
    ∃ settings, givenRule? (key, value) = some (id, settings) ∧ settings.IsReadFrom value := by
  rw [← id_givenRule?] at h
  obtain ⟨⟨_, settings⟩, hentry, rfl⟩ := Option.map_eq_some_iff.mp h
  refine ⟨settings, hentry, RuleSettings.isReadFrom_of_value_ofValue? ?_⟩
  unfold givenRule? at hentry
  split at hentry
  · rename_i heq
    obtain ⟨-, rfl⟩ := Prod.mk.inj heq
    obtain ⟨own, hown, hpair⟩ := Option.map_eq_some_iff.mp hentry
    obtain ⟨-, rfl⟩ := Prod.mk.inj hpair
    exact hown
  · exact absurd hentry nofun

namespace Settings

variable (s : Settings) (data : Mapping) (source : Option Path)

/-! ### All entries -/

/-- **The entries that set up rules are laid over the earlier ones**, one after
the other, and the other entries are passed over. -/
theorem value_mergeRules : ∀ (entries : Mapping) (rules : List (PointText × RuleSettings)),
    (mergeRules rules entries).value = putEntries (entries.filterMap givenRule?) rules
  | [], rules => by
    rw [mergeRules]
    rfl
  | (key, value) :: entries, rules => by
    cases key with
    | text t =>
      rw [mergeRules, Traced.value_bind, List.filterMap_cons, givenRule?]
      cases (RuleSettings.ofValue? value).value with
      | none => exact value_mergeRules entries rules
      | some settings =>
        rw [Option.map_some, putEntries_cons]
        exact value_mergeRules entries _
    | null => exact value_mergeRules entries rules
    | bool b => exact value_mergeRules entries rules
    | number n => exact value_mergeRules entries rules
    | moment m => exact value_mergeRules entries rules
    | list items => exact value_mergeRules entries rules
    | map inner => exact value_mergeRules entries rules

theorem value_merge :
    (s.merge data source).value =
      { severity := ((data.get? "severity").bind Severity.ofValue?).getD s.severity
        checkOnSave := switch data "checkOnSave" s.checkOnSave
        formatOnSave := switch data "formatOnSave" s.formatOnSave
        source := source.orElse fun _ => s.source
        rules := putEntries (data.ruleEntries.filterMap givenRule?) s.rules } := by
  unfold merge
  split
  · rename_i entries hget
    have hentries : data.ruleEntries = entries := by rw [Mapping.ruleEntries, hget]
    rw [hentries, Traced.value_bind, value_mergeRules]
    rfl
  · rename_i hnot
    have hentries : data.ruleEntries = [] := by
      unfold Mapping.ruleEntries
      split
      · rename_i entries hget
        exact absurd hget (hnot entries)
      · rfl
    rw [hentries]
    rfl

/-- The ids of before keep their places, and the new ones come behind them. -/
theorem ids_merge :
    (s.merge data source).value.rules.map (·.1) =
      s.rules.map (·.1) ++
        ((data.ruleEntries.filterMap ruleSetUp?).removeAll (s.rules.map (·.1))).eraseDups := by
  rw [value_merge, keys_putEntries, ids_givenRules]

/-- The last entry that sets up a rule gives its settings. -/
theorem entryAt?_merge_of_last {data} {before after : Mapping} {key value : Value} {id : PointText}
    (hentries : data.ruleEntries = before ++ (key, value) :: after)
    (hid : ruleSetUp? (key, value) = some id) (hlast : ∀ entry ∈ after, ruleSetUp? entry ≠ some id) :
    ∃ settings, settings.IsReadFrom value ∧
      entryAt? id (s.merge data source).value.rules = some settings := by
  obtain ⟨settings, hentry, hread⟩ := exists_of_ruleSetUp? hid
  have hafter : id ∉ (after.filterMap givenRule?).map (·.1) := by
    rw [ids_givenRules]
    intro hmem
    obtain ⟨entry, hmem, hsets⟩ := List.mem_filterMap.mp hmem
    exact hlast entry hmem hsets
  refine ⟨settings, hread, ?_⟩
  rw [value_merge, entryAt?_putEntries, hentries, List.filterMap_append, List.filterMap_cons, hentry,
    entryAt?_reverse_of_last hafter]
  rfl

theorem entryAt?_merge_of_none {data} {id : PointText}
    (h : ∀ entry ∈ data.ruleEntries, ruleSetUp? entry ≠ some id) :
    entryAt? id (s.merge data source).value.rules = entryAt? id s.rules := by
  have hnone : entryAt? id (data.ruleEntries.filterMap givenRule?).reverse = none := by
    rw [entryAt?_eq_none_iff, List.map_reverse, List.mem_reverse, ids_givenRules]
    intro hmem
    obtain ⟨entry, hmem, hsets⟩ := List.mem_filterMap.mp hmem
    exact h entry hmem hsets
  rw [value_merge, entryAt?_putEntries, hnone, Option.none_or]

/-! ### Once more -/

theorem switch_switch (key : String) (current : Bool) :
    switch data key (switch data key current) = switch data key current := by
  unfold switch
  cases data.get? key with
  | none => rfl
  | some value => rfl

/-- **Laying a mapping over settings twice is the same as once.** -/
theorem merge_merge :
    ((s.merge data source).value.merge data source).value = (s.merge data source).value := by
  have hseverity : ∀ given : Option Severity,
      given.getD (given.getD s.severity) = given.getD s.severity := by
    intro given
    cases given with
    | none => rfl
    | some severity => rfl
  have hsource : (source.orElse fun _ => source.orElse fun _ => s.source) =
      source.orElse fun _ => s.source := by
    cases source with
    | none => rfl
    | some path => rfl
  rw [value_merge (s.merge data source).value, value_merge s]
  simp only [hseverity, hsource, switch_switch, putEntries_putEntries]

/-! ### All together -/

theorem switches_switch (key : String) (earlier : Bool) :
    data.Switches key earlier (switch data key earlier) := by
  unfold Mapping.Switches switch
  refine ⟨fun hnone => ?_, fun value hsome => ?_⟩
  · rw [hnone]
    rfl
  · rw [hsome]
    rfl

/-- **The last entry for a rule holds.** After a mapping has been laid over
settings, a rule has exactly what the last entry that sets it up says, and nothing
else; without such an entry it has what it had. The ids of before keep their
places, and the new ones follow in the order in which they first came up. The
severity changes only to one that the mapping names, and a switch only if its key
is there. Laying the mapping over the outcome once more changes nothing. -/
theorem merge_takes_last_entries :
    (∀ (before after : Mapping) (key value : Value) (id : PointText),
      data.ruleEntries = before ++ (key, value) :: after →
      ruleSetUp? (key, value) = some id →
      (∀ entry ∈ after, ruleSetUp? entry ≠ some id) →
      ∃ settings, (∀ other : RuleSettings, other.IsReadFrom value ↔ other = settings) ∧
        entryAt? id (s.merge data source).value.rules = some settings) ∧
    (∀ id, (∀ entry ∈ data.ruleEntries, ruleSetUp? entry ≠ some id) →
      entryAt? id (s.merge data source).value.rules = entryAt? id s.rules) ∧
    (s.merge data source).value.rules.map (·.1) =
      s.rules.map (·.1) ++
        ((data.ruleEntries.filterMap ruleSetUp?).removeAll (s.rules.map (·.1))).eraseDups ∧
    (∀ severity, (data.get? "severity").bind Severity.ofValue? = some severity →
      (s.merge data source).value.severity = severity) ∧
    ((data.get? "severity").bind Severity.ofValue? = none →
      (s.merge data source).value.severity = s.severity) ∧
    data.Switches "checkOnSave" s.checkOnSave (s.merge data source).value.checkOnSave ∧
    data.Switches "formatOnSave" s.formatOnSave (s.merge data source).value.formatOnSave ∧
    ((s.merge data source).value.merge data source).value = (s.merge data source).value := by
  refine ⟨fun before after key value id hentries hid hlast => ?_,
    fun id hnone => s.entryAt?_merge_of_none source hnone, s.ids_merge data source,
    fun severity hgiven => ?_, fun hnone => ?_, ?_, ?_, s.merge_merge data source⟩
  · obtain ⟨settings, hread, hentry⟩ := s.entryAt?_merge_of_last source hentries hid hlast
    refine ⟨settings, fun other => ⟨fun hother => hother.unique hread, ?_⟩, hentry⟩
    rintro rfl
    exact hread
  · rw [value_merge, hgiven]
    rfl
  · rw [value_merge, hnone]
    rfl
  · rw [value_merge]
    exact switches_switch data "checkOnSave" s.checkOnSave
  · rw [value_merge]
    exact switches_switch data "formatOnSave" s.formatOnSave

/-- A mapping with three entries for one rule under keys that differ in blanks,
the last of which does not count, and a new rule between them. -/
def scatteredEntries : Mapping :=
  [(.text "rules", .map
    [(.text " A", .bool false), (.text "B", .bool true), (.text "A ", .map []),
     (.text "A", .number (.whole 0)), (.number (.whole 1), .bool false)])]

/-- Settings in which the rule has a severity and a parameter. -/
def settingsOfA : Settings where
  rules := [("A", { severity := some .error, params := [(.text "maxLines", .null)] })]

/-- The empty mapping is the last entry that counts: the rule is on, and its
severity and its parameter are gone. -/
theorem merge_takes_last_scattered_entry :
    (scatteredEntries.ruleEntries =
        [(.text " A", .bool false), (.text "B", .bool true)] ++ (.text "A ", .map []) ::
          [(.text "A", .number (.whole 0)), (.number (.whole 1), .bool false)] ∧
      ruleSetUp? (.text "A ", .map []) = some ("A" : String) ∧
      ∀ entry ∈ [((.text "A" : Value), (.number (.whole 0) : Value)),
        (.number (.whole 1), .bool false)], ruleSetUp? entry ≠ some ("A" : String)) ∧
    (settingsOfA.merge scatteredEntries none).value.rule? "A" = some {} ∧
    (settingsOfA.merge scatteredEntries none).value.rules.map (·.1) =
      [("A" : String), ("B" : String)] := by
  have hentries : scatteredEntries.ruleEntries =
      [(.text " A", .bool false), (.text "B", .bool true)] ++ (.text "A ", .map []) ::
        [(.text "A", .number (.whole 0)), (.number (.whole 1), .bool false)] := rfl
  have hid : ruleSetUp? (.text "A ", .map []) = some ("A" : String) := rfl
  have hlast : ∀ entry ∈ [((.text "A" : Value), (.number (.whole 0) : Value)),
      (.number (.whole 1), .bool false)], ruleSetUp? entry ≠ some ("A" : String) := by
    intro entry hentry
    simp only [List.mem_cons, List.not_mem_nil, or_false] at hentry
    rcases hentry with rfl | rfl
    · exact nofun
    · exact nofun
  obtain ⟨hholds, -, hids, -⟩ := merge_takes_last_entries settingsOfA scatteredEntries none
  obtain ⟨settings, hread, hsettings⟩ := hholds _ _ _ _ _ hentries hid hlast
  have hempty : ({} : RuleSettings).IsReadFrom (.map []) :=
    ⟨iff_of_false nofun nofun, rfl, nofun, fun _ => rfl⟩
  refine ⟨⟨hentries, hid, hlast⟩, ?_, ?_⟩
  · rw [rule?, hsettings, (hread {}).mp hempty]
  · rw [hids]
    decide

end Settings

end StyleCheck
