/-
# The numbers that reports show

A report shows where its diagnostics begin and end, and a number of too many digits breaks
it off. No result of a check by the command has such a number
(`ProjectResult.IsOfCommand.fitsReports`), as long as no text is that long. The rules of
such a checker are those of the standard, whatever the settings made of them, and point at
whole words of the text: their lines and columns are bounded by its length. The external
analyzer's are read from its output, where a number of too many digits is passed over, and
they are counted from one there: the greatest that is kept is small enough for a table,
which counts from one again.

Key definitions: `Position.Within`, `Diagnostic.FitsReports`, `Rule.IsStandard`,
`Item.Holds`, `ProjectResult.IsOfCommand`.
Key theorems: `fitsReports_of_mem_parseOutput`, `Checker.fitsReports_of_check`,
`Command.isStandard_of_setUp`, `ProjectResult.IsOfCommand.fitsReports`.
-/
import StyleCheck.Command.Run
import StyleCheck.Proofs.GivenRegistry
import StyleCheck.Proofs.Highlighting
import StyleCheck.Proofs.OutputRanges
import StyleCheck.Proofs.ProjectRuns
import StyleCheck.Proofs.References
import StyleCheck.Proofs.Reconfiguration

namespace StyleCheck

open Text Source

/-! ### Numbers in bounds -/

/-- The line and the column are below the bound, and not below zero. -/
structure Position.Within (p : Position) (bound : Nat) : Prop where
  line_nonneg : 0 ≤ p.line
  line_lt : p.line < bound
  character_nonneg : 0 ≤ p.character
  character_lt : p.character < bound

theorem Position.within_natCast {line column bound : Nat} (hline : line < bound)
    (hcolumn : column < bound) : (⟨line, column⟩ : Position).Within bound :=
  ⟨Int.natCast_nonneg line, Int.ofNat_lt.mpr hline, Int.natCast_nonneg column,
    Int.ofNat_lt.mpr hcolumn⟩

theorem Position.Within.mono {p : Position} {bound bound' : Nat} (h : p.Within bound)
    (hle : bound ≤ bound') : p.Within bound' where
  line_nonneg := h.line_nonneg
  line_lt := Int.lt_of_lt_of_le h.line_lt (Int.ofNat_le.mpr hle)
  character_nonneg := h.character_nonneg
  character_lt := Int.lt_of_lt_of_le h.character_lt (Int.ofNat_le.mpr hle)

/-- No number that a report shows of the diagnostic has too many digits. -/
def Diagnostic.FitsReports (x : Diagnostic) : Prop :=
  ∀ format, ∀ n ∈ Report.numbersOf format x, n.natAbs < 10 ^ maxIntegerDigits

/-- The table counts from one, so the beginning needs a smaller bound. -/
theorem Diagnostic.fitsReports_of_within {x : Diagnostic} {bound : Nat}
    (hbound : bound < 10 ^ maxIntegerDigits) (hstart : x.range.start.Within bound)
    (hstop : x.range.stop.Within (bound + 1)) : x.FitsReports := by
  obtain ⟨hline, hline', hcharacter, hcharacter'⟩ := hstart
  obtain ⟨hstopLine, hstopLine', hstopCharacter, hstopCharacter'⟩ := hstop
  intro format n hn
  generalize 10 ^ maxIntegerDigits = limit at hbound ⊢
  cases format with
  | table =>
    simp only [Report.numbersOf, List.mem_cons, List.not_mem_nil, or_false] at hn
    rcases hn with rfl | rfl
    · omega
    · omega
  | json =>
    simp only [Report.numbersOf, List.mem_cons, List.not_mem_nil, or_false] at hn
    rcases hn with rfl | rfl | rfl | rfl
    · omega
    · omega
    · omega
    · omega

/-! ### Diagnostics of the rules -/

theorem Document.within_positionAt (d : Document) (offset : Nat) :
    (d.positionAt offset).Within (offset + 1) := by
  have hline : newlineCount (d.text.take offset) ≤ offset :=
    List.count_le_length.trans (List.length_take_le _ _)
  have hcolumn : ((d.text.take offset).reverse.takeWhile (· ≠ '\n')).length ≤ offset := by
    have hprefix := (List.takeWhile_prefix (l := (d.text.take offset).reverse) (· ≠ '\n')).length_le
    rw [List.length_reverse] at hprefix
    exact hprefix.trans (List.length_take_le _ _)
  exact Position.within_natCast (Nat.lt_succ_of_le hline) (Nat.lt_succ_of_le hcolumn)

/-- The rule is one of the standard's, in whatever state. -/
def Rule.IsStandard (r : Rule) : Prop :=
  r.inspection = .naming ∨ ∃ standard limit, r.inspection = .functionLength standard limit

theorem Rule.IsStandard.pointsAt {r : Rule} (hr : r.IsStandard) {d : Document}
    {findings : List Finding} (h : (r.check d).value = some findings) {f : Finding}
    (hf : f ∈ findings) : f.PointsAt (mask d.text) := by
  rcases hr with hnaming | ⟨standard, limit, hlength⟩
  · have hcheck : (r.check d).value = some (badNames d) := by
      rw [Rule.check, hnaming]
      rfl
    rw [hcheck, Option.some.injEq] at h
    exact pointsAt_of_mem_badNames (h ▸ hf)
  · have hlimit : r.limit? = some limit := by
      rw [Rule.limit?, hlength]
    exact pointsAt_of_mem_longFunctions ((Rule.value_check_eq_some_iff hlimit).mp h) hf

/-- **The diagnostic of a whole word** lies within the text. -/
theorem fitsReports_of_pointsAt {settings : Settings} {registry : Registry} {f : Finding}
    {d : Document} {x : Diagnostic} (hd : d.text.length < 10 ^ maxIntegerDigits)
    (hf : f.PointsAt (mask d.text)) (hx : (f.diagnose settings registry d).value = .ok x) :
    x.FitsReports := by
  obtain ⟨offset, name, hoffset, hname, hshown⟩ := hf
  have hword := hshown.of_mask
  obtain ⟨y, hy, hrange, -⟩ :=
    Finding.exists_diagnose_of_range settings registry (range_of_wholeWord hoffset hname hword)
  obtain rfl := Except.ok.inj (hx.symm.trans hy)
  have hinside := hword.add_length_le
  have hpos : 0 < name.length := by
    obtain ⟨-, -, -, -, hne, -⟩ := hword
    exact List.length_pos_iff.mpr hne
  refine x.fitsReports_of_within hd ?_ ?_
  · rw [hrange]
    exact (d.within_positionAt offset).mono (by omega)
  · rw [hrange]
    exact (d.within_positionAt _).mono (by omega)

/-! ### Diagnostics of the analyzer -/

theorem digitValue?_lt {c : Char} {n : Nat} (h : digitValue? c = some n) : n < 10 := by
  unfold digitValue? at h
  split at h
  · split at h
    · rename_i hdigit
      obtain ⟨hlow, hhigh⟩ := toNat_of_isDigit hdigit
      obtain rfl := Option.some.inj h
      omega
    · exact absurd h nofun
  · obtain ⟨first, hfirst, rfl⟩ := Option.map_eq_some_iff.mp h
    have hnear := List.find?_some hfirst
    simp only [Bool.and_eq_true, decide_eq_true_eq] at hnear
    omega

theorem decimalValue_lt (digits : List Char) : decimalValue digits < 10 ^ digits.length := by
  have hvalue : ∀ start : Nat, digits.foldl (fun n c => 10 * n + (digitValue? c).getD 0) start <
      (start + 1) * 10 ^ digits.length := by
    induction digits with
    | nil => simp
    | cons c digits ih =>
      intro start
      have hdigit : (digitValue? c).getD 0 < 10 := by
        cases hc : digitValue? c with
        | none => decide
        | some n => exact digitValue?_lt hc
      calc (c :: digits).foldl (fun n c => 10 * n + (digitValue? c).getD 0) start
          < (10 * start + (digitValue? c).getD 0 + 1) * 10 ^ digits.length := ih _
        _ ≤ ((start + 1) * 10) * 10 ^ digits.length :=
            Nat.mul_le_mul_right _ (by omega)
        _ = (start + 1) * 10 ^ (c :: digits).length := by
            rw [Nat.mul_assoc, List.length_cons, Nat.pow_succ, Nat.mul_comm 10]
  simpa [decimalValue] using hvalue 0

/-- A number that is kept is less than the least of too many digits. -/
theorem decimalValue_lt_of_length_le {digits : List Char} (h : digits.length ≤ maxIntegerDigits) :
    decimalValue digits < 10 ^ maxIntegerDigits :=
  (decimalValue_lt digits).trans_le (Nat.pow_le_pow_right (by decide) h)

theorem OutputLine.endColumn_le (d : Document) (line column : Nat) :
    endColumn d line column ≤ max d.text.length column := by
  by_cases hinside : ∃ text, d.lineText line = .ok text ∧ column ≤ text.length
  · obtain ⟨text, htext, hcolumn⟩ := hinside
    obtain ⟨before, after, hwhole, -⟩ := d.exists_text_of_lineText htext
    have hlength := congrArg List.length hwhole
    have hend := (d.textIn_report htext hcolumn).1
    rw [List.length_append, List.length_append] at hlength
    omega
  · rw [endColumn_of_outside fun text htext =>
      Nat.lt_of_not_le fun hcolumn => hinside ⟨text, htext, hcolumn⟩]
    exact Nat.le_max_right _ _

/-- **What the analyzer reports** shows no number of too many digits. -/
theorem fitsReports_of_mem_parseOutput {d : Document} {output : List Char} {x : Diagnostic}
    (hd : d.text.length < 10 ^ maxIntegerDigits) (h : x ∈ (parseOutput d output).value) :
    x.FitsReports := by
  obtain ⟨reported, -, o, -, hdiagnose⟩ := exists_reports_of_mem_parseOutput h
  obtain ⟨line, column, hline, hcolumn, hrange⟩ := OutputLine.range_of_diagnose hdiagnose
  have hsound : ¬ o.HasFlawedNumbers := by
    rcases o.diagnose_cases d with ⟨-, flaw, hflaw⟩ | ⟨hsound, -⟩
    · exact absurd (hdiagnose.symm.trans hflaw) nofun
    · exact hsound
  have hshort : o.line.length ≤ maxIntegerDigits ∧ o.column.length ≤ maxIntegerDigits := by
    unfold OutputLine.HasFlawedNumbers at hsound
    omega
  have hlineLt := decimalValue_lt_of_length_le hshort.1
  have hcolumnLt := decimalValue_lt_of_length_le hshort.2
  have hend := OutputLine.endColumn_le d line column
  rw [hline] at hlineLt
  rw [hcolumn] at hcolumnLt
  have hbound : max (max d.text.length (line + 1)) (column + 1) < 10 ^ maxIntegerDigits := by
    generalize 10 ^ maxIntegerDigits = limit at hd hlineLt hcolumnLt ⊢
    omega
  refine x.fitsReports_of_within hbound ?_ ?_
  · rw [hrange]
    exact Position.within_natCast (by omega) (by omega)
  · rw [hrange]
    exact Position.within_natCast (by omega) (by omega)

/-! ### Results of checks -/

namespace Checker

variable {c : Checker} {around : Surroundings}

/-- A check by the rules of the standard, with the analyzer or without. -/
theorem fitsReports_of_check (hrules : ∀ r ∈ c.registry.rules, r.IsStandard) {d : Document}
    (hd : d.text.length < 10 ^ maxIntegerDigits) {result : CheckResult}
    (h : (c.check around d).value = .ok result) : ∀ x ∈ result.diagnostics, x.FitsReports := by
  by_cases hsupported : d.isSupported = true
  · rw [c.value_check around hsupported] at h
    obtain ⟨external, errors, rfl, hexternal⟩ := exists_external_parts h
    intro x hx
    rcases List.mem_append.mp hx with hx | hx
    · obtain ⟨output, hx⟩ := hexternal x hx
      exact fitsReports_of_mem_parseOutput hd hx
    · obtain ⟨r, hr, findings, hfindings, f, hf, hdiagnose⟩ := gives_of_mem_block hx
      have hstandard := hrules r (List.mem_of_mem_filter hr)
      exact fitsReports_of_pointsAt hd (hstandard.pointsAt hfindings hf) hdiagnose
  · rw [check, if_neg hsupported] at h
    obtain rfl := Except.ok.inj h
    exact fun x hx => absurd hx List.not_mem_nil

/-- What holds of the result of every item holds of all that a run keeps. -/
theorem forall_results_of_checkFrom {p : CheckResult → Prop} (cancelled : Nat → Bool) :
    ∀ (items : List Item) (index : Nat) (done : List (String × CheckResult)),
      (∀ item ∈ items, ∀ place entry, (c.checkItem around place item).value = .ok entry →
        p entry.2) →
      (∀ entry ∈ done, p entry.2) → ∀ result,
      (c.checkFrom around cancelled index done items).value = .ok result →
        ∀ entry ∈ result.results, p entry.2
  | [], _, done, _, hdone, result, h => by
    obtain rfl := Except.ok.inj h
    exact hdone
  | item :: rest, index, done, hitems, hdone, result, h => by
    obtain ⟨hitem, hrest⟩ := List.forall_mem_cons.mp hitems
    by_cases hstop : cancelled index = true
    · rw [checkFrom, if_pos hstop] at h
      obtain rfl := Except.ok.inj h
      exact hdone
    · rw [c.value_checkFrom_cons around index done (by simpa using hstop)] at h
      cases hentry : (c.checkItem around index item).value with
      | error e =>
        rw [hentry] at h
        cases h
      | ok entry =>
        rw [hentry] at h
        refine forall_results_of_checkFrom cancelled rest (index + 1) _ hrest ?_ result h
        intro other hother
        rcases mem_putEntry hother with rfl | hother
        · exact hitem index entry hentry
        · exact hdone other hother

end Checker

/-- The document that an item is, or that its file holds. -/
def Item.Holds (tree : Tree) (d : Document) : Item → Prop
  | .document own => own = d
  | .file name => tree.document name = .ok d

theorem Checker.exists_check_of_checkItem {c : Checker} {around : Surroundings} {index : Nat}
    {item : Item} {entry : String × CheckResult}
    (h : (c.checkItem around index item).value = .ok entry) :
    (∃ d, item.Holds around.tree d ∧ (c.check around d).value = .ok entry.2) ∨
      entry.2.diagnostics = [] := by
  rcases c.comesTo_or_endsAt around index item with ⟨other, hother⟩ | ⟨error, hends⟩
  · obtain rfl := Except.ok.inj (h.symm.trans hother.value_checkItem)
    cases hother with
    | document hpath hcheck => exact Or.inl ⟨_, rfl, hcheck⟩
    | pathless hpath hcheck => exact Or.inl ⟨_, rfl, hcheck⟩
    | file hread hcheck => exact Or.inl ⟨_, hread, hcheck⟩
    | unreadable hread hnull => exact Or.inr rfl
  · exact absurd (h.symm.trans (hends.value_checkItem index)) nofun

/-! ### Results of the command -/

theorem Rule.IsStateOf.isStandard {r origin : Rule} (h : r.IsStateOf origin)
    (horigin : origin.IsStandard) : r.IsStandard := by
  obtain ⟨enabled, severity, limit, rfl⟩ := h
  rcases horigin with hnaming | ⟨standard, former, hlength⟩
  · exact Or.inl (by rw [Rule.inState, hnaming])
  · exact Or.inr ⟨standard, limit, by rw [Rule.inState, hlength]⟩

theorem isStandard_of_mem_builtinRules : ∀ r ∈ builtinRules, r.IsStandard := by
  intro r hr
  rcases List.mem_cons.mp hr with rfl | hr
  · exact Or.inr ⟨_, _, rfl⟩
  · exact Or.inl (by rw [List.mem_singleton.mp hr]; rfl)

/-- **The checker of the command** has the rules of the standard. -/
theorem Command.isStandard_of_setUp {o : Command.Options} {tree : Tree} {external : Bool}
    {c : Checker} (h : (Command.setUp o tree external).value = .ok c) :
    ∀ r ∈ c.registry.rules, r.IsStandard := by
  have hstates : ∀ settings, ∀ r ∈ (Registry.applyTo settings builtinRules).value.1,
      r.IsStandard := by
    intro settings r hr
    have hall := Registry.forall₂_isStateOf_applyTo settings
      (List.forall₂_same.mpr fun rule _ => rule.isStateOf_self : List.Forall₂ _ builtinRules _)
    obtain ⟨origin, horigin, hstate⟩ := exists_of_mem_left hall r hr
    exact hstate.isStandard (isStandard_of_mem_builtinRules origin horigin)
  unfold Command.setUp at h
  split at h
  · exact absurd h nofun
  · simp only [Traced.value_bind] at h
    cases hsettings : (loadSettings tree usualLocations o.config (some tree.base)).value with
    | error e =>
      rw [hsettings] at h
      exact absurd h nofun
    | ok settings =>
      rw [hsettings] at h
      rcases hbuiltin : (Registry.builtin.apply settings).value with ⟨registry, _ | e⟩
      · simp only [Traced.value_bind, hbuiltin] at h
        obtain rfl := Except.ok.inj h
        have hrules : registry = ⟨(Registry.applyTo settings builtinRules).value.1⟩ :=
          (Prod.mk.inj hbuiltin).1.symm
        rw [hrules]
        exact hstates settings
      · simp only [Traced.value_bind, hbuiltin] at h
        exact absurd h nofun

/-- The result is one that the check command may come to: a checker that it has set up checked
some items, or those in front of a cancellation. No text of them is so long that its length
has too many digits. -/
def ProjectResult.IsOfCommand (result : ProjectResult) : Prop :=
  ∃ (o : Command.Options) (around : Surroundings) (external : Bool) (c : Checker)
    (cancelled : Nat → Bool) (items : List Item),
    (Command.setUp o around.tree external).value = .ok c ∧
    (∀ item ∈ items, ∀ d, item.Holds around.tree d → d.text.length < 10 ^ maxIntegerDigits) ∧
    (c.checkProject around cancelled items).value = .ok result

/-- **The command's results can be shown.** -/
theorem ProjectResult.IsOfCommand.fitsReports {result : ProjectResult} (h : result.IsOfCommand) :
    ∀ file ∈ result.results, ∀ x ∈ file.2.diagnostics, x.FitsReports := by
  obtain ⟨o, around, external, c, cancelled, items, hc, hlength, hresult⟩ := h
  have hrules := Command.isStandard_of_setUp hc
  refine Checker.forall_results_of_checkFrom (p := fun result =>
    ∀ x ∈ result.diagnostics, x.FitsReports) cancelled items 0 [] ?_ nofun result hresult
  intro item hitem place entry hentry
  rcases Checker.exists_check_of_checkItem hentry with ⟨d, hholds, hcheck⟩ | hnone
  · exact Checker.fitsReports_of_check hrules (hlength item hitem d hholds) hcheck
  · rw [hnone]
    exact nofun

end StyleCheck
