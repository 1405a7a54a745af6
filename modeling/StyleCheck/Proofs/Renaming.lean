/-
# The remedy for a bad name

The remedy for a finding of the naming rule replaces the text of its range, and
that is the name (`textIn_of_wholeWord`), by the corrected name; where the
correction changes nothing there is no remedy (`renamesTo_correctedName`).

For a function the corrected name is meant to be the name in camelCase. It is
so unless the function's name holds the word "parameter" in some letter case:
then the complaint is misread, and only the first letter is made small
(`function_rename_iff`).

Key definitions: `RenamesTo`.
Key theorems: `text_apply_edit`, `renamesTo_correctedName`,
`RenamesTo.unique`, `function_rename_iff`.
-/
import StyleCheck.Fix.Action
import StyleCheck.Proofs.Complaints
import StyleCheck.Proofs.Highlighting

namespace StyleCheck

open Text Source StyleCheck.Fix

/-- The text after an edit of what stands between two offsets. -/
theorem text_apply_edit (d : Document) {before between after : List Char} (newText : List Char)
    (htext : d.text = before ++ (between ++ after)) :
    (Edit.apply ⟨⟨d.positionAt before.length,
      d.positionAt ((before.length + between.length : Nat) : Int)⟩, newText⟩ d).text =
      before ++ (newText ++ after) := by
  have hlen : d.text.length = before.length + (between.length + after.length) := by
    rw [htext]; simp
  unfold Edit.apply
  simp only
  rw [d.offsetAt_positionAt (by omega), d.offsetAt_positionAt (by omega)]
  simp only [Int.toNat_natCast]
  rw [htext, List.take_left' rfl, ← List.append_assoc before, List.drop_left' (by simp),
    List.append_assoc]

/-- The remedy for the diagnostic is to replace the text of its range by
`newName`, and there is none if `newName` is the old one. -/
def RenamesTo (d : Document) (diagnostic : Diagnostic) (name newName : List Char) : Prop :=
  (newName = name → Handlers.standard.actionFor? d diagnostic = none) ∧
    (newName ≠ name → ∃ action, Handlers.standard.actionFor? d diagnostic = some action ∧
      action.edits = [⟨diagnostic.range, newName⟩])

theorem RenamesTo.unique {d : Document} {diagnostic : Diagnostic} {name a b : List Char}
    (ha : RenamesTo d diagnostic name a) (hb : RenamesTo d diagnostic name b) : a = b := by
  by_cases hname : a = name
  · by_contra hne
    obtain ⟨action, haction, -⟩ := hb.2 fun h => hne (hname.trans h.symm)
    rw [ha.1 hname] at haction
    simp at haction
  · obtain ⟨action, haction, hedits⟩ := ha.2 hname
    by_cases hbname : b = name
    · rw [hb.1 hbname] at haction
      simp at haction
    · obtain ⟨action', haction', hedits'⟩ := hb.2 hbname
      rw [haction] at haction'
      obtain rfl := Option.some.inj haction'
      rw [hedits] at hedits'
      simpa using hedits'

/-- A finding of the naming rule that points at a word of the source is
remedied by the corrected name. -/
theorem renamesTo_correctedName (settings : Settings) (registry : Registry) {d : Document}
    {f : Finding} {offset : Nat} {name : List Char} (hrule : f.ruleId = namingInfo.id)
    (hoffset : f.offset = some (offset : Int)) (hname : f.identifier = some (String.ofList name))
    (hword : WholeWord name d.text offset) :
    ∃ x, (f.diagnose settings registry d).value = .ok x ∧
      x.range = ⟨d.positionAt offset, d.positionAt ((offset + name.length : Nat) : Int)⟩ ∧
      RenamesTo d x name (correctedName name f.message.toList) := by
  obtain ⟨x, hx, hrange, hid, hmessage⟩ := Finding.exists_diagnose_of_range settings registry
    (range_of_wholeWord hoffset hname hword)
  have htext : d.textIn x.range = name := by
    rw [hrange]
    exact textIn_of_wholeWord hword
  have hne : name ≠ [] := by
    obtain ⟨-, -, -, -, hne, -⟩ := hword
    exact hne
  have haction : Handlers.standard.actionFor? d x = renameIdentifier d x := by
    unfold Handlers.actionFor?
    rw [hid, hrule]
    rfl
  refine ⟨x, hx, hrange, fun hsame => ?_, fun hchanged => ?_⟩
  · rw [haction, renameIdentifier]
    simp only [htext, hmessage]
    rw [if_pos (Or.inr hsame)]
  · rw [haction, renameIdentifier]
    simp only [htext, hmessage]
    rw [if_neg]
    · exact ⟨_, rfl, rfl⟩
    · rintro (h | h)
      · exact hne h
      · exact hchanged h

/-! ### Functions -/

theorem mem_functionFindings_of_kind {d : Document} {f : Finding} (h : f ∈ badNames d)
    (hkind : f.kind = .function) : f ∈ functionFindings (mask d.text) := by
  rcases List.mem_append.mp h with h | h
  · obtain ⟨x, y, -, -, -, rfl⟩ := exists_declared_of_mem_globalFindings h
    exact LocationKind.noConfusion hkind
  · exact h

/-- **How a function is renamed.** The remedy for a function's name is the name
with a small first letter if it holds the word "parameter" in any letter case,
and the name in camelCase otherwise. So it is the name in camelCase exactly
when the word is not there, or when the two corrections agree. -/
theorem function_rename_iff (settings : Settings) (registry : Registry) (d : Document)
    (f : Finding) (h : f ∈ badNames d) (hkind : f.kind = .function) :
    ∃ (x : Diagnostic) (name : String), (f.diagnose settings registry d).value = .ok x ∧
      f.identifier = some name ∧
      RenamesTo d x name.toList
        (if occursIn "parameter".toList (lower name.toList) then lowerFirst name.toList
          else toCamelCase name.toList) ∧
      (RenamesTo d x name.toList (toCamelCase name.toList) ↔
        occursIn "parameter".toList (lower name.toList) = false ∨
          lowerFirst name.toList = toCamelCase name.toList) := by
  obtain ⟨s, hs, rfl⟩ := List.mem_map.mp (mem_functionFindings_of_kind h hkind)
  have hshown := wholeWord_of_mem_signatures (List.mem_filter.mp hs).1
  have hword : ∀ c ∈ s.name, isWord c = true := by
    obtain ⟨-, -, -, -, -, hword, -⟩ := hshown
    exact hword
  obtain ⟨x, hx, -, hrename⟩ := renamesTo_correctedName settings registry
    (show (functionFinding s).ruleId = namingInfo.id from rfl) rfl rfl hshown.of_mask
  rw [correctedName_function hword] at hrename
  refine ⟨x, String.ofList s.name, hx, rfl, ?_⟩
  rw [String.toList_ofList]
  refine ⟨hrename, fun hcamel => ?_, fun hsame => ?_⟩
  · by_cases hparameter : occursIn "parameter".toList (lower s.name) = true
    · rw [if_pos hparameter] at hrename
      exact Or.inr (hrename.unique hcamel)
    · exact Or.inl (by simpa using hparameter)
  · rcases hsame with hnot | hsame
    · rwa [hnot, if_neg Bool.false_ne_true] at hrename
    · rwa [hsame, ite_self] at hrename

/-- A function whose name holds the word "parameter" and an underscore. -/
def sourceCountingParameters : Document where
  text := "void parameter_count(void) \x7b\n\x7d\n".toList

/-- What is found about that function. -/
def parameterCountFinding : Finding :=
  functionFinding ⟨0, 28, "void".toList, 5, "parameter_count".toList⟩

theorem mem_badNames_sourceCountingParameters :
    parameterCountFinding ∈ badNames sourceCountingParameters := by
  have hnames : badNames sourceCountingParameters = [parameterCountFinding] := rfl
  rw [hnames]
  exact List.mem_cons_self

/-- What the remedy for that function is, and is not. -/
theorem function_rename_iff_parameter_count :
    (parameterCountFinding ∈ badNames sourceCountingParameters ∧
      parameterCountFinding.kind = .function) ∧
    ∃ (x : Diagnostic) (name : String),
      (parameterCountFinding.diagnose {} .builtin sourceCountingParameters).value = .ok x ∧
      parameterCountFinding.identifier = some name ∧
      RenamesTo sourceCountingParameters x name.toList
        (if occursIn "parameter".toList (lower name.toList) then lowerFirst name.toList
          else toCamelCase name.toList) ∧
      (RenamesTo sourceCountingParameters x name.toList (toCamelCase name.toList) ↔
        occursIn "parameter".toList (lower name.toList) = false ∨
          lowerFirst name.toList = toCamelCase name.toList) :=
  ⟨⟨mem_badNames_sourceCountingParameters, rfl⟩, function_rename_iff {} .builtin _ _
    mem_badNames_sourceCountingParameters rfl⟩

/-- That function is not renamed at all, since its first letter is small
already. So the remedy for a function is not always its name in camelCase. -/
theorem function_rename_misses_camelCase :
    ¬ ∀ (settings : Settings) (registry : Registry) (d : Document) (f : Finding) (x : Diagnostic)
      (name : String), f ∈ badNames d → f.kind = .function → f.identifier = some name →
      (f.diagnose settings registry d).value = .ok x →
      RenamesTo d x name.toList (toCamelCase name.toList) := by
  intro h
  have hrename := h {} .builtin sourceCountingParameters parameterCountFinding _ "parameter_count"
    mem_badNames_sourceCountingParameters rfl rfl rfl
  obtain ⟨action, haction, -⟩ := hrename.2 (by decide)
  exact absurd haction (by rw [show Handlers.standard.actionFor? sourceCountingParameters _ = none from rfl]; nofun)

end StyleCheck
