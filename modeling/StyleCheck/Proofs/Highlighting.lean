/-
# The highlight of a finding

A finding that points at a whole word of the source is highlighted as exactly
that word: the range of its diagnostic lies on one line, its text is the
identifier, and it is one of the references of the identifier. Since the rules
point at whole words of the masked text, which masking does not move, this
holds of every finding of both rules, whatever comments and literals the source
has.

Key theorems: `range_of_wholeWord`, `mem_references_of_wholeWord`,
`diagnose_covers_identifier`.
-/
import StyleCheck.Diagnosis
import StyleCheck.Proofs.Findings

namespace StyleCheck

open Text Source

/-- The range of a finding that points at a word goes from the word's offset to
the offset behind it. -/
theorem range_of_wholeWord {f : Finding} {d : Document} {offset : Nat} {name : List Char}
    (hoffset : f.offset = some (offset : Int)) (hname : f.identifier = some (String.ofList name))
    (hword : WholeWord name d.text offset) :
    f.range d = .ok ⟨d.positionAt offset, d.positionAt ((offset + name.length : Nat) : Int)⟩ := by
  obtain ⟨before, after, htext, rfl, hne, hw, -, -⟩ := hword
  have hid : f.identifier? = some (String.ofList name) := by
    rw [Finding.identifier?, hname]
    simp [Option.filter, String.ofList_eq_empty_iff, hne]
  unfold Finding.range
  simp only [hoffset, hid, String.length_ofList]
  rw [d.positionAt_add htext (not_mem_of_word hw (by decide))]

/-- A finding with a range has a diagnostic, which has this range and the finding's rule and
message. -/
theorem Finding.exists_diagnose_of_range {f : Finding} {d : Document} {range : Range}
    (settings : Settings) (registry : Registry) (h : f.range d = .ok range) :
    ∃ x, (f.diagnose settings registry d).value = .ok x ∧ x.range = range ∧
      x.ruleId = f.ruleId ∧ x.message = f.message := by
  unfold Finding.diagnose
  rw [h]
  exact ⟨_, rfl, rfl, rfl, rfl⟩

theorem textIn_of_wholeWord {d : Document} {offset : Nat} {name : List Char}
    (hword : WholeWord name d.text offset) :
    d.textIn ⟨d.positionAt offset, d.positionAt ((offset + name.length : Nat) : Int)⟩ = name := by
  obtain ⟨before, after, htext, rfl, -⟩ := hword
  exact d.textIn_between htext

theorem isSingleLine_of_wholeWord {d : Document} {offset : Nat} {name : List Char}
    (hword : WholeWord name d.text offset) :
    (⟨d.positionAt offset, d.positionAt ((offset + name.length : Nat) : Int)⟩ : Range).isSingleLine =
      true := by
  obtain ⟨before, after, htext, rfl, -, hw, -, -⟩ := hword
  rw [d.positionAt_add htext (not_mem_of_word hw (by decide))]
  simp [Range.isSingleLine, Position.shift]

theorem mem_references_of_wholeWord {d : Document} {offset : Nat} {name : List Char}
    (hword : WholeWord name d.text offset) :
    ⟨d.positionAt offset, d.positionAt ((offset + name.length : Nat) : Int)⟩ ∈
      d.references name :=
  List.mem_map.mpr ⟨offset, mem_occurrences_of_wholeWord hword, rfl⟩

/-- **Highlights are exact.** A finding of the naming rule, or of the length rule
under any limit, has a diagnostic, which covers on one line exactly the finding's
identifier. The range is one of the identifier's references, so the identifier
is a whole word there, and at the same offset it is a whole word of the masked
text, so nothing of it is hidden. -/
theorem diagnose_covers_identifier (settings : Settings) (registry : Registry) (limit : Int)
    (d : Document) (f : Finding)
    (h : f ∈ badNames d ∨ ∃ findings, (longFunctions limit d).value = .ok findings ∧ f ∈ findings) :
    ∃ (x : Diagnostic) (name : String) (offset : Nat),
      (f.diagnose settings registry d).value = .ok x ∧
      f.identifier = some name ∧ f.offset = some (offset : Int) ∧
      x.range.isSingleLine = true ∧ d.textIn x.range = name.toList ∧
      x.range ∈ d.references name.toList ∧ x.range.start = d.positionAt offset ∧
      WholeWord name.toList (mask d.text) offset := by
  have hpoints : f.PointsAt (mask d.text) := by
    rcases h with h | ⟨findings, hfindings, h⟩
    · exact pointsAt_of_mem_badNames h
    · exact pointsAt_of_mem_longFunctions hfindings h
  obtain ⟨offset, name, hoffset, hname, hshown⟩ := hpoints
  have hword := hshown.of_mask
  obtain ⟨x, hx, hrange, -⟩ :=
    Finding.exists_diagnose_of_range settings registry (range_of_wholeWord hoffset hname hword)
  refine ⟨x, String.ofList name, offset, hx, hname, hoffset, ?_⟩
  rw [hrange, String.toList_ofList]
  exact ⟨isSingleLine_of_wholeWord hword, textIn_of_wholeWord hword,
    mem_references_of_wholeWord hword, rfl, hshown⟩

/-- A source whose comments and literals hold declarations and braces of their
own. -/
def sourceWithHiddenNames : Document where
  text := "/* int a; */ char s[] = \"int b;\";\nvoid do_it(void) // \x7b\n\x7b\n\x7d\n".toList

/-- In that source the variable between a comment and a literal is highlighted. -/
theorem diagnose_covers_names_between_comments :
    (globalFinding 18 ['s'] ∈ badNames sourceWithHiddenNames ∧
      ∃ (x : Diagnostic) (name : String) (offset : Nat),
        ((globalFinding 18 ['s']).diagnose {} .builtin sourceWithHiddenNames).value = .ok x ∧
        (globalFinding 18 ['s']).identifier = some name ∧
        (globalFinding 18 ['s']).offset = some (offset : Int) ∧
        x.range.isSingleLine = true ∧ sourceWithHiddenNames.textIn x.range = name.toList ∧
        x.range ∈ sourceWithHiddenNames.references name.toList ∧
        x.range.start = sourceWithHiddenNames.positionAt offset ∧
        WholeWord name.toList (mask sourceWithHiddenNames.text) offset) := by
  have hmem : globalFinding 18 ['s'] ∈ badNames sourceWithHiddenNames := by
    have hnames : badNames sourceWithHiddenNames = [globalFinding 18 ['s'],
        functionFinding ⟨34, 58, "void".toList, 39, "do_it".toList⟩] := rfl
    rw [hnames]
    exact List.mem_cons_self
  exact ⟨hmem, diagnose_covers_identifier {} .builtin standardLimit _ _ (Or.inl hmem)⟩

end StyleCheck
