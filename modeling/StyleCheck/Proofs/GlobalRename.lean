/-
# Renaming a global variable

The remedy for a global variable without its mark puts the mark in front of the
name. In the masked text this is an insertion of word characters in front of a
declared name (`mask_insert`), and the findings of the naming rule are those
from before without the one about the name, each in its place
(`withoutFindingAt`): masking, brace depths and exempt lines do not change, and
declarations and functions are read alike (`declarations_insert`,
`signatures_insert`). The new name may end like a type; still it is read as a
name only, since no reading begins with it.

Key definitions: `Finding.movedBehind`, `withoutFindingAt`.
Key theorems: `globalFindingsFrom_insert`, `functionFindings_insert`,
`badNames_of_mask`, `rename_removes_global_finding`.
-/
import Mathlib.Data.List.Nodup
import StyleCheck.Proofs.DeclarationInsertion
import StyleCheck.Proofs.Renaming
import StyleCheck.Proofs.SignatureInsertion

namespace StyleCheck

open Text Source StyleCheck.Fix

/-- The finding after `width` characters are inserted at `place`: its offset has
moved if it lies behind the place. -/
def Finding.movedBehind (place width : Int) (f : Finding) : Finding :=
  { f with offset := f.offset.map fun offset => if place < offset then offset + width else offset }

theorem Finding.movedBehind_globalFinding (place width offset : Nat) (name : List Char) :
    (globalFinding offset name).movedBehind place width =
      globalFinding (movedAt place width offset) name := by
  unfold Finding.movedBehind globalFinding movedAt
  simp only [Option.map_some, Int.ofNat_lt]
  split
  · rfl
  · rfl

theorem Finding.movedBehind_functionFinding (place width : Nat) (s : Signature) :
    (functionFinding s).movedBehind place width = functionFinding (s.moved place width) := by
  unfold Finding.movedBehind functionFinding Signature.moved movedAt
  simp only [Option.map_some, Int.ofNat_lt]
  split
  · rfl
  · rfl

/-- What is left of findings when the one at `place` is dropped and `width`
characters are inserted there. -/
def withoutFindingAt (place width : Nat) (findings : List Finding) : List Finding :=
  (findings.filter fun f => f.offset ≠ some (place : Int)).map (.movedBehind place width)

theorem withoutFindingAt_append (place width : Nat) (fs gs : List Finding) :
    withoutFindingAt place width (fs ++ gs) =
      withoutFindingAt place width fs ++ withoutFindingAt place width gs := by
  simp [withoutFindingAt]

theorem withoutFindingAt_eq_map {place : Nat} (width : Nat) {findings : List Finding}
    (h : ∀ f ∈ findings, f.offset ≠ some (place : Int)) :
    withoutFindingAt place width findings = findings.map (.movedBehind place width) := by
  unfold withoutFindingAt
  rw [List.filter_eq_self.mpr]
  intro f hf
  simpa using h f hf

theorem withoutFindingAt_of_lt {place : Nat} (width : Nat) {findings : List Finding}
    (h : ∀ f ∈ findings, ∃ offset : Nat, f.offset = some (offset : Int) ∧ offset < place) :
    withoutFindingAt place width findings = findings := by
  rw [withoutFindingAt_eq_map width]
  · refine (List.map_congr_left fun f hf => ?_).trans (List.map_id findings)
    obtain ⟨offset, hoffset, hlt⟩ := h f hf
    unfold Finding.movedBehind
    rw [hoffset, Option.map_some, if_neg (by omega), ← hoffset]
    rfl
  · intro f hf heq
    obtain ⟨offset, hoffset, hlt⟩ := h f hf
    rw [hoffset] at heq
    have := Option.some.inj heq
    omega

theorem withoutFindingAt_of_gt {place : Nat} (width : Nat) {findings : List Finding}
    (h : ∀ f ∈ findings, ∃ offset : Nat, f.offset = some (offset : Int) ∧ place < offset) :
    withoutFindingAt place width findings = findings.map (.movedBy width) := by
  rw [withoutFindingAt_eq_map width]
  · refine List.map_congr_left fun f hf => ?_
    obtain ⟨offset, hoffset, hlt⟩ := h f hf
    unfold Finding.movedBehind Finding.movedBy
    rw [hoffset, Option.map_some, Option.map_some, if_pos (by omega)]
  · intro f hf heq
    obtain ⟨offset, hoffset, hlt⟩ := h f hf
    rw [hoffset] at heq
    have := Option.some.inj heq
    omega

theorem isWord_of_mem_globalMark : ∀ c ∈ globalMark.toList, isWord c = true :=
  List.all_eq_true.mp (by decide)

/-! ### One line -/

section Line

variable {u v ins : List Char}

theorem count_insert {c : Char} (hins : ∀ d ∈ ins, isWord d = true) (hc : isWord c = false) :
    (u ++ (ins ++ v)).count c = (u ++ v).count c := by
  simp only [List.count_append, List.count_eq_zero_of_not_mem (not_mem_of_word hins hc),
    Nat.zero_add]

theorem braceBalance_insert (hins : ∀ c ∈ ins, isWord c = true) :
    braceBalance (u ++ (ins ++ v)) = braceBalance (u ++ v) := by
  unfold braceBalance
  rw [count_insert hins (by decide), count_insert hins (by decide)]

/-- What a line begins with does not change when a name further on does. -/
theorem isPrefixOf_trimStart_insert {w : List Char} (hu : AwaitsName u) (hv : DeclaresName v)
    (hins : ∀ c ∈ ins, isWord c = true) (hw : w.any isBlank = false) :
    w.isPrefixOf (trimStart (u ++ (ins ++ v))) = w.isPrefixOf (trimStart (u ++ v)) := by
  rw [trimStart_append u hv.1, trimStart_append u (hv.insert hins).1]
  simp only [isPrefixOf_eq_isSome_dropWord?,
    dropWord?_append_of_blank _ hw hu.trimStart.exists_blank, Option.isSome_map]

theorem mayDeclareGlobals_insert (depth : Int) (hu : AwaitsName u) (hv : DeclaresName v)
    (hins : ∀ c ∈ ins, isWord c = true) :
    mayDeclareGlobals (u ++ (ins ++ v)) depth = mayDeclareGlobals (u ++ v) depth := by
  have hparen : (u ++ (ins ++ v)).contains '(' = (u ++ v).contains '(' := by
    simp [not_mem_of_word hins (show isWord '(' = false by decide)]
  unfold mayDeclareGlobals
  rw [hparen, isPrefixOf_trimStart_insert hu hv hins (by decide),
    isPrefixOf_trimStart_insert hu hv hins (by decide)]

/-- The mark that is inserted takes the name out of the findings of its line,
and moves those behind it. -/
theorem globalFindingsOn_insert (offset : Nat) (hu : AwaitsName u) (hv : DeclaresName v) :
    globalFindingsOn offset (u ++ (globalMark.toList ++ v)) =
      withoutFindingAt (offset + u.length) globalMark.toList.length
        (globalFindingsOn offset (u ++ v)) := by
  unfold globalFindingsOn withoutFindingAt
  rw [declarations_insert hu hv isWord_of_mem_globalMark (by decide), List.filter_map,
    List.map_map, List.filter_map, List.map_map, List.filter_filter]
  have hfilter : ∀ d ∈ declarations (u ++ v),
      ((fun d : Declaration => !globalMark.toList.isPrefixOf d.name) ∘
        Declaration.moved u.length globalMark.toList) d =
      (((fun f : Finding => decide (f.offset ≠ some ((offset + u.length : Nat) : Int))) ∘
        fun d : Declaration => globalFinding (offset + d.nameAt) d.name) d &&
          !globalMark.toList.isPrefixOf d.name) := by
    intro d _
    simp only [Function.comp, Declaration.moved, globalFinding, ne_eq, Option.some.injEq,
      Int.natCast_inj, Nat.add_left_cancel_iff]
    by_cases hat : d.nameAt = u.length
    · simp [hat]
    · simp [hat]
  rw [List.filter_congr hfilter]
  refine List.map_congr_left fun d hd => ?_
  simp only [List.mem_filter, Function.comp, globalFinding, ne_eq, Option.some.injEq,
    Int.natCast_inj, Nat.add_left_cancel_iff, Bool.and_eq_true, decide_eq_true_eq] at hd
  have hat : d.nameAt ≠ u.length := hd.2.1
  simp only [Function.comp, Declaration.moved, if_neg hat, Finding.movedBehind_globalFinding]
  congr 1
  unfold movedAt
  split
  · rw [if_pos (by omega)]; omega
  · rw [if_neg (by omega)]

end Line

/-! ### The whole text -/

theorem globalFindingsFrom_behind {place width : Nat} (lines : List (List Char))
    (offset index : Nat) (depth : Int) (h : place < offset) :
    globalFindingsFrom (offset + width) (lineDepthsFrom index depth lines) =
      withoutFindingAt place width (globalFindingsFrom offset (lineDepthsFrom index depth lines)) := by
  rw [globalFindingsFrom_movedBy width lines offset index index, withoutFindingAt_of_gt width]
  intro f hf
  obtain ⟨ls, line, ls', -, -, hline⟩ := exists_line_of_mem_globalFindingsFrom lines _ _ _ hf
  obtain ⟨d, -, rfl⟩ := List.mem_map.mp hline
  exact ⟨_, rfl, by omega⟩

theorem globalFindingsFrom_insert {u v : List Char} (ls' : List (List Char)) {place : Nat}
    (hu : AwaitsName u) (hv : DeclaresName v) :
    ∀ (ls : List (List Char)) (offset index : Nat) (depth : Int),
      offset + (closedLines ls).length + u.length = place →
      globalFindingsFrom offset
          (lineDepthsFrom index depth (ls ++ (u ++ (globalMark.toList ++ v)) :: ls')) =
        withoutFindingAt place globalMark.toList.length
          (globalFindingsFrom offset (lineDepthsFrom index depth (ls ++ (u ++ v) :: ls')))
  | [], offset, index, depth, hplace => by
    simp only [closedLines, List.flatMap_nil, List.length_nil, Nat.add_zero] at hplace
    subst hplace
    rw [List.nil_append, List.nil_append, lineDepthsFrom, lineDepthsFrom, globalFindingsFrom,
      globalFindingsFrom, withoutFindingAt_append,
      mayDeclareGlobals_insert depth hu hv isWord_of_mem_globalMark,
      braceBalance_insert isWord_of_mem_globalMark, globalFindingsOn_insert offset hu hv]
    congr 1
    · split
      · rfl
      · rfl
    · rw [← globalFindingsFrom_behind ls' _ _ _ (by rw [List.length_append]; omega)]
      congr 1
      simp only [List.length_append]
      omega
  | line :: ls, offset, index, depth, hplace => by
    rw [closedLines_cons, List.length_append, List.length_cons] at hplace
    have hplace' : offset + line.length + 1 + (closedLines ls).length + u.length = place := by omega
    rw [List.cons_append, List.cons_append, lineDepthsFrom, lineDepthsFrom, globalFindingsFrom,
      globalFindingsFrom, withoutFindingAt_append,
      globalFindingsFrom_insert ls' hu hv ls (offset + line.length + 1) _ _ hplace']
    congr 1
    split
    · rw [withoutFindingAt_of_lt]
      intro f hf
      obtain ⟨first, name, hfirst, -, hle⟩ := exists_of_mem_globalFindingsOn hf
      exact ⟨first, hfirst, by omega⟩
    · rfl

/-- **Global variables after the mark is inserted**: the findings from before,
without the one about the name. -/
theorem exists_globalFindings_insert {f : Finding} {masked : List Char}
    (h : f ∈ globalFindings masked) :
    ∃ x y, masked = x ++ y ∧ AwaitsName x ∧ DeclaresName y ∧
      globalMark.toList.isPrefixOf (leadingWord y) = false ∧
      f = globalFinding x.length (leadingWord y) ∧
      globalFindings (x ++ (globalMark.toList ++ y)) =
        withoutFindingAt x.length globalMark.toList.length (globalFindings masked) := by
  obtain ⟨ls, u, v, ls', hlines, -, hu, hv, hmark, rfl⟩ := exists_of_mem_globalFindings h
  obtain ⟨rest, hmasked, hinsert⟩ := exists_cut_of_splitLines hlines
  refine ⟨closedLines ls ++ u, v ++ rest, hmasked, hu.append_left _, hv.append rest, ?_, ?_, ?_⟩
  · rwa [hv.leadingWord_append]
  · rw [hv.leadingWord_append, List.length_append]
  · unfold globalFindings lineDepths
    rw [hinsert globalMark.toList (by decide), hlines, List.length_append]
    exact globalFindingsFrom_insert ls' hu hv ls 0 0 0 (by omega)

/-- **Functions after word characters are inserted**: the findings from before. -/
theorem functionFindings_insert {x y ins : List Char} (hx : AwaitsName x) (hy : DeclaresName y)
    (hins : ∀ c ∈ ins, isWord c = true) (hne : ins ≠ []) :
    functionFindings (x ++ (ins ++ y)) =
      withoutFindingAt x.length ins.length (functionFindings (x ++ y)) := by
  rw [withoutFindingAt_eq_map]
  · unfold functionFindings
    rw [signatures_insert hx hy hins hne, List.filter_map, List.map_map, List.map_map]
    refine List.map_congr_left fun s _ => ?_
    exact (Finding.movedBehind_functionFinding x.length ins.length s).symm
  · exact fun f hf => offset_ne_of_mem_functionFindings hy hf

/-! ### The remedy -/

theorem marked_of_isPrefixOf {mark name : List Char} (h : mark.isPrefixOf name = false) :
    marked mark name = mark ++ name := by
  rw [isPrefixOf_eq_isSome_dropWord?, Option.isSome_eq_false_iff, Option.isNone_iff_eq_none] at h
  rw [marked, h]
  rfl

theorem withoutFindingAt_cons {place : Nat} (width : Nat) {before after : List Finding}
    {f : Finding} (hoffset : f.offset = some (place : Int))
    (hnodup : ((before ++ f :: after).map (·.offset)).Nodup) :
    withoutFindingAt place width (before ++ f :: after) =
      (before ++ after).map (.movedBehind place width) := by
  have hother : ∀ g ∈ before ++ after, g.offset ≠ some (place : Int) := by
    intro g hg
    rw [List.map_append, List.map_cons, List.nodup_middle, List.nodup_cons, ← List.map_append,
      hoffset] at hnodup
    exact fun heq => hnodup.1 (List.mem_map.mpr ⟨g, hg, heq⟩)
  have hdropped : withoutFindingAt place width [f] = [] := by
    simp [withoutFindingAt, hoffset]
  rw [← withoutFindingAt_eq_map width hother, withoutFindingAt_append, withoutFindingAt_append,
    show f :: after = [f] ++ after from rfl, withoutFindingAt_append, hdropped, List.nil_append]

theorem badNames_of_mask {d d' : Document} {x y : List Char} (hx : AwaitsName x)
    (hy : DeclaresName y) (hmask : mask d.text = x ++ y)
    (hmask' : mask d'.text = x ++ (globalMark.toList ++ y))
    (hglobal : globalFindings (x ++ (globalMark.toList ++ y)) =
      withoutFindingAt x.length globalMark.toList.length (globalFindings (x ++ y))) :
    badNames d' = withoutFindingAt x.length globalMark.toList.length (badNames d) := by
  unfold badNames
  simp only
  rw [hmask', hmask, hglobal, functionFindings_insert hx hy isWord_of_mem_globalMark (by decide),
    withoutFindingAt_append]

/-- **The remedy for a global variable removes its own finding and no other.**
It is one edit, which puts the mark in front of the name. The document after
the edit has the findings from before, without that one and in the same order;
the offsets behind it have grown by the length of the mark. -/
theorem rename_removes_global_finding (settings : Settings) (registry : Registry) (d : Document)
    (before after : List Finding) (f : Finding) (h : badNames d = before ++ f :: after)
    (hkind : f.kind = .variableName) :
    ∃ (x : Diagnostic) (name : String) (offset : Nat) (action : Action) (edit : Edit),
      (f.diagnose settings registry d).value = .ok x ∧
      f.identifier = some name ∧ f.offset = some (offset : Int) ∧
      Handlers.standard.actionFor? d x = some action ∧
      action.edits = [edit] ∧ edit.range = x.range ∧
      edit.newText = "g_".toList ++ name.toList ∧
      badNames (edit.apply d) = (before ++ after).map (.movedBehind offset 2) := by
  have hmem : f ∈ badNames d := by rw [h]; simp
  obtain ⟨x, y, hmask, hx, hy, hmark, rfl, hglobal⟩ :=
    exists_globalFindings_insert (mem_globalFindings_of_kind hmem hkind)
  rw [hmask] at hglobal
  have hshown : WholeWord (leadingWord y) (mask d.text) x.length := by
    rw [hmask]
    exact hx.wholeWord hy.1
  -- the remedy is to rename, since the mark is not there yet
  obtain ⟨diagnostic, hdiagnostic, hrange, hrename⟩ := renamesTo_correctedName settings registry
    (show (globalFinding x.length (leadingWord y)).ruleId = namingInfo.id from rfl) rfl rfl
    hshown.of_mask
  rw [correctedName_global x.length, marked_of_isPrefixOf hmark] at hrename
  obtain ⟨action, haction, hedits⟩ := hrename.2 (by
    intro heq
    have := congrArg List.length heq
    rw [List.length_append, show globalMark.toList.length = 2 from rfl] at this
    omega)
  refine ⟨diagnostic, String.ofList (leadingWord y), x.length, action, _, hdiagnostic, rfl, rfl,
    haction, hedits, rfl, ?_, ?_⟩
  · exact congrArg (globalMark.toList ++ ·) String.toList_ofList.symm
  · -- in the source and in the masked text, the edit inserts the mark
    have hsplit : mask d.text = x ++ (leadingWord y ++ afterWord y) := by
      rw [hmask, leadingWord_append_afterWord]
    obtain ⟨textBefore, textAfter, htext, hlen, -, hinsert⟩ :=
      mask_insert (leadingWord_ne_nil hy.1) (fun c hc => isWord_of_mem_leadingWord hc) hsplit
    have hmask' : mask (Edit.apply ⟨diagnostic.range, globalMark.toList ++ leadingWord y⟩ d).text =
        x ++ (globalMark.toList ++ y) := by
      rw [hrange, ← hlen, text_apply_edit d _ htext, List.append_assoc,
        hinsert _ isWord_of_mem_globalMark, leadingWord_append_afterWord]
    rw [badNames_of_mask hx hy hmask hmask' hglobal, h]
    exact withoutFindingAt_cons 2 rfl (h ▸ nodup_offsets_badNames d)

/-- A source with a variable whose name ends like a type, between other
findings. -/
def sourceWithTypeLikeName : Document where
  text := ("char s[] = \"int b;\"; int count_t; /* int c; */ int x;\n" ++
    "void do_it(void) \x7b\n\x7d\n").toList

/-- The remedy for that variable leaves the other three findings. -/
theorem rename_removes_type_like_name :
    badNames sourceWithTypeLikeName =
      [globalFinding 5 ['s']] ++ globalFinding 25 "count_t".toList ::
        [globalFinding 51 ['x'], functionFinding ⟨54, 72, "void".toList, 59, "do_it".toList⟩] ∧
    (globalFinding 25 "count_t".toList).kind = .variableName ∧
    ∃ (x : Diagnostic) (name : String) (offset : Nat) (action : Action) (edit : Edit),
      ((globalFinding 25 "count_t".toList).diagnose {} .builtin sourceWithTypeLikeName).value =
        .ok x ∧
      (globalFinding 25 "count_t".toList).identifier = some name ∧
      (globalFinding 25 "count_t".toList).offset = some (offset : Int) ∧
      Handlers.standard.actionFor? sourceWithTypeLikeName x = some action ∧
      action.edits = [edit] ∧ edit.range = x.range ∧
      edit.newText = "g_".toList ++ name.toList ∧
      badNames (edit.apply sourceWithTypeLikeName) =
        ([globalFinding 5 ['s']] ++ [globalFinding 51 ['x'],
          functionFinding ⟨54, 72, "void".toList, 59, "do_it".toList⟩]).map
          (.movedBehind offset 2) := by
  have hnames : badNames sourceWithTypeLikeName =
      [globalFinding 5 ['s']] ++ globalFinding 25 "count_t".toList ::
        [globalFinding 51 ['x'], functionFinding ⟨54, 72, "void".toList, 59, "do_it".toList⟩] := rfl
  exact ⟨hnames, rfl, rename_removes_global_finding {} .builtin _ _ _ _ hnames rfl⟩

end StyleCheck
