/-
# Texts of declarations

A text of plain declarations and blanks, in any order: several declarations on a
line or one, blanks between them or none. The naming rule finds each of them
once, at its place, and reports those whose names do not begin with `g_`
(`check_declarations`).

Nothing of such a text is hidden, no function is named in it and no block is
opened, so only the declarations matter. A declaration lies on one line, so
every line is a text of declarations and blanks too, and the findings about the
lines follow each other (`globalFindingsFrom_piecesText`).

Key definitions: `DeclarationOrBlank`, `piecesText`, `declaredFrom`,
`PlainDeclaration.finding`.
Key theorems: `declarations_piecesText`, `mayDeclareGlobals_piecesText`,
`globalFindingsFrom_piecesText`, `check_declarations`.
-/
import StyleCheck.Proofs.Findings
import StyleCheck.Proofs.MaskedText
import StyleCheck.Proofs.PlainDeclarations
import StyleCheck.Rule.Basic

namespace StyleCheck

open Text Source

/-! ### Pieces of a text -/

namespace PlainDeclaration

variable (x : PlainDeclaration)

/-- What is reported about a declaration that stands at `place`. -/
def finding (place : Nat) : Finding where
  ruleId := "CUBTEK-NAME-001"
  message := "Global variable \"" ++ String.ofList x.name ++ "\" should start with \"" ++ "g_" ++
    "\" prefix"
  kind := .variableName
  offset := some ((place + x.lead.length : Nat) : Int)
  identifier := some (String.ofList x.name)
  details := [("name", .text (String.ofList x.name)), ("expectedPrefix", .text "g_")]

/-- The finding, unless the name begins as it should. -/
def finding? (place : Nat) : Option Finding :=
  if "g_".toList.isPrefixOf x.name then none else some (x.finding place)

end PlainDeclaration

/-- A part of a text of declarations. -/
inductive DeclarationOrBlank where
  | blank (c : Char) (isBlank : isBlank c = true)
  | declaration (x : PlainDeclaration)

/-- The text of a piece. -/
def DeclarationOrBlank.text : DeclarationOrBlank → List Char
  | blank c _ => [c]
  | declaration x => x.text

/-- The text of pieces that follow each other. -/
def piecesText (pieces : List DeclarationOrBlank) : List Char :=
  pieces.flatMap DeclarationOrBlank.text

theorem piecesText_cons (piece : DeclarationOrBlank) (pieces : List DeclarationOrBlank) :
    piecesText (piece :: pieces) = piece.text ++ piecesText pieces :=
  List.flatMap_cons

theorem piecesText_append (pieces others : List DeclarationOrBlank) :
    piecesText (pieces ++ others) = piecesText pieces ++ piecesText others :=
  List.flatMap_append

/-- The declarations with their places in the text, the first piece at `place`. -/
def declaredFrom (place : Nat) : List DeclarationOrBlank → List (Nat × PlainDeclaration)
  | [] => []
  | .blank _ _ :: pieces => declaredFrom (place + 1) pieces
  | .declaration x :: pieces => (place, x) :: declaredFrom (place + x.text.length) pieces

/-! ### The declarations in the text -/

theorem scanFrom_piecesText : ∀ (pieces : List DeclarationOrBlank) (place : Nat),
    scanFrom declarationShape 0 place false (piecesText pieces) =
      (declaredFrom place pieces).map fun (place, x) => x.declaration place
  | [], place => rfl
  | .blank c hc :: pieces, place => by
    rw [piecesText_cons, DeclarationOrBlank.text, List.singleton_append,
      scanFrom_notWord _ place false (isWord_eq_false_of_isBlank hc),
      scanFrom_piecesText pieces (place + 1), declaredFrom]
  | .declaration x :: pieces, place => by
    rw [piecesText_cons, DeclarationOrBlank.text, x.scanFrom_text,
      scanFrom_piecesText pieces (place + x.text.length)]
    rfl

/-- **The declarations in a text of pieces**: each at its place, in order. -/
theorem declarations_piecesText (pieces : List DeclarationOrBlank) :
    declarations (piecesText pieces) =
      (declaredFrom 0 pieces).map fun (place, x) => x.declaration place :=
  scanFrom_piecesText pieces 0

/-! ### The characters of the text -/

/-- Outside words, blanks and digits only the marks of a declaration stand in a
text of declarations. -/
theorem not_mem_piecesText {c : Char} (hc : c ∈ ['"', '/', '(', '#', openBrace, closeBrace])
    (pieces : List DeclarationOrBlank) : c ∉ piecesText pieces := by
  have hother : ∀ c ∈ ['"', '/', '(', '#', openBrace, closeBrace], isWord c = false ∧
      isBlank c = false ∧ isDigit c = false ∧ c ∉ ['=', ';', '[', ']'] :=
    List.all_iff_forall_prop.mp (by decide)
  obtain ⟨hword, hblank, hdigit, hmark⟩ := hother c hc
  intro hmem
  obtain ⟨piece, -, hpiece⟩ := List.mem_flatMap.mp hmem
  cases piece with
  | blank b hb =>
    rw [DeclarationOrBlank.text, List.mem_singleton] at hpiece
    rw [← hpiece, hblank] at hb
    exact Bool.false_ne_true hb
  | declaration x =>
    rcases x.isDeclared c hpiece with h | h | h | h
    · exact Bool.false_ne_true (hword.symm.trans h)
    · exact Bool.false_ne_true (hblank.symm.trans h.1)
    · exact Bool.false_ne_true (hdigit.symm.trans h)
    · exact hmark h

theorem mask_piecesText (pieces : List DeclarationOrBlank) :
    mask (piecesText pieces) = piecesText pieces :=
  mask_eq_self (not_mem_piecesText (by decide) pieces) (not_mem_piecesText (by decide) pieces)

theorem braceBalance_piecesText (pieces : List DeclarationOrBlank) :
    braceBalance (piecesText pieces) = 0 := by
  unfold braceBalance
  rw [List.count_eq_zero_of_not_mem (not_mem_piecesText (by decide) pieces),
    List.count_eq_zero_of_not_mem (not_mem_piecesText (by decide) pieces)]
  rfl

/-! ### The lines of the text -/

theorem trimStart_piecesText : ∀ pieces : List DeclarationOrBlank,
    trimStart (piecesText pieces) = [] ∨
      LeadsToType specifierWords (trimStart (piecesText pieces))
  | [] => .inl rfl
  | .blank c hc :: pieces => by
    have hskip : trimStart (piecesText (.blank c hc :: pieces)) = trimStart (piecesText pieces) := by
      rw [piecesText_cons]
      exact List.dropWhile_cons_of_pos hc
    rw [hskip]
    exact trimStart_piecesText pieces
  | .declaration x :: pieces => by
    have hleads := x.leadsToType_text (piecesText pieces)
    rw [piecesText_cons, DeclarationOrBlank.text, trimStart_of_startsWord hleads.1]
    exact .inr hleads

theorem mayDeclareGlobals_piecesText (pieces : List DeclarationOrBlank) :
    mayDeclareGlobals (piecesText pieces) 0 = true := by
  have hopening : '(' ∉ piecesText pieces := not_mem_piecesText (by decide) pieces
  have hparen : (piecesText pieces).contains '(' = false := by simpa using hopening
  have hhash : ¬ "#".toList <+: trimStart (piecesText pieces) := fun h =>
    not_mem_piecesText (by decide) pieces
      ((List.dropWhile_sublist isBlank).mem (h.subset (List.mem_singleton.mpr rfl)))
  have htypedef : ¬ "typedef".toList <+: trimStart (piecesText pieces) := by
    rcases trimStart_piecesText pieces with hnil | hleads
    · rw [hnil]
      decide
    · exact hleads.not_typedef
  rw [← List.isPrefixOf_iff_prefix, Bool.not_eq_true] at hhash htypedef
  unfold mayDeclareGlobals
  rw [hparen, hhash, htypedef]
  rfl

theorem declaredFrom_append (others : List DeclarationOrBlank) :
    ∀ (pieces : List DeclarationOrBlank) (place : Nat),
    declaredFrom place (pieces ++ others) =
      declaredFrom place pieces ++ declaredFrom (place + (piecesText pieces).length) others
  | [], place => rfl
  | .blank c hc :: pieces, place => by
    rw [List.cons_append, declaredFrom, declaredFrom, declaredFrom_append others pieces,
      piecesText_cons, List.length_append, ← Nat.add_assoc]
    rfl
  | .declaration x :: pieces, place => by
    rw [List.cons_append, declaredFrom, declaredFrom, declaredFrom_append others pieces,
      piecesText_cons, List.length_append, ← Nat.add_assoc]
    rfl

theorem declaredFrom_add (offset : Nat) : ∀ (pieces : List DeclarationOrBlank) (place : Nat),
    declaredFrom (offset + place) pieces =
      (declaredFrom place pieces).map fun (place, x) => (offset + place, x)
  | [], place => rfl
  | .blank c hc :: pieces, place => by
    rw [declaredFrom, declaredFrom, Nat.add_assoc, declaredFrom_add offset pieces]
  | .declaration x :: pieces, place => by
    rw [declaredFrom, declaredFrom, Nat.add_assoc, declaredFrom_add offset pieces, List.map_cons]

theorem globalFindingsOn_piecesText (offset : Nat) (pieces : List DeclarationOrBlank) :
    globalFindingsOn offset (piecesText pieces) =
      (declaredFrom offset pieces).filterMap fun (place, x) => x.finding? place := by
  have hplaces := declaredFrom_add offset pieces 0
  rw [Nat.add_zero] at hplaces
  unfold globalFindingsOn
  rw [declarations_piecesText, hplaces, ← List.filterMap_eq_map', List.filterMap_filter,
    List.filterMap_map, List.filterMap_map]
  refine List.filterMap_congr fun (place, x) _ => ?_
  have hfinding : globalFinding (offset + (x.declaration place).nameAt) (x.declaration place).name =
      x.finding (offset + place) := by
    unfold PlainDeclaration.finding
    rw [Nat.add_assoc]
    rfl
  have hmark : globalMark.toList.isPrefixOf (x.declaration place).name =
      "g_".toList.isPrefixOf x.name := rfl
  simp only [Function.comp_apply, hfinding, hmark, PlainDeclaration.finding?]
  cases "g_".toList.isPrefixOf x.name
  · rfl
  · rfl

theorem DeclarationOrBlank.exists_eq_blank : ∀ {piece : DeclarationOrBlank},
    '\n' ∈ piece.text →
    ∃ hc, piece = .blank '\n' hc
  | .blank c hc, h => by
    obtain rfl := List.mem_singleton.mp h
    exact ⟨hc, rfl⟩
  | .declaration x, h => absurd h x.newline_not_mem

/-- **The findings about the lines of such a text** are those about its
declarations, each at its place; `line` is what is already read of the first
line. -/
theorem globalFindingsFrom_piecesText :
    ∀ (pieces line : List DeclarationOrBlank) (offset index : Nat),
    '\n' ∉ piecesText line →
      globalFindingsFrom offset
          (lineDepthsFrom index 0 (splitLines (piecesText line ++ piecesText pieces))) =
        (declaredFrom offset (line ++ pieces)).filterMap fun (place, x) => x.finding? place
  | [], line, offset, index, hline => by
    have hempty : piecesText [] = [] := rfl
    rw [hempty, List.append_nil, List.append_nil, splitLines_of_not_mem hline, lineDepthsFrom,
      lineDepthsFrom, globalFindingsFrom, globalFindingsFrom,
      if_pos (mayDeclareGlobals_piecesText line), globalFindingsOn_piecesText, List.append_nil]
  | piece :: pieces, line, offset, index, hline => by
    rw [piecesText_cons]
    by_cases hpiece : '\n' ∈ piece.text
    · -- the line ends here
      obtain ⟨hc, rfl⟩ := DeclarationOrBlank.exists_eq_blank hpiece
      have ih := globalFindingsFrom_piecesText pieces []
        (offset + (piecesText line).length + 1) (index + 1) List.not_mem_nil
      have hlines : splitLines (piecesText line ++ (['\n'] ++ piecesText pieces)) =
          piecesText line :: splitLines (piecesText pieces) := by
        rw [← List.append_assoc, ← List.append_nil (_ ++ ['\n'])]
        exact splitLines_closedLines _ (List.forall_mem_singleton.mpr hline)
      rw [DeclarationOrBlank.text, hlines, lineDepthsFrom, globalFindingsFrom,
        braceBalance_piecesText,
        if_pos (mayDeclareGlobals_piecesText line), globalFindingsOn_piecesText,
        declaredFrom_append, declaredFrom, List.filterMap_append]
      exact congrArg _ ih
    · -- the line goes on with the piece
      have hsingle : piecesText [piece] = piece.text := by
        rw [piecesText_cons]
        exact List.append_nil _
      have hline' : '\n' ∉ piecesText (line ++ [piece]) := by
        rw [piecesText_append, hsingle]
        exact fun h => (List.mem_append.mp h).elim hline hpiece
      have ih := globalFindingsFrom_piecesText pieces (line ++ [piece]) offset index hline'
      rwa [piecesText_append, hsingle, List.append_assoc, List.append_assoc] at ih

/-- **Every unprefixed declaration is reported exactly once.** In a text of
declarations and blanks the naming rule reports exactly the declarations whose
names do not begin with `g_`, in order, each with its name and the place of its
name. -/
theorem check_declarations (r : Rule) (hr : r.inspection = .naming) (d : Document)
    (pieces : List DeclarationOrBlank) (htext : d.text = piecesText pieces) :
    (r.check d).value =
      some ((declaredFrom 0 pieces).filterMap fun (place, x) =>
        if "g_".toList.isPrefixOf x.name then none else some (x.finding place)) := by
  have hcheck : (r.check d).value = some (badNames d) := by
    unfold Rule.check
    rw [hr]
    rfl
  have hglobal : globalFindings (piecesText pieces) =
      (declaredFrom 0 pieces).filterMap fun (place, x) => x.finding? place :=
    globalFindingsFrom_piecesText pieces [] 0 0 List.not_mem_nil
  have hfunction : functionFindings (piecesText pieces) = [] := by
    unfold functionFindings
    rw [signatures_of_not_mem (not_mem_piecesText (by decide) pieces)]
    rfl
  rw [hcheck]
  unfold badNames
  simp only [htext, mask_piecesText, hglobal, hfunction, List.append_nil]
  rfl

/-- A declaration with every specifier, whose name could be a type. -/
def counterDeclaration : PlainDeclaration where
  linkage := some ⟨"extern", [' '], by decide, by decide, by decide⟩
  constness := some ⟨"const", [' '], by decide, by decide, by decide⟩
  sign := some ⟨"unsigned", ['\t'], by decide, by decide, by decide⟩
  type := "int".toList
  gap := [' ']
  name := "int_t".toList
  padding := []
  ending := .value [' '] "42".toList (by decide) (List.all_eq_true.mp (by decide))
  type_plain := .inl (by decide)
  gap_ne_nil := by decide
  gap_line := by decide
  name_ne_nil := by decide
  name_word := List.all_eq_true.mp (by decide)
  padding_line := by decide

/-- A declaration whose name begins as it should. -/
def bufferDeclaration : PlainDeclaration where
  linkage := none
  constness := none
  sign := none
  type := "word_t".toList
  gap := [' ', ' ']
  name := "g_buffer".toList
  padding := [' ']
  ending := .size "16".toList (List.all_eq_true.mp (by decide))
  type_plain := .inr ⟨"word".toList, by decide, by decide, List.all_eq_true.mp (by decide), by decide⟩
  gap_ne_nil := by decide
  gap_line := by decide
  name_ne_nil := by decide
  name_word := List.all_eq_true.mp (by decide)
  padding_line := by decide

/-- A declaration whose name could be a specifier. -/
def constDeclaration : PlainDeclaration where
  linkage := some ⟨"static", [' '], by decide, by decide, by decide⟩
  constness := none
  sign := none
  type := "bool".toList
  gap := [' ']
  name := "const".toList
  padding := []
  ending := .plain
  type_plain := .inl (by decide)
  gap_ne_nil := by decide
  gap_line := by decide
  name_ne_nil := by decide
  name_word := List.all_eq_true.mp (by decide)
  padding_line := by decide

/-- Three declarations on two lines, two of them without a blank between: the one
that begins with `g_` is not reported. -/
theorem check_declarations_crowded :
    (Rule.naming.check { text := ("extern const unsigned\tint int_t= 42;word_t  g_buffer [16];" ++
        "\n\n static bool const;\r\n").toList }).value.map
          (fun findings => findings.map fun f => (f.identifier, f.offset, f.message)) =
      some [(some "int_t", some 26,
          "Global variable \"int_t\" should start with \"g_\" prefix"),
        (some "const", some 73,
          "Global variable \"const\" should start with \"g_\" prefix")] := by
  rw [check_declarations Rule.naming rfl _
    [.declaration counterDeclaration, .declaration bufferDeclaration, .blank '\n' (by decide),
      .blank '\n' (by decide), .blank ' ' (by decide), .declaration constDeclaration,
      .blank '\r' (by decide), .blank '\n' (by decide)] (by decide)]
  rfl

end StyleCheck
