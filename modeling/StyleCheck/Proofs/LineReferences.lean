/-
# A hint and the references of a name

A name that is given as a hint is looked for on one line, and the references of the name
are looked for in the whole text. Both find the same places of the line
(`Document.find?_references`): no word character touches a line from outside, since a
newline or nothing stands before it, and a carriage return, a newline or nothing behind
it. So a name is a whole word of the line where it is a whole word of the text
(`wholeWord_between_iff`).

Hence a name of word characters is highlighted where its first reference on the line
is, and a name without a reference there does not matter
(`Document.highlight_is_first_reference`).

Key theorems: `wholeWord_iff_leadingWord`, `wholeWord_between_iff`,
`Document.exists_start_of_lineText`, `Document.filter_occurrences_of_line`,
`Document.highlight_is_first_reference`.
-/
import Mathlib.Data.List.Sort
import StyleCheck.Proofs.LineHighlights

namespace StyleCheck.Source

open Text

/-! ### Whole words of a part of the text -/

section Between

variable {before text after : List Char}

theorem leadingWord_append_of_startsWord (hafter : startsWord after = false) :
    ∀ text : List Char, leadingWord (text ++ after) = leadingWord text
  | [] => leadingWord_eq_nil hafter
  | c :: text => by
    have ih := leadingWord_append_of_startsWord hafter text
    unfold leadingWord at ih ⊢
    rw [List.cons_append, List.takeWhile_cons, List.takeWhile_cons, ih]

/-- A whole word is the leading word of the text from its place on. -/
theorem wholeWord_iff_leadingWord {name : List Char} {i : Nat} :
    WholeWord name text i ↔
      name ≠ [] ∧ endsWord false (text.take i) = false ∧ leadingWord (text.drop i) = name := by
  constructor
  · rintro ⟨before, after, rfl, rfl, hne, hname, hbefore, hafter⟩
    rw [List.take_left, List.drop_left]
    exact ⟨hne, hbefore, leadingWord_word_append hname hafter⟩
  · rintro ⟨hne, hbefore, rfl⟩
    have hlt : i < text.length := by
      by_contra hge
      rw [List.drop_eq_nil_of_le (Nat.le_of_not_lt hge)] at hne
      exact hne rfl
    refine ⟨text.take i, afterWord (text.drop i), ?_, ?_, hne, fun c hc =>
      isWord_of_mem_leadingWord hc, hbefore, startsWord_afterWord _⟩
    · rw [leadingWord_append_afterWord, List.take_append_drop]
    · rw [List.length_take, Nat.min_eq_left (Nat.le_of_lt hlt)]

/-- **Whole words of a part of the text** that no word goes across the ends of are whole
words of the text. -/
theorem wholeWord_between_iff (hbefore : endsWord false before = false)
    (hafter : startsWord after = false) {name : List Char} {i : Nat} (hi : i ≤ text.length) :
    WholeWord name (before ++ (text ++ after)) (before.length + i) ↔ WholeWord name text i := by
  have htake : (before ++ (text ++ after)).take (before.length + i) = before ++ text.take i := by
    rw [List.take_length_add_append, List.take_append_of_le_length hi]
  have hdrop : (before ++ (text ++ after)).drop (before.length + i) = text.drop i ++ after := by
    rw [List.drop_length_add_append, List.drop_append_of_le_length hi]
  rw [wholeWord_iff_leadingWord, wholeWord_iff_leadingWord, htake, hdrop, endsWord_append, hbefore,
    leadingWord_append_of_startsWord hafter]

end Between

end StyleCheck.Source

namespace StyleCheck.Document

open Text Source

variable (d : Document) {line : Int} {text name : List Char}

/-! ### Whole words of a line -/

theorem startsWord_returns_append {returns rest : List Char} (hreturns : ∀ c ∈ returns, c = '\r')
    (hrest : ∀ c ∈ rest.head?, c = '\n') : startsWord (returns ++ rest) = false := by
  cases returns with
  | nil =>
    cases rest with
    | nil => rfl
    | cons c rest =>
      rw [hrest c rfl]
      rfl
  | cons c returns =>
    rw [hreturns c List.mem_cons_self]
    rfl

theorem endsWord_closedLines (ls : List (List Char)) : endsWord false (closedLines ls) = false := by
  rcases List.eq_nil_or_concat ls with rfl | ⟨init, line, rfl⟩
  · rfl
  · rw [List.concat_eq_append, closedLines_append, endsWord_append, closedLines_cons, endsWord_append]
    rfl

/-- Among the carriage returns behind a line no word begins. -/
theorem le_length_of_wholeWord {before text returns rest name : List Char} {column : Nat}
    (hreturns : ∀ c ∈ returns, c = '\r') (hrest : ∀ c ∈ rest.head?, c = '\n')
    (hcolumn : column ≤ text.length + returns.length)
    (hword : WholeWord name (before ++ (text ++ (returns ++ rest))) (before.length + column)) :
    column ≤ text.length := by
  by_contra hgt
  obtain ⟨k, rfl⟩ := Nat.exists_eq_add_of_le (Nat.le_of_not_le hgt)
  have hk : k ≤ returns.length := Nat.le_of_add_le_add_left hcolumn
  have hdrop : (before ++ (text ++ (returns ++ rest))).drop (before.length + (text.length + k)) =
      returns.drop k ++ rest := by
    rw [List.drop_length_add_append, List.drop_length_add_append, List.drop_append_of_le_length hk]
  have hnone : startsWord (returns.drop k ++ rest) = false :=
    startsWord_returns_append (fun c hc => hreturns c (List.mem_of_mem_drop hc)) hrest
  obtain ⟨hne, -, hleading⟩ := wholeWord_iff_leadingWord.mp hword
  rw [hdrop, leadingWord_eq_nil hnone] at hleading
  exact hne hleading.symm

theorem exists_column_of_positionAt {ls ls' : List (List Char)} {whole : List Char}
    (hsplit : splitLines d.text = ls ++ whole :: ls') {i : Nat} (hi : i ≤ d.text.length)
    (hline : (d.positionAt i).line = ls.length) :
    ∃ column ≤ whole.length, i = (closedLines ls).length + column := by
  obtain ⟨ks, before, after, ks', hsplit', rfl⟩ := d.exists_line_of_offset hi
  rw [d.positionAt_of_line hsplit'] at hline
  obtain ⟨rfl, hrest⟩ := List.append_inj (hsplit.symm.trans hsplit') (Int.ofNat.inj hline).symm
  obtain ⟨rfl, -⟩ := List.cons.inj hrest
  exact ⟨before.length, by simp, rfl⟩

/-- **The whole words of the text on a line are those of the line**, as many characters
further on as the line begins behind the beginning of the text. -/
theorem exists_start_of_lineText (h : d.lineText line = .ok text) :
    ∃ start : Nat,
      (∀ column ≤ text.length, d.positionAt (start + column : Nat) = ⟨line, column⟩) ∧
      ∀ (name : List Char) (i : Nat), WholeWord name d.text i ∧ (d.positionAt i).line = line ↔
        ∃ column, WholeWord name text column ∧ start + column = i := by
  obtain ⟨ls, returns, ls', hsplit, rfl, hreturns⟩ := d.exists_line_of_lineText h
  obtain ⟨rest, htext, hrest⟩ := exists_eq_append_of_splitLines hsplit
  have hbefore := endsWord_closedLines ls
  have hafter := startsWord_returns_append hreturns hrest
  rw [List.append_assoc] at htext
  have hposition : ∀ column ≤ text.length,
      d.positionAt ((closedLines ls).length + column : Nat) = ⟨ls.length, column⟩ := by
    intro column hcolumn
    have hcut : splitLines d.text =
        ls ++ (text.take column ++ (text.drop column ++ returns)) :: ls' := by
      rw [← List.append_assoc, List.take_append_drop]
      exact hsplit
    have hposition := d.positionAt_of_line hcut
    rwa [List.length_take, Nat.min_eq_left hcolumn] at hposition
  refine ⟨(closedLines ls).length, hposition, fun name i => ⟨?_, ?_⟩⟩
  · rintro ⟨hword, hline⟩
    have hi : i ≤ d.text.length := Nat.le_of_add_right_le hword.add_length_le
    obtain ⟨column, hcolumn, rfl⟩ := d.exists_column_of_positionAt hsplit hi hline
    rw [List.length_append] at hcolumn
    rw [htext] at hword
    have hle := le_length_of_wholeWord hreturns hrest hcolumn hword
    exact ⟨column, (wholeWord_between_iff hbefore hafter hle).mp hword, rfl⟩
  · rintro ⟨column, hword, rfl⟩
    have hle : column ≤ text.length := Nat.le_of_add_right_le hword.add_length_le
    refine ⟨?_, by rw [hposition column hle]⟩
    rw [htext]
    exact (wholeWord_between_iff hbefore hafter hle).mpr hword

section Names

variable (hne : name ≠ []) (hname : ∀ c ∈ name, isWord c = true)

include hne hname

/-- **One search for two**: the places on a line that a search of the whole text finds are
those that a search of the line finds. -/
theorem filter_occurrences_of_line (h : d.lineText line = .ok text) :
    ∃ start : Nat,
      (∀ column ≤ text.length, d.positionAt (start + column : Nat) = ⟨line, column⟩) ∧
      ((occurrences name d.text).filter fun i : Nat => (d.positionAt i).line = line) =
        (occurrences name text).map (start + ·) := by
  obtain ⟨start, hposition, hwords⟩ := d.exists_start_of_lineText h
  refine ⟨start, hposition, ?_⟩
  refine List.Pairwise.eq_of_mem_iff ((pairwise_occurrencesFrom d.text 0 0 false).filter _)
    (List.pairwise_map.mpr ((pairwise_occurrencesFrom text 0 0 false).imp fun hlt => ?_)) fun i => ?_
  · exact Nat.add_lt_add_left hlt start
  · rw [List.mem_filter, mem_occurrences_iff hne hname, decide_eq_true_eq, hwords, List.mem_map]
    simp only [mem_occurrences_iff hne hname]

/-- The first reference on a line is the range of the first place on the line. -/
theorem find?_references (h : d.lineText line = .ok text) :
    ((d.references name).find? fun r => r.start.line = line) =
      (occurrences name text).head?.map fun column : Nat =>
        Range.onLine line column ((column + name.length : Nat) : Int) := by
  obtain ⟨start, hposition, hfilter⟩ := d.filter_occurrences_of_line hne hname h
  have hfind : ((occurrences name d.text).find? fun i : Nat => (d.positionAt i).line = line) =
      (occurrences name text).head?.map (start + ·) := by
    rw [← List.head?_filter, hfilter, List.head?_map]
  unfold references
  rw [List.find?_map]
  simp only [Function.comp_def, hfind, Option.map_map]
  cases hhead : (occurrences name text).head? with
  | none => rfl
  | some column =>
    have hword := (mem_occurrences_iff hne hname).mp (List.mem_of_head? hhead)
    have hle := hword.add_length_le
    have hstart := hposition column (by omega)
    have hstop := hposition (column + name.length) hle
    rw [← Nat.add_assoc] at hstop
    simp only [Option.map_some, Range.onLine, hstart, ← Int.natCast_add, hstop]

end Names

theorem line_of_mem_references {r : Range} (hne : name ≠ []) (hname : ∀ c ∈ name, isWord c = true)
    (h : r ∈ d.references name) : 0 ≤ r.start.line ∧ r.start.line < d.lineCount := by
  obtain ⟨i, hi, rfl⟩ := List.mem_map.mp h
  have hle : i ≤ d.text.length :=
    Nat.le_of_add_right_le ((mem_occurrences_iff hne hname).mp hi).add_length_le
  obtain ⟨ls, before, after, ls', hsplit, rfl⟩ := d.exists_line_of_offset hle
  have hlt := d.length_lt_lineCount hsplit
  rw [d.positionAt_of_line hsplit]
  simp only
  omega

/-! ### Highlights -/

section Hint

variable {hint : String} (hne : hint ≠ "") (hhint : ∀ c ∈ hint.toList, isWord c = true)

include hne hhint

/-- A hint shows its first reference on the line, and without one nothing. -/
theorem highlight_eq_find? (line : Int) (kind : LocationKind) :
    d.highlight line kind (some hint) =
      (((d.references hint.toList).find? fun r => r.start.line = line).map .ok).getD
        (d.highlight line kind none) := by
  have hne' : hint.toList ≠ [] := fun hnil => hne (String.toList_eq_nil_iff.mp hnil)
  by_cases hinside : 0 ≤ line ∧ line < d.lineCount
  · obtain ⟨text, htext⟩ := d.exists_lineText_iff.mpr hinside
    rw [d.find?_references hne' hhint htext, d.highlight_of_lineText kind _ htext,
      d.highlight_of_lineText kind _ htext]
    unfold shownColumns hintColumns
    simp only
    rw [if_neg hne, String.length_toList]
    cases (occurrences hint.toList text).head? with
    | none => rfl
    | some column => rfl
  · have hoff : line < 0 ∨ d.lineCount ≤ line := by omega
    have hnone : ((d.references hint.toList).find? fun r => r.start.line = line) = none := by
      refine List.find?_eq_none.mpr fun r hr => ?_
      have hline := d.line_of_mem_references hne' hhint hr
      simp only [decide_eq_true_eq]
      omega
    rw [hnone, Option.map_none, Option.getD_none, highlight, highlight, d.lineText_of_outside hoff]
    cases LineError.missing line d.lineCount with
    | outside message => rfl
    | number e => rfl

/-- **A hint and the references agree.** For a hint made of word characters, every line and
every kind of construct: if references of the hint begin on the line, the highlight is the
first of them, and if none does, it is the highlight without a hint. -/
theorem highlight_is_first_reference (line : Int) (kind : LocationKind) :
    (∀ before r after, d.references hint.toList = before ++ r :: after →
      (∀ s ∈ before, s.start.line ≠ line) → r.start.line = line →
        d.highlight line kind (some hint) = .ok r) ∧
    ((∀ r ∈ d.references hint.toList, r.start.line ≠ line) →
      d.highlight line kind (some hint) = d.highlight line kind none) := by
  rw [d.highlight_eq_find? hne hhint]
  refine ⟨fun before r after hcut hbefore hr => ?_, fun hnone => ?_⟩
  · have hfound : ((d.references hint.toList).find? fun r => r.start.line = line) = some r := by
      refine List.find?_eq_some_iff_append.mpr ⟨by simpa using hr, before, after, hcut, ?_⟩
      exact fun s hs => by simpa using hbefore s hs
    rw [hfound]
    rfl
  · rw [List.find?_eq_none.mpr fun r hr => by simpa using hnone r hr]
    rfl

end Hint

/-- A source with carriage returns at the ends of its lines: a name ends the first line, is
on the second line twice, and is only a part of a word on the third. -/
def sourceOfRepeatedCount : Document where
  text := "return n\r\n= n + n;\r\nnn = 1;".toList

/-- On the second line the first of two references is highlighted, and on the third line
the hint does not matter. -/
theorem highlight_is_first_reference_behind_return :
    ("n" ≠ "" ∧ ∀ c ∈ "n".toList, isWord c = true) ∧
    (sourceOfRepeatedCount.references "n".toList =
        [Range.onLine 0 7 8] ++ Range.onLine 1 2 3 :: [Range.onLine 1 6 7] ∧
      sourceOfRepeatedCount.highlight 1 .statement (some "n") = .ok (Range.onLine 1 2 3)) ∧
    sourceOfRepeatedCount.highlight 2 .statement (some "n") =
      sourceOfRepeatedCount.highlight 2 .statement none ∧
    sourceOfRepeatedCount.highlight 2 .statement none = .ok (Range.onLine 2 0 7) := by
  have hne : "n" ≠ "" := by decide
  have hhint : ∀ c ∈ "n".toList, isWord c = true := List.all_eq_true.mp (by decide)
  have hreferences : sourceOfRepeatedCount.references "n".toList =
      [Range.onLine 0 7 8] ++ Range.onLine 1 2 3 :: [Range.onLine 1 6 7] := by decide +kernel
  obtain ⟨hfirst, -⟩ := sourceOfRepeatedCount.highlight_is_first_reference hne hhint 1 .statement
  obtain ⟨-, hnone⟩ := sourceOfRepeatedCount.highlight_is_first_reference hne hhint 2 .statement
  refine ⟨⟨hne, hhint⟩, ⟨hreferences, ?_⟩, ?_, by rfl⟩
  · exact hfirst _ _ _ hreferences (by decide) rfl
  · refine hnone fun r hr => ?_
    rw [hreferences] at hr
    revert r
    decide

end StyleCheck.Document
