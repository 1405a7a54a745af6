/-
# The highlight of a line

A problem is shown on its line by the columns of a hint that occurs there, or else by
those that its kind suggests, or else by the whole line. Whichever it is, the columns lie
on the line, in order, and the highlight's text is the part of the line between them; a
line that the document does not have gives an empty range at its beginning, unless its
number is too long for the message about it (`Document.highlight_stays_on_line`).

Nearly all of these columns have something between them (`spans_of_hintColumns`,
`spans_of_suggestedColumns`). The exception is a statement: its columns leave out the
blanks in front and a comment behind, and where an indented line has nothing but a
comment, they leave out everything (`statementColumns_spans_iff`). So the highlight of a
line that is not blank is empty exactly there (`Document.highlight_nonempty_iff`).

Key definitions: `Spans`, `IsIndentedComment`, `HintOccurs`, `shownColumns`.
Key theorems: `spans_of_scanFirst?`, `spans_of_hintColumns`, `spans_of_suggestedColumns`,
`statementColumns_spans_iff`, `Document.highlight_eq_error_iff`,
`Document.highlight_stays_on_line`, `Document.highlight_nonempty_iff`.
-/
import StyleCheck.Highlight
import StyleCheck.Proofs.LineParts
import StyleCheck.Proofs.Readings
import StyleCheck.Proofs.References

namespace StyleCheck

open Text Source

/-- The columns lie on the text, and something stands between them. -/
def Spans (columns : Nat × Nat) (text : List Char) : Prop :=
  columns.1 < columns.2 ∧ columns.2 ≤ text.length

variable {text : List Char}

/-! ### Columns of a shape -/

theorem spans_of_scanFirst? {α : Type} {shape : Shape α} {first last : α → Nat}
    (hshape : ∀ offset a rest r length, shape offset a rest = some (r, length) →
      first r < last r ∧ last r ≤ offset + rest.length)
    {r : α} (h : scanFirst? shape text = some r) : Spans (first r, last r) text := by
  have hmem : r ∈ scan shape text := List.mem_of_head? h
  obtain ⟨before, rest, length, rfl, hread⟩ := exists_of_mem_scanFrom text 0 0 false hmem
  obtain ⟨hlt, hle⟩ := hshape _ _ _ _ _ hread
  rw [Nat.zero_add, ← List.length_append] at hle
  exact ⟨hlt, hle⟩

theorem length_of_twoWords {a : Bool} {first second third : List Char}
    (h : twoWords a text = some (first, second, third)) :
    second.length ≤ text.length ∧ 0 < (leadingWord second).length ∧
      (leadingWord second).length ≤ second.length := by
  obtain ⟨x, rfl, -, hstart, -, -⟩ := twoWords_sound h
  refine ⟨by simp, List.length_pos_iff.mpr (leadingWord_ne_nil hstart), ?_⟩
  exact (List.takeWhile_prefix isWord).length_le

theorem bounds_of_callShape (offset : Nat) (a : Bool) (rest : List Char) (columns : Nat × Nat)
    (length : Nat) (h : callShape offset a rest = some (columns, length)) :
    columns.1 < columns.2 ∧ columns.2 ≤ offset + rest.length := by
  unfold callShape at h
  split at h
  · rename_i hwords
    obtain ⟨hle, hpos, hword⟩ := length_of_twoWords hwords
    obtain ⟨rfl, -⟩ := Prod.mk.inj (Option.some.inj h)
    simp only
    omega
  · exact absurd h nofun

theorem bounds_of_declaratorShape (offset : Nat) (a : Bool) (rest : List Char)
    (columns : Nat × Nat) (length : Nat)
    (h : declaratorShape offset a rest = some (columns, length)) :
    columns.1 < columns.2 ∧ columns.2 ≤ offset + rest.length := by
  unfold declaratorShape at h
  split at h
  · rename_i hwords
    obtain ⟨hle, hpos, hword⟩ := length_of_twoWords hwords
    simp only at h
    split at h
    · obtain ⟨rfl, -⟩ := Prod.mk.inj (Option.some.inj h)
      simp only
      omega
    · exact absurd h nofun
  · exact absurd h nofun

theorem bounds_of_includeShape (offset : Nat) (a : Bool) (rest : List Char) (directive : Include)
    (length : Nat) (h : includeShape offset a rest = some (directive, length)) :
    directive.start < directive.stop ∧ directive.stop ≤ offset + rest.length := by
  unfold includeShape at h
  split at h
  · rename_i c inner hinner
    simp only at h
    split at h
    · rename_i d after hafter
      split at h
      · obtain ⟨rfl, -⟩ := Prod.mk.inj (Option.some.inj h)
        -- what is left is shorter than the text
        obtain ⟨more, hmore, htrim⟩ := Option.map_eq_some_iff.mp hinner
        have hrest := congrArg List.length (eq_append_of_dropWord? hmore)
        have hblanks := length_trimStart_le more
        have hpath := (@List.dropWhile_suffix _ inner fun c => !closesInclude c).length_le
        rw [htrim, List.length_cons] at hblanks
        rw [hafter, List.length_cons] at hpath
        rw [List.length_append] at hrest
        simp only
        omega
      · exact absurd h nofun
    · exact absurd h nofun
  · exact absurd h nofun

/-! ### Columns of a statement -/

/-- The line has nothing but a comment, with blanks in front of it. -/
def IsIndentedComment (text : List Char) : Prop :=
  ∃ blanks rest, blanks ≠ [] ∧ (∀ c ∈ blanks, isBlank c = true) ∧
    text = blanks ++ '/' :: '/' :: rest

theorem length_leadingBlanks_le {c : Char} {word : List Char} {offset : Nat}
    (hc : isBlank c = false) (h : StandsAt (c :: word) text offset) :
    (leadingBlanks text).length ≤ offset := by
  obtain ⟨before, after, rfl, rfl⟩ := h
  by_contra hlt
  have hbegins : before ++ [c] <+: leadingBlanks (before ++ (c :: word ++ after)) := by
    refine List.prefix_of_prefix_length_le ?_ (List.takeWhile_prefix isBlank) ?_
    · exact ⟨word ++ after, by simp⟩
    · rw [List.length_append, List.length_singleton]
      omega
  rw [isBlank_of_mem_leadingBlanks (hbegins.subset (by simp))] at hc
  exact Bool.false_ne_true hc.symm

theorem indexOf?_of_isIndentedComment (h : IsIndentedComment text) :
    indexOf? "//".toList text = some (leadingBlanks text).length ∧
      0 < (leadingBlanks text).length := by
  obtain ⟨blanks, rest, hne, hblanks, rfl⟩ := h
  have hslash : isBlank '/' = false := by decide
  have hleading : leadingBlanks (blanks ++ '/' :: '/' :: rest) = blanks :=
    leadingBlanks_blanks_append hblanks hslash
  refine ⟨indexOf?_eq_some_iff.mpr ⟨?_, fun i hi => ?_⟩, ?_⟩
  · rw [hleading]
    exact ⟨blanks, rest, rfl, rfl⟩
  · exact length_leadingBlanks_le hslash hi
  · rw [hleading]
    exact List.length_pos_iff.mpr hne

theorem isIndentedComment_of_standsAt (hpos : 0 < (leadingBlanks text).length)
    (h : StandsAt "//".toList text (leadingBlanks text).length) : IsIndentedComment text := by
  obtain ⟨before, after, htext, hlength⟩ := h
  have hbefore : before = leadingBlanks text := by
    have hbegins : before <+: text := htext ▸ List.prefix_append before _
    have hblanks : leadingBlanks text <+: text := List.takeWhile_prefix isBlank
    exact (List.prefix_of_prefix_length_le hbegins hblanks hlength.le).eq_of_length hlength
  refine ⟨leadingBlanks text, after, List.length_pos_iff.mp hpos,
    fun c hc => isBlank_of_mem_leadingBlanks hc, ?_⟩
  rw [← hbefore]
  exact htext

theorem statementColumns_le {columns : Nat × Nat}
    (h : suggestedColumns .statement text = some columns) :
    columns.1 ≤ columns.2 ∧ columns.2 ≤ text.length := by
  have hblanks : (leadingBlanks text).length ≤ text.length :=
    (List.takeWhile_prefix isBlank).length_le
  rw [← Option.some.inj h]
  simp only
  split
  · rename_i column hcolumn
    obtain ⟨⟨before, after, rfl, rfl⟩, -⟩ := indexOf?_eq_some_iff.mp hcolumn
    rw [List.length_append] at hblanks ⊢
    split <;> omega
  · omega

theorem isIndentedComment_iff {column : Nat} (h : indexOf? "//".toList text = some column) :
    IsIndentedComment text ↔
      column = (leadingBlanks text).length ∧ 0 < (leadingBlanks text).length := by
  constructor
  · intro hcomment
    obtain ⟨hfirst, hpos⟩ := indexOf?_of_isIndentedComment hcomment
    exact ⟨Option.some.inj (h.symm.trans hfirst), hpos⟩
  · rintro ⟨rfl, hpos⟩
    exact isIndentedComment_of_standsAt hpos (indexOf?_eq_some_iff.mp h).1

/-- **A statement's columns** on a line that is not blank have something between them,
unless the line is an indented comment. -/
theorem statementColumns_spans_iff (hshown : ∃ c ∈ text, isBlank c = false) {columns : Nat × Nat}
    (h : suggestedColumns .statement text = some columns) :
    Spans columns text ↔ ¬ IsIndentedComment text := by
  have hle := (statementColumns_le h).2
  have hblanks : (leadingBlanks text).length < text.length := by
    have hbegins : leadingBlanks text <+: text := List.takeWhile_prefix isBlank
    refine Nat.lt_of_le_of_ne hbegins.length_le fun hall => ?_
    obtain ⟨c, hc, hblank⟩ := hshown
    rw [← hbegins.eq_of_length hall] at hc
    rw [isBlank_of_mem_leadingBlanks hc] at hblank
    exact Bool.false_ne_true hblank.symm
  rw [Spans, and_iff_left hle, ← Option.some.inj h]
  simp only
  split
  · rename_i column hcolumn
    have hbehind : (leadingBlanks text).length ≤ column :=
      length_leadingBlanks_le (by decide) (indexOf?_eq_some_iff.mp hcolumn).1
    rw [isIndentedComment_iff hcolumn]
    split <;> omega
  · rename_i hnone
    refine iff_of_true (by omega) fun hcomment => ?_
    rw [(indexOf?_of_isIndentedComment hcomment).1] at hnone
    exact absurd hnone nofun

/-! ### Columns of a line -/

/-- **The columns that a kind suggests** have something between them, a statement's apart. -/
theorem spans_of_suggestedColumns {kind : LocationKind} (hkind : kind ≠ .statement)
    {columns : Nat × Nat} (h : suggestedColumns kind text = some columns) : Spans columns text := by
  cases kind with
  | function => exact spans_of_scanFirst? bounds_of_callShape h
  | variableName => exact spans_of_scanFirst? bounds_of_declaratorShape h
  | statement => exact absurd rfl hkind
  | comment =>
    obtain ⟨column, hcolumn, rfl⟩ := Option.map_eq_some_iff.mp h
    obtain ⟨⟨before, after, rfl, rfl⟩, -⟩ := indexOf?_eq_some_iff.mp hcolumn
    exact ⟨by simp, Nat.le_refl _⟩
  | includeDirective =>
    obtain ⟨directive, hdirective, rfl⟩ := Option.map_eq_some_iff.mp h
    exact spans_of_scanFirst? bounds_of_includeShape hdirective
  | classType | preprocessor | typeAlias | macroName | parameter | other => exact absurd h nofun

/-- The hint is a name that occurs on the line between word boundaries. -/
def HintOccurs (hint : Option String) (text : List Char) : Prop :=
  ∃ name, hint = some name ∧ name ≠ "" ∧ ∃ i, OccursAt name.toList text i

theorem hintColumns_eq_none_iff {hint : Option String} :
    hintColumns hint text = none ↔ ¬ HintOccurs hint text := by
  unfold hintColumns HintOccurs
  cases hint with
  | none => simp
  | some name =>
    by_cases hname : name = ""
    · simp [hname]
    · simp only
      rw [if_neg hname, Option.map_eq_none_iff, List.head?_eq_none_iff, occurrences_eq_nil_iff]
      simp only [Option.some.injEq, exists_eq_left', ne_eq, hname, not_false_eq_true, true_and,
        not_exists]

theorem spans_of_hintColumns {hint : Option String} {columns : Nat × Nat}
    (h : hintColumns hint text = some columns) : Spans columns text := by
  unfold hintColumns at h
  split at h
  · rename_i name
    split at h
    · exact absurd h nofun
    · rename_i hname
      obtain ⟨i, hi, rfl⟩ := Option.map_eq_some_iff.mp h
      obtain ⟨before, after, rfl, rfl, -, -⟩ := occursAt_of_mem_occurrences (List.mem_of_head? hi)
      have hpos : 0 < name.length := Nat.pos_of_ne_zero fun hzero => hname (by simpa using hzero)
      refine ⟨by simp only; omega, ?_⟩
      simp only [List.length_append, String.length_toList]
      omega
  · exact absurd h nofun

/-- The columns that are shown on a line. -/
def shownColumns (kind : LocationKind) (hint : Option String) (text : List Char) : Nat × Nat :=
  ((hintColumns hint text).orElse fun _ => suggestedColumns kind text).getD (0, text.length)

/-- The ways in which the columns come about. -/
theorem shownColumns_cases (kind : LocationKind) (hint : Option String) (text : List Char) :
    (HintOccurs hint text ∧ Spans (shownColumns kind hint text) text) ∨
      ¬ HintOccurs hint text ∧ (suggestedColumns kind text = some (shownColumns kind hint text) ∨
        kind ≠ .statement ∧ shownColumns kind hint text = (0, text.length)) := by
  unfold shownColumns
  cases hhint : hintColumns hint text with
  | some columns =>
    left
    have hoccurs : HintOccurs hint text := by
      by_contra hnot
      rw [hintColumns_eq_none_iff.mpr hnot] at hhint
      exact absurd hhint nofun
    exact ⟨hoccurs, spans_of_hintColumns hhint⟩
  | none =>
    right
    refine ⟨hintColumns_eq_none_iff.mp hhint, ?_⟩
    rw [Option.orElse_none]
    cases hkind : suggestedColumns kind text with
    | some columns => exact Or.inl rfl
    | none =>
      right
      refine ⟨?_, rfl⟩
      rintro rfl
      exact absurd hkind nofun

theorem shownColumns_le (kind : LocationKind) (hint : Option String) (text : List Char) :
    (shownColumns kind hint text).1 ≤ (shownColumns kind hint text).2 ∧
      (shownColumns kind hint text).2 ≤ text.length := by
  rcases shownColumns_cases kind hint text with ⟨-, hlt, hle⟩ | ⟨-, hkind | ⟨-, hwhole⟩⟩
  · exact ⟨Nat.le_of_lt hlt, hle⟩
  · by_cases hstatement : kind = .statement
    · rw [hstatement] at hkind ⊢
      exact statementColumns_le hkind
    · obtain ⟨hlt, hle⟩ := spans_of_suggestedColumns hstatement hkind
      exact ⟨Nat.le_of_lt hlt, hle⟩
  · rw [hwhole]
    exact ⟨Nat.zero_le _, Nat.le_refl _⟩

/-- **The columns of a line that is not blank** have something between them, unless the line
is an indented comment that is shown as a statement. -/
theorem shownColumns_spans_iff (kind : LocationKind) (hint : Option String)
    (hshown : ∃ c ∈ text, isBlank c = false) :
    Spans (shownColumns kind hint text) text ↔
      ¬ (kind = .statement ∧ ¬ HintOccurs hint text ∧ IsIndentedComment text) := by
  rcases shownColumns_cases kind hint text with ⟨hoccurs, hspans⟩ | ⟨hnot, hkind | ⟨hother, hwhole⟩⟩
  · exact iff_of_true hspans fun hempty => hempty.2.1 hoccurs
  · by_cases hstatement : kind = .statement
    · rw [hstatement] at hkind ⊢
      rw [statementColumns_spans_iff hshown hkind]
      simp only [hnot, not_false_eq_true, true_and]
    · exact iff_of_true (spans_of_suggestedColumns hstatement hkind)
        fun hempty => hstatement hempty.1
  · refine iff_of_true ?_ fun hempty => hother hempty.1
    obtain ⟨c, hc, -⟩ := hshown
    rw [hwhole]
    exact ⟨List.length_pos_iff.mpr (List.ne_nil_of_mem hc), Nat.le_refl _⟩

namespace Document

variable (d : Document)

/-! ### Highlights -/

theorem highlight_of_lineText {line : Int} (kind : LocationKind) (hint : Option String)
    (h : d.lineText line = .ok text) :
    d.highlight line kind hint =
      .ok (Range.onLine line (shownColumns kind hint text).1 (shownColumns kind hint text).2) := by
  unfold highlight
  rw [h]
  rfl

/-- A line that the document does not have is shown by an empty range, if there is a message
about it. -/
theorem highlight_of_outside {line : Int} (kind : LocationKind) (hint : Option String)
    (h : line < 0 ∨ d.lineCount ≤ line) (hshort : ¬ d.MessageTooLong line) :
    d.highlight line kind hint = .ok (Range.onLine (max line 0) 0 0) := by
  obtain ⟨message, hline⟩ := d.exists_message_of_outside h hshort
  rw [highlight, hline]

/-- A line that the document does not have and that no message can show has no highlight. -/
theorem highlight_of_messageTooLong {line : Int} (kind : LocationKind) (hint : Option String)
    (h : line < 0 ∨ d.lineCount ≤ line) (hlong : d.MessageTooLong line) :
    d.highlight line kind hint = .error .tooLong := by
  rw [highlight, d.lineText_of_messageTooLong h hlong]

theorem exists_columns_of_highlight {line : Int} (kind : LocationKind) (hint : Option String)
    (hnonneg : 0 ≤ line) (hlt : line < d.lineCount) :
    ∃ (text : List Char) (first last : Nat), d.lineText line = .ok text ∧
      d.highlight line kind hint = .ok (Range.onLine line first last) ∧
      first ≤ last ∧ last ≤ text.length ∧
      d.textIn (Range.onLine line first last) = (text.take last).drop first := by
  obtain ⟨text, htext⟩ := d.exists_lineText_iff.mpr ⟨hnonneg, hlt⟩
  obtain ⟨hle, hlast⟩ := shownColumns_le kind hint text
  exact ⟨text, _, _, htext, d.highlight_of_lineText kind hint htext, hle, hlast,
    d.textIn_onLine htext hle hlast⟩

/-- **When there is a highlight**: the document has the line, or there is a message about it. -/
theorem highlight_eq_error_iff {line : Int} (kind : LocationKind) (hint : Option String) :
    (∃ e, d.highlight line kind hint = .error e) ↔
      (line < 0 ∨ d.lineCount ≤ line) ∧ d.MessageTooLong line := by
  by_cases houtside : line < 0 ∨ d.lineCount ≤ line
  · by_cases hlong : d.MessageTooLong line
    · exact iff_of_true ⟨_, d.highlight_of_messageTooLong kind hint houtside hlong⟩
        ⟨houtside, hlong⟩
    · rw [d.highlight_of_outside kind hint houtside hlong]
      exact iff_of_false (fun ⟨_, h⟩ => nomatch h) fun h => hlong h.2
  · obtain ⟨text, first, last, -, hrange, -⟩ :=
      d.exists_columns_of_highlight kind hint (by omega : 0 ≤ line) (by omega)
    rw [hrange]
    exact iff_of_false (fun ⟨_, h⟩ => nomatch h) fun h => houtside h.1

theorem isSingleLine_of_highlight {line : Int} {kind : LocationKind} {hint : Option String}
    {range : Range} (h : d.highlight line kind hint = .ok range) : range.isSingleLine = true := by
  by_cases houtside : line < 0 ∨ d.lineCount ≤ line
  · by_cases hlong : d.MessageTooLong line
    · exact absurd (h.symm.trans (d.highlight_of_messageTooLong kind hint houtside hlong)) nofun
    · rw [d.highlight_of_outside kind hint houtside hlong, Except.ok.injEq] at h
      exact h ▸ Range.isSingleLine_onLine _ _ _
  · obtain ⟨text, first, last, -, hrange, -⟩ :=
      d.exists_columns_of_highlight kind hint (by omega : 0 ≤ line) (by omega)
    rw [hrange, Except.ok.injEq] at h
    exact h ▸ Range.isSingleLine_onLine _ _ _

/-- **A highlight stays on its line.** There is none exactly for a line that the document does
not have and whose number, or that of the last line, is too long for a message. Otherwise, for
every number of a line, kind of construct and hint, the range lies on one line. Where the
document has no such line, it is empty and at the beginning of that line, or of the first one
for a negative number. On a line of the document its columns lie on the line, in order, and
its text is the part of the line between them. -/
theorem highlight_stays_on_line (line : Int) (kind : LocationKind) (hint : Option String) :
    ((∃ e, d.highlight line kind hint = .error e) ↔
      (line < 0 ∨ d.lineCount ≤ line) ∧ d.MessageTooLong line) ∧
    (∀ range, d.highlight line kind hint = .ok range → range.isSingleLine = true) ∧
    (line < 0 ∨ d.lineCount ≤ line → ¬ d.MessageTooLong line →
      d.highlight line kind hint = .ok (Range.onLine (max line 0) 0 0)) ∧
    (0 ≤ line → line < d.lineCount →
      ∃ (text : List Char) (first last : Nat), d.lineText line = .ok text ∧
        d.highlight line kind hint = .ok (Range.onLine line first last) ∧
        first ≤ last ∧ last ≤ text.length ∧
        d.textIn (Range.onLine line first last) = (text.take last).drop first) :=
  ⟨d.highlight_eq_error_iff kind hint, fun _ => d.isSingleLine_of_highlight,
    d.highlight_of_outside kind hint, d.exists_columns_of_highlight kind hint⟩

/-- A source whose first line ends with a carriage return, and a declaration behind it. -/
def sourceOfTotal : Document where
  text := "#include <a.h>\r\n  int total = 0; // sum".toList

/-- The path of an include directive and a declared name are shown; line 2 is not there. -/
theorem highlight_stays_on_line_with_return :
    ((∀ range, sourceOfTotal.highlight 0 .includeDirective none = .ok range →
        range.isSingleLine = true) ∧
      sourceOfTotal.highlight 2 .statement (some "sum") = .ok (Range.onLine 2 0 0)) ∧
    (∃ (text : List Char) (first last : Nat), sourceOfTotal.lineText 0 = .ok text ∧
      sourceOfTotal.highlight 0 .includeDirective none = .ok (Range.onLine 0 first last) ∧
      first ≤ last ∧ last ≤ text.length ∧
      sourceOfTotal.textIn (Range.onLine 0 first last) = (text.take last).drop first) ∧
    sourceOfTotal.highlight 0 .includeDirective none = .ok (Range.onLine 0 0 14) ∧
    sourceOfTotal.highlight 1 .variableName none = .ok (Range.onLine 1 6 11) ∧
    sourceOfTotal.highlight 1 .statement none = .ok (Range.onLine 1 2 17) ∧
    sourceOfTotal.highlight 1 .function (some "sum") = .ok (Range.onLine 1 20 23) := by
  obtain ⟨-, hsingle, -, hinside⟩ :=
    sourceOfTotal.highlight_stays_on_line 0 .includeDirective none
  obtain ⟨-, -, houtside, -⟩ := sourceOfTotal.highlight_stays_on_line 2 .statement (some "sum")
  have hshort : ¬ sourceOfTotal.MessageTooLong 2 := by decide +kernel
  refine ⟨⟨hsingle, houtside (Or.inr (by decide)) hshort⟩, hinside (by decide) (by decide),
    ?_, ?_, ?_, ?_⟩
  · rfl
  · rfl
  · rfl
  · rfl

/-- A line so far behind the last one that no message can show its number has no highlight. -/
theorem highlight_fails_far_away :
    ¬ ∀ (d : Document) (line : Int) (kind : LocationKind) (hint : Option String),
      ∃ range, d.highlight line kind hint = .ok range := by
  intro h
  obtain ⟨range, hrange⟩ := h sourceOfTotal (10 ^ maxIntegerDigits : Nat) .statement none
  have hfar : ((10 ^ maxIntegerDigits : Nat) : Int) < 0 ∨
      sourceOfTotal.lineCount ≤ ((10 ^ maxIntegerDigits : Nat) : Int) := by decide +kernel
  have hlong : sourceOfTotal.MessageTooLong (10 ^ maxIntegerDigits : Nat) :=
    Or.inl (Int.natAbs_natCast _).ge
  rw [sourceOfTotal.highlight_of_messageTooLong .statement none hfar hlong] at hrange
  exact absurd hrange nofun

/-- **Where a highlight is empty.** The highlight of a line that is not blank has something
between its columns, for every kind and every hint, unless it is that of a statement, the
hint does not occur on the line, and the line has nothing but an indented comment. -/
theorem highlight_nonempty_iff {line : Int} (kind : LocationKind) (hint : Option String)
    (hline : d.lineText line = .ok text) (hshown : ∃ c ∈ text, isBlank c = false) :
    ∃ range, d.highlight line kind hint = .ok range ∧
      (range.start.character < range.stop.character ↔
        ¬ (kind = .statement ∧ ¬ HintOccurs hint text ∧ IsIndentedComment text)) := by
  refine ⟨_, d.highlight_of_lineText kind hint hline, ?_⟩
  rw [← shownColumns_spans_iff kind hint hshown]
  simp only [Spans, (shownColumns_le kind hint text).2, and_true, Range.onLine, Int.ofNat_lt]

/-- A source whose comments stand on lines of their own, the second one indented. -/
def sourceOfComments : Document where
  text := "// first\n\t// second\n\tx; // third".toList

/-- The comment in the first column is highlighted as a statement, and so is a statement in
front of a comment. -/
theorem highlight_nonempty_iff_unindented :
    (sourceOfComments.lineText 0 = .ok "// first".toList ∧
      ∃ c ∈ "// first".toList, isBlank c = false) ∧
    (∃ range, sourceOfComments.highlight 0 .statement none = .ok range ∧
      (range.start.character < range.stop.character ↔
        ¬ (LocationKind.statement = .statement ∧ ¬ HintOccurs none "// first".toList ∧
          IsIndentedComment "// first".toList))) ∧
    sourceOfComments.highlight 0 .statement none = .ok (Range.onLine 0 0 8) ∧
    sourceOfComments.highlight 2 .statement none = .ok (Range.onLine 2 1 4) := by
  have hline : sourceOfComments.lineText 0 = .ok "// first".toList := by rfl
  have hshown : ∃ c ∈ "// first".toList, isBlank c = false := ⟨'/', by decide, by decide⟩
  exact ⟨⟨hline, hshown⟩, sourceOfComments.highlight_nonempty_iff .statement none hline hshown,
    by rfl, by rfl⟩

/-- The indented comment is not: its highlight as a statement is empty, although the line is
not blank. -/
theorem highlight_misses_indented_comment :
    sourceOfComments.lineText 1 = .ok "\t// second".toList ∧
    (∃ c ∈ "\t// second".toList, isBlank c = false) ∧
    ¬ ∃ range, sourceOfComments.highlight 1 .statement none = .ok range ∧
      range.start.character < range.stop.character := by
  refine ⟨by rfl, ⟨'/', by decide, by decide⟩, ?_⟩
  rintro ⟨range, hrange, hlt⟩
  have hempty : sourceOfComments.highlight 1 .statement none = .ok (Range.onLine 1 1 1) := by rfl
  rw [hempty, Except.ok.injEq] at hrange
  rw [← hrange] at hlt
  exact absurd hlt (by decide)

end Document

end StyleCheck
