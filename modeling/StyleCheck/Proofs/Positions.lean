/-
# Lines, offsets and positions

A text cut at an offset has some whole lines before it and the beginning of one
more; the number of the whole lines and the length of the beginning are the
position of the offset. Cutting the text into lines goes along with cutting it
at the offset (`splitLines_append`), and so the position leads back to the
offset (`offsetAt_positionAt`).

Key definitions: `closedLines`.
Key theorems: `splitLines_append`, `exists_cut_of_splitLines`, `length_splitLines`,
`Document.positionAt_of_line`, `Document.offsetAt_of_line`,
`Document.offsetAt_positionAt`, `Document.positionAt_add`,
`Document.textIn_between`.
-/
import StyleCheck.Source.Document

namespace StyleCheck.Text

/-! ### Cutting a text into lines -/

theorem splitLines_newline (text : List Char) :
    splitLines ('\n' :: text) = [] :: splitLines text := by
  simp [splitLines]

theorem splitLines_cons {c : Char} {text line : List Char} {rest : List (List Char)}
    (hc : c ≠ '\n') (h : splitLines text = line :: rest) :
    splitLines (c :: text) = (c :: line) :: rest := by
  simp [splitLines, hc, h]

theorem exists_splitLines_cons (text : List Char) : ∃ line rest, splitLines text = line :: rest :=
  List.exists_cons_of_ne_nil (splitLines_ne_nil text)

theorem exists_splitLines_append (text : List Char) :
    ∃ lines last, splitLines text = lines ++ [last] := by
  rcases List.eq_nil_or_concat (splitLines text) with h | ⟨lines, last, h⟩
  · exact absurd h (splitLines_ne_nil text)
  · exact ⟨lines, last, by rw [h, List.concat_eq_append]⟩

/-- The lines of a text that is cut in two: the last line of the first part
goes on with the first line of the second. -/
theorem splitLines_append {y line : List Char} {rest : List (List Char)}
    (hy : splitLines y = line :: rest) : ∀ (x : List Char) (lines : List (List Char))
      (last : List Char), splitLines x = lines ++ [last] →
      splitLines (x ++ y) = lines ++ (last ++ line) :: rest
  | [], lines, last, hx => by
    obtain ⟨rfl, rfl⟩ : lines = [] ∧ last = [] := by
      cases lines with
      | nil => simpa [splitLines] using hx.symm
      | cons l lines => simp [splitLines] at hx
    exact hy
  | c :: x, lines, last, hx => by
    by_cases hc : c = '\n'
    · subst hc
      rw [splitLines_newline] at hx
      cases lines with
      | nil => exact absurd (List.cons.inj hx).2 (splitLines_ne_nil x)
      | cons l lines =>
        obtain ⟨rfl, hrest⟩ := List.cons.inj hx
        rw [List.cons_append, splitLines_newline, splitLines_append hy x lines last hrest]
        rfl
    · obtain ⟨first, others, hfirst⟩ := exists_splitLines_cons x
      rw [splitLines_cons hc hfirst] at hx
      cases lines with
      | nil =>
        obtain ⟨rfl, rfl⟩ := List.cons.inj hx
        exact splitLines_cons hc (splitLines_append hy x [] first hfirst)
      | cons l lines =>
        obtain ⟨rfl, rfl⟩ := List.cons.inj hx
        exact splitLines_cons hc (splitLines_append hy x (first :: lines) last hfirst)

/-- Lines with the newlines that end them. -/
def closedLines (lines : List (List Char)) : List Char :=
  lines.flatMap (· ++ ['\n'])

theorem closedLines_append (ls ks : List (List Char)) :
    closedLines (ls ++ ks) = closedLines ls ++ closedLines ks :=
  List.flatMap_append

theorem closedLines_cons (line : List Char) (lines : List (List Char)) :
    closedLines (line :: lines) = line ++ '\n' :: closedLines lines := by
  simp [closedLines]

theorem length_closedLines_cons (line : List Char) (lines : List (List Char)) :
    (closedLines (line :: lines)).length = line.length + 1 + (closedLines lines).length := by
  rw [closedLines_cons, List.length_append, List.length_cons]
  omega

/-- The lines of a text, with their newlines, are the text, and no line has a
newline in it. -/
theorem eq_closedLines_append : ∀ (text : List Char) (lines : List (List Char)) (last : List Char),
    splitLines text = lines ++ [last] →
      text = closedLines lines ++ last ∧ (∀ line ∈ lines, '\n' ∉ line) ∧ '\n' ∉ last
  | [], lines, last, h => by
    obtain ⟨rfl, rfl⟩ : lines = [] ∧ last = [] := by
      cases lines with
      | nil => simpa [splitLines] using h.symm
      | cons l lines => simp [splitLines] at h
    simp [closedLines]
  | c :: text, lines, last, h => by
    by_cases hc : c = '\n'
    · subst hc
      rw [splitLines_newline] at h
      cases lines with
      | nil => exact absurd (List.cons.inj h).2 (splitLines_ne_nil text)
      | cons l lines =>
        obtain ⟨rfl, hrest⟩ := List.cons.inj h
        obtain ⟨htext, hlines, hlast⟩ := eq_closedLines_append text lines last hrest
        refine ⟨by rw [closedLines_cons, htext]; rfl, ?_, hlast⟩
        exact List.forall_mem_cons.mpr ⟨by simp, hlines⟩
    · obtain ⟨first, others, hfirst⟩ := exists_splitLines_cons text
      rw [splitLines_cons hc hfirst] at h
      cases lines with
      | nil =>
        obtain ⟨rfl, rfl⟩ := List.cons.inj h
        obtain ⟨htext, -, hlast⟩ := eq_closedLines_append text [] first hfirst
        exact ⟨congrArg (c :: ·) htext, by simp, by simpa [Ne.symm hc] using hlast⟩
      | cons l lines =>
        obtain ⟨rfl, rfl⟩ := List.cons.inj h
        obtain ⟨htext, hlines, hlast⟩ := eq_closedLines_append text (first :: lines) last hfirst
        obtain ⟨hhead, htail⟩ := List.forall_mem_cons.mp hlines
        refine ⟨?_, List.forall_mem_cons.mpr ⟨by simpa [Ne.symm hc] using hhead, htail⟩, hlast⟩
        rw [closedLines_cons] at htext ⊢
        exact congrArg (c :: ·) htext

theorem not_mem_of_mem_splitLines {text line : List Char} (h : line ∈ splitLines text) :
    '\n' ∉ line := by
  obtain ⟨lines, last, hsplit⟩ := exists_splitLines_append text
  obtain ⟨-, hlines, hlast⟩ := eq_closedLines_append text lines last hsplit
  rw [hsplit] at h
  rcases List.mem_append.mp h with h | h
  · exact hlines line h
  · rwa [List.mem_singleton.mp h]

theorem splitLines_of_not_mem {text : List Char} (h : '\n' ∉ text) : splitLines text = [text] := by
  induction text with
  | nil => rfl
  | cons c text ih =>
    have hc : c ≠ '\n' := fun heq => h (heq ▸ List.mem_cons_self)
    exact splitLines_cons hc (ih fun hmem => h (List.mem_cons_of_mem c hmem))

/-- Whole lines are cut off in front of a text. -/
theorem splitLines_closedLines (text : List Char) {lines : List (List Char)}
    (hlines : ∀ line ∈ lines, '\n' ∉ line) :
    splitLines (closedLines lines ++ text) = lines ++ splitLines text := by
  induction lines with
  | nil => rfl
  | cons line lines ih =>
    obtain ⟨hline, hlines⟩ := List.forall_mem_cons.mp hlines
    rw [closedLines_cons, List.append_assoc, List.cons_append,
      splitLines_append (splitLines_newline _) line [] line (splitLines_of_not_mem hline), ih hlines,
      List.append_nil]
    rfl

theorem splitLines_closedLines_append {lines : List (List Char)} {last : List Char}
    (hlines : ∀ line ∈ lines, '\n' ∉ line) (hlast : '\n' ∉ last) :
    splitLines (closedLines lines ++ last) = lines ++ [last] := by
  rw [splitLines_closedLines last hlines, splitLines_of_not_mem hlast]

theorem exists_eq_closedLines (text : List Char) :
    ∃ lines, text ++ ['\n'] = closedLines lines ∧ ∀ line ∈ lines, '\n' ∉ line := by
  obtain ⟨lines, last, hsplit⟩ := exists_splitLines_append text
  obtain ⟨htext, hlines, hlast⟩ := eq_closedLines_append text lines last hsplit
  refine ⟨lines ++ [last], by rw [htext, closedLines_append]; simp [closedLines], ?_⟩
  intro line hline
  rcases List.mem_append.mp hline with hline | hline
  · exact hlines line hline
  · rwa [List.mem_singleton.mp hline]

/-- A line of a text and what surrounds it: whole lines before it, and behind it a newline
or nothing. -/
theorem exists_eq_append_of_splitLines {text line : List Char} {ls ls' : List (List Char)}
    (h : splitLines text = ls ++ line :: ls') :
    ∃ rest, text = closedLines ls ++ (line ++ rest) ∧ ∀ c ∈ rest.head?, c = '\n' := by
  rcases List.eq_nil_or_concat ls' with rfl | ⟨init, last, rfl⟩
  · exact ⟨[], by rw [List.append_nil]; exact (eq_closedLines_append _ _ _ h).1, by simp⟩
  · rw [List.concat_eq_append, ← List.cons_append, ← List.append_assoc] at h
    refine ⟨'\n' :: (closedLines init ++ last), ?_, by simp⟩
    rw [(eq_closedLines_append _ _ _ h).1]
    simp [closedLines]

/-- **A cut of a line is a cut of the text**, and what is inserted there, if it
has no newline, is inserted on the line. -/
theorem exists_cut_of_splitLines {text u v : List Char} {ls ls' : List (List Char)}
    (h : splitLines text = ls ++ (u ++ v) :: ls') :
    ∃ rest, text = (closedLines ls ++ u) ++ (v ++ rest) ∧
      ∀ ins : List Char, '\n' ∉ ins →
        splitLines ((closedLines ls ++ u) ++ (ins ++ (v ++ rest))) =
          ls ++ (u ++ (ins ++ v)) :: ls' := by
  obtain ⟨rest, hrest, -⟩ := exists_eq_append_of_splitLines h
  have htext : text = (closedLines ls ++ u) ++ (v ++ rest) := by simpa using hrest
  have hnot : ∀ line ∈ ls ++ (u ++ v) :: ls', '\n' ∉ line :=
    fun line hline => not_mem_of_mem_splitLines (h ▸ hline)
  have hline : '\n' ∉ u ++ v := hnot _ (by simp)
  have hbefore : splitLines (closedLines ls ++ u) = ls ++ [u] :=
    splitLines_closedLines_append (fun line hl => hnot line (List.mem_append_left _ hl))
      fun hu => hline (List.mem_append_left _ hu)
  obtain ⟨line, others, hafter⟩ := exists_splitLines_cons (v ++ rest)
  have hall := splitLines_append hafter _ _ _ hbefore
  rw [← htext, h] at hall
  obtain ⟨hv, rfl⟩ := List.cons.inj (List.append_cancel_left hall)
  obtain rfl := List.append_cancel_left hv
  refine ⟨rest, htext, fun ins hins => ?_⟩
  have hinserted : splitLines (ins ++ (v ++ rest)) = (ins ++ v) :: ls' :=
    splitLines_append hafter ins [] ins (splitLines_of_not_mem hins)
  exact splitLines_append hinserted _ _ _ hbefore

theorem newlineCount_closedLines {lines : List (List Char)} (h : ∀ line ∈ lines, '\n' ∉ line) :
    newlineCount (closedLines lines) = lines.length := by
  induction lines with
  | nil => rfl
  | cons line lines ih =>
    obtain ⟨hline, hlines⟩ := List.forall_mem_cons.mp h
    rw [closedLines_cons, newlineCount, List.count_append, List.count_cons_self,
      List.count_eq_zero_of_not_mem hline, List.length_cons]
    have := ih hlines
    rw [newlineCount] at this
    omega

theorem length_splitLines (text : List Char) :
    (splitLines text).length = newlineCount text + 1 := by
  obtain ⟨lines, last, hsplit⟩ := exists_splitLines_append text
  obtain ⟨htext, hlines, hlast⟩ := eq_closedLines_append text lines last hsplit
  have hcount := newlineCount_closedLines hlines
  rw [newlineCount] at hcount
  rw [hsplit, htext, newlineCount, List.count_append, List.count_eq_zero_of_not_mem hlast, hcount]
  simp

end StyleCheck.Text

namespace StyleCheck.Document

open Text

/-! ### Positions -/

theorem length_column {closed last : List Char} (h : '\n' ∉ last) :
    ((closed ++ last).reverse.takeWhile (· ≠ '\n')).length =
      last.length + (closed.reverse.takeWhile (· ≠ '\n')).length := by
  rw [List.reverse_append, List.takeWhile_append_of_pos, List.length_append, List.length_reverse]
  intro c hc
  have hne : c ≠ '\n' := fun heq => h (heq ▸ List.mem_reverse.mp hc)
  simpa using hne

theorem length_column_closedLines (lines : List (List Char)) :
    ((closedLines lines).reverse.takeWhile (· ≠ '\n')).length = 0 := by
  rcases List.eq_nil_or_concat lines with rfl | ⟨init, line, rfl⟩
  · rfl
  · simp [closedLines]

/-- The position of an offset: the whole lines before it, and the length of the
line begun. -/
theorem positionAt_eq (d : Document) {offset : Nat} {lines : List (List Char)} {last : List Char}
    (h : splitLines (d.text.take offset) = lines ++ [last]) :
    d.positionAt offset = ⟨lines.length, last.length⟩ := by
  obtain ⟨htext, hlines, hlast⟩ := eq_closedLines_append _ _ _ h
  unfold positionAt
  simp only [Int.toNat_natCast]
  rw [htext, length_column hlast, length_column_closedLines]
  have hcount : newlineCount (closedLines lines ++ last) = lines.length := by
    have := newlineCount_closedLines hlines
    rw [newlineCount] at this ⊢
    rw [List.count_append, List.count_eq_zero_of_not_mem hlast, this, Nat.add_zero]
  rw [hcount, Nat.add_zero]

theorem offsetFrom_append (position : Position) (rest : List (List Char)) :
    ∀ (lines : List (List Char)) (offset line : Nat),
      (line : Int) + lines.length ≤ position.line →
      offsetFrom position offset line (lines ++ rest) =
        offsetFrom position (offset + (closedLines lines).length) (line + lines.length) rest
  | [], offset, line, _ => rfl
  | text :: lines, offset, line, h => by
    simp only [List.length_cons, Int.natCast_add, Int.natCast_one] at h
    rw [List.cons_append, offsetFrom, if_neg (by omega),
      offsetFrom_append position rest lines _ _ (by omega), closedLines_cons, List.length_append,
      List.length_cons, List.length_cons]
    congr 1 <;> omega

/-- The position of a place on a line: the lines before it, and what stands
before it on the line. -/
theorem positionAt_of_line (d : Document) {ls ls' : List (List Char)} {before after : List Char}
    (h : splitLines d.text = ls ++ (before ++ after) :: ls') :
    d.positionAt ((closedLines ls).length + before.length : Nat) = ⟨ls.length, before.length⟩ := by
  obtain ⟨rest, htext, -⟩ := exists_cut_of_splitLines h
  have hnot : ∀ line ∈ ls ++ (before ++ after) :: ls', '\n' ∉ line :=
    fun line hline => not_mem_of_mem_splitLines (h ▸ hline)
  have hbefore : '\n' ∉ before :=
    fun hmem => hnot _ (by simp) (List.mem_append_left after hmem)
  have htake : d.text.take ((closedLines ls).length + before.length) = closedLines ls ++ before := by
    rw [htext, List.take_left' (by simp)]
  refine positionAt_eq d ?_
  rw [htake]
  exact splitLines_closedLines_append (fun line hline => hnot line (List.mem_append_left _ hline))
    hbefore

theorem offsetAt_of_line (d : Document) {p : Position} {ls ls' : List (List Char)}
    {line : List Char} (h : splitLines d.text = ls ++ line :: ls') (hline : p.line = ls.length) :
    d.offsetAt p = (closedLines ls).length + min p.character line.length := by
  rw [offsetAt, h, offsetFrom_append _ _ _ _ _ (by omega), offsetFrom, if_pos (by omega)]
  simp only [Option.getD_some]
  omega

theorem exists_line_of_offset (d : Document) {offset : Nat} (h : offset ≤ d.text.length) :
    ∃ ls before after ls', splitLines d.text = ls ++ (before ++ after) :: ls' ∧
      offset = (closedLines ls).length + before.length := by
  obtain ⟨ls, before, hbefore⟩ := exists_splitLines_append (d.text.take offset)
  obtain ⟨after, ls', hafter⟩ := exists_splitLines_cons (d.text.drop offset)
  have hall := splitLines_append hafter _ _ _ hbefore
  rw [List.take_append_drop] at hall
  obtain ⟨htext, -, -⟩ := eq_closedLines_append _ _ _ hbefore
  refine ⟨ls, before, after, ls', hall, ?_⟩
  rw [← List.length_append, ← htext, List.length_take, Nat.min_eq_left h]

/-- **The position of an offset leads back to the offset.** -/
theorem offsetAt_positionAt (d : Document) {offset : Nat} (h : offset ≤ d.text.length) :
    d.offsetAt (d.positionAt offset) = offset := by
  obtain ⟨ls, before, after, ls', hsplit, rfl⟩ := d.exists_line_of_offset h
  rw [d.positionAt_of_line hsplit, d.offsetAt_of_line hsplit rfl, List.length_append]
  simp only
  omega

theorem positionAt_add (d : Document) {before between after : List Char}
    (htext : d.text = before ++ (between ++ after)) (h : '\n' ∉ between) :
    d.positionAt ((before.length + between.length : Nat) : Int) =
      (d.positionAt before.length).shift 0 between.length := by
  have htake : d.text.take before.length = before := by rw [htext, List.take_left' rfl]
  have htake' : d.text.take (before.length + between.length) = before ++ between := by
    rw [htext, ← List.append_assoc, List.take_left' (by simp)]
  unfold positionAt
  simp only [Int.toNat_natCast, htake, htake', newlineCount, Position.shift]
  rw [length_column h, List.count_append, List.count_eq_zero_of_not_mem h]
  simp only [Nat.add_zero, Position.mk.injEq]
  omega

theorem textIn_between (d : Document) {before between after : List Char}
    (htext : d.text = before ++ (between ++ after)) :
    d.textIn ⟨d.positionAt before.length, d.positionAt ((before.length + between.length : Nat) : Int)⟩ =
      between := by
  have hlen : d.text.length = before.length + (between.length + after.length) := by
    rw [htext]; simp
  unfold textIn
  rw [offsetAt_positionAt d (by omega), offsetAt_positionAt d (by omega)]
  unfold sliceBetween
  simp only [Int.toNat_natCast]
  rw [if_neg (by omega), if_neg (by omega), Nat.min_eq_left (by omega), Nat.min_eq_left (by omega),
    htext, ← List.append_assoc, List.take_left' (by simp), List.drop_left' rfl]

end StyleCheck.Document
