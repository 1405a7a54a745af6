/-
# Texts one behind the other

A text that ends with the end of a line, outside every block comment, can be
looked at by itself, whatever follows it: its tokens are the same in front of
any other text (`tokens_append`). A literal that it opens and does not close is
given up at that newline at the latest, unless a backslash stands in front of
it and hides it; a comment to the end of the line ends there; and no mark of
two characters lies across the place.

So masking goes along with putting texts together, and if the first one closes
as many braces as it opens, so do the findings about global variables: those of
the second are the ones it has by itself, further on by the length of the first
(`mask_and_globalFindings_append`).

Key definitions: `EndsLine`, `EndsInComment`.
Key theorems: `literalBody?_append`, `firstToken_append_of`, `tokens_append`,
`exists_mask_eq_closedLines`, `globalFindings_append`,
`mask_and_globalFindings_append`.
-/
import StyleCheck.Proofs.Findings
import StyleCheck.Proofs.MaskedLines
import StyleCheck.Proofs.MaskedText

namespace StyleCheck

open Text

namespace Source

/-- The text is empty, or ends with a newline behind no backslash. -/
def EndsLine (text : List Char) : Prop :=
  text = [] ∨ ∃ before, text = before ++ ['\n'] ∧ before.getLast? ≠ some '\\'

/-- The text ends inside a block comment: the last of its tokens is one, and
lacks the closing mark. -/
def EndsInComment (text : List Char) : Prop :=
  ∃ body, (tokens text).getLast? = some (.blockComment body) ∧ ¬ ['*', '/'] <:+ body

namespace EndsLine

variable {text u v : List Char}

theorem of_append (h : EndsLine (u ++ v)) : EndsLine v := by
  rcases List.eq_nil_or_concat v with rfl | ⟨init, last, rfl⟩
  · exact Or.inl rfl
  · rw [List.concat_eq_append] at h ⊢
    rcases h with h | ⟨before, h, hescape⟩
    · simp at h
    · rw [← List.append_assoc] at h
      obtain ⟨rfl, hlast⟩ := List.append_inj' h rfl
      refine Or.inr ⟨init, by rw [hlast], fun hinit => hescape ?_⟩
      rw [List.getLast?_append, hinit]
      rfl

theorem newline_mem (h : EndsLine text) (hne : text ≠ []) : '\n' ∈ text := by
  rcases h with h | ⟨before, rfl, -⟩
  · exact absurd h hne
  · simp

theorem tail_ne_nil {c : Char} (h : EndsLine (c :: text)) (hc : c ≠ '\n') : text ≠ [] := by
  rintro rfl
  have hmem := h.newline_mem (List.cons_ne_nil c [])
  exact hc (List.mem_singleton.mp hmem).symm

/-- Behind an escape the text goes on, since the escape is not at its end. -/
theorem tail_ne_nil_of_escape {c : Char} (h : EndsLine ('\\' :: c :: text)) : text ≠ [] := by
  rintro rfl
  rcases h with h | ⟨before, h, hescape⟩
  · exact absurd h (List.cons_ne_nil _ _)
  · have hsplit : ['\\'] ++ [c] = before ++ ['\n'] := h
    obtain ⟨rfl, -⟩ := List.append_inj' hsplit rfl
    exact hescape rfl

end EndsLine

/-! ### Tokens -/

/-- A literal closes in a whole number of lines, or not at all. -/
theorem literalBody?_append {cs : List Char} (b : List Char) (h : EndsLine cs) (hne : cs ≠ []) :
    literalBody? (cs ++ b) = (literalBody? cs).map fun r => (r.1, r.2 ++ b) := by
  fun_induction literalBody? cs with
  | case1 => exact absurd rfl hne
  | case2 cs => simp [literalBody?]
  | case3 cs => simp [literalBody?]
  | case4 => exact absurd rfl (h.tail_ne_nil (by decide))
  | case5 c cs ih =>
    have hcs : EndsLine cs := h.of_append (u := ['\\', c])
    rw [List.cons_append, List.cons_append, literalBody?, ih hcs h.tail_ne_nil_of_escape,
      Option.map_map, Option.map_map]
    rfl
  | case6 c cs hquote hline hlast hescape ih =>
    have hcs : EndsLine cs := h.of_append (u := [c])
    have hnext : cs ≠ [] := h.tail_ne_nil hline
    have hc : c ≠ '\\' := by
      rintro rfl
      obtain ⟨d, cs, rfl⟩ := List.exists_cons_of_ne_nil hnext
      exact hescape d cs rfl rfl
    rw [List.cons_append, literalBody?, ih hcs hnext, Option.map_map, Option.map_map]
    · rfl
    · exact hquote
    · exact hline
    · exact fun heq _ => hc heq
    · exact fun _ _ heq _ => hc heq

theorem blockBody_closed_or_end (cs : List Char) :
    ['*', '/'] <:+ (blockBody cs).1 ∨ (blockBody cs).2 = [] := by
  fun_induction blockBody cs with
  | case1 => exact Or.inr rfl
  | case2 cs => exact Or.inl List.suffix_rfl
  | case3 c cs _ ih => exact ih.imp_left fun h => h.trans (List.suffix_cons c _)

theorem blockBody_append_of_closed {cs : List Char} (b : List Char)
    (h : ['*', '/'] <:+ (blockBody cs).1) :
    blockBody (cs ++ b) = ((blockBody cs).1, (blockBody cs).2 ++ b) := by
  fun_induction blockBody cs with
  | case1 => simp at h
  | case2 cs => rfl
  | case3 c cs hclose ih =>
    have hcs : cs ≠ [] := by
      rintro rfl
      have hle := h.length_le
      simp [blockBody] at hle
    obtain ⟨d, cs, rfl⟩ := List.exists_cons_of_ne_nil hcs
    have hinner : ['*', '/'] <:+ (blockBody (d :: cs)).1 := by
      rcases List.suffix_cons_iff.mp h with heq | h
      · -- the body would be the closing mark itself
        obtain ⟨rfl, hbody⟩ := List.cons.inj heq
        have hwhole := blockBody_append (d :: cs)
        rw [← hbody] at hwhole
        obtain rfl : '/' = d := (List.cons.inj hwhole).1
        exact (hclose cs rfl rfl).elim
      · exact h
    rw [List.cons_append, blockBody, ih hinner]
    intro rest hc hrest
    obtain ⟨rfl, -⟩ := List.cons.inj hrest
    exact hclose _ hc rfl

/-- The first token is the same in front of any text, if it is no block comment
that is still open. -/
theorem firstToken_append_of {c : Char} {cs : List Char} (b : List Char) (h : EndsLine (c :: cs))
    (hclosed : ∀ body, (firstToken c cs).1 = .blockComment body → ['*', '/'] <:+ body) :
    firstToken c (cs ++ b) = ((firstToken c cs).1, (firstToken c cs).2 ++ b) := by
  fun_cases firstToken c cs with
  | case1 cs body rest hliteral =>
    have hread := literalBody?_append b (h.of_append (u := ['"'])) (h.tail_ne_nil (by decide))
    rw [firstToken, hread, hliteral]
    rfl
  | case2 cs hliteral =>
    have hread := literalBody?_append b (h.of_append (u := ['"'])) (h.tail_ne_nil (by decide))
    rw [firstToken, hread, hliteral]
    rfl
  | case3 cs =>
    have hcs : EndsLine cs := h.of_append (u := ['/', '/'])
    have hne : cs ≠ [] := (h.of_append (u := ['/'])).tail_ne_nil (by decide)
    have hline : ∃ d ∈ cs, decide (d ≠ '\n') = false := ⟨'\n', hcs.newline_mem hne, by decide⟩
    rw [List.cons_append, firstToken, takeWhile_append_of_mem b hline,
      dropWhile_append_of_mem b hline]
  | case4 cs =>
    rw [List.cons_append, firstToken, blockBody_append_of_closed b (hclosed _ rfl)]
  | case5 c cs hquote hline hblock =>
    have hhead : ∀ d rest, c = '/' → cs ++ b = d :: rest → ∃ rest', cs = d :: rest' := by
      rintro d rest rfl heq
      obtain ⟨e, cs, rfl⟩ := List.exists_cons_of_ne_nil (h.tail_ne_nil (by decide))
      exact ⟨cs, by rw [(List.cons.inj heq).1]⟩
    rw [firstToken]
    · exact hquote
    · intro rest hc heq
      obtain ⟨rest', rfl⟩ := hhead '/' rest hc heq
      exact hline rest' hc rfl
    · intro rest hc heq
      obtain ⟨rest', rfl⟩ := hhead '*' rest hc heq
      exact hblock rest' hc rfl

theorem firstToken_closed_or_end {c : Char} {cs body : List Char}
    (h : (firstToken c cs).1 = .blockComment body) :
    ['*', '/'] <:+ body ∨ (firstToken c cs).2 = [] := by
  fun_cases firstToken c cs with
  | case4 cs =>
    obtain rfl : (blockBody cs).1 = body := by simpa [firstToken] using h
    exact blockBody_closed_or_end cs
  | _ => simp_all [firstToken]

/-- **The tokens of two texts** one behind the other, where the first ends with
the end of a line outside every block comment. -/
theorem tokens_append {a : List Char} (b : List Char) (hline : EndsLine a)
    (hcomment : ¬ EndsInComment a) : tokens (a ++ b) = tokens a ++ tokens b := by
  fun_induction tokens a with
  | case1 => rfl
  | case2 c cs ih =>
    have hrest : EndsLine (firstToken c cs).2 := by
      rw [← firstToken_append c cs] at hline
      exact hline.of_append
    have hlast : (tokens (c :: cs)).getLast? =
        some ((tokens (firstToken c cs).2).getLast?.getD (firstToken c cs).1) := by
      rw [tokens_cons, List.getLast?_cons]
    have hclosed : ∀ body, (firstToken c cs).1 = .blockComment body → ['*', '/'] <:+ body := by
      intro body hbody
      rcases firstToken_closed_or_end hbody with h | hend
      · exact h
      · by_contra hopen
        refine hcomment ⟨body, ?_, hopen⟩
        rw [hlast, hend, tokens, hbody]
        rfl
    have hcomment' : ¬ EndsInComment (firstToken c cs).2 := by
      rintro ⟨body, hbody, hopen⟩
      refine hcomment ⟨body, ?_, hopen⟩
      rw [hlast, hbody]
      rfl
    rw [List.cons_append, tokens_cons, firstToken_append_of b hline hclosed, ih hrest hcomment']
    rfl

/-- **Masking goes along with putting texts together.** -/
theorem mask_append {a : List Char} (b : List Char) (hline : EndsLine a)
    (hcomment : ¬ EndsInComment a) : mask (a ++ b) = mask a ++ mask b := by
  rw [mask_eq_flatMap, tokens_append b hline hcomment, List.flatMap_append, ← mask_eq_flatMap,
    ← mask_eq_flatMap]

/-- The newline at the end of a line is in no literal, which ends with a quote. -/
theorem not_literalAt_end (before : List Char) :
    ¬ LiteralAt (tokens (before ++ ['\n'])) before.length := by
  rintro ⟨ts, body, ts', hsplit, -, hlt⟩
  have htext := flatMap_text_tokens (before ++ ['\n'])
  rw [hsplit, List.flatMap_append, List.flatMap_cons] at htext
  have hlength := congrArg List.length htext
  simp only [List.length_append, List.length_singleton] at hlength
  have hnil : ts'.flatMap Token.text = [] := List.length_eq_zero_iff.mp (by omega)
  have hlast := congrArg List.getLast? htext
  rw [hnil, List.append_nil, Token.text, ← List.cons_append, ← List.append_assoc,
    List.getLast?_concat, List.getLast?_concat] at hlast
  exact absurd hlast (by decide)

/-- The masked text of whole lines is made of whole lines. -/
theorem exists_mask_eq_closedLines {a : List Char} (hline : EndsLine a) :
    ∃ lines, mask a = closedLines lines ∧ ∀ line ∈ lines, '\n' ∉ line := by
  rcases hline with rfl | ⟨before, rfl, -⟩
  · exact ⟨[], by simp [mask, maskFrom, closedLines], by simp⟩
  · have hnewline : (mask (before ++ ['\n']))[before.length]? = some '\n' :=
      (newline_mask_iff _ _).mpr ⟨by simp, not_literalAt_end before⟩
    have hlast : (mask (before ++ ['\n'])).getLast? = some '\n' := by
      rw [List.getLast?_eq_getElem?, length_mask, List.length_append]
      exact hnewline
    obtain ⟨shown, hshown⟩ := List.getLast?_eq_some_iff.mp hlast
    rw [hshown]
    exact exists_eq_closedLines shown

end Source

open Source

/-! ### Findings -/

/-- The findings about global variables of whole lines that close their braces,
and of any text behind them. -/
theorem globalFindings_append {lines : List (List Char)} (text : List Char)
    (hlines : ∀ line ∈ lines, '\n' ∉ line) (hbalance : braceBalance (closedLines lines) = 0) :
    globalFindings (closedLines lines ++ text) =
      globalFindings (closedLines lines) ++
        (globalFindings text).map (.movedBy (closedLines lines).length) := by
  have hempty : ∀ (offset index : Nat) (depth : Int),
      globalFindingsFrom offset (lineDepthsFrom index depth [[]]) = [] := by
    intro offset index depth
    simp [lineDepthsFrom, globalFindingsFrom, globalFindingsOn, declarations, scan, scanFrom]
  have halone : splitLines (closedLines lines) = lines ++ [[]] :=
    (congrArg splitLines (List.append_nil _)).symm.trans (splitLines_closedLines [] hlines)
  unfold globalFindings lineDepths
  rw [splitLines_closedLines text hlines, halone, globalFindingsFrom_append,
    globalFindingsFrom_append, hempty, List.append_nil, hbalance, Int.zero_add,
    globalFindingsFrom_movedBy _ _ _ _ 0]

/-- **Texts put together.** The first text is empty or ends with a newline that
no backslash stands in front of, outside every block comment. Then the masked
text is that of the first followed by that of the second. And if as many braces
are closed as opened in the first, the findings about global variables are
those of the first followed by those of the second, whose offsets have grown by
the length of the first. -/
theorem mask_and_globalFindings_append (a b : List Char) (hline : EndsLine a)
    (hcomment : ¬ EndsInComment a) :
    mask (a ++ b) = mask a ++ mask b ∧
    ((mask a).count openBrace = (mask a).count closeBrace →
      globalFindings (mask (a ++ b)) =
        globalFindings (mask a) ++ (globalFindings (mask b)).map (.movedBy a.length)) := by
  refine ⟨mask_append b hline hcomment, fun hcount => ?_⟩
  obtain ⟨lines, hmask, hlines⟩ := exists_mask_eq_closedLines hline
  have hbalance : braceBalance (closedLines lines) = 0 := by
    rw [← hmask]
    unfold braceBalance
    omega
  rw [mask_append b hline hcomment, ← length_mask a, hmask]
  exact globalFindings_append (mask b) hlines hbalance

/-- A quote that opens no literal, and a comment with a brace and another quote. -/
def linesWithLoneQuote : List Char :=
  "int a; \"\n/* \x7b \" */\n".toList

/-- A quote that would close the literal of an earlier one. -/
def lineWithQuote : List Char :=
  "int b; \"\n".toList

/-- The quotes of the two texts do not pair, and both variables are found. -/
theorem mask_and_globalFindings_append_lone_quote :
    EndsLine linesWithLoneQuote ∧ ¬ EndsInComment linesWithLoneQuote ∧
    (mask linesWithLoneQuote).count openBrace = (mask linesWithLoneQuote).count closeBrace ∧
    mask (linesWithLoneQuote ++ lineWithQuote) = mask linesWithLoneQuote ++ mask lineWithQuote ∧
    globalFindings (mask (linesWithLoneQuote ++ lineWithQuote)) =
      [globalFinding 4 ['a'], globalFinding 23 ['b']] := by
  have hline : EndsLine linesWithLoneQuote :=
    Or.inr ⟨"int a; \"\n/* \x7b \" */".toList, by decide, by decide⟩
  have hcomment : ¬ EndsInComment linesWithLoneQuote := by
    have hlast : (tokens linesWithLoneQuote).getLast? = some (.code '\n') := by decide +kernel
    rintro ⟨body, hbody, -⟩
    rw [hlast] at hbody
    exact Token.noConfusion (Option.some.inj hbody)
  have hcount : (mask linesWithLoneQuote).count openBrace =
      (mask linesWithLoneQuote).count closeBrace := by decide
  obtain ⟨hmask, hfindings⟩ :=
    mask_and_globalFindings_append linesWithLoneQuote lineWithQuote hline hcomment
  exact ⟨hline, hcomment, hcount, hmask, (hfindings hcount).trans rfl⟩

end StyleCheck
