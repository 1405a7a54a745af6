/-
# What masking leaves in place

Masking goes through a text in steps of one or two characters (`MaskStep`):
each step reads some characters, shows as many in their place and leaves the
next state. A step depends on the text behind it only where a quote or half of
a comment mark is read, so what it does is the same after word characters have
been inserted further on (`MaskStep.insert`).

Three facts about words follow by induction on the steps. A word character
that shows is the source's own and stands in code. A whole word of the masked
text is a whole word of the source (`WholeWord.of_mask`): nothing that is
hidden next to it is a word character. And word characters inserted in front of
a word that shows show as well, and change nothing else (`mask_insert`).

Key definitions: `MaskStep`.
Key theorems: `maskStep_induction`, `WholeWord.of_mask`, `mask_insert`.
-/
import StyleCheck.Proofs.Words
import StyleCheck.Source.Mask

namespace StyleCheck.Source

open Text

theorem commentBlank_ne {c w : Char} (hw : isWord w = true) : commentBlank c ≠ w := by
  unfold commentBlank
  split
  · exact (ne_of_isWord hw (by decide)).symm
  · exact (ne_of_isWord hw (by decide)).symm

/-! ### The steps of masking -/

/-- In the given state, `read` at the head of a text is shown as `shown`, and
masking goes on with `rest` in the last state. -/
inductive MaskStep : MaskState → (read shown rest : List Char) → MaskState → Prop where
  | quote {rest} : MaskStep .code ['"'] ['"'] rest (if closesString rest then .string else .code)
  | openLine {rest} : MaskStep .code ['/', '/'] [' ', ' '] rest .lineComment
  | openBlock {rest} : MaskStep .code ['/', '*'] [' ', ' '] rest .blockComment
  | code {c rest} (hquote : c ≠ '"')
      (hopen : c = '/' → rest.head? ≠ some '/' ∧ rest.head? ≠ some '*') :
      MaskStep .code [c] [c] rest .code
  | closeString {rest} : MaskStep .string ['"'] ['"'] rest .code
  | escape {c rest} : MaskStep .string ['\\', c] [' ', ' '] rest .string
  | body {c rest} (hquote : c ≠ '"') (hescape : c = '\\' → rest = []) :
      MaskStep .string [c] [' '] rest .string
  | closeLine {rest} : MaskStep .lineComment ['\n'] ['\n'] rest .code
  | line {c rest} (hline : c ≠ '\n') : MaskStep .lineComment [c] [' '] rest .lineComment
  | closeBlock {rest} : MaskStep .blockComment ['*', '/'] [' ', ' '] rest .code
  | block {c rest} (hclose : c = '*' → rest.head? ≠ some '/') :
      MaskStep .blockComment [c] [commentBlank c] rest .blockComment

theorem maskFrom_of_step {s s' : MaskState} {read shown rest : List Char}
    (h : MaskStep s read shown rest s') :
    maskFrom s (read ++ rest) = shown ++ maskFrom s' rest := by
  cases h with
  | code hquote hopen =>
    simp only [List.cons_append, List.nil_append]
    rw [maskFrom]
    · exact hquote
    · rintro cs rfl rfl
      exact (hopen rfl).1 rfl
    · rintro cs rfl rfl
      exact (hopen rfl).2 rfl
  | body hquote hescape =>
    simp only [List.cons_append, List.nil_append]
    rw [maskFrom]
    · exact hquote
    · rintro d cs rfl rfl
      exact absurd (hescape rfl) (by simp)
  | line hline =>
    simp only [List.cons_append, List.nil_append]
    rw [maskFrom]
    exact hline
  | block hclose =>
    simp only [List.cons_append, List.nil_append]
    rw [maskFrom]
    rintro cs rfl rfl
    exact hclose rfl rfl
  | _ => simp [maskFrom]

theorem exists_maskStep (s : MaskState) {text : List Char} (hne : text ≠ []) :
    ∃ read shown rest s', text = read ++ rest ∧ MaskStep s read shown rest s' := by
  fun_cases maskFrom s text with
  | case1 => exact absurd rfl hne
  | case2 cs => exact ⟨_, _, cs, _, rfl, .quote⟩
  | case3 cs => exact ⟨_, _, cs, _, rfl, .openLine⟩
  | case4 cs => exact ⟨_, _, cs, _, rfl, .openBlock⟩
  | case5 c cs h1 h2 h3 =>
    refine ⟨[c], [c], cs, .code, rfl, .code h1 fun hc => ⟨fun h => ?_, fun h => ?_⟩⟩
    · obtain ⟨rest, rfl⟩ := List.head?_eq_some_iff.mp h
      exact h2 rest hc rfl
    · obtain ⟨rest, rfl⟩ := List.head?_eq_some_iff.mp h
      exact h3 rest hc rfl
  | case6 cs => exact ⟨_, _, cs, _, rfl, .closeString⟩
  | case7 c cs => exact ⟨['\\', c], _, cs, _, rfl, .escape⟩
  | case8 c cs h1 h2 =>
    refine ⟨[c], _, cs, _, rfl, .body h1 fun hc => ?_⟩
    cases cs with
    | nil => rfl
    | cons d cs => exact (h2 d cs hc rfl).elim
  | case9 cs => exact ⟨_, _, cs, _, rfl, .closeLine⟩
  | case10 c cs h1 => exact ⟨[c], _, cs, _, rfl, .line h1⟩
  | case11 cs => exact ⟨_, _, cs, _, rfl, .closeBlock⟩
  | case12 c cs h1 =>
    refine ⟨[c], _, cs, _, rfl, .block fun hc h => ?_⟩
    obtain ⟨rest, rfl⟩ := List.head?_eq_some_iff.mp h
    exact h1 rest hc rfl

namespace MaskStep

variable {s s' : MaskState} {read shown rest : List Char}

theorem read_ne_nil (h : MaskStep s read shown rest s') : read ≠ [] := by
  cases h <;> simp

theorem length_shown (h : MaskStep s read shown rest s') : shown.length = read.length := by
  cases h <;> rfl

/-- A word character shows only as itself, in code. -/
theorem eq_of_shown (h : MaskStep s read shown rest s') {i : Nat} {w : Char}
    (hw : isWord w = true) (hi : shown[i]? = some w) :
    i = 0 ∧ s = .code ∧ read = [w] ∧ s' = .code := by
  have hmem := List.mem_of_getElem? hi
  cases h with
  | code _ _ =>
    obtain ⟨hlt, rfl⟩ := List.getElem?_eq_some_iff.mp hi
    have hzero : i = 0 := by simpa using hlt
    subst hzero
    exact ⟨rfl, rfl, rfl, rfl⟩
  | block _ => exact absurd (List.mem_singleton.mp hmem).symm (commentBlank_ne hw)
  | _ =>
    simp only [List.mem_cons, List.not_mem_nil, or_false, or_self] at hmem
    subst hmem
    exact absurd hw (by decide)

theorem getElem?_read (h : MaskStep s read shown rest s') {i : Nat} {c : Char}
    (hi : shown[i]? = some c) (hc : c ≠ ' ') : read[i]? = some c := by
  cases h with
  | openLine | openBlock | escape | body | line | closeBlock =>
    have hmem := List.mem_of_getElem? hi
    simp only [List.mem_cons, List.not_mem_nil, or_false, or_self] at hmem
    exact absurd hmem hc
  | @block d _ _ =>
    by_cases hd : d = '\n'
    · rwa [commentBlank, if_pos hd, ← hd] at hi
    · rw [commentBlank, if_neg hd] at hi
      exact absurd (List.mem_singleton.mp (List.mem_of_getElem? hi)) hc
  | _ => exact hi

theorem shown_eq (h : MaskStep s read shown rest .code) {c : Char}
    (hc : isWord c = true) (hlast : read.getLast? = some c) : shown = read := by
  generalize hs' : MaskState.code = s' at h
  cases h with
  | closeBlock => exact absurd hc (by rw [← Option.some.inj hlast]; decide)
  | quote => rfl
  | code _ _ => rfl
  | closeString => rfl
  | closeLine => rfl
  | _ => exact MaskState.noConfusion hs'

end MaskStep

/-- What holds of the empty text, and of a text if it holds behind its first
step, holds of every text. -/
@[elab_as_elim]
theorem maskStep_induction {motive : MaskState → List Char → Prop} (nil : ∀ s, motive s [])
    (step : ∀ {s read shown rest s'}, MaskStep s read shown rest s' → motive s' rest →
      motive s (read ++ rest)) (s : MaskState) (text : List Char) : motive s text := by
  induction hn : text.length using Nat.strongRecOn generalizing s text with
  | ind n ih =>
    by_cases hne : text = []
    · rw [hne]; exact nil s
    · obtain ⟨read, shown, rest, s', rfl, h⟩ := exists_maskStep s hne
      have hpos := List.length_pos_iff.mpr h.read_ne_nil
      rw [List.length_append] at hn
      exact step h (ih rest.length (by omega) s' rest rfl)

theorem eq_code_of_shown {s : MaskState} {w : Char} {post : List Char} (hw : isWord w = true)
    (hm : (maskFrom s (w :: post))[0]? = some w) : s = .code := by
  obtain ⟨read, shown, rest, s', heq, h⟩ := exists_maskStep s (List.cons_ne_nil w post)
  have hpos : 0 < shown.length := by
    rw [h.length_shown]
    exact List.length_pos_iff.mpr h.read_ne_nil
  rw [heq, maskFrom_of_step h, List.getElem?_append_left hpos] at hm
  exact (h.eq_of_shown hw hm).2.1

theorem read_or_behind {read rest pre post : List Char} {c : Char}
    (h : read ++ rest = pre ++ c :: post) :
    (∃ m, pre = read ++ m ∧ rest = m ++ c :: post) ∨ ∃ m, read = pre ++ c :: m ∧ post = m ++ rest := by
  rcases List.append_eq_append_iff.mp h with ⟨m, hpre, hrest⟩ | ⟨m, hread, hpost⟩
  · exact Or.inl ⟨m, hpre, hrest⟩
  · rcases m with _ | ⟨d, m⟩
    · exact Or.inl ⟨[], by simpa using hread.symm, by simpa using hpost.symm⟩
    · obtain ⟨rfl, rfl⟩ := List.cons.inj hpost
      exact Or.inr ⟨m, hread, rfl⟩

/-! ### Inserted word characters -/

section Insertion

variable {ins : List Char} {w : Char} {post : List Char}

theorem closesString_skip {c : Char} (cs : List Char) (h1 : c ≠ '"') (h2 : c ≠ '\n')
    (h3 : c ≠ '\\') : closesString (c :: cs) = closesString cs := by
  rw [closesString]
  · exact h1
  · exact h2
  · exact fun h _ => h3 h
  · exact fun _ _ h _ => h3 h

theorem closesString_word {c : Char} (cs : List Char) (hw : isWord c = true) :
    closesString (c :: cs) = closesString cs :=
  closesString_skip cs (ne_of_isWord hw (by decide)) (ne_of_isWord hw (by decide))
    (ne_of_isWord hw (by decide))

theorem closesString_append (cs : List Char) (hins : ∀ c ∈ ins, isWord c = true) :
    closesString (ins ++ cs) = closesString cs := by
  induction ins with
  | nil => rfl
  | cons c ins ih =>
    rw [List.cons_append, closesString_word _ (hins c List.mem_cons_self)]
    exact ih fun d hd => hins d (List.mem_cons_of_mem c hd)

/-- A literal closes or not whatever word is made longer in it. An escape in
front of the place takes the first inserted character in place of the word's
own, and both count for nothing. -/
theorem closesString_insert (hins : ∀ c ∈ ins, isWord c = true) (hw : isWord w = true)
    (pre : List Char) :
    closesString (pre ++ (ins ++ w :: post)) = closesString (pre ++ w :: post) := by
  fun_induction closesString pre with
  | case1 => exact closesString_append _ hins
  | case2 => simp [closesString]
  | case3 => simp [closesString]
  | case4 =>
    cases ins with
    | nil => rfl
    | cons c ins =>
      have hrest : closesString (ins ++ w :: post) = closesString (w :: post) :=
        closesString_append _ fun d hd => hins d (List.mem_cons_of_mem c hd)
      simp [closesString, hrest, closesString_word post hw]
  | case5 c cs ih => simpa [closesString] using ih
  | case6 c cs h1 h2 h3 h4 ih =>
    have hc : c ≠ '\\' := by
      rintro rfl
      cases cs with
      | nil => exact h3 rfl rfl
      | cons d cs => exact h4 d cs rfl rfl
    rw [List.cons_append, List.cons_append, closesString_skip _ h1 h2 hc,
      closesString_skip _ h1 h2 hc]
    exact ih

theorem head?_insert (hins : ∀ c ∈ ins, isWord c = true) {pre : List Char} {d : Char}
    (hd : isWord d = false) (h : (pre ++ (ins ++ w :: post)).head? = some d) :
    (pre ++ w :: post).head? = some d := by
  rcases pre with _ | ⟨c, pre⟩
  · rcases ins with _ | ⟨c, ins⟩
    · exact h
    · exact absurd (Option.some.inj h) (ne_of_isWord (hins c List.mem_cons_self) hd)
  · exact h

/-- A step stays the same when a word behind it is made longer. -/
theorem MaskStep.insert {s s' : MaskState} {read shown pre : List Char}
    (hins : ∀ c ∈ ins, isWord c = true) (hw : isWord w = true)
    (h : MaskStep s read shown (pre ++ w :: post) s') :
    MaskStep s read shown (pre ++ (ins ++ w :: post)) s' := by
  cases h with
  | quote =>
    rw [← closesString_insert hins hw pre]
    exact .quote
  | openLine => exact .openLine
  | openBlock => exact .openBlock
  | code hquote hopen =>
    refine .code hquote fun hc => ⟨fun h => ?_, fun h => ?_⟩
    · exact (hopen hc).1 (head?_insert hins (by decide) h)
    · exact (hopen hc).2 (head?_insert hins (by decide) h)
  | closeString => exact .closeString
  | escape => exact .escape
  | body hquote hescape => exact .body hquote fun hc => absurd (hescape hc) (by simp)
  | closeLine => exact .closeLine
  | line hline => exact .line hline
  | closeBlock => exact .closeBlock
  | block hclose =>
    exact .block fun hc h => hclose hc (head?_insert hins (by decide) h)

theorem maskFrom_word_append (cs : List Char) (hins : ∀ c ∈ ins, isWord c = true) :
    maskFrom .code (ins ++ cs) = ins ++ maskFrom .code cs := by
  induction ins with
  | nil => rfl
  | cons c ins ih =>
    have hc := hins c List.mem_cons_self
    have hstep : MaskStep .code [c] [c] (ins ++ cs) .code :=
      .code (ne_of_isWord hc (by decide)) fun h => absurd h (ne_of_isWord hc (by decide))
    rw [List.cons_append, List.cons_append, ← ih fun d hd => hins d (List.mem_cons_of_mem c hd)]
    exact maskFrom_of_step hstep

/-- Where a word character shows, the masked text can be cut: in front of it
stands what stood there before, whatever word characters are inserted at that
place, and behind it masking goes on in code. -/
theorem maskFrom_insert (hins : ∀ c ∈ ins, isWord c = true) (hw : isWord w = true)
    (s : MaskState) (text : List Char) : ∀ pre : List Char, text = pre ++ w :: post →
      (maskFrom s text)[pre.length]? = some w →
      maskFrom s (pre ++ (ins ++ w :: post)) =
        (maskFrom s text).take pre.length ++ (ins ++ w :: maskFrom .code post) := by
  induction s, text using maskStep_induction with
  | nil s => simp
  | @step s read shown rest s' h ih =>
    intro pre heq hm
    rw [maskFrom_of_step h] at hm ⊢
    rcases read_or_behind heq with ⟨m, rfl, rfl⟩ | ⟨m, hread, rfl⟩
    · rw [List.length_append, ← h.length_shown, List.getElem?_append_right (by omega),
        Nat.add_sub_cancel_left] at hm
      rw [List.append_assoc, maskFrom_of_step (h.insert hins hw), ih m rfl hm, List.length_append,
        ← h.length_shown, List.take_length_add_append, List.append_assoc]
    · -- the step reads the character itself, so it is a step in code
      have hlt : pre.length < shown.length := by rw [h.length_shown, hread]; simp
      rw [List.getElem?_append_left hlt] at hm
      obtain ⟨hzero, rfl, hone, rfl⟩ := h.eq_of_shown hw hm
      obtain rfl := List.length_eq_zero_iff.mp hzero
      have hword : ∀ c ∈ ins ++ [w], isWord c = true := by
        intro c hc
        rcases List.mem_append.mp hc with hc | hc
        · exact hins c hc
        · rwa [List.mem_singleton.mp hc]
      have hmask := maskFrom_word_append (m ++ rest) hword
      simpa using hmask

end Insertion

/-! ### Words of the masked text -/

theorem getElem?_of_maskFrom (s : MaskState) (text : List Char) : ∀ (i : Nat) (c : Char),
    (maskFrom s text)[i]? = some c → c ≠ ' ' → text[i]? = some c := by
  induction s, text using maskStep_induction with
  | nil s => simp [maskFrom]
  | @step s read shown rest s' h ih =>
    intro i c hi hc
    rw [maskFrom_of_step h] at hi
    rcases Nat.lt_or_ge i shown.length with hlt | hge
    · rw [List.getElem?_append_left hlt] at hi
      rw [List.getElem?_append_left (h.length_shown ▸ hlt)]
      exact h.getElem?_read hi hc
    · rw [List.getElem?_append_right hge] at hi
      rw [List.getElem?_append_right (h.length_shown ▸ hge), ← h.length_shown]
      exact ih _ c hi hc

theorem shown_before_word {c w : Char} (hc : isWord c = true) (hw : isWord w = true)
    (s : MaskState) (text : List Char) : ∀ pre post : List Char, text = pre ++ c :: w :: post →
      (maskFrom s text)[pre.length + 1]? = some w → (maskFrom s text)[pre.length]? = some c := by
  induction s, text using maskStep_induction with
  | nil s => simp
  | @step s read shown rest s' h ih =>
    intro pre post heq hm
    rw [maskFrom_of_step h] at hm ⊢
    rcases read_or_behind heq with ⟨m, rfl, rfl⟩ | ⟨m, hread, hpost⟩
    · rw [List.length_append, ← h.length_shown] at hm ⊢
      rw [List.getElem?_append_right (by omega)] at hm ⊢
      rw [Nat.add_assoc, Nat.add_sub_cancel_left] at hm
      rw [Nat.add_sub_cancel_left]
      exact ih m post rfl hm
    · have hlen : shown.length = pre.length + 1 + m.length := by
        rw [h.length_shown, hread]; simp; omega
      rcases m with _ | ⟨d, m⟩
      · -- the step ends with `c`, and the word goes on behind it in code
        simp only [List.length_nil, Nat.add_zero] at hlen
        rw [List.getElem?_append_right (by omega), ← hlen, Nat.sub_self] at hm
        obtain rfl : rest = w :: post := by simpa using hpost.symm
        obtain rfl := eq_code_of_shown hw hm
        rw [h.shown_eq hc (by rw [hread]; simp), hread]
        simp
      · -- a step that reads two characters shows no word character
        rw [List.getElem?_append_left (by simp at hlen; omega)] at hm
        exact absurd (h.eq_of_shown hw hm).1 (by omega)

theorem startsWord_maskFrom_code {text : List Char} (h : startsWord text = true) :
    startsWord (maskFrom .code text) = true := by
  obtain ⟨c, cs, rfl, hc⟩ := startsWord_iff.mp h
  have hmask := maskFrom_word_append cs (show ∀ d ∈ [c], isWord d = true by simpa using hc)
  rw [List.singleton_append] at hmask
  rw [hmask]
  exact hc

/-- In code, a word that shows at the head of the masked text is the word at
the head of the text. -/
theorem eq_append_of_maskFrom_code {name shown : List Char} (hw : ∀ c ∈ name, isWord c = true) :
    ∀ text : List Char, maskFrom .code text = name ++ shown →
      ∃ after, text = name ++ after ∧ maskFrom .code after = shown := by
  induction name with
  | nil => exact fun text h => ⟨text, rfl, h⟩
  | cons w name ih =>
    intro text h
    have hword := hw w List.mem_cons_self
    have hhead : text[0]? = some w :=
      getElem?_of_maskFrom .code text 0 w (by rw [h]; rfl) (ne_of_isWord hword (by decide))
    obtain ⟨rest, rfl⟩ : ∃ rest, text = w :: rest := by
      cases text with
      | nil => simp at hhead
      | cons c rest => exact ⟨rest, by simpa using hhead⟩
    have hmask := maskFrom_word_append rest (show ∀ d ∈ [w], isWord d = true by simpa using hword)
    rw [List.singleton_append, h] at hmask
    obtain ⟨after, rfl, hafter⟩ :=
      ih (fun c hc => hw c (List.mem_cons_of_mem w hc)) rest (List.cons.inj hmask).2.symm
    exact ⟨after, rfl, hafter⟩

/-- **Inserting in front of a word.** A word that shows in the masked text
stands in the text at the same offset, and word characters inserted in front of
it show there too, with all else unchanged. -/
theorem mask_insert {text name shownBefore shownAfter : List Char} (hne : name ≠ [])
    (hw : ∀ c ∈ name, isWord c = true) (h : mask text = shownBefore ++ (name ++ shownAfter)) :
    ∃ before after, text = before ++ (name ++ after) ∧ before.length = shownBefore.length ∧
      maskFrom .code after = shownAfter ∧
      ∀ ins : List Char, (∀ c ∈ ins, isWord c = true) →
        mask (before ++ (ins ++ (name ++ after))) = shownBefore ++ (ins ++ (name ++ shownAfter)) := by
  obtain ⟨w, name, rfl⟩ := List.exists_cons_of_ne_nil hne
  have hword := hw w List.mem_cons_self
  have hat : (maskFrom .code text)[shownBefore.length]? = some w := by
    rw [show maskFrom .code text = mask text from rfl, h]; simp
  have htext := getElem?_of_maskFrom .code text _ w hat (ne_of_isWord hword (by decide))
  obtain ⟨before, rest, rfl, hlen⟩ := exists_cut_of_getElem? htext
  rw [← hlen] at hat
  have hcut : ∀ ins : List Char, (∀ c ∈ ins, isWord c = true) →
      mask (before ++ (ins ++ w :: rest)) = shownBefore ++ (ins ++ w :: maskFrom .code rest) := by
    intro ins hins
    have := maskFrom_insert hins hword .code _ before rfl hat
    rw [show maskFrom .code (before ++ w :: rest) = mask (before ++ w :: rest) from rfl, h, hlen,
      List.take_left' rfl] at this
    exact this
  have hrest : maskFrom .code rest = name ++ shownAfter := by
    have := hcut [] (by simp)
    rw [List.nil_append, h] at this
    simpa using this.symm
  obtain ⟨after, rfl, hafter⟩ :=
    eq_append_of_maskFrom_code (fun c hc => hw c (List.mem_cons_of_mem w hc)) rest hrest
  refine ⟨before, after, rfl, hlen, hafter, fun ins hins => ?_⟩
  rw [List.cons_append, hcut ins hins, hrest]
  rfl

/-- **Whole words show as they are.** A whole word of the masked text is a
whole word of the text, at the same offset. -/
theorem WholeWord.of_mask {name text : List Char} {offset : Nat}
    (h : WholeWord name (mask text) offset) : WholeWord name text offset := by
  obtain ⟨shownBefore, shownAfter, hmask, hoff, hne, hw, hb, ha⟩ := h
  obtain ⟨before, after, rfl, hlen, hafter, -⟩ := mask_insert hne hw hmask
  refine ⟨before, after, rfl, hlen.trans hoff, hne, hw, ?_, ?_⟩
  · -- a word character before the name would show, and the name would not be whole
    rcases List.eq_nil_or_concat before with rfl | ⟨pre, c, rfl⟩
    · rfl
    · rw [List.concat_eq_append] at hlen hmask ⊢
      rw [endsWord_append, endsWord_cons]
      change isWord c = false
      rw [Bool.eq_false_iff]
      intro hc
      obtain ⟨w, name, rfl⟩ := List.exists_cons_of_ne_nil hne
      have hpre : pre.length + 1 = shownBefore.length := by simpa using hlen
      have hat : (mask (pre ++ [c] ++ (w :: name ++ after)))[pre.length + 1]? = some w := by
        rw [hmask, hpre]; simp
      have hshown := shown_before_word hc (hw w List.mem_cons_self) .code _ pre (name ++ after)
        (by simp) hat
      have hlast : shownBefore.getLast? = some c := by
        rw [show maskFrom .code (pre ++ [c] ++ (w :: name ++ after)) =
          mask (pre ++ [c] ++ (w :: name ++ after)) from rfl, hmask,
          List.getElem?_append_left (by omega)] at hshown
        rw [List.getLast?_eq_getElem?, ← hpre]
        exact hshown
      rw [endsWord, hlast] at hb
      exact absurd hc (by rw [show isWord c = false from hb]; simp)
  · rw [Bool.eq_false_iff]
    intro hstart
    rw [← hafter, startsWord_maskFrom_code hstart] at ha
    exact absurd ha (by simp)

end StyleCheck.Source
