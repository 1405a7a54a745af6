/-
# The masked text

The masked text is as long as the source. A character of it is the source's own
or a space, and a space only in a comment or between the quotes of a literal
(`getElem?_mask`). No comment opens in it: a slash shows only in code, and no
slash or star can follow it there (`isChain_mask`).

It is also a normal form. Its tokens are those of the source with literals
blank and comments turned into blank code (`tokens_mask`), so there is nothing
left to hide, and masking it again changes nothing. What has to be shown for
that is that a quote which opens no literal in the source opens none in the
masked text either, although escapes behind it may have been hidden
(`staysOpen`): a hidden escape stands in a comment, and behind a comment the
text is read on unescaped.

Key definitions: `HiddenAt`, `StaysOpen`, `Token.Bare`.
Key theorems: `mask_hides_comments`, `tokens_mask`, `mask_eq_self_iff`,
`mask_idempotent`.
-/
import Mathlib.Data.List.Chain
import StyleCheck.Proofs.Masking
import StyleCheck.Proofs.Tokens

namespace StyleCheck.Source

/-! ### What is hidden -/

/-- Of a token, masking hides what stands at this offset: all of a comment, and
what is between the quotes of a literal. -/
def Token.Hides : Token → Nat → Prop
  | code _, _ => False
  | literal body, i => 0 < i ∧ i ≤ body.length
  | lineComment body, i => i < body.length + 2
  | blockComment body, i => i < body.length + 2

/-- The offset lies in a comment or between the quotes of a literal, among these
tokens. -/
def HiddenAt (ts : List Token) (offset : Nat) : Prop :=
  ∃ before t after i, ts = before ++ t :: after ∧ t.Hides i ∧
    offset = (before.flatMap Token.text).length + i

theorem hiddenAt_head {t : Token} {i : Nat} (h : t.Hides i) (ts : List Token) :
    HiddenAt (t :: ts) i :=
  ⟨[], t, ts, i, rfl, h, by simp⟩

theorem HiddenAt.cons {ts : List Token} {offset : Nat} (h : HiddenAt ts offset) (t : Token) :
    HiddenAt (t :: ts) (t.text.length + offset) := by
  obtain ⟨before, u, after, i, rfl, hu, rfl⟩ := h
  refine ⟨t :: before, u, after, i, rfl, hu, ?_⟩
  rw [List.flatMap_cons, List.length_append, Nat.add_assoc]

theorem commentBlank_cases (c : Char) :
    commentBlank c = ' ' ∨ commentBlank c = c ∧ commentBlank c = '\n' := by
  unfold commentBlank
  by_cases hc : c = '\n'
  · rw [if_pos hc]
    exact Or.inr ⟨hc.symm, rfl⟩
  · rw [if_neg hc]
    exact Or.inl rfl

theorem Token.getElem?_masked (t : Token) (i : Nat) :
    t.masked[i]? = t.text[i]? ∨ t.masked[i]? = some ' ' ∧ t.Hides i := by
  have hcomment : ∀ (a b : Char) (body : List Char),
      (' ' :: ' ' :: body.map commentBlank)[i]? = (a :: b :: body)[i]? ∨
        (' ' :: ' ' :: body.map commentBlank)[i]? = some ' ' ∧ i < body.length + 2 := by
    intro a b body
    rcases i with _ | _ | i
    · exact Or.inr ⟨rfl, by omega⟩
    · exact Or.inr ⟨rfl, by omega⟩
    · rw [List.getElem?_cons_succ, List.getElem?_cons_succ, List.getElem?_cons_succ,
        List.getElem?_cons_succ, List.getElem?_map]
      cases hi : body[i]? with
      | none => exact Or.inl rfl
      | some c =>
        have hlt := (List.getElem?_eq_some_iff.mp hi).1
        rcases commentBlank_cases c with hc | ⟨hc, -⟩
        · exact Or.inr ⟨congrArg some hc, by omega⟩
        · exact Or.inl (congrArg some hc)
  cases t with
  | code c => exact Or.inl rfl
  | literal body =>
    rcases i with _ | i
    · exact Or.inl rfl
    · rw [masked, text, List.getElem?_cons_succ, List.getElem?_cons_succ]
      rcases Nat.lt_or_ge i body.length with hlt | hge
      · refine Or.inr ⟨?_, Nat.succ_pos i, hlt⟩
        rw [List.getElem?_append_left (by simpa using hlt), List.getElem?_map,
          List.getElem?_eq_getElem hlt]
        rfl
      · refine Or.inl ?_
        rw [List.getElem?_append_right (by simpa using hge), List.getElem?_append_right hge,
          List.length_map]
  | lineComment body => exact hcomment '/' '/' body
  | blockComment body => exact hcomment '/' '*' body

theorem getElem?_flatMap_masked : ∀ (ts : List Token) (i : Nat),
    (ts.flatMap Token.masked)[i]? = (ts.flatMap Token.text)[i]? ∨
      (ts.flatMap Token.masked)[i]? = some ' ' ∧ HiddenAt ts i
  | [], _ => Or.inl rfl
  | t :: ts, i => by
    rw [List.flatMap_cons, List.flatMap_cons]
    rcases Nat.lt_or_ge i t.text.length with hlt | hge
    · rw [List.getElem?_append_left (t.length_masked ▸ hlt), List.getElem?_append_left hlt]
      exact (t.getElem?_masked i).imp_right fun h => ⟨h.1, hiddenAt_head h.2 ts⟩
    · obtain ⟨j, rfl⟩ := Nat.exists_eq_add_of_le hge
      rw [List.getElem?_append_right (t.length_masked ▸ hge), List.getElem?_append_right hge,
        t.length_masked, Nat.add_sub_cancel_left]
      exact (getElem?_flatMap_masked ts j).imp_right fun h => ⟨h.1, h.2.cons t⟩

/-- What shows of a character is the character, or a space where it is hidden. -/
theorem getElem?_mask (text : List Char) (i : Nat) :
    (mask text)[i]? = text[i]? ∨ (mask text)[i]? = some ' ' ∧ HiddenAt (tokens text) i := by
  have h := getElem?_flatMap_masked (tokens text) i
  rwa [← mask_eq_flatMap, flatMap_text_tokens] at h

/-! ### No comment opens -/

/-- The two characters do not open a comment. -/
def OpensNoComment (a b : Char) : Prop :=
  a = '/' → b ≠ '/' ∧ b ≠ '*'

/-- A step that ends by showing a slash is one in code, in front of no second
half of an opening mark. -/
theorem MaskStep.head?_of_slash {s s' : MaskState} {read shown rest : List Char}
    (h : MaskStep s read shown rest s') (hslash : shown.getLast? = some '/') :
    rest.head? ≠ some '/' ∧ rest.head? ≠ some '*' := by
  cases h with
  | code _ hopen => exact hopen (by simpa using hslash)
  | @block c _ _ =>
    have hblank : commentBlank c = '/' := by simpa using hslash
    rcases commentBlank_cases c with hc | ⟨-, hc⟩
    · exact absurd (hblank.symm.trans hc) (by decide)
    · exact absurd (hblank.symm.trans hc) (by decide)
  | _ => simp at hslash

theorem MaskStep.isChain_shown {s s' : MaskState} {read shown rest : List Char}
    (h : MaskStep s read shown rest s') : shown.IsChain OpensNoComment := by
  cases h with
  | openLine | openBlock | escape | closeBlock =>
    rw [List.isChain_cons_cons]
    exact ⟨fun hblank => absurd hblank (by decide), List.isChain_singleton _⟩
  | _ => exact List.isChain_singleton _

theorem isChain_maskFrom (s : MaskState) (text : List Char) :
    (maskFrom s text).IsChain OpensNoComment := by
  induction s, text using maskStep_induction with
  | nil s => simp [maskFrom]
  | @step s read shown rest s' h ih =>
    rw [maskFrom_of_step h, List.isChain_append]
    refine ⟨h.isChain_shown, ih, fun a ha b hb hslash => ?_⟩
    have hrest := h.head?_of_slash (hslash ▸ ha)
    -- what shows behind the slash is a space or stands there in the text
    have hown : b ≠ ' ' → rest.head? = some b := by
      intro hb'
      rw [Option.mem_def, List.head?_eq_getElem?] at hb
      rw [List.head?_eq_getElem?]
      exact getElem?_of_maskFrom s' rest 0 b hb hb'
    constructor
    · rintro rfl
      exact hrest.1 (hown (by decide))
    · rintro rfl
      exact hrest.2 (hown (by decide))

/-- No two neighbours in the masked text open a comment. -/
theorem isChain_mask (text : List Char) : (mask text).IsChain OpensNoComment :=
  isChain_maskFrom .code text

/-- **Masking hides every comment and moves nothing.** The masked text has the
length of the text. Its characters are those of the text, or spaces in comments
and between the quotes of literals. And no comment opens anywhere in it. -/
theorem mask_hides_comments (text : List Char) :
    (mask text).length = text.length ∧
    (∀ i : Nat, (mask text)[i]? = text[i]? ∨
      (mask text)[i]? = some ' ' ∧ HiddenAt (tokens text) i) ∧
    ¬ ['/', '/'] <:+: mask text ∧ ¬ ['/', '*'] <:+: mask text := by
  have hopen : ∀ c : Char, ['/', c] <:+: mask text → c ≠ '/' ∧ c ≠ '*' := by
    intro c hinfix
    have hchain := List.IsChain.infix (isChain_mask text) hinfix
    exact (List.isChain_cons_cons.mp hchain).1 rfl
  exact ⟨length_mask text, getElem?_mask text, fun h => (hopen '/' h).1 rfl,
    fun h => (hopen '*' h).2 rfl⟩

/-! ### Quotes that open no literal -/

theorem closesString_escape (cs : List Char) :
    closesString ('\\' :: cs) = closesString (cs.drop 1) := by
  cases cs with
  | nil => rfl
  | cons c cs => simp [closesString]

theorem closesString_space (cs : List Char) : closesString (' ' :: cs) = closesString cs :=
  closesString_skip cs (by decide) (by decide) (by decide)

theorem closesString_newline (cs : List Char) : closesString ('\n' :: cs) = false := by
  simp [closesString]

/-- Behind a character that closes no literal the reading goes on: at the end of
a line it stops, and behind an escape it passes over one character. -/
theorem closesString_cons_eq_false {c : Char} {cs : List Char}
    (h : closesString (c :: cs) = false) :
    c = '\n' ∨ c = '\\' ∧ closesString (cs.drop 1) = false ∨
      (c ≠ '"' ∧ c ≠ '\n' ∧ c ≠ '\\') ∧ closesString cs = false := by
  by_cases hquote : c = '"'
  · subst hquote
    simp [closesString] at h
  by_cases hline : c = '\n'
  · exact Or.inl hline
  by_cases hescape : c = '\\'
  · subst hescape
    rw [closesString_escape] at h
    exact Or.inr (Or.inl ⟨rfl, h⟩)
  · rw [closesString_skip cs hquote hline hescape] at h
    exact Or.inr (Or.inr ⟨⟨hquote, hline, hescape⟩, h⟩)

/-- A literal that the text from here on does not close stays open in the masked
text. In code the reading may stand behind an escape on both sides. In a block
comment it may do so in the source only, where the escape itself is hidden, and
a line comment ends in front of the end of its line. -/
def StaysOpen : MaskState → List Char → Prop
  | .code, cs =>
    (closesString cs = false → closesString (maskFrom .code cs) = false) ∧
      (closesString (cs.drop 1) = false → closesString ((maskFrom .code cs).drop 1) = false)
  | .string, _ => True
  | .lineComment, cs => closesString (maskFrom .lineComment cs) = false
  | .blockComment, cs =>
    closesString cs = false ∨ closesString (cs.drop 1) = false →
      closesString (maskFrom .blockComment cs) = false

theorem staysOpen_code_cons {c : Char} {cs : List Char} (ih : StaysOpen .code cs)
    (h : closesString (c :: cs) = false) : closesString (c :: maskFrom .code cs) = false := by
  rcases closesString_cons_eq_false h with rfl | ⟨rfl, hcs⟩ | ⟨⟨h1, h2, h3⟩, hcs⟩
  · exact closesString_newline _
  · rw [closesString_escape]
    exact ih.2 hcs
  · rw [closesString_skip _ h1 h2 h3]
    exact ih.1 hcs

theorem staysOpen_block_cons {c : Char} {cs : List Char} (ih : StaysOpen .blockComment cs)
    (h : closesString (c :: cs) = false ∨ closesString cs = false) :
    closesString (commentBlank c :: maskFrom .blockComment cs) = false := by
  by_cases hline : c = '\n'
  · rw [commentBlank, if_pos hline]
    exact closesString_newline _
  rw [commentBlank, if_neg hline, closesString_space]
  apply ih
  rcases h with h | hcs
  · rcases closesString_cons_eq_false h with rfl | ⟨-, hcs⟩ | ⟨-, hcs⟩
    · exact absurd rfl hline
    · exact Or.inr hcs
    · exact Or.inl hcs
  · exact Or.inl hcs

theorem closesString_mark (cs : List Char) :
    closesString ('/' :: cs) = closesString cs ∧ closesString ('*' :: cs) = closesString cs :=
  ⟨closesString_skip cs (by decide) (by decide) (by decide),
    closesString_skip cs (by decide) (by decide) (by decide)⟩

/-- **A quote that opens no literal opens none after masking.** -/
theorem staysOpen (s : MaskState) (cs : List Char) : StaysOpen s cs := by
  induction s, cs using maskStep_induction with
  | nil s => cases s <;> simp [StaysOpen, maskFrom, closesString]
  | @step s read shown rest s' h ih =>
    have hmask := maskFrom_of_step h
    cases h with
    | quote =>
      refine ⟨fun hopen => by simp [closesString] at hopen, fun hopen => ?_⟩
      have hrest : closesString rest = false := hopen
      simp only [hrest, Bool.false_eq_true, if_false] at ih hmask
      rw [hmask]
      exact ih.1 hrest
    | openLine =>
      have hline : closesString (maskFrom .lineComment rest) = false := ih
      refine ⟨fun _ => ?_, fun _ => ?_⟩
      · rw [hmask]
        simp [closesString_space, hline]
      · rw [hmask]
        simp [closesString_space, hline]
    | openBlock =>
      refine ⟨fun hopen => ?_, fun hopen => ?_⟩
      · have hrest : closesString rest = false := by
          simpa [closesString_mark] using hopen
        rw [hmask]
        simp [closesString_space, ih (Or.inl hrest)]
      · have hrest : closesString rest = false := by
          simpa [closesString_mark] using hopen
        rw [hmask]
        simp [closesString_space, ih (Or.inl hrest)]
    | code hquote hopen =>
      refine ⟨fun hopen => ?_, fun hopen => ?_⟩
      · rw [hmask]
        exact staysOpen_code_cons ih hopen
      · rw [hmask]
        exact ih.1 hopen
    | closeString | escape | body => trivial
    | closeLine =>
      rw [StaysOpen, hmask]
      exact closesString_newline _
    | line hline =>
      rw [StaysOpen, hmask]
      exact (closesString_space _).trans ih
    | closeBlock =>
      -- an escape in front of the closing mark escapes its star, never its slash
      intro hopen
      have hrest : closesString rest = false := by
        simpa [closesString_mark] using hopen
      rw [hmask]
      simp [closesString_space, ih.1 hrest]
    | block hclose =>
      intro hopen
      rw [hmask]
      exact staysOpen_block_cons ih hopen

theorem literalBody?_mask {cs : List Char} (h : literalBody? cs = none) :
    literalBody? (mask cs) = none := by
  have hopen : closesString cs = false := by rw [closesString_eq_isSome, h]; rfl
  have hmask := (staysOpen .code cs).1 hopen
  rw [closesString_eq_isSome, Option.isSome_eq_false_iff] at hmask
  exact Option.isNone_iff_eq_none.mp hmask

/-! ### The tokens of the masked text -/

namespace Token

/-- The tokens that show in place of a token. -/
def shown : Token → List Token
  | code c => [code c]
  | literal body => [literal (body.map fun _ => ' ')]
  | lineComment body => (' ' :: ' ' :: body.map commentBlank).map code
  | blockComment body => (' ' :: ' ' :: body.map commentBlank).map code

/-- A token with nothing left to hide: code, or a literal of spaces. -/
def Bare : Token → Prop
  | code _ => True
  | literal body => ∀ c ∈ body, c = ' '
  | lineComment _ => False
  | blockComment _ => False

theorem bare_of_mem_shown {t u : Token} (h : u ∈ t.shown) : u.Bare := by
  have hcode : ∀ cs : List Char, u ∈ cs.map code → u.Bare := by
    intro cs hu
    obtain ⟨c, -, rfl⟩ := List.mem_map.mp hu
    trivial
  cases t with
  | code c =>
    rw [shown, List.mem_singleton] at h
    subst h
    trivial
  | literal body =>
    rw [shown, List.mem_singleton] at h
    subst h
    intro c hc
    obtain ⟨-, -, rfl⟩ := List.mem_map.mp hc
    rfl
  | lineComment body => exact hcode _ h
  | blockComment body => exact hcode _ h

theorem Bare.masked_eq {t : Token} (h : t.Bare) : t.masked = t.text := by
  cases t with
  | code c => rfl
  | literal body =>
    have hbody : body.map (fun _ => ' ') = body := by
      rw [List.map_congr_left fun c hc => (h c hc).symm]
      exact List.map_id' body
    rw [masked, text, hbody]
  | lineComment body => exact h.elim
  | blockComment body => exact h.elim

end Token

theorem tokens_cons (c : Char) (cs : List Char) :
    tokens (c :: cs) = (firstToken c cs).1 :: tokens (firstToken c cs).2 := by
  rw [tokens]

theorem tokens_code {c : Char} {cs : List Char} (hquote : c = '"' → literalBody? cs = none)
    (hopen : ∀ b ∈ cs.head?, OpensNoComment c b) : tokens (c :: cs) = .code c :: tokens cs := by
  have hfirst : firstToken c cs = (.code c, cs) := by
    fun_cases firstToken c cs with
    | case1 cs body rest h => exact absurd (hquote rfl) (by simp [h])
    | case2 cs h => rfl
    | case3 cs => exact absurd rfl (hopen '/' rfl rfl).1
    | case4 cs => exact absurd rfl (hopen '*' rfl rfl).2
    | case5 c cs _ _ _ => rfl
  rw [tokens_cons, hfirst]

theorem tokens_blank_append (rest : List Char) : ∀ cs : List Char, (∀ c ∈ cs, c = ' ' ∨ c = '\n') →
    tokens (cs ++ rest) = cs.map Token.code ++ tokens rest
  | [], _ => rfl
  | c :: cs, h => by
    have hc : c ≠ '"' ∧ c ≠ '/' := by
      rcases h c List.mem_cons_self with rfl | rfl
      · decide
      · decide
    rw [List.cons_append, tokens_code (fun hq => absurd hq hc.1) fun b _ hs => absurd hs hc.2,
      tokens_blank_append rest cs fun d hd => h d (List.mem_cons_of_mem c hd)]
    rfl

theorem literalBody?_blank_append (rest : List Char) : ∀ body : List Char,
    literalBody? (body.map (fun _ => ' ') ++ '"' :: rest) = some (body.map (fun _ => ' '), rest)
  | [] => by simp [literalBody?]
  | c :: body => by
    rw [List.map_cons, List.cons_append, literalBody?, literalBody?_blank_append rest body]
    · rfl
    · decide
    · decide
    · exact fun hescape => absurd hescape (by decide)
    · exact fun _ _ hescape => absurd hescape (by decide)

theorem tokens_comment_append (body rest : List Char) :
    tokens (' ' :: ' ' :: body.map commentBlank ++ rest) =
      (' ' :: ' ' :: body.map commentBlank).map Token.code ++ tokens rest := by
  refine tokens_blank_append rest _ fun c hc => ?_
  rcases List.mem_cons.mp hc with hc | hc
  · exact Or.inl hc
  rcases List.mem_cons.mp hc with hc | hc
  · exact Or.inl hc
  obtain ⟨d, -, rfl⟩ := List.mem_map.mp hc
  exact (commentBlank_cases d).imp_right And.right

/-- The first token of a text shows as its own tokens in front of what shows of
the rest. -/
theorem tokens_firstToken_masked (c : Char) (cs : List Char) :
    tokens ((firstToken c cs).1.masked ++ mask (firstToken c cs).2) =
      (firstToken c cs).1.shown ++ tokens (mask (firstToken c cs).2) := by
  fun_cases firstToken c cs with
  | case1 cs body rest h =>
    rw [Token.masked, List.cons_append, List.append_assoc, List.singleton_append, tokens_cons,
      firstToken, literalBody?_blank_append]
    rfl
  | case2 cs h => exact tokens_code (fun _ => literalBody?_mask h) fun b _ hs => absurd hs (by decide)
  | case3 cs => exact tokens_comment_append _ _
  | case4 cs => exact tokens_comment_append _ _
  | case5 c cs h1 h2 h3 =>
    have hmask : mask (c :: cs) = c :: mask cs := by
      unfold mask
      rw [maskFrom]
      · exact h1
      · exact h2
      · exact h3
    have hchain := isChain_mask (c :: cs)
    rw [hmask, List.isChain_cons] at hchain
    exact tokens_code (fun hq => absurd hq h1) hchain.1

/-- **The tokens of the masked text** are those of the text, each as it shows. -/
theorem tokens_mask (text : List Char) : tokens (mask text) = (tokens text).flatMap Token.shown := by
  fun_induction tokens text with
  | case1 => simp [mask, maskFrom, tokens]
  | case2 c cs ih =>
    have hmask : mask (c :: cs) = (firstToken c cs).1.masked ++ mask (firstToken c cs).2 :=
      maskFrom_firstToken c cs
    rw [List.flatMap_cons, ← ih, hmask, tokens_firstToken_masked]

theorem bare_of_mem_tokens_mask {text : List Char} {t : Token} (h : t ∈ tokens (mask text)) :
    t.Bare := by
  rw [tokens_mask] at h
  obtain ⟨u, -, hu⟩ := List.mem_flatMap.mp h
  exact Token.bare_of_mem_shown hu

/-- **Masking changes nothing exactly where there is nothing to hide**: in the
texts without comments whose literals are blank. -/
theorem mask_eq_self_iff (text : List Char) : mask text = text ↔ ∀ t ∈ tokens text, t.Bare := by
  constructor
  · intro h t ht
    rw [← h] at ht
    exact bare_of_mem_tokens_mask ht
  · intro h
    calc mask text = (tokens text).flatMap Token.masked := mask_eq_flatMap text
      _ = (tokens text).flatMap Token.text := List.flatMap_congr fun t ht => (h t ht).masked_eq
      _ = text := flatMap_text_tokens text

theorem mask_eq_self {text : List Char} (hquote : '"' ∉ text) (hslash : '/' ∉ text) :
    mask text = text := by
  refine (mask_eq_self_iff text).mpr fun t ht => ?_
  have hmem : ∀ c ∈ t.text, c ∈ text := fun c hc =>
    flatMap_text_tokens text ▸ List.mem_flatMap.mpr ⟨t, ht, hc⟩
  cases t with
  | code c => trivial
  | literal body => exact absurd (hmem '"' List.mem_cons_self) hquote
  | lineComment body => exact absurd (hmem '/' List.mem_cons_self) hslash
  | blockComment body => exact absurd (hmem '/' List.mem_cons_self) hslash

/-- **Masking is done once.** No token of the masked text has anything left to
hide, so masking it again changes nothing. -/
theorem mask_idempotent (text : List Char) :
    (∀ t ∈ tokens (mask text), t.Bare) ∧ mask (mask text) = mask text := by
  have hbare : ∀ t ∈ tokens (mask text), t.Bare := fun t ht => bare_of_mem_tokens_mask ht
  exact ⟨hbare, (mask_eq_self_iff (mask text)).mpr hbare⟩

end StyleCheck.Source
