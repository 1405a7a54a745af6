/-
# The tokens of a source text

A source text is a sequence of tokens: string literals, comments to the end of
the line, block comments, and single characters of code for all the rest. The
token at a place is the first of these that can be read there: a quote opens a
literal only if the literal is closed, by an unescaped quote before any
unescaped newline, and a block comment that is never closed goes on to the end
of the text.

The tokens put together are the text (`flatMap_text_tokens`), and masking works
token by token (`mask_eq_flatMap`): it shows code as it is, a literal as its
quotes around spaces, and a comment as spaces and its newlines.

Key definitions: `Token`, `Token.masked`, `firstToken`, `tokens`.
Key theorems: `flatMap_text_tokens`, `mask_eq_flatMap`.
-/
import StyleCheck.Source.Mask

namespace StyleCheck.Source

/-- A character of code, the body of a string literal, or what follows the
opening mark of a comment up to its end, closing mark included. -/
inductive Token where
  | code (c : Char)
  | literal (body : List Char)
  | lineComment (body : List Char)
  | blockComment (body : List Char)
  deriving DecidableEq, Repr

namespace Token

/-- The text of a token. -/
def text : Token → List Char
  | code c => [c]
  | literal body => '"' :: (body ++ ['"'])
  | lineComment body => '/' :: '/' :: body
  | blockComment body => '/' :: '*' :: body

/-- What shows of a token in the masked text. -/
def masked : Token → List Char
  | code c => [c]
  | literal body => '"' :: (body.map (fun _ => ' ') ++ ['"'])
  | lineComment body => ' ' :: ' ' :: body.map commentBlank
  | blockComment body => ' ' :: ' ' :: body.map commentBlank

/-- The token is a string literal. -/
def IsLiteral (t : Token) : Prop :=
  ∃ body, t = literal body

theorem length_masked (t : Token) : t.masked.length = t.text.length := by
  cases t <;> simp [masked, text]

theorem text_ne_nil (t : Token) : t.text ≠ [] := by
  cases t <;> simp [text]

end Token

/-! ### Reading a token -/

/-- The body of a literal behind its opening quote, and the text behind the
closing one. -/
def literalBody? : List Char → Option (List Char × List Char)
  | [] => none
  | '"' :: cs => some ([], cs)
  | '\n' :: _ => none
  | ['\\'] => none
  | '\\' :: c :: cs => (literalBody? cs).map fun r => ('\\' :: c :: r.1, r.2)
  | c :: cs => (literalBody? cs).map fun r => (c :: r.1, r.2)

/-- A block comment behind its opening mark, up to the closing one or else to
the end, and the text behind it. -/
def blockBody : List Char → List Char × List Char
  | [] => ([], [])
  | '*' :: '/' :: cs => (['*', '/'], cs)
  | c :: cs => (c :: (blockBody cs).1, (blockBody cs).2)

/-- The first token of a text, and the text behind it. -/
def firstToken : (c : Char) → (cs : List Char) → Token × List Char
  | '"', cs =>
    match literalBody? cs with
    | some (body, rest) => (.literal body, rest)
    | none => (.code '"', cs)
  | '/', '/' :: cs => (.lineComment (cs.takeWhile (· ≠ '\n')), cs.dropWhile (· ≠ '\n'))
  | '/', '*' :: cs => (.blockComment (blockBody cs).1, (blockBody cs).2)
  | c, cs => (.code c, cs)

theorem eq_of_literalBody? {cs body rest : List Char} (h : literalBody? cs = some (body, rest)) :
    cs = body ++ '"' :: rest := by
  fun_induction literalBody? cs generalizing body rest with
  | case1 => simp at h
  | case2 cs =>
    obtain ⟨rfl, rfl⟩ := Prod.mk.inj (Option.some.inj h)
    rfl
  | case3 => simp at h
  | case4 => simp at h
  | case5 c cs ih =>
    obtain ⟨⟨b, r⟩, hr, heq⟩ := Option.map_eq_some_iff.mp h
    obtain ⟨rfl, rfl⟩ := Prod.mk.inj heq
    simp [ih hr]
  | case6 c cs _ _ _ _ ih =>
    obtain ⟨⟨b, r⟩, hr, heq⟩ := Option.map_eq_some_iff.mp h
    obtain ⟨rfl, rfl⟩ := Prod.mk.inj heq
    simp [ih hr]

theorem blockBody_append (cs : List Char) : (blockBody cs).1 ++ (blockBody cs).2 = cs := by
  fun_induction blockBody cs with
  | case1 => rfl
  | case2 cs => rfl
  | case3 c cs _ ih => exact congrArg (c :: ·) ih

theorem firstToken_append (c : Char) (cs : List Char) :
    (firstToken c cs).1.text ++ (firstToken c cs).2 = c :: cs := by
  fun_cases firstToken c cs with
  | case1 cs body rest h => simp [Token.text, eq_of_literalBody? h]
  | case2 cs h => rfl
  | case3 cs => simp [Token.text, List.takeWhile_append_dropWhile]
  | case4 cs => simp [Token.text, blockBody_append]
  | case5 c cs _ _ _ => rfl

theorem length_firstToken_lt (c : Char) (cs : List Char) :
    (firstToken c cs).2.length < (c :: cs).length := by
  have hlen := congrArg List.length (firstToken_append c cs)
  have hpos := List.length_pos_iff.mpr (firstToken c cs).1.text_ne_nil
  rw [List.length_append] at hlen
  omega

/-- The tokens of a text. -/
def tokens : List Char → List Token
  | [] => []
  | c :: cs => (firstToken c cs).1 :: tokens (firstToken c cs).2
termination_by text => text.length
decreasing_by exact length_firstToken_lt c cs

/-- **The tokens put together are the text.** -/
theorem flatMap_text_tokens (text : List Char) : (tokens text).flatMap Token.text = text := by
  fun_induction tokens text with
  | case1 => rfl
  | case2 c cs ih => rw [List.flatMap_cons, ih, firstToken_append]

/-! ### Masking token by token -/

theorem closesString_eq_isSome (cs : List Char) : closesString cs = (literalBody? cs).isSome := by
  fun_induction literalBody? cs with
  | case1 => rfl
  | case2 cs => rfl
  | case3 cs => rfl
  | case4 => rfl
  | case5 c cs ih => rw [closesString, ih, Option.isSome_map]
  | case6 c cs h1 h2 h3 h4 ih =>
    rw [closesString, ih, Option.isSome_map]
    · exact h1
    · exact h2
    · exact h3
    · exact h4

theorem maskFrom_string {cs body rest : List Char} (h : literalBody? cs = some (body, rest)) :
    maskFrom .string cs = body.map (fun _ => ' ') ++ '"' :: maskFrom .code rest := by
  fun_induction literalBody? cs generalizing body rest with
  | case1 => simp at h
  | case2 cs =>
    obtain ⟨rfl, rfl⟩ := Prod.mk.inj (Option.some.inj h)
    simp [maskFrom]
  | case3 => simp at h
  | case4 => simp at h
  | case5 c cs ih =>
    obtain ⟨⟨b, r⟩, hr, heq⟩ := Option.map_eq_some_iff.mp h
    obtain ⟨rfl, rfl⟩ := Prod.mk.inj heq
    simp [maskFrom, ih hr]
  | case6 c cs h1 h2 h3 h4 ih =>
    obtain ⟨⟨b, r⟩, hr, heq⟩ := Option.map_eq_some_iff.mp h
    obtain ⟨rfl, rfl⟩ := Prod.mk.inj heq
    rw [maskFrom, ih hr]
    · rfl
    · exact h1
    · exact h4

theorem maskFrom_lineComment (cs : List Char) :
    maskFrom .lineComment cs =
      (cs.takeWhile (· ≠ '\n')).map commentBlank ++ maskFrom .code (cs.dropWhile (· ≠ '\n')) := by
  induction cs with
  | nil => simp [maskFrom]
  | cons c cs ih =>
    by_cases hc : c = '\n'
    · subst hc
      simp [maskFrom]
    · rw [maskFrom, ih, List.takeWhile_cons_of_pos (by simpa using hc),
        List.dropWhile_cons_of_pos (by simpa using hc), List.map_cons, commentBlank, if_neg hc]
      · rfl
      · exact hc

theorem maskFrom_blockComment (cs : List Char) :
    maskFrom .blockComment cs =
      (blockBody cs).1.map commentBlank ++ maskFrom .code (blockBody cs).2 := by
  fun_induction blockBody cs with
  | case1 => simp [maskFrom]
  | case2 cs =>
    rw [maskFrom]
    rfl
  | case3 c cs h ih =>
    rw [maskFrom, ih]
    · rfl
    · exact h

theorem maskFrom_firstToken (c : Char) (cs : List Char) :
    maskFrom .code (c :: cs) =
      (firstToken c cs).1.masked ++ maskFrom .code (firstToken c cs).2 := by
  fun_cases firstToken c cs with
  | case1 cs body rest h =>
    rw [maskFrom, closesString_eq_isSome, h, Option.isSome_some, if_pos rfl, maskFrom_string h]
    simp [Token.masked]
  | case2 cs h =>
    rw [maskFrom, closesString_eq_isSome, h]
    rfl
  | case3 cs =>
    rw [maskFrom, maskFrom_lineComment]
    rfl
  | case4 cs =>
    rw [maskFrom, maskFrom_blockComment]
    rfl
  | case5 c cs h1 h2 h3 =>
    rw [maskFrom]
    · rfl
    · exact h1
    · exact h2
    · exact h3

/-- **Masking works token by token.** -/
theorem mask_eq_flatMap (text : List Char) : mask text = (tokens text).flatMap Token.masked := by
  unfold mask
  fun_induction tokens text with
  | case1 => simp [maskFrom]
  | case2 c cs ih => rw [List.flatMap_cons, maskFrom_firstToken, ih]

end StyleCheck.Source
