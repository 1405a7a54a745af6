/-
# Well-formed source texts

A well-formed source text is a sequence of items, each complete in itself:
characters of code, string literals that are closed, comments to the end of the
line with the newline that ends them, and block comments with their closing
mark. A slash in code is an item together with the character behind it, so that
no item ends with half of an opening mark.

Masking works item by item (`mask_items`): code stays as it is, a literal shows
as its quotes around spaces, a comment as spaces and its newlines. Each item is
cut off at the same place whatever follows it (`tokens_item_append`): the first
quote that is not escaped closes a literal (`literalBody?_parts`), and the first
closing mark a block comment (`blockBody_of_not_infix`).

Key definitions: `LiteralPart`, `SourceItem`, `SourceItem.text`,
`SourceItem.image`.
Key theorems: `tokens_item_append`, `mask_item_append`, `mask_items`.
-/
import StyleCheck.Proofs.MaskedText

namespace StyleCheck.Source

/-! ### Literals -/

/-- A part of what stands between two delimiters: a character that needs no
escape, or an escape, which may stand before any character. -/
inductive LiteralPart (delimiter : Char) where
  | plain (c : Char) (h : c ≠ delimiter ∧ c ≠ '\\' ∧ c ≠ '\n')
  | escape (c : Char)

/-- The text of a part. -/
def LiteralPart.text {delimiter : Char} : LiteralPart delimiter → List Char
  | plain c _ => [c]
  | escape c => ['\\', c]

/-- The text of the parts between two delimiters. -/
def partsText {delimiter : Char} (parts : List (LiteralPart delimiter)) : List Char :=
  parts.flatMap LiteralPart.text

/-- Behind its opening quote a literal goes on to the first quote that no escape
stands before. -/
theorem literalBody?_parts (rest : List Char) : ∀ parts : List (LiteralPart '"'),
    literalBody? (partsText parts ++ '"' :: rest) = some (partsText parts, rest)
  | [] => by simp [partsText, literalBody?]
  | part :: parts => by
    have ih := literalBody?_parts rest parts
    unfold partsText at ih ⊢
    rw [List.flatMap_cons, List.append_assoc]
    cases part with
    | plain c h =>
      rw [LiteralPart.text, List.singleton_append, literalBody?, ih]
      · rfl
      · exact h.1
      · exact h.2.2
      · exact fun hescape _ => h.2.1 hescape
      · exact fun _ _ hescape _ => h.2.1 hescape
    | escape c =>
      rw [LiteralPart.text, List.cons_append, List.singleton_append, literalBody?, ih]
      rfl

/-! ### Items -/

/-- A piece of source text that is complete in itself. -/
inductive SourceItem where
  | code (c : Char) (h : c ≠ '"' ∧ c ≠ '/')
  | slash (c : Char) (h : c ≠ '/' ∧ c ≠ '*' ∧ c ≠ '"')
  | literal (parts : List (LiteralPart '"'))
  | lineComment (body : List Char) (h : '\n' ∉ body)
  | blockComment (body : List Char) (h : ¬ ['*', '/'] <:+: body)

namespace SourceItem

/-- The text of an item. -/
def text : SourceItem → List Char
  | code c _ => [c]
  | slash c _ => ['/', c]
  | literal parts => '"' :: (partsText parts ++ ['"'])
  | lineComment body _ => '/' :: '/' :: (body ++ ['\n'])
  | blockComment body _ => '/' :: '*' :: (body ++ ['*', '/'])

/-- What shows of an item: a space for every character of a literal's body, and
for every character of a comment that is no newline. -/
def image : SourceItem → List Char
  | code c _ => [c]
  | slash c _ => ['/', c]
  | literal parts => '"' :: (List.replicate (partsText parts).length ' ' ++ ['"'])
  | lineComment body _ => List.replicate (body.length + 2) ' ' ++ ['\n']
  | blockComment body h => (blockComment body h).text.map fun c => if c = '\n' then '\n' else ' '

/-- The tokens of an item. -/
def tokens : SourceItem → List Token
  | code c _ => [.code c]
  | slash c _ => [.code '/', .code c]
  | literal parts => [.literal (partsText parts)]
  | lineComment body _ => [.lineComment body, .code '\n']
  | blockComment body _ => [.blockComment (body ++ ['*', '/'])]

theorem flatMap_masked_tokens (item : SourceItem) :
    item.tokens.flatMap Token.masked = item.image := by
  cases item with
  | code c h => rfl
  | slash c h => rfl
  | literal parts => simp [tokens, image, Token.masked, List.map_const']
  | lineComment body h =>
    have hblank : body.map commentBlank = List.replicate body.length ' ' := by
      rw [← List.map_const']
      refine List.map_congr_left fun c hc => if_neg ?_
      rintro rfl
      exact h hc
    simp [tokens, image, Token.masked, hblank, List.replicate_succ]
  | blockComment body h => simp [tokens, image, text, Token.masked, commentBlank]

end SourceItem

/-! ### Reading an item -/

/-- A block comment ends with the first closing mark. A star at the end of its
body does not form one with the star of the mark. -/
theorem blockBody_of_not_infix (rest : List Char) : ∀ body : List Char, ¬ ['*', '/'] <:+: body →
    blockBody (body ++ '*' :: '/' :: rest) = (body ++ ['*', '/'], rest)
  | [], _ => by simp [blockBody]
  | c :: body, h => by
    have ih := blockBody_of_not_infix rest body fun hbody =>
      h (hbody.trans (List.infix_cons (List.infix_refl body)))
    rw [List.cons_append, blockBody, ih]
    · rfl
    · rintro cs rfl hcs
      cases body with
      | nil => exact absurd (List.cons.inj hcs).1 (by decide)
      | cons d body =>
        obtain ⟨rfl, -⟩ := List.cons.inj hcs
        exact h ⟨[], body, rfl⟩

/-- **An item is read as such whatever follows it.** -/
theorem tokens_item_append (item : SourceItem) (rest : List Char) :
    tokens (item.text ++ rest) = item.tokens ++ tokens rest := by
  -- a character that is neither a quote nor a slash opens nothing
  have hcode : ∀ c : Char, c ≠ '"' ∧ c ≠ '/' → tokens (c :: rest) = .code c :: tokens rest :=
    fun c h => tokens_code (fun hquote => absurd hquote h.1) fun _ _ hslash => absurd hslash h.2
  cases item with
  | code c h => exact hcode c h
  | slash c h =>
    have hopen : ∀ b ∈ (c :: rest).head?, OpensNoComment '/' b := by
      rintro b hb -
      obtain rfl : c = b := Option.some.inj hb
      exact ⟨h.1, h.2.1⟩
    rw [SourceItem.text, List.cons_append, List.singleton_append,
      tokens_code (fun hquote => absurd hquote (by decide)) hopen, hcode c ⟨h.2.2, h.1⟩]
    rfl
  | literal parts =>
    rw [SourceItem.text, List.cons_append, List.append_assoc, List.singleton_append, tokens_cons,
      firstToken, literalBody?_parts]
    rfl
  | lineComment body h =>
    rw [SourceItem.text, List.cons_append, List.cons_append, List.append_assoc,
      List.singleton_append, tokens_cons, firstToken, takeWhile_append_stop rest h,
      dropWhile_append_stop rest h, hcode '\n' (by decide)]
    rfl
  | blockComment body h =>
    rw [SourceItem.text, List.cons_append, List.cons_append, List.append_assoc, tokens_cons,
      firstToken]
    simp only [List.cons_append, List.nil_append, blockBody_of_not_infix rest body h]
    rfl

/-- An item shows as its image whatever follows it. -/
theorem mask_item_append (item : SourceItem) (rest : List Char) :
    mask (item.text ++ rest) = item.image ++ mask rest := by
  rw [mask_eq_flatMap, tokens_item_append, List.flatMap_append, item.flatMap_masked_tokens,
    ← mask_eq_flatMap]

/-- **Masking a well-formed source text** shows the image of each of its items,
in order. -/
theorem mask_items (items : List SourceItem) :
    mask (items.flatMap SourceItem.text) = items.flatMap SourceItem.image := by
  induction items with
  | nil => rfl
  | cons item items ih => rw [List.flatMap_cons, List.flatMap_cons, mask_item_append, ih]

end StyleCheck.Source
