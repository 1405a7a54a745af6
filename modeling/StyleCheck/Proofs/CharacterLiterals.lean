/-
# Character literals

A character literal is code: masking has no token for it, and reads what stands
between its apostrophes like any other code. A slash in it opens nothing, since
the apostrophe comes next. But a quote in it opens a string literal, if one
closes further on: then the closing apostrophe is hidden, and all that follows
up to the next quote with it.

So the code and the character literals of a text are left as they are exactly if
behind no character literal with a quote another quote closes the literal that
it seems to open (`character_literals_shown_iff`). Two such literals on a line
are enough to lose what stands between them (`mask_hides_character_literal`).

Key definitions: `ClosesLiteral`, `CodeOrLiteral`, `CodeOrLiteral.IsHarmless`, `ShowsCode`.
Key theorems: `closesString_iff`, `character_literals_shown_iff`.
-/
import StyleCheck.Proofs.SourceItems

namespace StyleCheck.Source

/-! ### Literals that close -/

/-- The text begins with the rest of a string literal: parts of a body, and the
closing quote. -/
def ClosesLiteral (text : List Char) : Prop :=
  ∃ (parts : List (LiteralPart '"')) (rest : List Char), text = partsText parts ++ '"' :: rest

theorem ClosesLiteral.cons {text : List Char} (part : LiteralPart '"') (h : ClosesLiteral text) :
    ClosesLiteral (part.text ++ text) := by
  obtain ⟨parts, rest, rfl⟩ := h
  refine ⟨part :: parts, rest, ?_⟩
  rw [partsText, partsText, List.flatMap_cons, List.append_assoc]

theorem closesString_iff (text : List Char) : closesString text = true ↔ ClosesLiteral text := by
  constructor
  · intro h
    fun_induction closesString text with
    | case1 => exact absurd h (by decide)
    | case2 cs => exact ⟨[], cs, rfl⟩
    | case3 cs => exact absurd h (by decide)
    | case4 => exact absurd h (by decide)
    | case5 c cs ih => exact (ih h).cons (.escape c)
    | case6 c cs hquote hline hlast hescape ih =>
      have hc : c ≠ '\\' := by
        rintro rfl
        cases cs with
        | nil => exact hlast rfl rfl
        | cons d cs => exact hescape d cs rfl rfl
      exact (ih h).cons (.plain c ⟨hquote, hc, hline⟩)
  · rintro ⟨parts, rest, rfl⟩
    rw [closesString_eq_isSome, literalBody?_parts]
    rfl

/-! ### Pieces of code -/

/-- A piece of a source text without comments: a character of code, a string
literal, or a character literal. -/
inductive CodeOrLiteral where
  | code (c : Char) (h : c ≠ '"' ∧ c ≠ '\'' ∧ c ≠ '/')
  | string (parts : List (LiteralPart '"'))
  | character (part : LiteralPart '\'')

namespace CodeOrLiteral

/-- The text of a piece. -/
def text : CodeOrLiteral → List Char
  | code c _ => [c]
  | string parts => '"' :: (partsText parts ++ ['"'])
  | character part => '\'' :: (part.text ++ ['\''])

/-- What should show of a piece: only the bodies of string literals are hidden. -/
def image : CodeOrLiteral → List Char
  | code c _ => [c]
  | string parts => '"' :: (List.replicate (partsText parts).length ' ' ++ ['"'])
  | character part => '\'' :: (part.text ++ ['\''])

/-- The piece is a string literal. -/
def IsString : CodeOrLiteral → Prop
  | string _ => True
  | _ => False

/-- The text of pieces that follow each other. -/
def textOf (pieces : List CodeOrLiteral) : List Char :=
  pieces.flatMap text

/-- Behind the piece, if it is a character literal with a quote, the text `after`
closes no string literal. -/
def IsHarmless (piece : CodeOrLiteral) (after : List Char) : Prop :=
  ∀ part, piece = character part → '"' ∈ part.text → ¬ ClosesLiteral after

/-- Every piece but the string literals stands in the masked text, where it
stands in the text. -/
def ShowsCode (pieces : List CodeOrLiteral) : Prop :=
  ∀ before piece after, pieces = before ++ piece :: after → ¬ piece.IsString →
    piece.text <+: (mask (textOf pieces)).drop (textOf before).length

theorem image_eq_text {piece : CodeOrLiteral} (h : ¬ piece.IsString) :
    piece.image = piece.text := by
  cases piece with
  | code c hc => rfl
  | string parts => exact absurd trivial h
  | character part => rfl

theorem length_image (piece : CodeOrLiteral) : piece.image.length = piece.text.length := by
  cases piece with
  | code c hc => rfl
  | string parts => simp [image, text]
  | character part => rfl

theorem textOf_cons (piece : CodeOrLiteral) (pieces : List CodeOrLiteral) :
    textOf (piece :: pieces) = piece.text ++ textOf pieces :=
  List.flatMap_cons

end CodeOrLiteral

/-! ### Masking a piece -/

theorem mask_cons_of_ne {c : Char} (h : c ≠ '"' ∧ c ≠ '/') (cs : List Char) :
    mask (c :: cs) = c :: mask cs :=
  mask_item_append (.code c h) cs

theorem closesLiteral_apostrophe_iff (after : List Char) :
    ClosesLiteral ('\'' :: after) ↔ ClosesLiteral after := by
  rw [← closesString_iff, ← closesString_iff,
    closesString_skip after (by decide) (by decide) (by decide)]

/-- A character and the apostrophe behind it stay as they are, unless the
character is a quote and opens a literal. -/
theorem mask_before_apostrophe {c : Char} {after : List Char}
    (h : c = '"' → ¬ ClosesLiteral after) :
    mask (c :: '\'' :: after) = c :: '\'' :: mask after := by
  have hquote : c = '"' → literalBody? ('\'' :: after) = none := by
    intro hc
    have hopen := (closesLiteral_apostrophe_iff after).not.mpr (h hc)
    rw [← closesString_iff, closesString_eq_isSome, Option.not_isSome_iff_eq_none] at hopen
    exact hopen
  have hslash : ∀ b ∈ ('\'' :: after).head?, OpensNoComment c b := by
    rintro b hb -
    obtain rfl : '\'' = b := Option.some.inj hb
    decide
  rw [mask_eq_flatMap, tokens_code hquote hslash, List.flatMap_cons, ← mask_eq_flatMap,
    mask_cons_of_ne (by decide)]
  rfl

theorem mask_quote_apostrophe {after : List Char} (h : ClosesLiteral after) :
    mask ('"' :: '\'' :: after) = '"' :: ' ' :: maskFrom .string after := by
  have hcloses : closesString ('\'' :: after) = true :=
    (closesString_iff _).mpr ((closesLiteral_apostrophe_iff after).mpr h)
  rw [mask, maskFrom, hcloses, if_pos rfl, maskFrom]
  · decide
  · exact fun _ _ hescape => absurd hescape (by decide)

namespace CodeOrLiteral

variable {piece : CodeOrLiteral} {after : List Char}

/-- A harmless piece shows as its image, and masking goes on behind it. -/
theorem mask_append (h : piece.IsHarmless after) :
    mask (piece.text ++ after) = piece.image ++ mask after := by
  cases piece with
  | code c hc => exact mask_item_append (.code c ⟨hc.1, hc.2.2⟩) after
  | string parts => exact mask_item_append (.literal parts) after
  | character part =>
    have hpart := h part rfl
    simp only [text, image, List.cons_append, List.append_assoc, List.nil_append]
    rw [mask_cons_of_ne (by decide)]
    cases part with
    | plain c hc =>
      have hlast := @mask_before_apostrophe c after fun hquote =>
        hpart (by simp [LiteralPart.text, hquote])
      simp only [LiteralPart.text, List.cons_append, List.nil_append, hlast]
    | escape c =>
      have hlast := @mask_before_apostrophe c after fun hquote =>
        hpart (by simp [LiteralPart.text, hquote])
      simp only [LiteralPart.text, List.cons_append, List.nil_append]
      rw [mask_cons_of_ne (by decide), hlast]

/-- Where a piece shows as it stands it is harmless: of a harmful one the closing
apostrophe is hidden. -/
theorem isHarmless_of_prefix (h : ¬ piece.IsString → piece.text <+: mask (piece.text ++ after)) :
    piece.IsHarmless after := by
  rintro part rfl hquote hcloses
  have hshown := h id
  simp only [text, List.cons_append, List.append_assoc, List.nil_append] at hshown
  rw [mask_cons_of_ne (by decide), List.cons_prefix_cons] at hshown
  cases part with
  | plain c hc =>
    obtain rfl : '"' = c := by simpa [LiteralPart.text] using hquote
    simp [LiteralPart.text, mask_quote_apostrophe hcloses] at hshown
  | escape c =>
    obtain rfl : '"' = c := by simpa [LiteralPart.text] using hquote
    simp only [LiteralPart.text, List.cons_append, List.nil_append] at hshown
    rw [mask_cons_of_ne (by decide)] at hshown
    simp [mask_quote_apostrophe hcloses] at hshown

/-! ### Masking pieces -/

/-- The code of a text shows exactly if its first piece is harmless and the code
behind that piece shows by itself. -/
theorem showsCode_cons (piece : CodeOrLiteral) (pieces : List CodeOrLiteral) :
    ShowsCode (piece :: pieces) ↔ piece.IsHarmless (textOf pieces) ∧ ShowsCode pieces := by
  -- behind a harmless piece the masked text is that of the other pieces
  have hdrop : piece.IsHarmless (textOf pieces) → ∀ before : List CodeOrLiteral,
      (mask (textOf (piece :: pieces))).drop (textOf (piece :: before)).length =
        (mask (textOf pieces)).drop (textOf before).length := by
    intro hharmless before
    rw [textOf_cons piece pieces, mask_append hharmless, textOf_cons, List.length_append,
      ← length_image, List.drop_length_add_append]
  constructor
  · intro h
    have hharmless : piece.IsHarmless (textOf pieces) :=
      isHarmless_of_prefix fun hstring => h [] piece pieces rfl hstring
    refine ⟨hharmless, fun before other after hsplit hstring => ?_⟩
    rw [← hdrop hharmless before]
    exact h (piece :: before) other after (congrArg (piece :: ·) hsplit) hstring
  · rintro ⟨hharmless, h⟩ before other after hsplit hstring
    cases before with
    | nil =>
      obtain ⟨rfl, rfl⟩ := List.cons.inj hsplit
      have himage := mask_append hharmless
      rw [image_eq_text hstring] at himage
      exact ⟨mask (textOf pieces), himage.symm⟩
    | cons first before =>
      obtain ⟨rfl, rfl⟩ := List.cons.inj hsplit
      rw [hdrop hharmless before]
      exact h before other after rfl hstring

theorem showsCode_iff (pieces : List CodeOrLiteral) :
    ShowsCode pieces ↔
      ∀ before piece after, pieces = before ++ piece :: after →
        piece.IsHarmless (textOf after) := by
  induction pieces with
  | nil =>
    exact iff_of_true (fun before piece after hsplit => absurd hsplit (by simp))
      fun before piece after hsplit => absurd hsplit (by simp)
  | cons piece pieces ih =>
    rw [showsCode_cons, ih]
    constructor
    · rintro ⟨hharmless, h⟩ before other after hsplit
      cases before with
      | nil =>
        obtain ⟨rfl, rfl⟩ := List.cons.inj hsplit
        exact hharmless
      | cons first before => exact h before other after (List.cons.inj hsplit).2
    · intro h
      exact ⟨h [] piece pieces rfl, fun before other after hsplit =>
        h (piece :: before) other after (congrArg (piece :: ·) hsplit)⟩

/-- Where the code of a text shows, masking hides the bodies of its string
literals and nothing else. -/
theorem mask_textOf {pieces : List CodeOrLiteral} (h : ShowsCode pieces) :
    mask (textOf pieces) = pieces.flatMap image := by
  induction pieces with
  | nil => rfl
  | cons piece pieces ih =>
    obtain ⟨hharmless, hrest⟩ := (showsCode_cons piece pieces).mp h
    rw [textOf_cons, mask_append hharmless, ih hrest, List.flatMap_cons]

end CodeOrLiteral

open CodeOrLiteral

/-- **When masking leaves character literals alone.** All code and all character
literals of a text stand in the masked text exactly if behind no character
literal with a quote the rest of a string literal follows; and then masking hides
the bodies of the string literals and nothing else. -/
theorem character_literals_shown_iff (pieces : List CodeOrLiteral) :
    (ShowsCode pieces ↔
      ∀ before part after, pieces = before ++ .character part :: after → '"' ∈ part.text →
        ¬ ClosesLiteral (textOf after)) ∧
    (ShowsCode pieces → mask (textOf pieces) = pieces.flatMap image) := by
  refine ⟨(showsCode_iff pieces).trans ⟨fun h before part after hsplit => ?_,
    fun h before piece after hsplit => ?_⟩, mask_textOf⟩
  · exact h before (.character part) after hsplit part rfl
  · rintro part rfl
    exact h before part after hsplit

/-- A call with two quotes: `f('"', '"');`. -/
def callWithQuotes : List CodeOrLiteral :=
  [.code 'f' (by decide), .code '(' (by decide), .character (.plain '"' (by decide)),
    .code ',' (by decide), .code ' ' (by decide), .character (.plain '"' (by decide)),
    .code ')' (by decide), .code ';' (by decide)]

/-- The code between two character literals with quotes is hidden, and with it the
apostrophe that closes the first of them. -/
theorem mask_hides_character_literal : ¬ ∀ pieces : List CodeOrLiteral, ShowsCode pieces := by
  intro h
  have hshown :=
    h callWithQuotes (callWithQuotes.take 2) (.character (.plain '"' (by decide))) _ rfl id
  exact absurd hshown (by decide)

end StyleCheck.Source
