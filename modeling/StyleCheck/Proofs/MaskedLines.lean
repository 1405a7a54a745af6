/-
# The lines of the masked text

Masking keeps the newlines of code and of comments, and hides those in string
literals, where an escape may stand before the end of a line. So the masked
text has a newline exactly where the source has one outside its literals, and
an offset has the same line and column in both exactly when no newline before
it is in a literal (`mask_keeps_lines_iff`).

Key definitions: `LiteralAt`, `newlines`.
Key theorems: `newline_mask_iff`, `positionAt_eq_iff`, `mask_keeps_lines_iff`.
-/
import StyleCheck.Proofs.Tokens
import StyleCheck.Source.Document

namespace StyleCheck.Source

open Text

/-! ### Newlines in tokens -/

theorem commentBlank_eq_newline {c : Char} : commentBlank c = '\n' ↔ c = '\n' := by
  unfold commentBlank
  split
  · simp_all
  · simp_all

theorem Token.newline_masked_iff (t : Token) (i : Nat) :
    t.masked[i]? = some '\n' ↔ t.text[i]? = some '\n' ∧ ¬ t.IsLiteral := by
  have hcomment : ∀ (a b : Char) (body : List Char), a ≠ '\n' → b ≠ '\n' →
      ((' ' :: ' ' :: body.map commentBlank)[i]? = some '\n' ↔
        (a :: b :: body)[i]? = some '\n') := by
    intro a b body ha hb
    rcases i with _ | _ | i
    · simp [ha]
    · simp [hb]
    · simp [commentBlank_eq_newline]
  cases t with
  | code c => simp [masked, text, IsLiteral]
  | literal body =>
    have hmasked : '\n' ∉ (literal body).masked := by
      simp [masked]
    refine ⟨fun h => absurd (List.mem_of_getElem? h) hmasked, fun h => ?_⟩
    exact absurd ⟨body, rfl⟩ h.2
  | lineComment body =>
    rw [masked, text, hcomment '/' '/' body (by decide) (by decide)]
    simp [IsLiteral]
  | blockComment body =>
    rw [masked, text, hcomment '/' '*' body (by decide) (by decide)]
    simp [IsLiteral]

/-- The offset lies in a string literal, one of the tokens. -/
def LiteralAt (ts : List Token) (offset : Nat) : Prop :=
  ∃ before body after, ts = before ++ .literal body :: after ∧
    (before.flatMap Token.text).length ≤ offset ∧
    offset < (before.flatMap Token.text).length + (Token.literal body).text.length

theorem literalAt_cons (t : Token) (ts : List Token) (offset : Nat) :
    LiteralAt (t :: ts) offset ↔
      (offset < t.text.length ∧ t.IsLiteral) ∨
        (t.text.length ≤ offset ∧ LiteralAt ts (offset - t.text.length)) := by
  constructor
  · rintro ⟨before, body, after, heq, hle, hlt⟩
    cases before with
    | nil =>
      obtain ⟨rfl, rfl⟩ := List.cons.inj heq
      exact Or.inl ⟨by simpa using hlt, body, rfl⟩
    | cons u before =>
      obtain ⟨rfl, rfl⟩ := List.cons.inj heq
      rw [List.flatMap_cons, List.length_append] at hle hlt
      exact Or.inr ⟨by omega, before, body, after, rfl, by omega, by omega⟩
  · rintro (⟨hlt, body, rfl⟩ | ⟨hle, before, body, after, rfl, hbefore, hlt⟩)
    · exact ⟨[], body, ts, rfl, by simp, by simpa using hlt⟩
    · refine ⟨t :: before, body, after, rfl, ?_, ?_⟩
      · rw [List.flatMap_cons, List.length_append]; omega
      · rw [List.flatMap_cons, List.length_append]; omega

/-- The newlines that show are those outside the literals. -/
theorem newline_flatMap_iff : ∀ (ts : List Token) (i : Nat),
    (ts.flatMap Token.masked)[i]? = some '\n' ↔
      (ts.flatMap Token.text)[i]? = some '\n' ∧ ¬ LiteralAt ts i
  | [], i => by simp
  | t :: ts, i => by
    rw [List.flatMap_cons, List.flatMap_cons, literalAt_cons]
    rcases Nat.lt_or_ge i t.text.length with hlt | hge
    · rw [List.getElem?_append_left (t.length_masked ▸ hlt), List.getElem?_append_left hlt,
        t.newline_masked_iff]
      simp [hlt, Nat.not_le.mpr hlt]
    · rw [List.getElem?_append_right (t.length_masked ▸ hge), List.getElem?_append_right hge,
        t.length_masked, newline_flatMap_iff ts]
      simp [hge, Nat.not_lt.mpr hge]

/-- **A newline shows exactly where the text has one outside its literals.** -/
theorem newline_mask_iff (text : List Char) (i : Nat) :
    (mask text)[i]? = some '\n' ↔ text[i]? = some '\n' ∧ ¬ LiteralAt (tokens text) i := by
  have h := newline_flatMap_iff (tokens text) i
  rwa [← mask_eq_flatMap, flatMap_text_tokens] at h

theorem newline_in_literal_iff (text : List Char) :
    (∀ i, text[i]? = some '\n' → ¬ LiteralAt (tokens text) i) ↔
      ∀ body, Token.literal body ∈ tokens text → '\n' ∉ body := by
  constructor
  · intro h body hbody hnewline
    obtain ⟨before, after, hsplit⟩ := List.append_of_mem hbody
    obtain ⟨j, hlt, hj⟩ := List.getElem_of_mem hnewline
    have htext := flatMap_text_tokens text
    rw [hsplit, List.flatMap_append, List.flatMap_cons] at htext
    refine h ((before.flatMap Token.text).length + (j + 1)) ?_
      ⟨before, body, after, hsplit, by omega, ?_⟩
    · rw [← htext, List.getElem?_append_right (by omega), Nat.add_sub_cancel_left, Token.text,
        List.cons_append, List.getElem?_cons_succ, List.append_assoc, List.getElem?_append_left hlt,
        List.getElem?_eq_getElem hlt, hj]
    · simp only [Token.text, List.length_cons, List.length_append, List.length_nil]
      omega
  · rintro h i hi ⟨before, body, after, hsplit, hle, hlt⟩
    have htext := flatMap_text_tokens text
    rw [hsplit, List.flatMap_append, List.flatMap_cons] at htext
    rw [← htext, List.getElem?_append_right hle, List.getElem?_append_left (by omega)] at hi
    have hmem : '\n' ∈ (Token.literal body).text := List.mem_of_getElem? hi
    refine h body (by rw [hsplit]; simp) ?_
    simpa [Token.text] using hmem

/-! ### Lines and columns -/

/-- Which characters of a text are newlines. -/
def newlines (text : List Char) : List Bool :=
  text.map (· == '\n')

theorem newlineCount_eq (text : List Char) : newlineCount text = (newlines text).count true := by
  unfold newlineCount newlines
  induction text with
  | nil => rfl
  | cons c text ih =>
    rw [List.map_cons, List.count_cons, List.count_cons, ih]
    simp

theorem getElem?_newlines_take (text : List Char) (offset i : Nat) :
    (newlines (text.take offset))[i]? = some true ↔ i < offset ∧ text[i]? = some '\n' := by
  unfold newlines
  rw [List.getElem?_map, List.getElem?_take, Option.map_eq_some_iff]
  split
  · rename_i hlt
    simp [hlt]
  · rename_i hge
    simp [hge]

/-- The position of an offset depends on the newlines before it only. -/
theorem positionAt_newlines (d : Document) (offset : Nat) :
    d.positionAt offset = ⟨(newlines (d.text.take offset)).count true,
      ((newlines (d.text.take offset)).reverse.takeWhile (! ·)).length⟩ := by
  have hcolumn : (fun c : Char => decide (c ≠ '\n')) = (! ·) ∘ (· == '\n') := by
    funext c
    by_cases hc : c = '\n'
    · simp [hc]
    · simp [hc]
  unfold Document.positionAt
  simp only [Int.toNat_natCast, newlineCount_eq, hcolumn]
  unfold newlines
  rw [← List.map_reverse, List.takeWhile_map, List.length_map]

theorem count_le_of_marks : ∀ {a b : List Bool}, a.length = b.length →
    (∀ i : Nat, a[i]? = some true → b[i]? = some true) → a.count true ≤ b.count true
  | [], [], _, _ => Nat.le_refl _
  | x :: a, y :: b, hlen, himp => by
    have hle := count_le_of_marks (Nat.succ.inj hlen) fun i => himp (i + 1)
    have hhead : x = true → y = true := by simpa using himp 0
    cases x with
    | false =>
      rw [List.count_cons_of_ne (by decide), List.count_cons]
      omega
    | true =>
      rw [hhead rfl, List.count_cons_self, List.count_cons_self]
      omega

/-- Marks that are all among other marks, and as many, are the same marks. -/
theorem eq_of_count_eq : ∀ {a b : List Bool}, a.length = b.length →
    (∀ i : Nat, a[i]? = some true → b[i]? = some true) → a.count true = b.count true → a = b
  | [], [], _, _, _ => rfl
  | x :: a, y :: b, hlen, himp, hcount => by
    have hle := count_le_of_marks (Nat.succ.inj hlen) fun i => himp (i + 1)
    have hhead : x = true → y = true := by simpa using himp 0
    have hxy : x = y := by
      cases x with
      | false =>
        cases y with
        | false => rfl
        | true =>
          -- one mark more on the right, and no fewer behind it
          rw [List.count_cons_self, List.count_cons_of_ne (by decide)] at hcount
          omega
      | true => exact (hhead rfl).symm
    subst hxy
    rw [List.count_cons, List.count_cons] at hcount
    rw [eq_of_count_eq (Nat.succ.inj hlen) (fun i => himp (i + 1)) (by omega)]

/-- An offset has the same position in two texts of the same length, the
newlines of the one being newlines of the other, exactly if the newlines before
it are the same. -/
theorem positionAt_eq_iff {d e : Document} (hlen : d.text.length = e.text.length)
    (himp : ∀ i : Nat, d.text[i]? = some '\n' → e.text[i]? = some '\n') (offset : Nat) :
    d.positionAt offset = e.positionAt offset ↔
      ∀ i < offset, e.text[i]? = some '\n' → d.text[i]? = some '\n' := by
  rw [positionAt_newlines, positionAt_newlines]
  have hlength : (newlines (d.text.take offset)).length = (newlines (e.text.take offset)).length := by
    simp [newlines, hlen]
  have hmarks : ∀ i : Nat, (newlines (d.text.take offset))[i]? = some true →
      (newlines (e.text.take offset))[i]? = some true := by
    intro i
    rw [getElem?_newlines_take, getElem?_newlines_take]
    exact fun h => ⟨h.1, himp i h.2⟩
  constructor
  · intro h i hi hnewline
    have hcount := Int.ofNat.inj (congrArg Position.line h)
    have hmark := (getElem?_newlines_take e.text offset i).mpr ⟨hi, hnewline⟩
    rw [← eq_of_count_eq hlength hmarks hcount, getElem?_newlines_take] at hmark
    exact hmark.2
  · intro h
    have hback : ∀ i : Nat, (newlines (e.text.take offset))[i]? = some true →
        (newlines (d.text.take offset))[i]? = some true := by
      intro i
      rw [getElem?_newlines_take, getElem?_newlines_take]
      exact fun hi => ⟨hi.1, h i hi.1 hi.2⟩
    have hcount := Nat.le_antisymm (count_le_of_marks hlength hmarks)
      (count_le_of_marks hlength.symm hback)
    rw [eq_of_count_eq hlength hmarks hcount]

/-- **When masking keeps the lines of a text.** A newline shows exactly where
the text has one outside its string literals. So the newlines of the masked
text are those of the text exactly if no literal has one in its body, and an
offset has the same line and column in both exactly if no newline before it is
in a literal. -/
theorem mask_keeps_lines_iff (text : List Char) :
    (∀ i : Nat, (mask text)[i]? = some '\n' ↔
      text[i]? = some '\n' ∧ ¬ LiteralAt (tokens text) i) ∧
    ((∀ i : Nat, (mask text)[i]? = some '\n' ↔ text[i]? = some '\n') ↔
      ∀ body, Token.literal body ∈ tokens text → '\n' ∉ body) ∧
    ∀ offset : Nat,
      ({ text := mask text } : Document).positionAt offset =
        ({ text := text } : Document).positionAt offset ↔
      ∀ i < offset, text[i]? = some '\n' → ¬ LiteralAt (tokens text) i := by
  refine ⟨newline_mask_iff text, ?_, fun offset => ?_⟩
  · rw [← newline_in_literal_iff]
    refine forall_congr' fun i => ?_
    rw [newline_mask_iff]
    exact ⟨fun h hi => (h.mpr hi).2, fun h => ⟨fun hi => hi.1, fun hi => ⟨hi, h hi⟩⟩⟩
  · rw [positionAt_eq_iff (length_mask text) (fun i hi => ((newline_mask_iff text i).mp hi).1)]
    refine forall_congr' fun i => forall_congr' fun _ => forall_congr' fun hi => ?_
    exact ⟨fun h => ((newline_mask_iff text i).mp h).2,
      fun h => (newline_mask_iff text i).mpr ⟨hi, h⟩⟩

/-- A literal that goes on behind an escaped newline, and the line is lost. -/
theorem mask_hides_escaped_newline :
    ¬ ∀ (text : List Char) (i : Nat), (mask text)[i]? = some '\n' ↔ text[i]? = some '\n' := by
  intro h
  have hshown : (mask "\"a\\\nb\"".toList)[3]? = some '\n' := (h _ 3).mpr rfl
  exact absurd hshown (by decide)

end StyleCheck.Source
