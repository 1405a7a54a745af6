/-
# Words and blanks at the head of a text

No character is both blank and a word character, so what is read off the head
of a text word by word and blank by blank does not depend on how the text goes
on behind a place where a word and blanks have ended.

`WholeWord name text offset` says that `name` stands at `offset` as a whole
word: its characters are word characters and those around it are not. Every
whole word is among the occurrences that a search finds
(`mem_occurrences_of_wholeWord`).

Key definitions: `WholeWord`, `AwaitsName`, `EndsAwaiting`.
Key theorems: `isWord_eq_false_of_isBlank`, `trim_eq_nil_iff`,
`trim_eq_self_iff`, `mem_occurrences_of_wholeWord`, `AwaitsName.leadingWord_append`,
`AwaitsName.afterWord_append`.
-/
import Mathlib.Data.List.TakeWhile
import StyleCheck.Source.Signature
import StyleCheck.Source.Symbol
import StyleCheck.Text.Digit

namespace StyleCheck.Text

/-! ### The classes of characters -/

theorem isBlank_iff (c : Char) : isBlank c = true ↔
    (9 ≤ c.toNat ∧ c.toNat ≤ 13) ∨ (28 ≤ c.toNat ∧ c.toNat ≤ 32) ∨ c.toNat = 0x85 ∨
      c.toNat = 0xA0 ∨ c.toNat = 0x1680 ∨ (0x2000 ≤ c.toNat ∧ c.toNat ≤ 0x200A) ∨
      c.toNat = 0x2028 ∨ c.toNat = 0x2029 ∨ c.toNat = 0x202F ∨ c.toNat = 0x205F ∨
      c.toNat = 0x3000 := by
  simp [isBlank, or_assoc]

/-- The code points of the blanks outside ASCII. -/
def wideBlanks : List Nat :=
  [0x85, 0xA0, 0x1680, 0x2000, 0x2001, 0x2002, 0x2003, 0x2004, 0x2005, 0x2006, 0x2007, 0x2008,
   0x2009, 0x200A, 0x2028, 0x2029, 0x202F, 0x205F, 0x3000]

theorem wideBlanks_outside_wordRanges :
    ∀ n ∈ wideBlanks, wordRanges.any (fun r => r.1 ≤ n && n ≤ r.2) = false := by
  decide +kernel

theorem toNat_ge_of_isWord {c : Char} (h : isWord c = true) : 48 ≤ c.toNat := by
  have hbelow : ∀ n < 48, isWord (Char.ofNat n) = false := by decide
  rw [← Nat.not_lt]
  intro hlt
  have hfalse := hbelow c.toNat hlt
  rw [Char.ofNat_toNat, h] at hfalse
  exact Bool.false_ne_true hfalse.symm

theorem isWord_eq_false_of_isBlank {c : Char} (h : isBlank c = true) : isWord c = false := by
  rw [isBlank_iff] at h
  by_cases hascii : c.toNat < 128
  · rw [Bool.eq_false_iff]
    intro hw
    have := toNat_ge_of_isWord hw
    omega
  · have hmem : c.toNat ∈ wideBlanks := by
      simp only [wideBlanks, List.mem_cons, List.not_mem_nil, or_false]
      omega
    unfold isWord
    rw [if_neg hascii]
    exact wideBlanks_outside_wordRanges _ hmem

theorem isBlank_eq_false_of_isWord {c : Char} (h : isWord c = true) : isBlank c = false := by
  rw [Bool.eq_false_iff]
  intro hb
  rw [isWord_eq_false_of_isBlank hb] at h
  exact Bool.false_ne_true h

theorem wideBlanks_outside_digits : ∀ n ∈ wideBlanks,
    (digitZeros.find? fun first => first ≤ n && n < first + 10) = none := by
  decide

theorem isBlank_eq_false_of_isDigit {c : Char} (h : isDigit c = true) : isBlank c = false := by
  rw [Bool.eq_false_iff]
  intro hblank
  rw [isBlank_iff] at hblank
  unfold isDigit digitValue? at h
  split at h
  · split at h
    · rename_i hdigit
      simp only [Char.isDigit, Bool.and_eq_true, decide_eq_true_eq] at hdigit
      have hlow : 48 ≤ c.toNat := hdigit.1
      omega
    · simp at h
  · have hmem : c.toNat ∈ wideBlanks := by
      simp only [wideBlanks, List.mem_cons, List.not_mem_nil, or_false]
      omega
    rw [wideBlanks_outside_digits _ hmem] at h
    simp at h

theorem ne_of_isWord {c d : Char} (hc : isWord c = true) (hd : isWord d = false) : c ≠ d := by
  rintro rfl
  rw [hc] at hd
  exact Bool.false_ne_true hd.symm

theorem not_mem_of_word {w : List Char} {c : Char} (hw : ∀ d ∈ w, isWord d = true)
    (hc : isWord c = false) : c ∉ w := by
  intro hmem
  rw [hw c hmem] at hc
  exact Bool.false_ne_true hc.symm

end StyleCheck.Text

namespace StyleCheck.Source

open Text

/-! ### The head of a text -/

theorem exists_cut_of_getElem? {α : Type} {items : List α} {i : Nat} {x : α}
    (h : items[i]? = some x) : ∃ before after, items = before ++ x :: after ∧ before.length = i := by
  obtain ⟨hlt, hx⟩ := List.getElem?_eq_some_iff.mp h
  refine ⟨items.take i, items.drop (i + 1), ?_, List.length_take_of_le (Nat.le_of_lt hlt)⟩
  rw [← hx, ← List.drop_eq_getElem_cons hlt, List.take_append_drop]

theorem takeWhile_append_of_mem {α : Type} {p : α → Bool} {x : List α} (y : List α)
    (h : ∃ c ∈ x, p c = false) : (x ++ y).takeWhile p = x.takeWhile p := by
  obtain ⟨c, hc, hp⟩ := h
  rw [List.takeWhile_append, if_neg]
  intro hlen
  have hall : x.takeWhile p = x := (List.takeWhile_prefix p).eq_of_length hlen
  have hpos := List.takeWhile_eq_self_iff.mp hall c hc
  simp [hp] at hpos

theorem dropWhile_append_of_mem {α : Type} {p : α → Bool} {x : List α} (y : List α)
    (h : ∃ c ∈ x, p c = false) : (x ++ y).dropWhile p = x.dropWhile p ++ y := by
  obtain ⟨c, hc, hp⟩ := h
  rw [List.dropWhile_append, if_neg]
  intro hnil
  have hpos := List.dropWhile_eq_nil_iff.mp (List.isEmpty_iff.mp hnil) c hc
  simp [hp] at hpos

section Stop

variable {α : Type} [DecidableEq α] {c : α} {u : List α} (v : List α) (h : c ∉ u)

include h

theorem takeWhile_append_stop : (u ++ c :: v).takeWhile (· ≠ c) = u := by
  have hu : ∀ d ∈ u, decide (d ≠ c) = true := fun d hd => decide_eq_true fun heq => h (heq ▸ hd)
  rw [List.takeWhile_append_of_pos hu, List.takeWhile_cons_of_neg (by simp), List.append_nil]

theorem dropWhile_append_stop : (u ++ c :: v).dropWhile (· ≠ c) = c :: v := by
  have hu : ∀ d ∈ u, decide (d ≠ c) = true := fun d hd => decide_eq_true fun heq => h (heq ▸ hd)
  rw [List.dropWhile_append_of_pos hu, List.dropWhile_cons_of_neg (by simp)]

end Stop

theorem startsWord_iff {text : List Char} :
    startsWord text = true ↔ ∃ c cs, text = c :: cs ∧ isWord c = true := by
  cases text with
  | nil => simp [startsWord]
  | cons c cs => simp [startsWord]

theorem startsWord_append {x : List Char} (y : List Char) (h : x ≠ []) :
    startsWord (x ++ y) = startsWord x := by
  cases x with
  | nil => exact absurd rfl h
  | cons c cs => rfl

theorem startsWord_append_of {x : List Char} (z : List Char) (h : startsWord x = true) :
    startsWord (x ++ z) = true := by
  obtain ⟨c, x, rfl, hc⟩ := startsWord_iff.mp h
  exact hc

theorem startsWord_of_word {w : List Char} (hne : w ≠ []) (hw : ∀ c ∈ w, isWord c = true) :
    startsWord w = true := by
  obtain ⟨c, cs, rfl⟩ := List.exists_cons_of_ne_nil hne
  exact hw c List.mem_cons_self

theorem trimStart_of_startsWord {z : List Char} (h : startsWord z = true) : trimStart z = z := by
  obtain ⟨c, z, rfl, hc⟩ := startsWord_iff.mp h
  exact List.dropWhile_cons_of_neg (by simp [isBlank_eq_false_of_isWord hc])

theorem trimStart_append {y : List Char} (x : List Char) (hy : startsWord y = true) :
    trimStart (x ++ y) = trimStart x ++ y := by
  obtain ⟨c, cs, rfl, hc⟩ := startsWord_iff.mp hy
  unfold trimStart
  rw [List.dropWhile_append]
  split
  · rename_i hnil
    rw [List.isEmpty_iff.mp hnil, List.dropWhile_cons_of_neg (by simp [isBlank_eq_false_of_isWord hc])]
    rfl
  · rfl

theorem leadingBlanks_append {y : List Char} (x : List Char) (hy : startsWord y = true) :
    leadingBlanks (x ++ y) = leadingBlanks x := by
  obtain ⟨c, cs, rfl, hc⟩ := startsWord_iff.mp hy
  unfold leadingBlanks
  rw [List.takeWhile_append, List.takeWhile_cons_of_neg (by simp [isBlank_eq_false_of_isWord hc]),
    List.append_nil]
  split
  · rename_i hlen
    exact ((List.takeWhile_prefix isBlank).eq_of_length hlen).symm
  · rfl

theorem leadingWord_append_afterWord (text : List Char) :
    leadingWord text ++ afterWord text = text :=
  List.takeWhile_append_dropWhile

theorem leadingBlanks_append_trimStart (text : List Char) :
    leadingBlanks text ++ trimStart text = text :=
  List.takeWhile_append_dropWhile

theorem isWord_of_mem_leadingWord {text : List Char} {c : Char} (h : c ∈ leadingWord text) :
    isWord c = true :=
  List.all_eq_true.mp List.all_takeWhile c h

theorem isBlank_of_mem_leadingBlanks {text : List Char} {c : Char} (h : c ∈ leadingBlanks text) :
    isBlank c = true :=
  List.all_eq_true.mp List.all_takeWhile c h

theorem startsWord_afterWord (text : List Char) : startsWord (afterWord text) = false := by
  induction text with
  | nil => rfl
  | cons c cs ih =>
    unfold afterWord
    by_cases hc : isWord c = true
    · rw [List.dropWhile_cons_of_pos hc]
      exact ih
    · rw [List.dropWhile_cons_of_neg hc]
      simpa [startsWord] using hc

theorem leadingWord_ne_nil {text : List Char} (h : startsWord text = true) :
    leadingWord text ≠ [] := by
  obtain ⟨c, cs, rfl, hc⟩ := startsWord_iff.mp h
  simp [leadingWord, hc]

theorem leadingWord_eq_nil {text : List Char} (h : startsWord text = false) :
    leadingWord text = [] := by
  cases text with
  | nil => rfl
  | cons c text => exact List.takeWhile_cons_of_neg (by simpa [startsWord] using h)

theorem isBlank_eq_false_of_trimStart {text : List Char} {c : Char} {cs : List Char}
    (h : trimStart text = c :: cs) : isBlank c = false := by
  have := List.head?_dropWhile_not isBlank text
  unfold trimStart at h
  rw [h] at this
  simpa using this

theorem leadingWord_append_word {w : List Char} (y : List Char) (hw : ∀ c ∈ w, isWord c = true) :
    leadingWord (w ++ y) = w ++ leadingWord y :=
  List.takeWhile_append_of_pos hw

theorem afterWord_append_word {w : List Char} (y : List Char) (hw : ∀ c ∈ w, isWord c = true) :
    afterWord (w ++ y) = afterWord y :=
  List.dropWhile_append_of_pos hw

theorem leadingWord_word_append {w y : List Char} (hw : ∀ c ∈ w, isWord c = true)
    (hy : startsWord y = false) : leadingWord (w ++ y) = w := by
  rw [leadingWord_append_word y hw, leadingWord_eq_nil hy, List.append_nil]

theorem afterWord_word_append {w y : List Char} (hw : ∀ c ∈ w, isWord c = true)
    (hy : startsWord y = false) : afterWord (w ++ y) = y := by
  rw [afterWord_append_word y hw]
  cases y with
  | nil => rfl
  | cons c y => exact List.dropWhile_cons_of_neg (by simpa [startsWord] using hy)

theorem startsWord_blanks_append {blanks : List Char} (y : List Char) (hne : blanks ≠ [])
    (hblanks : ∀ c ∈ blanks, isBlank c = true) : startsWord (blanks ++ y) = false := by
  obtain ⟨b, bs, rfl⟩ := List.exists_cons_of_ne_nil hne
  exact isWord_eq_false_of_isBlank (hblanks b List.mem_cons_self)

theorem leadingBlanks_blanks_append {blanks y : List Char} {c : Char}
    (hblanks : ∀ c ∈ blanks, isBlank c = true) (hc : isBlank c = false) :
    leadingBlanks (blanks ++ c :: y) = blanks := by
  unfold leadingBlanks
  rw [List.takeWhile_append_of_pos hblanks, List.takeWhile_cons_of_neg (by simp [hc]),
    List.append_nil]

theorem trimStart_blanks_append {blanks y : List Char} {c : Char}
    (hblanks : ∀ c ∈ blanks, isBlank c = true) (hc : isBlank c = false) :
    trimStart (blanks ++ c :: y) = c :: y := by
  unfold trimStart
  rw [List.dropWhile_append_of_pos hblanks, List.dropWhile_cons_of_neg (by simp [hc])]

/-! ### Blank texts -/

theorem dropEndWhile_eq_nil_iff {α : Type} (p : α → Bool) : ∀ l : List α,
    dropEndWhile p l = [] ↔ ∀ x ∈ l, p x = true
  | [] => by simp [dropEndWhile]
  | x :: l => by
    have ih := dropEndWhile_eq_nil_iff p l
    unfold dropEndWhile
    rw [List.forall_mem_cons]
    cases hl : dropEndWhile p l with
    | nil =>
      have hall := ih.mp hl
      by_cases hx : p x = true
      · simpa [hx] using hall
      · simp [hx]
    | cons y rest =>
      have hnot : ¬ ∀ z ∈ l, p z = true := fun hall => by simp [ih.mpr hall] at hl
      simp [hnot]

theorem trim_eq_nil_iff (text : List Char) : trim text = [] ↔ ∀ c ∈ text, isBlank c = true := by
  unfold trim trimEnd
  rw [dropEndWhile_eq_nil_iff]
  constructor
  · intro h c hc
    rw [← leadingBlanks_append_trimStart text] at hc
    rcases List.mem_append.mp hc with hc | hc
    · exact isBlank_of_mem_leadingBlanks hc
    · exact h c hc
  · exact fun h c hc => h c ((List.dropWhile_sublist isBlank).mem hc)

theorem dropEndWhile_concat {α : Type} (p : α → Bool) (x : α) : ∀ l : List α,
    dropEndWhile p (l ++ [x]) = if p x then dropEndWhile p l else l ++ [x]
  | [] => rfl
  | y :: l => by
    rw [List.cons_append, dropEndWhile, dropEndWhile_concat p x l]
    by_cases hx : p x = true
    · rw [if_pos hx, if_pos hx, dropEndWhile]
    · rw [if_neg hx, if_neg hx]
      cases h : l ++ [x] with
      | nil => simp at h
      | cons z rest => rfl

theorem dropEndWhile_append_of_forall {α : Type} (p : α → Bool) {tail : List α}
    (htail : ∀ x ∈ tail, p x = true) : ∀ l : List α,
    dropEndWhile p (l ++ tail) = dropEndWhile p l
  | [] => (dropEndWhile_eq_nil_iff p tail).mpr htail
  | x :: l => by
    rw [List.cons_append, dropEndWhile, dropEndWhile_append_of_forall p htail l, dropEndWhile]

theorem exists_dropEndWhile_append {α : Type} (p : α → Bool) : ∀ l : List α,
    ∃ tail, dropEndWhile p l ++ tail = l ∧ ∀ x ∈ tail, p x = true
  | [] => ⟨[], rfl, nofun⟩
  | x :: l => by
    obtain ⟨tail, heq, htail⟩ := exists_dropEndWhile_append p l
    unfold dropEndWhile
    split
    · rename_i hnil
      rw [hnil, List.nil_append] at heq
      subst heq
      split
      · rename_i hx
        exact ⟨x :: tail, rfl, List.forall_mem_cons.mpr ⟨hx, htail⟩⟩
      · exact ⟨tail, rfl, htail⟩
    · exact ⟨tail, by rw [List.cons_append, heq], htail⟩

theorem length_dropEndWhile_le {α : Type} (p : α → Bool) : ∀ l : List α,
    (dropEndWhile p l).length ≤ l.length
  | [] => Nat.le_refl 0
  | x :: l => by
    have ih := length_dropEndWhile_le p l
    unfold dropEndWhile
    split
    · split <;> simp
    · simpa using ih

theorem dropEndWhile_eq_self_iff {α : Type} (p : α → Bool) (l : List α) :
    dropEndWhile p l = l ↔ ∀ x ∈ l.getLast?, p x = false := by
  rcases List.eq_nil_or_concat l with rfl | ⟨init, last, rfl⟩
  · simp [dropEndWhile]
  · rw [List.concat_eq_append, dropEndWhile_concat]
    by_cases hlast : p last = true
    · have hle := length_dropEndWhile_le p init
      rw [if_pos hlast]
      refine iff_of_false (fun heq => ?_) (by simp [hlast])
      rw [heq, List.length_append, List.length_singleton] at hle
      omega
    · simp [hlast]

theorem trimStart_eq_self_iff (text : List Char) :
    trimStart text = text ↔ ∀ c ∈ text.head?, isBlank c = false := by
  cases text with
  | nil => simp [trimStart]
  | cons c text =>
    by_cases hc : isBlank c = true
    · have hle := (List.dropWhile_suffix isBlank (l := text)).length_le
      refine iff_of_false (fun heq => ?_) (by simp [hc])
      rw [trimStart, List.dropWhile_cons_of_pos hc] at heq
      rw [heq, List.length_cons] at hle
      omega
    · simp [trimStart, hc]

theorem trim_eq_self_iff (text : List Char) : trim text = text ↔
    (∀ c ∈ text.head?, isBlank c = false) ∧ ∀ c ∈ text.getLast?, isBlank c = false := by
  rw [← trimStart_eq_self_iff, ← dropEndWhile_eq_self_iff]
  unfold trim trimEnd
  constructor
  · intro h
    have hsuffix : trimStart text <:+ text := List.dropWhile_suffix isBlank
    have hle := length_dropEndWhile_le isBlank (trimStart text)
    have hstart : trimStart text = text :=
      hsuffix.eq_of_length_le (by rw [h] at hle; exact hle)
    rw [hstart] at h
    exact ⟨hstart, h⟩
  · rintro ⟨hstart, hend⟩
    rw [hstart, hend]

/-! ### Where a name may follow -/

/-- The text ends with a word and blanks behind it: the next word is a new one. -/
def AwaitsName (text : List Char) : Prop :=
  ∃ before c blanks, text = before ++ c :: blanks ∧ isWord c = true ∧ blanks ≠ [] ∧
    ∀ b ∈ blanks, isBlank b = true

namespace AwaitsName

theorem append_left {x : List Char} (h : AwaitsName x) (u : List Char) : AwaitsName (u ++ x) := by
  obtain ⟨before, c, blanks, rfl, hc, hne, hb⟩ := h
  exact ⟨u ++ before, c, blanks, by simp, hc, hne, hb⟩

theorem of_append {u v : List Char} (h : AwaitsName (u ++ v)) (hv : ∃ c ∈ v, isBlank c = false) :
    AwaitsName v := by
  obtain ⟨before, c, blanks, heq, hc, hne, hb⟩ := h
  rcases List.append_eq_append_iff.mp heq with ⟨m, -, rfl⟩ | ⟨m, -, hm⟩
  · exact ⟨m, c, blanks, rfl, hc, hne, hb⟩
  · rcases m with _ | ⟨d, m⟩
    · exact ⟨[], c, blanks, by simpa using hm.symm, hc, hne, hb⟩
    · -- all of `v` lies among the blanks
      simp only [List.cons_append, List.cons.injEq] at hm
      obtain ⟨e, he, hbe⟩ := hv
      have hmem : e ∈ blanks := by rw [hm.2]; exact List.mem_append_right _ he
      rw [hb e hmem] at hbe
      simp at hbe

theorem exists_blank {x : List Char} (h : AwaitsName x) : ∃ b ∈ x, isBlank b = true := by
  obtain ⟨before, c, blanks, rfl, -, hne, hb⟩ := h
  obtain ⟨b, bs, rfl⟩ := List.exists_cons_of_ne_nil hne
  exact ⟨b, by simp, hb b List.mem_cons_self⟩

theorem exists_not_word {x : List Char} (h : AwaitsName x) : ∃ b ∈ x, isWord b = false := by
  obtain ⟨b, hmem, hb⟩ := h.exists_blank
  exact ⟨b, hmem, isWord_eq_false_of_isBlank hb⟩

theorem ne_nil {x : List Char} (h : AwaitsName x) : x ≠ [] := by
  obtain ⟨b, hmem, -⟩ := h.exists_blank
  exact List.ne_nil_of_mem hmem

theorem leadingWord_append {x : List Char} (h : AwaitsName x) (y : List Char) :
    leadingWord (x ++ y) = leadingWord x :=
  takeWhile_append_of_mem y h.exists_not_word

theorem afterWord_append {x : List Char} (h : AwaitsName x) (y : List Char) :
    afterWord (x ++ y) = afterWord x ++ y :=
  dropWhile_append_of_mem y h.exists_not_word

end AwaitsName

/-- The text is what is left of one that awaits a name: it awaits a name itself
unless it is all blank. -/
def EndsAwaiting (text : List Char) : Prop :=
  (∃ c ∈ text, isBlank c = false) → AwaitsName text

theorem AwaitsName.endsAwaiting {x : List Char} (h : AwaitsName x) : EndsAwaiting x :=
  fun _ => h

namespace EndsAwaiting

variable {u v : List Char}

theorem of_append (h : EndsAwaiting (u ++ v)) : EndsAwaiting v := by
  rintro ⟨c, hc, hblank⟩
  exact (h ⟨c, List.mem_append_right u hc, hblank⟩).of_append ⟨c, hc, hblank⟩

theorem of_suffix (h : EndsAwaiting u) (hv : v <:+ u) : EndsAwaiting v := by
  obtain ⟨w, rfl⟩ := hv
  exact h.of_append

/-- Behind the blanks the text is used up, or it awaits a name. -/
theorem trimStart (h : EndsAwaiting u) : trimStart u = [] ∨ AwaitsName (trimStart u) := by
  cases hz : Text.trimStart u with
  | nil => exact Or.inl rfl
  | cons c cs =>
    have hsuffix : c :: cs <:+ u := hz ▸ List.dropWhile_suffix isBlank
    exact Or.inr (h.of_suffix hsuffix ⟨c, List.mem_cons_self, isBlank_eq_false_of_trimStart hz⟩)

end EndsAwaiting

theorem AwaitsName.trimStart_afterWord {x : List Char} (h : AwaitsName x) :
    trimStart (afterWord x) = [] ∨ AwaitsName (trimStart (afterWord x)) :=
  (h.endsAwaiting.of_suffix (List.dropWhile_suffix isWord)).trimStart

theorem AwaitsName.trimStart {x : List Char} (h : AwaitsName x) :
    AwaitsName (trimStart x) := by
  rcases h.endsAwaiting.trimStart with hnil | hawaits
  · obtain ⟨before, c, blanks, rfl, hc, -, -⟩ := h
    have hblank := List.dropWhile_eq_nil_iff.mp hnil c (by simp)
    rw [isBlank_eq_false_of_isWord hc] at hblank
    exact absurd hblank Bool.false_ne_true
  · exact hawaits

/-! ### Whole words -/

/-- Whether a word character stands before the text that follows `before`,
where `afterAWord` says so for an empty `before`. -/
def endsWord (afterAWord : Bool) (before : List Char) : Bool :=
  (before.getLast?.map isWord).getD afterAWord

theorem endsWord_cons (afterAWord : Bool) (c : Char) (before : List Char) :
    endsWord afterAWord (c :: before) = endsWord (isWord c) before := by
  cases before with
  | nil => rfl
  | cons d before => simp [endsWord, List.getLast?_cons]

theorem endsWord_append (a : Bool) (u v : List Char) :
    endsWord a (u ++ v) = endsWord (endsWord a u) v := by
  induction u generalizing a with
  | nil => rfl
  | cons c u ih => rw [List.cons_append, endsWord_cons, endsWord_cons, ih]

theorem endsWord_of_word (a : Bool) {w : List Char} (hne : w ≠ [])
    (hw : ∀ c ∈ w, isWord c = true) : endsWord a w = true := by
  unfold endsWord
  rw [List.getLast?_eq_some_getLast hne]
  exact hw _ (List.getLast_mem hne)

theorem AwaitsName.endsWord {x : List Char} (h : AwaitsName x) (a : Bool) :
    endsWord a x = false := by
  obtain ⟨before, c, blanks, rfl, -, hne, hb⟩ := h
  rw [endsWord_append, endsWord_cons]
  unfold Source.endsWord
  rw [List.getLast?_eq_some_getLast hne]
  exact isWord_eq_false_of_isBlank (hb _ (List.getLast_mem hne))

/-- `name` stands at `offset` of a text as a whole word: word characters with
none before and none behind them. -/
def WholeWord (name text : List Char) (offset : Nat) : Prop :=
  ∃ before after, text = before ++ (name ++ after) ∧ before.length = offset ∧ name ≠ [] ∧
    (∀ c ∈ name, isWord c = true) ∧ endsWord false before = false ∧ startsWord after = false

theorem AwaitsName.wholeWord {x y : List Char} (hx : AwaitsName x) (hy : startsWord y = true) :
    WholeWord (leadingWord y) (x ++ y) x.length :=
  ⟨x, afterWord y, by rw [leadingWord_append_afterWord], rfl, leadingWord_ne_nil hy,
    fun _ hc => isWord_of_mem_leadingWord hc, hx.endsWord false, startsWord_afterWord y⟩

theorem dropWord?_append (name rest : List Char) : dropWord? name (name ++ rest) = some rest := by
  induction name with
  | nil => cases rest <;> rfl
  | cons c name ih => simpa [dropWord?] using ih

theorem eq_append_of_dropWord? {name text rest : List Char} (h : dropWord? name text = some rest) :
    text = name ++ rest := by
  induction name generalizing text with
  | nil => cases text <;> simpa [dropWord?] using h
  | cons a name ih =>
    cases text with
    | nil => simp [dropWord?] at h
    | cons b text =>
      simp only [dropWord?] at h
      split at h
      · rename_i hab
        rw [hab, ih h]
        rfl
      · simp at h

/-- What has no blank in it is looked for at the head of a text up to the first
blank only. -/
theorem dropWord?_append_of_blank {w q : List Char} (z : List Char)
    (hw : w.any isBlank = false) (hq : ∃ b ∈ q, isBlank b = true) :
    dropWord? w (q ++ z) = (dropWord? w q).map (· ++ z) := by
  induction w generalizing q with
  | nil => cases q <;> cases z <;> rfl
  | cons a w ih =>
    rw [List.any_cons, Bool.or_eq_false_iff] at hw
    obtain ⟨ha, hw⟩ := hw
    obtain ⟨b, hb, hblank⟩ := hq
    cases q with
    | nil => simp at hb
    | cons d q =>
      rw [List.cons_append, dropWord?, dropWord?]
      split
      · rename_i hd
        have hne : b ≠ d := by
          rintro rfl
          rw [← hd, ha] at hblank
          exact Bool.false_ne_true hblank
        exact ih hw ⟨b, List.mem_of_ne_of_mem hne hb, hblank⟩
      · rfl

theorem isPrefixOf_eq_isSome_dropWord? (w text : List Char) :
    w.isPrefixOf text = (dropWord? w text).isSome := by
  induction w generalizing text with
  | nil => cases text <;> rfl
  | cons a w ih =>
    cases text with
    | nil => rfl
    | cons b text =>
      rw [List.isPrefixOf, dropWord?, ih]
      by_cases hab : a = b
      · simp [hab]
      · simp [hab]

/-- A whole word fits behind an earlier occurrence: the character before it is
no word character, and the occurrence has nothing else. -/
theorem length_le_of_occursHere {name before after : List Char} {a : Bool}
    (hw : ∀ c ∈ name, isWord c = true) (hne : before ≠ []) (hb : endsWord a before = false)
    (ho : occursHere name a (before ++ (name ++ after)) = true) : name.length ≤ before.length := by
  rw [← Nat.not_lt]
  intro hlt
  simp only [occursHere, Bool.and_eq_true] at ho
  obtain ⟨-, ho⟩ := ho
  split at ho
  · rename_i rest hrest
    have heq := eq_append_of_dropWord? hrest
    have hpre : before <+: name := by
      refine List.prefix_of_prefix_length_le (List.prefix_append before (name ++ after)) ?_
        (Nat.le_of_lt hlt)
      rw [heq]
      exact List.prefix_append name rest
    rw [endsWord_of_word a hne fun c hc => hw c (hpre.subset hc)] at hb
    exact Bool.false_ne_true hb.symm
  · simp at ho

theorem mem_occurrencesFrom {name after : List Char} (hne : name ≠ [])
    (hw : ∀ c ∈ name, isWord c = true) (hafter : startsWord after = false) :
    ∀ (before : List Char) (skip offset : Nat) (a : Bool), skip ≤ before.length →
      endsWord a before = false →
      offset + before.length ∈ occurrencesFrom name skip offset a (before ++ (name ++ after))
  | [], skip, offset, a, hskip, ha => by
    obtain ⟨c, cs, rfl⟩ := List.exists_cons_of_ne_nil hne
    have hc : isWord c = true := hw c List.mem_cons_self
    have hskip0 : skip = 0 := by simpa using hskip
    have ha0 : a = false := ha
    subst ha0
    have hlast : ((c :: cs).getLast?.map isWord).getD false = true :=
      endsWord_of_word false hne hw
    have hstart : startsWord (c :: cs ++ after) = true := hc
    have hhere : occursHere (c :: cs) false (c :: cs ++ after) = true := by
      simp only [occursHere, dropWord?_append, hlast, atBoundary, hstart, hafter]
      rfl
    subst hskip0
    simp only [List.nil_append, List.length_nil, Nat.add_zero, List.cons_append] at hhere ⊢
    rw [occurrencesFrom, if_pos hhere]
    exact List.mem_cons_self
  | c :: before, skip, offset, a, hskip, ha => by
    rw [endsWord_cons] at ha
    have hoff : offset + (c :: before).length = (offset + 1) + before.length := by
      simp only [List.length_cons]; omega
    rw [hoff, List.cons_append]
    have ih := mem_occurrencesFrom hne hw hafter before
    cases skip with
    | succ skip =>
      rw [occurrencesFrom]
      exact ih skip (offset + 1) (isWord c) (by simpa using hskip) ha
    | zero =>
      rw [occurrencesFrom]
      split
      · rename_i ho
        have hle := length_le_of_occursHere hw (List.cons_ne_nil c before)
          (by rw [endsWord_cons]; exact ha) ho
        refine List.mem_cons_of_mem _ (ih _ _ _ ?_ ha)
        simp only [List.length_cons] at hle
        omega
      · exact ih 0 _ _ (Nat.zero_le _) ha

/-- **A search finds every whole word.** -/
theorem mem_occurrences_of_wholeWord {name text : List Char} {offset : Nat}
    (h : WholeWord name text offset) : offset ∈ occurrences name text := by
  obtain ⟨before, after, rfl, rfl, hne, hw, hb, hafter⟩ := h
  have := mem_occurrencesFrom hne hw hafter before 0 0 false (Nat.zero_le _) hb
  simpa [occurrences] using this

end StyleCheck.Source
