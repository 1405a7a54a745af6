/-
# Scanning a text with a longer name

A text is cut in front of a declared name, and word characters are inserted
there. A scan of the longer text gives the readings of the old one, each in its
place: what lies behind the cut has moved by the length of the insertion.

The argument is one about scans (`scanFrom_insert`), for a shape that is read
alike on both texts (`InsertsAlike`): before the cut because no reading looks
at the name itself, at the cut because no reading begins with the name, inside
the name because none begins in a word, and behind it because only the offset
has changed.

Key definitions: `movedAt`, `InsertsAlike`.
Key theorems: `InsertsAlike.scanFrom_here`, `scanFrom_insert`,
`DeclaresName.insert`.
-/
import StyleCheck.Proofs.Readings

namespace StyleCheck.Source

open Text

/-- An offset of a text after `width` characters are inserted at `place`. -/
def movedAt (place width offset : Nat) : Nat :=
  if place < offset then offset + width else offset

theorem movedAt_of_lt {place width offset : Nat} (h : place < offset) :
    movedAt place width offset = offset + width :=
  if_pos h

theorem movedAt_of_le {place width offset : Nat} (h : offset ≤ place) :
    movedAt place width offset = offset :=
  if_neg (Nat.not_lt.mpr h)

theorem movedAt_pred (place width offset : Nat) :
    movedAt (place + 1) width offset - 1 = movedAt place width (offset - 1) := by
  unfold movedAt
  split
  · rw [if_pos (by omega)]
    omega
  · rw [if_neg (by omega)]

theorem movedAt_succ (place width offset : Nat) :
    movedAt (place + 1) width (offset + 1) = movedAt place width offset + 1 := by
  unfold movedAt
  split
  · rw [if_pos (by omega)]
    omega
  · rw [if_neg (by omega)]

/-! ### Scans -/

section Scan

variable {α : Type} {shape : Shape α} {moved : α → α} {ins y : List Char} {place : Nat}

/-- The shape is read alike on a text and on the text with `ins` inserted at
`place`, in front of `y`; `moved` says what becomes of a reading. -/
structure InsertsAlike (shape : Shape α) (moved : α → α) (ins y : List Char) (place : Nat) :
    Prop where
  /-- No reading begins inside a word. -/
  inside : ∀ offset text, shape offset true text = none
  /-- Every reading begins with a word. -/
  start : ∀ offset a text, startsWord text = false → shape offset a text = none
  /-- A reading that begins before the place is made longer if it goes past it. -/
  before : ∀ offset x, AwaitsName x → startsWord x = true → offset + x.length = place →
    shape offset false (x ++ (ins ++ y)) = (shape offset false (x ++ y)).map fun r =>
      (moved r.1, movedAt x.length ins.length r.2)
  /-- No reading begins at the place. -/
  here : shape place false y = none ∧ shape place false (ins ++ y) = none
  /-- A reading that begins behind the place is moved. -/
  behind : ∀ offset a text, place < offset →
    shape (offset + ins.length) a text = (shape offset a text).map fun r => (moved r.1, r.2)

namespace InsertsAlike

theorem scanFrom_behind (h : InsertsAlike shape moved ins y place) :
    ∀ (text : List Char) (skip offset : Nat) (a : Bool), place < offset →
      scanFrom shape skip (offset + ins.length) a text =
        (scanFrom shape skip offset a text).map moved
  | [], skip, offset, a, hlt => rfl
  | c :: text, skip, offset, a, hlt => by
    have ih : ∀ skip', scanFrom shape skip' (offset + ins.length + 1) (isWord c) text =
        (scanFrom shape skip' (offset + 1) (isWord c) text).map moved := by
      intro skip'
      rw [Nat.add_right_comm]
      exact scanFrom_behind h text skip' (offset + 1) (isWord c) (by omega)
    cases skip with
    | succ skip =>
      rw [scanFrom, scanFrom]
      exact ih skip
    | zero =>
      rw [scanFrom, scanFrom, h.behind offset a (c :: text) hlt]
      cases shape offset a (c :: text) with
      | none => exact ih 0
      | some r => exact congrArg (moved r.1 :: ·) (ih (r.2 - 1))

theorem scanFrom_word (h : InsertsAlike shape moved ins y place) (text : List Char) :
    ∀ (w : List Char) (skip offset : Nat), (∀ c ∈ w, isWord c = true) →
      scanFrom shape skip offset true (w ++ text) =
        scanFrom shape (skip - w.length) (offset + w.length) true text
  | [], skip, offset, _ => rfl
  | c :: w, skip, offset, hw => by
    obtain ⟨hc, hw⟩ := List.forall_mem_cons.mp hw
    have ih : ∀ skip', scanFrom shape skip' (offset + 1) (isWord c) (w ++ text) =
        scanFrom shape (skip' - w.length) (offset + (c :: w).length) true text := by
      intro skip'
      rw [hc, scanFrom_word h text w skip' (offset + 1) hw, List.length_cons, Nat.add_assoc,
        Nat.add_comm 1]
    cases skip with
    | succ skip =>
      rw [List.cons_append, scanFrom, ih, List.length_cons, Nat.add_sub_add_right]
    | zero =>
      rw [List.cons_append, scanFrom, h.inside]
      simp only [ih, Nat.zero_sub]

theorem scanFrom_here (h : InsertsAlike shape moved ins y place)
    (hins : ∀ c ∈ ins, isWord c = true) (hne : ins ≠ []) (hy : startsWord y = true) (skip : Nat) :
    scanFrom shape (movedAt 0 ins.length skip) place false (ins ++ y) =
      (scanFrom shape skip place false y).map moved := by
  obtain ⟨i, is, rfl⟩ := List.exists_cons_of_ne_nil hne
  obtain ⟨c, y, rfl, hc⟩ := startsWord_iff.mp hy
  obtain ⟨hi, his⟩ := List.forall_mem_cons.mp hins
  have hword : ∀ d ∈ is ++ [c], isWord d = true := by
    intro d hd
    rcases List.mem_append.mp hd with hd | hd
    · exact his d hd
    · rwa [List.mem_singleton.mp hd]
  -- past the first inserted character the scan runs through the rest of the name
  have hrest : ∀ skip', scanFrom shape skip' (place + 1) true (is ++ c :: y) =
      (scanFrom shape (skip' - (i :: is).length) (place + 1) true y).map moved := by
    intro skip'
    have hthrough := h.scanFrom_word y (is ++ [c]) skip' (place + 1) hword
    rw [List.append_assoc, List.singleton_append] at hthrough
    rw [hthrough, ← h.scanFrom_behind y _ (place + 1) true (by omega)]
    congr 1
    · simp
    · simp
  cases skip with
  | zero =>
    rw [movedAt_of_le (Nat.le_refl 0), List.cons_append, scanFrom, scanFrom, h.here.1]
    rw [← List.cons_append, h.here.2, hi, hc]
    simpa using hrest 0
  | succ skip =>
    rw [movedAt_of_lt (Nat.succ_pos skip), Nat.succ_add, List.cons_append, scanFrom, scanFrom, hi,
      hc, hrest, Nat.add_sub_cancel]

end InsertsAlike

/-- **Scanning with an insertion.** The readings of the longer text are those
of the text, each moved; characters that belong to an earlier reading are
skipped on both. -/
theorem scanFrom_insert (h : InsertsAlike shape moved ins y place)
    (hins : ∀ c ∈ ins, isWord c = true) (hne : ins ≠ []) (hy : startsWord y = true) :
    ∀ (x : List Char) (skip offset : Nat) (a : Bool), offset + x.length = place →
      endsWord a x = false → EndsAwaiting x →
      scanFrom shape (movedAt x.length ins.length skip) offset a (x ++ (ins ++ y)) =
        (scanFrom shape skip offset a (x ++ y)).map moved
  | [], skip, offset, a, hplace, ha, _ => by
    have ha0 : a = false := ha
    have hoffset : offset = place := by simpa using hplace
    subst ha0 hoffset
    exact h.scanFrom_here hins hne hy skip
  | c :: x, skip, offset, a, hplace, ha, hx => by
    rw [endsWord_cons] at ha
    have hplace' : offset + 1 + x.length = place := by
      rw [← hplace, List.length_cons]; omega
    have hx' : EndsAwaiting x := hx.of_suffix (List.suffix_cons c x)
    have ih := fun skip' =>
      scanFrom_insert h hins hne hy x skip' (offset + 1) (isWord c) hplace' ha hx'
    cases skip with
    | succ skip =>
      rw [List.length_cons, movedAt_succ, List.cons_append, List.cons_append, scanFrom, scanFrom]
      exact ih skip
    | zero =>
      have hzero := ih 0
      rw [movedAt_of_le (Nat.zero_le _)] at hzero ⊢
      rw [List.cons_append, List.cons_append, scanFrom, scanFrom]
      -- only in front of a word, and outside of one, may anything be read
      by_cases hread : a = false ∧ isWord c = true
      · obtain ⟨rfl, hc⟩ := hread
        have hawaits : AwaitsName (c :: x) :=
          hx ⟨c, List.mem_cons_self, isBlank_eq_false_of_isWord hc⟩
        have hbefore := h.before offset (c :: x) hawaits hc hplace
        rw [List.cons_append, List.cons_append] at hbefore
        rw [hbefore]
        cases shape offset false (c :: (x ++ y)) with
        | none => exact hzero
        | some r =>
          simp only [Option.map_some, List.map_cons, List.length_cons, movedAt_pred]
          exact congrArg (moved r.1 :: ·) (ih (r.2 - 1))
      · have hnone : ∀ text, shape offset a (c :: text) = none := by
          intro text
          cases a with
          | true => exact h.inside offset _
          | false => exact h.start offset false _ (by simpa [startsWord] using hread)
        rw [hnone, hnone]
        exact hzero

end Scan

/-! ### A name that is made longer -/

/-- A declared name stays declared when it is made longer. -/
theorem DeclaresName.insert {ins y : List Char} (h : DeclaresName y)
    (hins : ∀ c ∈ ins, isWord c = true) : DeclaresName (ins ++ y) := by
  refine ⟨?_, ?_⟩
  · cases ins with
    | nil => exact h.1
    | cons c ins => exact hins c List.mem_cons_self
  · rw [afterWord_append_word y hins]
    exact h.2

end StyleCheck.Source
