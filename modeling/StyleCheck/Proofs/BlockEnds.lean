/-
# Where a block ends

A block is found by a count of braces that goes up and down. Here its end is said
without the count. The block at a place is opened by the first opening brace at or
behind it (`OpensAt`), and it ends at the least offset behind that brace up to
which as many braces are closed as opened (`ClosesAt`). Closing braces in front of
the opening one play no part in either (`blockEnd?_of_opensAt`).

What carries this is that every text either never closes more braces than it has
opened, or is cut at the first brace that does, the text in front of it being
balanced (`neverOverclosed_or_cut`). In the first case the block is never closed, in
the second it is closed there (`blockEnd?_cases`).

Key definitions: `NeverOverclosed`, `through`, `OpensAt`, `ClosesAt`.
Key theorems: `neverOverclosed_or_cut`, `blockEnd?_cases`, `closesAt_of_cut`,
`blockEnd?_eq_some_iff`, `blockEnd?_eq_none_iff`, `blockEnd?_matches`.
-/
import Mathlib.Order.Bounds.Basic
import Mathlib.Order.Nat
import StyleCheck.Proofs.NestedBlocks

namespace StyleCheck.Source

/-! ### Texts that close too many braces -/

/-- No beginning of the text closes more braces than it opens. -/
def NeverOverclosed (text : List Char) : Prop :=
  ∀ p, p <+: text → p.count closeBrace ≤ p.count openBrace

theorem Balanced.neverOverclosed {text : List Char} (h : Balanced text) : NeverOverclosed text :=
  fun p hp => h.1 p ((List.mem_inits p text).mpr hp)

theorem NeverOverclosed.balanced {text : List Char} (h : NeverOverclosed text)
    (hcount : text.count openBrace = text.count closeBrace) : Balanced text :=
  ⟨fun p hp => h p ((List.mem_inits p text).mp hp), hcount⟩

/-- **A text that closes too many braces** is cut at the first closing brace that is
one too many; up to there it is balanced. -/
theorem neverOverclosed_or_cut (text : List Char) :
    NeverOverclosed text ∨ ∃ u v, text = u ++ closeBrace :: v ∧ Balanced u := by
  -- from the end, so that the beginnings of the text are known when a character is added
  induction text using List.reverseRecOn with
  | nil =>
    left
    intro p hp
    rw [List.prefix_nil.mp hp]
    exact Nat.le_refl _
  | append_singleton init c ih =>
    rcases ih with hinit | ⟨u, v, rfl, hu⟩
    · by_cases hwhole : (init ++ [c]).count closeBrace ≤ (init ++ [c]).count openBrace
      · left
        intro p hp
        rcases List.prefix_concat_iff.mp hp with rfl | hp
        · exact hwhole
        · exact hinit p hp
      · right
        have hle : init.count closeBrace ≤ init.count openBrace := hinit init List.prefix_rfl
        rw [List.count_append, List.count_append] at hwhole
        have hc : c = closeBrace := by
          by_contra hne
          have hzero : [c].count closeBrace = 0 :=
            List.count_eq_zero_of_not_mem fun hmem => hne (List.mem_singleton.mp hmem).symm
          omega
        subst hc
        have hone : [closeBrace].count closeBrace = 1 := List.count_singleton_self
        exact ⟨init, [], rfl, hinit.balanced (by omega)⟩
    · right
      exact ⟨u, v ++ [c], by rw [List.append_assoc, List.cons_append], hu⟩

/-- A text that closes no more braces than it opens leaves a block open. -/
theorem blockEndFrom_of_neverOverclosed {text : List Char} (offset : Nat)
    (h : NeverOverclosed text) : blockEndFrom 1 offset text = none := by
  have hle : text.count closeBrace ≤ text.count openBrace := h text List.prefix_rfl
  obtain ⟨depth, hdepth⟩ := Nat.exists_eq_add_of_le hle
  have hpast := blockEndFrom_append [] text 0 depth offset
    (fun p hp => by rw [Nat.zero_add]; exact h p hp) (by omega)
  rw [List.append_nil] at hpast
  rw [hpast]
  rfl

/-- Behind balanced braces a closing brace closes the block. -/
theorem blockEndFrom_of_cut {u : List Char} (v : List Char) (offset : Nat) (h : Balanced u) :
    blockEndFrom 1 offset (u ++ closeBrace :: v) = some (offset + u.length) := by
  rw [blockEndFrom_balanced _ _ h, blockEndFrom_close_last]

/-! ### The opening brace -/

/-- At `first` stands the first opening brace at or behind `start`. -/
def OpensAt (text : List Char) (start : Int) (first : Nat) : Prop :=
  IsLeast {i : Nat | start ≤ i ∧ text[i]? = some openBrace} first

theorem unopened_or_opensAt (text : List Char) (start : Int) :
    (∀ i : Nat, start ≤ i → text[i]? ≠ some openBrace) ∨ ∃ first, OpensAt text start first := by
  by_cases h : ∃ i : Nat, start ≤ i ∧ text[i]? = some openBrace
  · right
    exact ⟨Nat.find h, Nat.isLeast_find h⟩
  · left
    intro i hi hopen
    exact h ⟨i, hi, hopen⟩

/-- Up to the first opening brace nothing counts, closing braces included. -/
theorem blockEndFrom_before {u : List Char} (v : List Char) (offset : Nat) (h : openBrace ∉ u) :
    blockEndFrom 0 offset (u ++ v) = blockEndFrom 0 (offset + u.length) v := by
  induction u generalizing offset with
  | nil => rfl
  | cons c u ih =>
    have hopen : c ≠ openBrace := fun heq => h (heq ▸ List.mem_cons_self)
    have hu : openBrace ∉ u := fun hmem => h (List.mem_cons_of_mem c hmem)
    have hstep : blockEndFrom 0 offset (c :: (u ++ v)) = blockEndFrom 0 (offset + 1) (u ++ v) := by
      by_cases hclose : c = closeBrace
      · subst hclose
        rw [blockEndFrom.eq_def]
        rfl
      · exact blockEndFrom_other 0 offset (u ++ v) hopen hclose
    rw [List.cons_append, hstep, ih (offset + 1) hu, List.length_cons, Nat.add_right_comm,
      Nat.add_assoc]

theorem blockEnd?_of_unopened {text : List Char} {start : Int}
    (h : ∀ i : Nat, start ≤ i → text[i]? ≠ some openBrace) : blockEnd? text start = none := by
  have hfree : openBrace ∉ text.drop start.toNat := by
    intro hmem
    obtain ⟨k, hbrace⟩ := List.mem_iff_getElem?.mp hmem
    rw [List.getElem?_drop] at hbrace
    exact h (start.toNat + k) (by omega) hbrace
  have hnone := blockEndFrom_before [] start.toNat hfree
  rw [List.append_nil] at hnone
  rw [blockEnd?, hnone]
  rfl

/-- **The block at a place is the one that the first opening brace opens.** -/
theorem blockEnd?_of_opensAt {text : List Char} {start : Int} {first : Nat}
    (h : OpensAt text start first) : blockEnd? text start = blockEnd? text first := by
  obtain ⟨⟨hstart, hbrace⟩, hleast⟩ := h
  obtain ⟨count, hcount⟩ : ∃ count, first = start.toNat + count :=
    Nat.exists_eq_add_of_le (by omega)
  have hfree : openBrace ∉ (text.drop start.toNat).take count := by
    intro hmem
    obtain ⟨k, hopen⟩ := List.mem_iff_getElem?.mp hmem
    have hk : k < count := by
      by_contra hge
      rw [List.getElem?_take_eq_none (Nat.le_of_not_lt hge)] at hopen
      exact absurd hopen nofun
    rw [List.getElem?_take_of_lt hk, List.getElem?_drop] at hopen
    have hle : first ≤ start.toNat + k := hleast ⟨by omega, hopen⟩
    omega
  have hlength : ((text.drop start.toNat).take count).length = count := by
    have hlt := (List.getElem?_eq_some_iff.mp hbrace).1
    rw [List.length_take, List.length_drop]
    omega
  calc blockEnd? text start
      = blockEndFrom 0 start.toNat
          ((text.drop start.toNat).take count ++ (text.drop start.toNat).drop count) := by
        rw [List.take_append_drop]
        rfl
    _ = blockEndFrom 0 first (text.drop first) := by
        rw [blockEndFrom_before _ _ hfree, hlength, List.drop_drop, ← hcount]
    _ = blockEnd? text first := by
        rw [blockEnd?, Int.toNat_natCast]

/-! ### The matching brace -/

/-- The text from one offset up to another one, the characters at both included. -/
def through (text : List Char) (first last : Nat) : List Char :=
  (text.drop first).take (last + 1 - first)

/-- At `last` the block is closed that is opened at `first`: it is the least offset
behind it up to which as many braces are closed as opened. -/
def ClosesAt (text : List Char) (first last : Nat) : Prop :=
  IsLeast {i | first < i ∧ i < text.length ∧
    (through text first i).count closeBrace = (through text first i).count openBrace} last

theorem through_prefix_drop (text : List Char) (first last : Nat) :
    through text first last <+: text.drop first :=
  List.take_prefix _ _

section Opened

variable {text rest u v : List Char} {first last : Nat}

theorem count_cons_openBrace (part : List Char) :
    (openBrace :: part).count openBrace = part.count openBrace + 1 ∧
      (openBrace :: part).count closeBrace = part.count closeBrace :=
  ⟨List.count_cons_self, List.count_cons_of_ne (by decide)⟩

theorem count_lt_of_neverOverclosed (h : NeverOverclosed rest) {p : List Char}
    (hp : p <+: openBrace :: rest) (hne : p ≠ []) : p.count closeBrace < p.count openBrace := by
  obtain ⟨c, q, rfl⟩ := List.exists_cons_of_ne_nil hne
  obtain ⟨rfl, hq⟩ := List.cons_prefix_cons.mp hp
  obtain ⟨hopen, hclose⟩ := count_cons_openBrace q
  have hle := h q hq
  omega

/-- Up to a brace behind its opening brace, the block is the opening brace and a
beginning of what follows it. -/
theorem through_of_drop (hdrop : text.drop first = openBrace :: rest) {k : Nat} :
    through text first (first + k + 1) = openBrace :: rest.take (k + 1) := by
  have hcount : first + k + 1 + 1 - first = k + 1 + 1 := by omega
  rw [through, hdrop, hcount, List.take_succ_cons]

theorem through_of_cut (hdrop : text.drop first = openBrace :: (u ++ closeBrace :: v)) :
    through text first (first + u.length + 1) = openBrace :: (u ++ [closeBrace]) := by
  have htake : (u ++ closeBrace :: v).take (u.length + 1) = u ++ [closeBrace] := by
    rw [List.take_length_add_append]
    rfl
  rw [through_of_drop hdrop, htake]

/-- **Behind balanced braces stands the matching one.** -/
theorem closesAt_of_cut (hdrop : text.drop first = openBrace :: (u ++ closeBrace :: v))
    (hu : Balanced u) : ClosesAt text first (first + u.length + 1) := by
  constructor
  · have hlength := congrArg List.length hdrop
    rw [List.length_drop, List.length_cons, List.length_append, List.length_cons] at hlength
    have hcount : (openBrace :: (u ++ [closeBrace])).count closeBrace =
        (openBrace :: (u ++ [closeBrace])).count openBrace := by
      obtain ⟨hopen, hclose⟩ := count_cons_openBrace (u ++ [closeBrace])
      have hlastOpen : [closeBrace].count openBrace = 0 := by decide
      have hlastClose : [closeBrace].count closeBrace = 1 := by decide
      have hbalance : u.count openBrace = u.count closeBrace := hu.2
      rw [List.count_append] at hopen hclose
      omega
    rw [← through_of_cut hdrop] at hcount
    exact ⟨by omega, by omega, hcount⟩
  · rintro i ⟨hi, -, hcount⟩
    by_contra hlt
    obtain ⟨k, rfl⟩ : ∃ k, i = first + k + 1 := Nat.exists_eq_add_of_lt hi
    have hpart : (u ++ closeBrace :: v).take (k + 1) = u.take (k + 1) :=
      List.take_append_of_le_length (by omega)
    have hle : (u.take (k + 1)).count closeBrace ≤ (u.take (k + 1)).count openBrace :=
      hu.neverOverclosed _ (List.take_prefix _ _)
    rw [through_of_drop hdrop, hpart] at hcount
    obtain ⟨hopen, hclose⟩ := count_cons_openBrace (u.take (k + 1))
    omega

theorem not_closesAt_of_neverOverclosed (hdrop : text.drop first = openBrace :: rest)
    (h : NeverOverclosed rest) : ¬ ClosesAt text first last := by
  rintro ⟨⟨hlt, -, hcount⟩, -⟩
  obtain ⟨k, rfl⟩ : ∃ k, last = first + k + 1 := Nat.exists_eq_add_of_lt hlt
  have hprefix := through_prefix_drop text first (first + k + 1)
  rw [hdrop] at hprefix
  have hless := count_lt_of_neverOverclosed h hprefix (by simp [through_of_drop hdrop])
  omega

end Opened

/-- **The three ways to look for a block.** No brace is opened. Or one is, and what
follows never closes too many, so that the block stays open. Or what follows is cut
at the brace that closes the block. -/
theorem blockEnd?_cases (text : List Char) (start : Int) :
    ((∀ i : Nat, start ≤ i → text[i]? ≠ some openBrace) ∧ blockEnd? text start = none) ∨
    ∃ first, OpensAt text start first ∧
      ((∃ rest, text.drop first = openBrace :: rest ∧ NeverOverclosed rest ∧
          blockEnd? text start = none) ∨
        ∃ u v, text.drop first = openBrace :: (u ++ closeBrace :: v) ∧ Balanced u ∧
          blockEnd? text start = some (first + u.length + 1)) := by
  rcases unopened_or_opensAt text start with hnone | ⟨first, hfirst⟩
  · exact Or.inl ⟨hnone, blockEnd?_of_unopened hnone⟩
  · right
    have hbrace : text[first]? = some openBrace := hfirst.1.2
    obtain ⟨hlt, hget⟩ := List.getElem?_eq_some_iff.mp hbrace
    have hdrop : text.drop first = openBrace :: text.drop (first + 1) := by
      rw [List.drop_eq_getElem_cons hlt, hget]
    have hend : blockEnd? text start = blockEndFrom 1 (first + 1) (text.drop (first + 1)) :=
      (blockEnd?_of_opensAt hfirst).trans (blockEnd?_of_open hbrace)
    refine ⟨first, hfirst, ?_⟩
    rcases neverOverclosed_or_cut (text.drop (first + 1)) with hrest | ⟨u, v, hcut, hu⟩
    · left
      exact ⟨_, hdrop, hrest, hend.trans (blockEndFrom_of_neverOverclosed _ hrest)⟩
    · right
      rw [hcut] at hdrop hend
      refine ⟨u, v, hdrop, hu, ?_⟩
      rw [hend, blockEndFrom_of_cut v _ hu, Nat.add_right_comm]

section Matching

variable {text : List Char} {start : Int} {last : Nat}

theorem exists_cut_of_blockEnd? (h : blockEnd? text start = some last) :
    ∃ first u v, OpensAt text start first ∧
      text.drop first = openBrace :: (u ++ closeBrace :: v) ∧ Balanced u ∧
      last = first + u.length + 1 := by
  obtain ⟨-, hnone⟩ | ⟨first, hfirst, ⟨rest, -, -, hnone⟩ | ⟨u, v, hdrop, hu, hsome⟩⟩ :=
    blockEnd?_cases text start
  · exact absurd (hnone.symm.trans h) nofun
  · exact absurd (hnone.symm.trans h) nofun
  · exact ⟨first, u, v, hfirst, hdrop, hu, (Option.some.inj (hsome.symm.trans h)).symm⟩

theorem blockEnd?_eq_some_iff : blockEnd? text start = some last ↔
    ∃ first, OpensAt text start first ∧ ClosesAt text first last := by
  constructor
  · intro h
    obtain ⟨first, u, v, hfirst, hdrop, hu, rfl⟩ := exists_cut_of_blockEnd? h
    exact ⟨first, hfirst, closesAt_of_cut hdrop hu⟩
  · rintro ⟨first, hfirst, hcloses⟩
    obtain ⟨hunopened, -⟩ | ⟨first', hfirst', ⟨rest, hdrop, hrest, -⟩ |
        ⟨u, v, hdrop, hu, hsome⟩⟩ := blockEnd?_cases text start
    · exact absurd hfirst.1.2 (hunopened first hfirst.1.1)
    · obtain rfl := hfirst.unique hfirst'
      exact absurd hcloses (not_closesAt_of_neverOverclosed hdrop hrest)
    · obtain rfl := hfirst.unique hfirst'
      rw [hsome, (closesAt_of_cut hdrop hu).unique hcloses]

theorem blockEnd?_eq_none_iff : blockEnd? text start = none ↔
    (∀ i : Nat, start ≤ i → text[i]? ≠ some openBrace) ∨
      ∃ first, OpensAt text start first ∧
        ∀ p, p <+: text.drop first → p ≠ [] → p.count closeBrace < p.count openBrace := by
  constructor
  · intro h
    obtain ⟨hunopened, -⟩ | ⟨first, hfirst, ⟨rest, hdrop, hrest, -⟩ | ⟨u, v, -, -, hsome⟩⟩ :=
      blockEnd?_cases text start
    · exact Or.inl hunopened
    · right
      refine ⟨first, hfirst, fun p hp hne => ?_⟩
      rw [hdrop] at hp
      exact count_lt_of_neverOverclosed hrest hp hne
    · exact absurd (hsome.symm.trans h) nofun
  · intro h
    rw [Option.eq_none_iff_forall_ne_some]
    intro last hlast
    obtain ⟨first, u, v, hfirst, hdrop, hu, -⟩ := exists_cut_of_blockEnd? hlast
    rcases h with hunopened | ⟨first', hfirst', hopen⟩
    · exact hunopened first hfirst.1.1 hfirst.1.2
    · obtain rfl := hfirst.unique hfirst'
      have hcount := (closesAt_of_cut hdrop hu).1.2.2
      have hne : through text first (first + u.length + 1) ≠ [] := by simp [through_of_cut hdrop]
      have hless := hopen _ (through_prefix_drop text first _) hne
      omega

theorem count_lt_of_through {first : Nat} (hfirst : OpensAt text start first)
    (hlast : blockEnd? text start = some last) {p : List Char}
    (hp : p <+: through text first last) (hne : p ≠ []) (hshort : p ≠ through text first last) :
    p.count closeBrace < p.count openBrace := by
  obtain ⟨first', u, v, hfirst', hdrop, hu, rfl⟩ := exists_cut_of_blockEnd? hlast
  obtain rfl := hfirst.unique hfirst'
  rw [through_of_cut hdrop] at hp hshort
  -- what is not the whole block ends before the closing brace
  have hbefore : p <+: openBrace :: u := by
    rcases List.prefix_concat_iff.mp (List.cons_append ▸ hp) with heq | hp
    · exact absurd heq hshort
    · exact hp
  exact count_lt_of_neverOverclosed hu.neverOverclosed hbefore hne

end Matching

/-- **The end of a block is the matching brace.** A block is found to end at an offset
exactly if a brace is opened at or behind the place, and the offset is the least one
behind the first such brace up to which as many braces are closed as opened. None is
found exactly if no brace is opened there, or more braces are opened than closed in
everything that the text goes on with from the first such brace. And up to any place
short of its end, more braces are opened than closed in a block. -/
theorem blockEnd?_matches (text : List Char) (start : Int) :
    (∀ last, blockEnd? text start = some last ↔
      ∃ first, OpensAt text start first ∧ ClosesAt text first last) ∧
    (blockEnd? text start = none ↔
      (∀ i : Nat, start ≤ i → text[i]? ≠ some openBrace) ∨
        ∃ first, OpensAt text start first ∧
          ∀ p, p <+: text.drop first → p ≠ [] → p.count closeBrace < p.count openBrace) ∧
    ∀ first last, OpensAt text start first → blockEnd? text start = some last →
      ∀ p, p <+: through text first last → p ≠ [] → p ≠ through text first last →
        p.count closeBrace < p.count openBrace :=
  ⟨fun _ => blockEnd?_eq_some_iff, blockEnd?_eq_none_iff,
    fun _ _ hfirst hlast _ hp hne hshort => count_lt_of_through hfirst hlast hp hne hshort⟩

/-- Two closing braces in front of a block with a block in it, and one behind. -/
def bracesAround : List Char :=
  "\x7d \x7d \x7b a \x7b \x7d b \x7d \x7d".toList

/-- The block is opened and closed by its own braces, and stays open in between. -/
theorem blockEnd?_matches_around :
    blockEnd? bracesAround (-3) = some 14 ∧
      (∃ first, OpensAt bracesAround (-3) first ∧ ClosesAt bracesAround first 14) ∧
      OpensAt bracesAround (-3) 4 ∧
      (through bracesAround 4 10).count closeBrace <
        (through bracesAround 4 10).count openBrace := by
  have hend : blockEnd? bracesAround (-3) = some 14 := by decide
  have hopens : OpensAt bracesAround (-3) 4 := by
    refine ⟨⟨by decide, by decide⟩, ?_⟩
    rintro i ⟨-, hi⟩
    by_contra hlt
    have hbefore : ∀ i < 4, bracesAround[i]? ≠ some openBrace := by decide
    exact hbefore i (by omega) hi
  obtain ⟨hsome, -, hopen⟩ := blockEnd?_matches bracesAround (-3)
  exact ⟨hend, (hsome 14).mp hend, hopens,
    hopen 4 14 hopens hend _ (by decide) (by decide) (by decide)⟩

end StyleCheck.Source
