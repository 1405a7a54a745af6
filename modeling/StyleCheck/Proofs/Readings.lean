/-
# What a scan reads

Every reading of a scan is a reading of the shape at some place of the text
(`exists_of_mem_scanFrom`), and the readings follow each other without overlap
(`pairwise_scanFrom`). A scan passes over a text in which the shape is read at
no place (`scanFrom_past`). A declaration and a signature both name a word that a
word and blanks lead up to (`declarationShape_sound`, `signatureShape_sound`);
what comes next tells them apart: the end of a declarator, or an opening
parenthesis.

Key theorems: `exists_of_mem_scanFrom`, `pairwise_scanFrom`, `scanFrom_past`,
`exists_of_mem_declarations`, `exists_of_mem_signatures`,
`pairwise_declarations`, `pairwise_signatures`.
-/
import StyleCheck.Proofs.Words

namespace StyleCheck.Source

open Text

/-! ### Scanning -/

section Scan

variable {α : Type} {shape : Shape α}

theorem exists_of_mem_scanFrom {r : α} : ∀ (text : List Char) (skip offset : Nat) (a : Bool),
    r ∈ scanFrom shape skip offset a text →
      ∃ before rest length, text = before ++ rest ∧
        shape (offset + before.length) (endsWord a before) rest = some (r, length)
  | [], skip, offset, a, h => by simp [scanFrom] at h
  | c :: text, skip, offset, a, h => by
    -- a reading further on, in the scan of the text behind `c`
    have later : ∀ skip', r ∈ scanFrom shape skip' (offset + 1) (isWord c) text →
        ∃ before rest length, c :: text = before ++ rest ∧
          shape (offset + before.length) (endsWord a before) rest = some (r, length) := by
      intro skip' h'
      obtain ⟨before, rest, length, rfl, hr⟩ :=
        exists_of_mem_scanFrom text skip' (offset + 1) (isWord c) h'
      refine ⟨c :: before, rest, length, rfl, ?_⟩
      rw [endsWord_cons, List.length_cons, Nat.add_comm before.length 1, ← Nat.add_assoc]
      exact hr
    cases skip with
    | succ skip => exact later skip h
    | zero =>
      rw [scanFrom] at h
      split at h
      · rename_i reading length hshape
        rcases List.mem_cons.mp h with rfl | h
        · exact ⟨[], c :: text, length, rfl, hshape⟩
        · exact later _ h
      · exact later 0 h

/-- The readings of a scan stand one behind the other: whatever is measured
inside each of them follows in order. -/
theorem pairwise_scanFrom {first last : α → Nat}
    (hshape : ∀ offset a text r length, shape offset a text = some (r, length) →
      offset ≤ first r ∧ last r ≤ offset + length) :
    ∀ (text : List Char) (skip offset : Nat) (a : Bool),
      (∀ r ∈ scanFrom shape skip offset a text, offset + skip ≤ first r) ∧
        (scanFrom shape skip offset a text).Pairwise fun r s => last r ≤ first s
  | [], skip, offset, a => by simp [scanFrom]
  | c :: text, skip, offset, a => by
    have ih := pairwise_scanFrom hshape text
    cases skip with
    | succ skip =>
      rw [scanFrom]
      obtain ⟨hle, hpair⟩ := ih skip (offset + 1) (isWord c)
      exact ⟨fun r hr => by have := hle r hr; omega, hpair⟩
    | zero =>
      rw [scanFrom]
      split
      · rename_i reading length hread
        obtain ⟨hfirst, hlast⟩ := hshape _ _ _ _ _ hread
        obtain ⟨hle, hpair⟩ := ih (length - 1) (offset + 1) (isWord c)
        refine ⟨List.forall_mem_cons.mpr ⟨by omega, fun r hr => ?_⟩,
          List.pairwise_cons.mpr ⟨fun r hr => ?_, hpair⟩⟩
        · have := hle r hr; omega
        · have := hle r hr; omega
      · obtain ⟨hle, hpair⟩ := ih 0 (offset + 1) (isWord c)
        exact ⟨fun r hr => by have := hle r hr; omega, hpair⟩

theorem scanFrom_skip (v : List Char) : ∀ (u : List Char) (offset : Nat) (a : Bool),
    scanFrom shape u.length offset a (u ++ v) =
      scanFrom shape 0 (offset + u.length) (endsWord a u) v
  | [], offset, a => rfl
  | c :: u, offset, a => by
    rw [List.cons_append, List.length_cons, scanFrom, scanFrom_skip v u, endsWord_cons,
      Nat.add_right_comm, Nat.add_assoc]

theorem scanFrom_reading {u : List Char} {offset : Nat} {a : Bool} {r : α} (v : List Char)
    (hu : u ≠ []) (h : shape offset a (u ++ v) = some (r, u.length)) :
    scanFrom shape 0 offset a (u ++ v) =
      r :: scanFrom shape 0 (offset + u.length) (endsWord a u) v := by
  cases u with
  | nil => exact absurd rfl hu
  | cons c u =>
    rw [List.cons_append] at h
    rw [List.cons_append, scanFrom, h]
    simp only [List.length_cons, Nat.add_sub_cancel]
    rw [scanFrom_skip, endsWord_cons, Nat.add_right_comm, Nat.add_assoc]

/-- A scan passes over a text up to a character that is none of a word's, if the
shape is read at no place on the way. -/
theorem scanFrom_past {c : Char} (v : List Char) (hc : isWord c = false) :
    ∀ (u : List Char) (offset : Nat) (a : Bool),
      (∀ w, w <:+ u → ∀ offset a, shape offset a (w ++ c :: v) = none) →
        scanFrom shape 0 offset a (u ++ c :: v) = scanFrom shape 0 (offset + u.length + 1) false v
  | [], offset, a, hnone => by
    have hhere : shape offset a (c :: v) = none := hnone [] List.nil_suffix offset a
    rw [List.nil_append, scanFrom, hhere, hc]
    rfl
  | d :: u, offset, a, hnone => by
    have hhere : shape offset a (d :: (u ++ c :: v)) = none :=
      hnone (d :: u) (List.suffix_refl _) offset a
    rw [List.cons_append, scanFrom, hhere]
    simp only
    rw [scanFrom_past v hc u _ _ fun w hw => hnone w (hw.trans (List.suffix_cons d u)),
      List.length_cons, Nat.add_right_comm offset 1, Nat.add_assoc offset u.length 1]

end Scan

/-! ### Words in front of a name -/

theorem awaitsName_of_word {text : List Char} (u : List Char) (hword : leadingWord text ≠ [])
    (hblanks : leadingBlanks (afterWord text) ≠ []) :
    AwaitsName (u ++ (leadingWord text ++ leadingBlanks (afterWord text))) := by
  rcases List.eq_nil_or_concat (leadingWord text) with h | ⟨init, c, h⟩
  · exact absurd h hword
  · rw [List.concat_eq_append] at h
    have hc : isWord c = true :=
      @isWord_of_mem_leadingWord text c (by rw [h]; simp)
    refine ⟨u ++ init, c, leadingBlanks (afterWord text), by rw [h]; simp, hc, hblanks, ?_⟩
    exact fun b hb => isBlank_of_mem_leadingBlanks hb

theorem leadingWord_append_blanks (text : List Char) :
    (leadingWord text ++ leadingBlanks (afterWord text)) ++ trimStart (afterWord text) = text := by
  rw [List.append_assoc, leadingBlanks_append_trimStart, leadingWord_append_afterWord]

theorem length_trimStart_le (text : List Char) : (trimStart text).length ≤ text.length :=
  (List.dropWhile_suffix isBlank).length_le

theorem length_afterWord_le (text : List Char) : (afterWord text).length ≤ text.length :=
  (List.dropWhile_suffix isWord).length_le

theorem startsWord_of_leadingWord {text : List Char} (h : leadingWord text ≠ []) :
    startsWord text = true := by
  cases text with
  | nil => exact absurd rfl h
  | cons c text =>
    by_cases hc : isWord c = true
    · exact hc
    · exact absurd (List.takeWhile_cons_of_neg hc) h

theorem isTypeWord_nil : isTypeWord [] = false := by decide

theorem suffix_skipSpecifier (words : List String) (text : List Char) :
    skipSpecifier words text <:+ text := by
  unfold skipSpecifier
  split
  · exact ⟨_, leadingWord_append_blanks text⟩
  · exact List.suffix_refl text

theorem suffix_skipSpecifiers (text : List Char) : skipSpecifiers text <:+ text :=
  (suffix_skipSpecifier _ _).trans ((suffix_skipSpecifier _ _).trans (suffix_skipSpecifier _ _))

/-! ### Declarations -/

theorem declarationShape_of_parts {offset : Nat} {text atType atName rest : List Char} {c : Char}
    (hstart : startsWord text = true) (htype : skipSpecifiers text = atType)
    (hname : trimStart (afterWord atType) = atName)
    (hrest : trimStart (afterWord atName) = c :: rest) :
    declarationShape offset false text =
      if isTypeWord (leadingWord atType) && leadingBlanks (afterWord atType) ≠ [] &&
          leadingWord atName ≠ [] && endsDeclarator c then
        some (⟨offset, offset + (text.length - rest.length),
          offset + (text.length - atName.length), leadingWord atName⟩,
          text.length - rest.length)
      else none := by
  subst htype hname
  unfold declarationShape
  rw [if_neg (by simp [hstart])]
  simp only [hrest]

/-- A declaration names the word that its type and blanks lead up to, and the
end of the declarator comes next. -/
theorem declarationShape_sound {offset length : Nat} {a : Bool} {text : List Char} {d : Declaration}
    (h : declarationShape offset a text = some (d, length)) :
    ∃ x y c after, text = x ++ y ∧ AwaitsName x ∧ startsWord y = true ∧
      trimStart (afterWord y) = c :: after ∧ endsDeclarator c = true ∧
      length = text.length - after.length ∧
      d = ⟨offset, offset + length, offset + x.length, leadingWord y⟩ := by
  unfold declarationShape at h
  obtain ⟨u, hu⟩ := suffix_skipSpecifiers text
  generalize skipSpecifiers text = atType at h hu
  split at h
  · simp at h
  simp only at h
  split at h
  · rename_i c after hafter
    split at h
    · rename_i hcond
      simp only [Bool.and_eq_true, decide_eq_true_eq] at hcond
      obtain ⟨⟨⟨htype, hblanks⟩, hname⟩, hend⟩ := hcond
      have hword : leadingWord atType ≠ [] := by
        intro hnil
        rw [hnil, isTypeWord_nil] at htype
        exact Bool.false_ne_true htype
      have hsplit : text = (u ++ (leadingWord atType ++ leadingBlanks (afterWord atType))) ++
          trimStart (afterWord atType) := by
        rw [List.append_assoc, leadingWord_append_blanks, hu]
      have hlen := congrArg List.length hsplit
      rw [List.length_append] at hlen
      simp only [Option.some.injEq, Prod.mk.injEq] at h
      obtain ⟨rfl, rfl⟩ := h
      refine ⟨_, _, c, after, hsplit, awaitsName_of_word u hword hblanks,
        startsWord_of_leadingWord hname, hafter, hend, rfl, ?_⟩
      congr 1
      omega
    · simp at h
  · simp at h

theorem declarationShape_of_not_startsWord {text : List Char} (offset : Nat) (a : Bool)
    (h : startsWord text = false) : declarationShape offset a text = none := by
  unfold declarationShape
  rw [h]
  simp

theorem declarationShape_of_unspaced {text : List Char} (offset : Nat) (a : Bool)
    (h : leadingBlanks (afterWord text) = []) : declarationShape offset a text = none := by
  have hskip : ∀ words, skipSpecifier words text = text := by
    intro words
    unfold skipSpecifier
    rw [if_neg (by simp [h])]
  have htype : skipSpecifiers text = text := by
    unfold skipSpecifiers
    rw [hskip, hskip, hskip]
  unfold declarationShape
  split
  · rfl
  simp only [htype, h]
  split
  · simp
  · rfl

section Unspaced

variable {c : Char} (text : List Char)

theorem leadingBlanks_afterWord_unspaced (hword : isWord c = false) (hblank : isBlank c = false) :
    ∀ u : List Char, (∀ d ∈ u, isBlank d = false) →
      leadingBlanks (afterWord (u ++ c :: text)) = []
  | [], _ => by
    unfold afterWord leadingBlanks
    rw [List.nil_append, List.dropWhile_cons_of_neg (by simp [hword]),
      List.takeWhile_cons_of_neg (by simp [hblank])]
  | d :: u, hu => by
    obtain ⟨hd, hu⟩ := List.forall_mem_cons.mp hu
    by_cases hdword : isWord d = true
    · have ih := leadingBlanks_afterWord_unspaced hword hblank u hu
      unfold afterWord at ih ⊢
      rwa [List.cons_append, List.dropWhile_cons_of_pos hdword]
    · unfold afterWord leadingBlanks
      rw [List.cons_append, List.dropWhile_cons_of_neg hdword,
        List.takeWhile_cons_of_neg (by simp [hd])]

/-- **A text without blanks holds no declaration**, up to a character that is
neither a word's nor blank. -/
theorem scanFrom_unspaced {u : List Char} (offset : Nat) (a : Bool)
    (hu : ∀ d ∈ u, isBlank d = false) (hword : isWord c = false) (hblank : isBlank c = false) :
    scanFrom declarationShape 0 offset a (u ++ c :: text) =
      scanFrom declarationShape 0 (offset + u.length + 1) false text :=
  scanFrom_past text hword u offset a fun w hw offset a =>
    declarationShape_of_unspaced offset a
      (leadingBlanks_afterWord_unspaced text hword hblank w fun d hd => hu d (hw.subset hd))

end Unspaced

theorem scanFrom_notWord {c : Char} (text : List Char) (offset : Nat) (a : Bool)
    (hc : isWord c = false) :
    scanFrom declarationShape 0 offset a (c :: text) =
      scanFrom declarationShape 0 (offset + 1) false text := by
  refine scanFrom_past text hc [] offset a fun w hw offset a => ?_
  rw [List.suffix_nil.mp hw]
  exact declarationShape_of_not_startsWord offset a hc

/-- The text begins with a name, and the end of a declarator comes next. -/
def DeclaresName (text : List Char) : Prop :=
  startsWord text = true ∧
    ∃ c after, trimStart (afterWord text) = c :: after ∧ endsDeclarator c = true

theorem isWord_eq_false_of_endsDeclarator {c : Char} (h : endsDeclarator c = true) :
    isWord c = false := by
  simp only [endsDeclarator, Bool.or_eq_true, beq_iff_eq] at h
  rcases h with (rfl | rfl) | rfl
  · decide
  · decide
  · decide

namespace DeclaresName

variable {text : List Char}

theorem exists_not_word (h : DeclaresName text) : ∃ c ∈ text, isWord c = false := by
  obtain ⟨-, c, after, hafter, hend⟩ := h
  refine ⟨c, ?_, isWord_eq_false_of_endsDeclarator hend⟩
  rw [← leadingWord_append_blanks text, hafter]
  simp

theorem leadingWord_append (h : DeclaresName text) (rest : List Char) :
    leadingWord (text ++ rest) = leadingWord text :=
  takeWhile_append_of_mem rest h.exists_not_word

theorem afterWord_append (h : DeclaresName text) (rest : List Char) :
    afterWord (text ++ rest) = afterWord text ++ rest :=
  dropWhile_append_of_mem rest h.exists_not_word

theorem append (h : DeclaresName text) (rest : List Char) : DeclaresName (text ++ rest) := by
  obtain ⟨hstart, c, after, hafter, hend⟩ := id h
  refine ⟨?_, c, after ++ rest, ?_, hend⟩
  · obtain ⟨d, ds, rfl, hd⟩ := startsWord_iff.mp hstart
    exact hd
  · have hblank : ∃ d ∈ afterWord text, isBlank d = false := by
      refine ⟨c, ?_, isBlank_eq_false_of_trimStart hafter⟩
      rw [← leadingBlanks_append_trimStart (afterWord text), hafter]
      simp
    rw [h.afterWord_append, trimStart, dropWhile_append_of_mem rest hblank]
    exact congrArg (· ++ rest) hafter

end DeclaresName

theorem exists_of_mem_declarations {text : List Char} {d : Declaration}
    (h : d ∈ declarations text) :
    ∃ x y, text = x ++ y ∧ AwaitsName x ∧ DeclaresName y ∧ d.nameAt = x.length ∧
      d.name = leadingWord y := by
  obtain ⟨before, rest, length, rfl, hshape⟩ := exists_of_mem_scanFrom text 0 0 false h
  obtain ⟨x, y, c, after, rfl, hx, hy, hafter, hend, -, rfl⟩ := declarationShape_sound hshape
  refine ⟨before ++ x, y, by simp, hx.append_left before, ⟨hy, c, after, hafter, hend⟩, ?_, rfl⟩
  simp

/-- The names of the declarations in a text follow each other, and at least one
character stands between them. -/
theorem pairwise_declarations (text : List Char) :
    (declarations text).Pairwise fun d e => d.nameAt + d.name.length + 1 ≤ e.nameAt := by
  refine (pairwise_scanFrom (fun offset a text d length h => ?_) text 0 0 false).2
  obtain ⟨x, y, c, after, rfl, -, -, hafter, -, rfl, rfl⟩ := declarationShape_sound h
  have hle := length_trimStart_le (afterWord y)
  have hword := congrArg List.length (leadingWord_append_afterWord y)
  rw [hafter, List.length_cons] at hle
  rw [List.length_append] at hword
  simp only [List.length_append]
  omega

/-! ### Signatures -/

theorem eq_of_afterParenthesis {text rest : List Char} (h : afterParenthesis text = some rest) :
    ∃ inside, text = inside ++ ')' :: rest := by
  induction text with
  | nil => simp [afterParenthesis] at h
  | cons c text ih =>
    rw [afterParenthesis] at h
    split at h
    · rename_i hc
      exact ⟨[], by rw [hc, Option.some.inj h]; rfl⟩
    · obtain ⟨inside, hinside⟩ := ih h
      exact ⟨c :: inside, by rw [hinside]; rfl⟩

theorem eq_of_afterOpening {text rest : List Char} (h : afterOpening text = some rest) :
    ∃ lead, text = lead ++ openBrace :: rest := by
  unfold afterOpening at h
  simp only at h
  have hconst : (dropWord? "const".toList (trimStart text)).getD (trimStart text) <:+ text := by
    cases hdrop : dropWord? "const".toList (trimStart text) with
    | none => exact List.dropWhile_suffix isBlank
    | some more =>
      have hmore : more <:+ trimStart text := ⟨_, (eq_append_of_dropWord? hdrop).symm⟩
      exact hmore.trans (List.dropWhile_suffix isBlank)
  generalize (dropWord? "const".toList (trimStart text)).getD (trimStart text) = opened at h hconst
  split at h
  · rename_i c cs hcs
    split at h
    · rename_i hc
      obtain ⟨lead, hlead⟩ := (List.dropWhile_suffix isBlank).trans hconst
      refine ⟨lead, ?_⟩
      rw [← hlead, ← hc, ← Option.some.inj h, ← hcs]
      rfl
    · simp at h
  · simp at h

theorem length_lt_of_body {text rest : List Char}
    (h : (afterParenthesis text).bind afterOpening = some rest) : rest.length < text.length := by
  obtain ⟨opened, hparen, hopening⟩ := Option.bind_eq_some_iff.mp h
  obtain ⟨inside, rfl⟩ := eq_of_afterParenthesis hparen
  obtain ⟨lead, rfl⟩ := eq_of_afterOpening hopening
  simp only [List.length_append, List.length_cons]
  omega

theorem twoWords_eq_some_iff {a : Bool} {text first second third : List Char} :
    twoWords a text = some (first, second, third) ↔
      (a = false ∧ startsWord text = true ∧ leadingBlanks (afterWord text) ≠ [] ∧
        startsWord (trimStart (afterWord text)) = true) ∧
      first = leadingWord text ∧ second = trimStart (afterWord text) ∧
        third = trimStart (afterWord (trimStart (afterWord text))) := by
  unfold twoWords
  by_cases hstart : a = false ∧ startsWord text = true
  · obtain ⟨rfl, hstart⟩ := hstart
    rw [if_neg (by simp [hstart])]
    simp only [hstart, true_and]
    split
    · rename_i hcond
      simp only [Bool.and_eq_true, decide_eq_true_eq] at hcond
      simp only [Option.some.injEq, Prod.mk.injEq, hcond, ne_eq, not_false_eq_true, true_and, eq_comm]
    · rename_i hcond
      simp only [Bool.and_eq_true, decide_eq_true_eq] at hcond
      simp only [hcond, reduceCtorEq, false_and]
  · have hnone : (a || !startsWord text) = true := by
      cases a with
      | true => rfl
      | false => simpa using hstart
    rw [if_pos hnone]
    simp only [reduceCtorEq, false_iff]
    rintro ⟨⟨rfl, hword, -⟩, -⟩
    exact hstart ⟨rfl, hword⟩

theorem signatureShape_of_not_startsWord {text : List Char} (offset : Nat) (a : Bool)
    (h : startsWord text = false) : signatureShape offset a text = none := by
  unfold signatureShape twoWords
  rw [h]
  simp

theorem twoWords_sound {a : Bool} {text first second third : List Char}
    (h : twoWords a text = some (first, second, third)) :
    ∃ x, text = x ++ second ∧ AwaitsName x ∧ startsWord second = true ∧
      first = leadingWord text ∧ third = trimStart (afterWord second) := by
  obtain ⟨⟨-, hstart, hblanks, hsecond⟩, rfl, rfl, rfl⟩ := twoWords_eq_some_iff.mp h
  exact ⟨_, (leadingWord_append_blanks text).symm,
    awaitsName_of_word [] (leadingWord_ne_nil hstart) hblanks, hsecond, rfl, rfl⟩

/-- A signature names the word that the return type and blanks lead up to, and
an opening parenthesis comes next. -/
theorem signatureShape_sound {offset length : Nat} {a : Bool} {text : List Char} {s : Signature}
    (h : signatureShape offset a text = some (s, length)) :
    ∃ x y parameters, text = x ++ y ∧ AwaitsName x ∧ startsWord y = true ∧
      trimStart (afterWord y) = '(' :: parameters ∧ x.length + (leadingWord y).length < length ∧
      s = ⟨offset, offset + length, leadingWord text, offset + x.length, leadingWord y⟩ := by
  unfold signatureShape at h
  split at h
  · rename_i returnType second parameters hwords
    obtain ⟨x, rfl, hx, hy, rfl, hthird⟩ := twoWords_sound hwords
    split at h
    · rename_i rest hrest
      have hlt := length_lt_of_body hrest
      have hle := length_trimStart_le (afterWord second)
      have hword := congrArg List.length (leadingWord_append_afterWord second)
      rw [← hthird] at hle
      simp only [List.length_cons, List.length_append] at hle hword
      simp only [Option.some.injEq, Prod.mk.injEq, List.length_append, Nat.add_sub_cancel] at h
      obtain ⟨rfl, rfl⟩ := h
      exact ⟨x, second, _, rfl, hx, hy, hthird.symm, by omega, rfl⟩
    · simp at h
  · simp at h

/-- The text begins with a name, and an opening parenthesis comes next. -/
def CallsName (text : List Char) : Prop :=
  startsWord text = true ∧ ∃ parameters, trimStart (afterWord text) = '(' :: parameters

theorem DeclaresName.not_callsName {text : List Char} (h : DeclaresName text) :
    ¬ CallsName text := by
  rintro ⟨-, parameters, hparameters⟩
  obtain ⟨-, c, after, hafter, hend⟩ := h
  rw [hparameters] at hafter
  rw [← (List.cons.inj hafter).1] at hend
  exact absurd hend (by decide)

theorem exists_of_mem_signatures {text : List Char} {s : Signature} (h : s ∈ signatures text) :
    ∃ x y, text = x ++ y ∧ AwaitsName x ∧ CallsName y ∧ s.nameAt = x.length ∧
      s.name = leadingWord y := by
  have hscan : s ∈ scan signatureShape text := (List.mem_filter.mp h).1
  obtain ⟨before, rest, length, rfl, hshape⟩ := exists_of_mem_scanFrom text 0 0 false hscan
  obtain ⟨x, y, parameters, rfl, hx, hy, hparameters, -, rfl⟩ := signatureShape_sound hshape
  refine ⟨before ++ x, y, by simp, hx.append_left before, ⟨hy, parameters, hparameters⟩, ?_, rfl⟩
  simp

theorem signatures_of_not_mem {text : List Char} (h : '(' ∉ text) : signatures text = [] := by
  refine List.eq_nil_iff_forall_not_mem.mpr fun s hs => h ?_
  obtain ⟨x, y, rfl, -, ⟨-, parameters, hparameters⟩, -⟩ := exists_of_mem_signatures hs
  rw [← leadingWord_append_blanks y, hparameters]
  simp

/-- The names of the functions in a text follow each other, and at least one
character stands between them. -/
theorem pairwise_signatures (text : List Char) :
    (signatures text).Pairwise fun s t => s.nameAt + s.name.length + 1 ≤ t.nameAt := by
  refine List.Pairwise.filter _
    (pairwise_scanFrom (fun offset a text s length h => ?_) text 0 0 false).2
  obtain ⟨x, y, parameters, rfl, -, -, -, hlt, rfl⟩ := signatureShape_sound h
  simp only
  omega

end StyleCheck.Source
