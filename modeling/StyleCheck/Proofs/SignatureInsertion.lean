/-
# Signatures in a text with a longer name

Signatures are read alike when a declared name is made longer
(`signatures_insert`). The name is followed by the end of a declarator, so no
signature begins with it, is named by it or opens its body there
(`twoWords_append_ne`, `DeclaresName.afterOpening`); it may stand among the
parameters, and then the signature is longer.

Key definitions: `Signature.moved`.
Key theorems: `afterOpening_append`, `signatureShape_insert`,
`signatures_insert`.
-/
import StyleCheck.Proofs.Insertion

namespace StyleCheck.Source

open Text

/-! ### Parameters and bodies -/

theorem afterParenthesis_append (p z : List Char) : afterParenthesis (p ++ z) =
    match afterParenthesis p with
    | some q => some (q ++ z)
    | none => afterParenthesis z := by
  induction p with
  | nil => rfl
  | cons c p ih =>
    rw [List.cons_append, afterParenthesis, afterParenthesis]
    split
    · rfl
    · exact ih

theorem afterParenthesis_insert {ins : List Char} (y : List Char)
    (hins : ∀ c ∈ ins, isWord c = true) : afterParenthesis (ins ++ y) = afterParenthesis y := by
  induction ins with
  | nil => rfl
  | cons c ins ih =>
    obtain ⟨hc, hins⟩ := List.forall_mem_cons.mp hins
    rw [List.cons_append, afterParenthesis, if_neg (ne_of_isWord hc (by decide)), ih hins]

theorem DeclaresName.afterOpening {z : List Char} (h : DeclaresName z) : afterOpening z = none := by
  obtain ⟨hstart, c, after, hafter, hend⟩ := id h
  have hbrace : ∀ t, startsWord t = true → ∀ d ds, trimStart t = d :: ds → d ≠ openBrace := by
    intro t ht d ds hd
    rw [trimStart_of_startsWord ht] at hd
    rw [hd] at ht
    exact ne_of_isWord ht (by decide)
  unfold Source.afterOpening
  simp only [trimStart_of_startsWord hstart]
  split
  · rename_i d ds hd
    rw [if_neg]
    cases hconst : dropWord? "const".toList z with
    | none =>
      rw [hconst] at hd
      exact hbrace z hstart d ds hd
    | some rest =>
      rw [hconst, Option.getD_some] at hd
      by_cases hrest : startsWord rest = true
      · exact hbrace rest hrest d ds hd
      · -- the name is `const`, and the end of the declarator comes next
        have hword : ∀ e ∈ "const".toList, isWord e = true := List.all_eq_true.mp (by decide)
        have hz := eq_append_of_dropWord? hconst
        rw [hz, afterWord_append_word rest hword] at hafter
        have hsame : afterWord rest = rest := by
          have := leadingWord_append_afterWord rest
          rwa [leadingWord_eq_nil (by simpa using hrest), List.nil_append] at this
        rw [hsame, hd] at hafter
        obtain ⟨rfl, -⟩ := List.cons.inj hafter
        rintro rfl
        exact absurd hend (by decide)
  · rfl

theorem afterOpening_append {q z : List Char} (hq : EndsAwaiting q) (hz : DeclaresName z) :
    afterOpening (q ++ z) = (afterOpening q).map (· ++ z) := by
  rcases hq.trimStart with hnil | hawaits
  · have hempty : afterOpening q = none := by
      unfold afterOpening
      rw [hnil]
      rfl
    have hrest : afterOpening (q ++ z) = afterOpening z := by
      unfold afterOpening
      rw [trimStart_append q hz.1, hnil, List.nil_append, trimStart_of_startsWord hz.1]
    rw [hempty, hrest, hz.afterOpening]
    rfl
  · have hconst : (dropWord? "const".toList (trimStart q ++ z)).getD (trimStart q ++ z) =
        (dropWord? "const".toList (trimStart q)).getD (trimStart q) ++ z := by
      rw [dropWord?_append_of_blank z (by decide) hawaits.exists_blank]
      cases dropWord? "const".toList (trimStart q) with
      | none => rfl
      | some rest => rfl
    unfold afterOpening
    simp only [trimStart_append q hz.1, hconst, trimStart_append _ hz.1]
    cases trimStart ((dropWord? "const".toList (trimStart q)).getD (trimStart q)) with
    | nil =>
      obtain ⟨c, z, rfl, hc⟩ := startsWord_iff.mp hz.1
      simp [ne_of_isWord hc (show isWord openBrace = false by decide)]
    | cons c rest =>
      simp only [List.cons_append]
      split
      · rfl
      · rfl

/-! ### Signatures -/

/-- What becomes of a signature when `width` characters are inserted at
`place`. -/
def Signature.moved (place width : Nat) (s : Signature) : Signature :=
  { s with
    start := movedAt place width s.start
    stop := movedAt place width s.stop
    nameAt := movedAt place width s.nameAt }

section Signatures

variable {offset place : Nat} {x y z ins : List Char}

/-- Two words before a place that awaits a name are read alike whatever the
name. -/
theorem twoWords_append {first second third : List Char} (hx : AwaitsName x)
    (hz : startsWord z = true) (h : twoWords false x = some (first, second, third)) :
    AwaitsName second ∧ twoWords false (x ++ z) = some (first, second ++ z, third ++ z) := by
  obtain ⟨⟨-, hstart, hblanks, hword⟩, rfl, rfl, rfl⟩ := twoWords_eq_some_iff.mp h
  have hsecond : AwaitsName (trimStart (afterWord x)) := by
    rcases hx.trimStart_afterWord with hnil | hsecond
    · rw [hnil] at hword
      exact absurd hword (by decide)
    · exact hsecond
  refine ⟨hsecond, twoWords_eq_some_iff.mpr ?_⟩
  rw [hx.afterWord_append, hx.leadingWord_append, leadingBlanks_append _ hz, trimStart_append _ hz,
    hsecond.afterWord_append, trimStart_append _ hz]
  exact ⟨⟨rfl, startsWord_append_of z hstart, hblanks, startsWord_append_of z hword⟩, rfl, rfl, rfl⟩

/-- Where two words and a parenthesis are not read before a declared name, they
are not read across it: the name is no call. -/
theorem twoWords_append_ne (hx : AwaitsName x) (hstart : startsWord x = true)
    (hz : DeclaresName z)
    (h : ∀ first second parameters, twoWords false x ≠ some (first, second, '(' :: parameters))
    (first second parameters : List Char) :
    twoWords false (x ++ z) ≠ some (first, second, '(' :: parameters) := by
  intro hwords
  obtain ⟨⟨-, -, hblanks, hword⟩, -, -, hthird⟩ := twoWords_eq_some_iff.mp hwords
  rw [hx.afterWord_append, trimStart_append _ hz.1] at hword hthird
  rw [hx.afterWord_append, leadingBlanks_append _ hz.1] at hblanks
  rcases hx.trimStart_afterWord with hnil | hsecond
  · rw [hnil, List.nil_append] at hthird
    exact hz.not_callsName ⟨hz.1, parameters, hthird.symm⟩
  · rw [startsWord_append z hsecond.ne_nil] at hword
    rw [hsecond.afterWord_append, trimStart_append _ hz.1] at hthird
    cases hrest : trimStart (afterWord (trimStart (afterWord x))) with
    | nil =>
      rw [hrest, List.nil_append] at hthird
      have hparen := hz.1
      rw [← hthird] at hparen
      exact absurd (show isWord '(' = true from hparen) (by decide)
    | cons c rest =>
      rw [hrest, List.cons_append] at hthird
      obtain ⟨rfl, -⟩ := List.cons.inj hthird
      exact h _ _ rest (twoWords_eq_some_iff.mpr
        ⟨⟨rfl, hstart, hblanks, hword⟩, rfl, rfl, hrest.symm⟩)

theorem signatureShape_eq_none {a : Bool} {text : List Char}
    (h : ∀ first second parameters, twoWords a text ≠ some (first, second, '(' :: parameters)) :
    signatureShape offset a text = none := by
  unfold signatureShape
  split
  · rename_i first second parameters hwords
    exact absurd hwords (h first second parameters)
  · rfl

theorem signatureShape_append {first second parameters : List Char} (hx : AwaitsName x)
    (hz : startsWord z = true) (h : twoWords false x = some (first, second, '(' :: parameters)) :
    signatureShape offset false (x ++ z) =
      ((afterParenthesis (parameters ++ z)).bind afterOpening).map fun rest =>
        (⟨offset, offset + (x.length + z.length - rest.length), first,
          offset + (x.length - second.length), leadingWord second⟩,
          x.length + z.length - rest.length) := by
  obtain ⟨hsecond, hwords⟩ := twoWords_append hx hz h
  unfold signatureShape
  rw [hwords]
  simp only [List.cons_append]
  cases (afterParenthesis (parameters ++ z)).bind afterOpening with
  | none => rfl
  | some rest =>
    simp only [Option.map_some, hsecond.leadingWord_append, List.length_append,
      Nat.add_sub_add_right]

theorem endsAwaiting_of_parameters {first second parameters q : List Char} (hx : AwaitsName x)
    (hwords : twoWords false x = some (first, second, '(' :: parameters))
    (hparen : afterParenthesis parameters = some q) : EndsAwaiting q := by
  obtain ⟨w, rfl, -, -, -, hthird⟩ := twoWords_sound hwords
  obtain ⟨inside, rfl⟩ := eq_of_afterParenthesis hparen
  have hsecond : '(' :: (inside ++ ')' :: q) <:+ second := by
    rw [hthird]
    exact (List.dropWhile_suffix isBlank).trans (List.dropWhile_suffix isWord)
  have hq : q <:+ second := List.IsSuffix.trans ⟨'(' :: (inside ++ [')']), by simp⟩ hsecond
  exact hx.endsAwaiting.of_append.of_suffix hq

/-- A signature that begins before the place is read alike: its name stands
before the place, and only its parameters may reach past it. -/
theorem signatureShape_insert (hy : DeclaresName y) (hins : ∀ c ∈ ins, isWord c = true)
    (hx : AwaitsName x) (hstart : startsWord x = true) (hplace : offset + x.length = place) :
    signatureShape offset false (x ++ (ins ++ y)) =
      (signatureShape offset false (x ++ y)).map fun r =>
        (r.1.moved place ins.length, movedAt x.length ins.length r.2) := by
  have hy' := hy.insert hins
  by_cases hcall : ∃ first second parameters,
      twoWords false x = some (first, second, '(' :: parameters)
  · obtain ⟨first, second, parameters, hwords⟩ := hcall
    rw [signatureShape_append hx hy.1 hwords, signatureShape_append hx hy'.1 hwords,
      afterParenthesis_append parameters y, afterParenthesis_append parameters (ins ++ y)]
    cases hparen : afterParenthesis parameters with
    | some q =>
      have hq := endsAwaiting_of_parameters hx hwords hparen
      simp only [Option.bind_some, afterOpening_append hq hy, afterOpening_append hq hy']
      cases afterOpening q with
      | none => rfl
      | some rest =>
        simp only [Option.map_some, Signature.moved, List.length_append, Nat.add_sub_add_right]
        rw [movedAt_of_le (show offset ≤ place by omega), movedAt_of_le (by omega),
          movedAt_of_le (by omega), movedAt_of_le (by omega)]
    | none =>
      simp only [afterParenthesis_insert y hins]
      cases hbody : (afterParenthesis y).bind afterOpening with
      | none => rfl
      | some rest =>
        have hlt := length_lt_of_body hbody
        simp only [Option.map_some, Signature.moved, List.length_append]
        rw [movedAt_of_le (show offset ≤ place by omega), movedAt_of_lt (by omega),
          movedAt_of_le (by omega), movedAt_of_lt (by omega)]
        simp only [Option.some.injEq, Prod.mk.injEq, Signature.mk.injEq, true_and, and_true]
        omega
  · have hne : ∀ first second parameters,
        twoWords false x ≠ some (first, second, '(' :: parameters) :=
      fun first second parameters h => hcall ⟨first, second, parameters, h⟩
    rw [signatureShape_eq_none (twoWords_append_ne hx hstart hy hne),
      signatureShape_eq_none (twoWords_append_ne hx hstart hy' hne)]
    rfl

theorem signatureShape_behind (a : Bool) (text : List Char) (h : place < offset) :
    signatureShape (offset + ins.length) a text =
      (signatureShape offset a text).map fun r => (r.1.moved place ins.length, r.2) := by
  unfold signatureShape
  split
  · split
    · simp only [Option.map_some, Signature.moved]
      rw [movedAt_of_lt h, movedAt_of_lt (by omega), movedAt_of_lt (by omega)]
      simp only [Option.some.injEq, Prod.mk.injEq, Signature.mk.injEq, true_and, and_true]
      omega
    · rfl
  · rfl

theorem insertsAlike_signatureShape (hy : DeclaresName y) (hins : ∀ c ∈ ins, isWord c = true) :
    InsertsAlike signatureShape (Signature.moved place ins.length) ins y place where
  inside _ _ := rfl
  start offset a _ h := signatureShape_of_not_startsWord offset a h
  before _ _ hx hstart hplace := signatureShape_insert hy hins hx hstart hplace
  here := by
    have hnone : ∀ z, DeclaresName z → signatureShape place false z = none := by
      intro z hz
      refine signatureShape_eq_none fun first second parameters h => ?_
      obtain ⟨-, c, after, hafter, hend⟩ := hz
      obtain ⟨⟨-, -, -, hsecond⟩, -⟩ := twoWords_eq_some_iff.mp h
      rw [hafter] at hsecond
      rw [show startsWord (c :: after) = isWord c from rfl,
        isWord_eq_false_of_endsDeclarator hend] at hsecond
      exact Bool.false_ne_true hsecond
    exact ⟨hnone y hy, hnone _ (hy.insert hins)⟩
  behind _ a text h := signatureShape_behind a text h

end Signatures

/-- **The functions of a text with a longer name** are those of the text, each
in its place, with their names and return types. -/
theorem signatures_insert {x y ins : List Char} (hx : AwaitsName x) (hy : DeclaresName y)
    (hins : ∀ c ∈ ins, isWord c = true) (hne : ins ≠ []) :
    signatures (x ++ (ins ++ y)) = (signatures (x ++ y)).map (.moved x.length ins.length) := by
  have h := scanFrom_insert (insertsAlike_signatureShape hy hins) hins hne hy.1 x 0 0 false
    (Nat.zero_add _) (hx.endsWord false) hx.endsAwaiting
  rw [movedAt_of_le (Nat.zero_le _)] at h
  unfold signatures scan
  rw [h, List.filter_map]
  rfl

end StyleCheck.Source
