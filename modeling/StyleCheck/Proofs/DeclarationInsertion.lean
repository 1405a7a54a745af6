/-
# Declarations in a text with a longer name

Declarations are read alike when a declared name further on is made longer
(`declarations_insert`). The words before a type are passed over on both texts
in step (`ReadsOn`), and either the type and the name are found before the cut,
or the type stands right before it and the declaration names the longer name.
Where the words run into the name itself, it would have to be a specifier or a
type, and no name follows it (`LacksName`).

Key definitions: `LacksName`, `ReadsOn`, `Declaration.moved`.
Key theorems: `readsOn_skipSpecifiers`, `declarationShape_insert`,
`declarations_insert`.
-/
import StyleCheck.Proofs.Insertion

namespace StyleCheck.Source

open Text

/-! ### Specifiers -/

/-- The text has no two words at its head, so it is no type with a name. -/
def LacksName (text : List Char) : Prop :=
  leadingWord text = [] ∨ leadingWord (trimStart (afterWord text)) = []

theorem DeclaresName.lacksName {y : List Char} (h : DeclaresName y) : LacksName y := by
  obtain ⟨-, c, after, hafter, hend⟩ := h
  right
  rw [hafter]
  exact leadingWord_eq_nil (isWord_eq_false_of_endsDeclarator hend)

theorem declarationShape_of_lacksName {offset : Nat} {a : Bool} {text : List Char}
    (h : LacksName (skipSpecifiers text)) : declarationShape offset a text = none := by
  unfold declarationShape
  generalize skipSpecifiers text = atType at h
  split
  · rfl
  simp only
  split
  · rw [if_neg]
    simp only [Bool.and_eq_true, decide_eq_true_eq]
    rintro ⟨⟨⟨htype, -⟩, hname⟩, -⟩
    rcases h with h | h
    · rw [h, isTypeWord_nil] at htype
      exact Bool.false_ne_true htype
    · exact hname h
  · rfl

/-- What is read off the front of a text that goes on with a declared name `z`
is read off the whole text as well; or the front is used up, and the name is
taken for a specifier or for the type. -/
def ReadsOn (z front text : List Char) : Prop :=
  (front = [] ∧ LacksName text) ∨ (AwaitsName front ∧ text = front ++ z)

theorem skipSpecifier_of_leadingWord {words : List String} {text : List Char}
    (hwords : words.contains "" = false) (h : leadingWord text = []) :
    skipSpecifier words text = text := by
  unfold skipSpecifier
  rw [h, show String.ofList [] = "" from rfl, hwords, if_neg (by simp)]

theorem LacksName.skipSpecifier {words : List String} {text : List Char}
    (hwords : words.contains "" = false) (h : LacksName text) :
    LacksName (skipSpecifier words text) := by
  rcases h with h | h
  · rw [skipSpecifier_of_leadingWord hwords h]
    exact Or.inl h
  · unfold Source.skipSpecifier
    split
    · exact Or.inl h
    · exact Or.inr h

theorem ReadsOn.skipSpecifier {words : List String} {z front text : List Char}
    (hz : DeclaresName z) (hwords : words.contains "" = false) (h : ReadsOn z front text) :
    ReadsOn z (skipSpecifier words front) (skipSpecifier words text) := by
  rcases h with ⟨rfl, h⟩ | ⟨h, rfl⟩
  · exact Or.inl ⟨skipSpecifier_of_leadingWord hwords rfl, h.skipSpecifier hwords⟩
  · unfold Source.skipSpecifier
    rw [h.leadingWord_append, h.afterWord_append, leadingBlanks_append _ hz.1,
      trimStart_append _ hz.1]
    split
    · rcases h.trimStart_afterWord with hnil | hawaits
      · rw [hnil, List.nil_append]
        exact Or.inl ⟨rfl, hz.lacksName⟩
      · exact Or.inr ⟨hawaits, rfl⟩
    · exact Or.inr ⟨h, rfl⟩

theorem readsOn_skipSpecifiers {x z : List Char} (hx : AwaitsName x) (hz : DeclaresName z) :
    ReadsOn z (skipSpecifiers x) (skipSpecifiers (x ++ z)) := by
  have hstart : ReadsOn z x (x ++ z) := Or.inr ⟨hx, rfl⟩
  exact ((hstart.skipSpecifier hz rfl).skipSpecifier hz rfl).skipSpecifier hz rfl

/-! ### Declarations -/

/-- What becomes of a declaration when `ins` is inserted at `place`. -/
def Declaration.moved (place : Nat) (ins : List Char) (d : Declaration) : Declaration where
  start := movedAt place ins.length d.start
  stop := movedAt place ins.length d.stop
  nameAt := movedAt place ins.length d.nameAt
  name := if d.nameAt = place then ins ++ d.name else d.name

/-- A declaration in a text that goes on with a declared name, by the parts that
are read off the front of the text. -/
theorem declarationShape_append {offset : Nat} {x z front name rest : List Char} {c : Char}
    (hstart : startsWord x = true) (hz : startsWord z = true) (hfront : AwaitsName front)
    (htype : skipSpecifiers (x ++ z) = front ++ z) (hname : trimStart (afterWord front) = name)
    (hrest : trimStart (afterWord (name ++ z)) = c :: rest) :
    declarationShape offset false (x ++ z) =
      if isTypeWord (leadingWord front) && leadingBlanks (afterWord front) ≠ [] &&
          leadingWord (name ++ z) ≠ [] && endsDeclarator c then
        some (⟨offset, offset + (x.length + z.length - rest.length),
          offset + (x.length - name.length), leadingWord (name ++ z)⟩,
          x.length + z.length - rest.length)
      else none := by
  have hname' : trimStart (afterWord (front ++ z)) = name ++ z := by
    rw [hfront.afterWord_append, trimStart_append _ hz, hname]
  rw [declarationShape_of_parts (startsWord_append_of z hstart) htype hname' hrest,
    hfront.leadingWord_append, hfront.afterWord_append, leadingBlanks_append _ hz]
  simp only [List.length_append, Nat.add_sub_add_right]

section Declarations

variable {offset place : Nat} {x y ins front : List Char}

/-- The type stands right before the place, so the declaration names the word
there. -/
theorem declarationShape_insert_name (hy : DeclaresName y) (hins : ∀ c ∈ ins, isWord c = true)
    (hstart : startsWord x = true) (hplace : offset + x.length = place) (hfront : AwaitsName front)
    (htype : skipSpecifiers (x ++ y) = front ++ y)
    (htype' : skipSpecifiers (x ++ (ins ++ y)) = front ++ (ins ++ y))
    (hname : trimStart (afterWord front) = []) :
    declarationShape offset false (x ++ (ins ++ y)) =
      (declarationShape offset false (x ++ y)).map fun r =>
        (r.1.moved place ins, movedAt x.length ins.length r.2) := by
  have hy' := hy.insert hins
  obtain ⟨-, c, rest, hrest, -⟩ := id hy
  have hshort : rest.length < y.length := by
    have := (length_trimStart_le (afterWord y)).trans (length_afterWord_le y)
    rw [hrest, List.length_cons] at this
    omega
  have hrest' : trimStart (afterWord (ins ++ y)) = c :: rest := by
    rw [afterWord_append_word y hins, hrest]
  rw [declarationShape_append hstart hy.1 hfront htype hname hrest,
    declarationShape_append hstart hy'.1 hfront htype' hname hrest']
  have hword := leadingWord_ne_nil hy.1
  have hword' := leadingWord_ne_nil hy'.1
  simp only [List.nil_append, ne_eq, hword, hword', not_false_eq_true, decide_true, List.length_nil,
    Nat.sub_zero]
  split
  · simp only [Option.map_some, Declaration.moved, List.length_append, hplace, if_true,
      leadingWord_append_word y hins, movedAt_of_le (Nat.le_refl place)]
    rw [movedAt_of_le (show offset ≤ place by omega), movedAt_of_lt (by omega),
      movedAt_of_lt (by omega)]
    simp only [Option.some.injEq, Prod.mk.injEq, Declaration.mk.injEq, true_and, and_true]
    omega
  · rfl

theorem declarationShape_insert_before (hy : DeclaresName y) (hins : ∀ c ∈ ins, isWord c = true)
    (hstart : startsWord x = true) (hplace : offset + x.length = place) (hfront : AwaitsName front)
    (htype : skipSpecifiers (x ++ y) = front ++ y)
    (htype' : skipSpecifiers (x ++ (ins ++ y)) = front ++ (ins ++ y))
    (hle : (trimStart (afterWord front)).length ≤ x.length)
    (hname : AwaitsName (trimStart (afterWord front))) :
    declarationShape offset false (x ++ (ins ++ y)) =
      (declarationShape offset false (x ++ y)).map fun r =>
        (r.1.moved place ins, movedAt x.length ins.length r.2) := by
  have hy' := hy.insert hins
  have hread : ∀ z, startsWord z = true → trimStart (afterWord (trimStart (afterWord front) ++ z)) =
      trimStart (afterWord (trimStart (afterWord front))) ++ z := by
    intro z hz
    rw [hname.afterWord_append, trimStart_append _ hz]
  have hpos := List.length_pos_iff.mpr hname.ne_nil
  cases hrest : trimStart (afterWord (trimStart (afterWord front))) with
  | nil =>
    -- the word at the place comes where the declarator should end
    have hnone : ∀ z, startsWord z = true → skipSpecifiers (x ++ z) = front ++ z →
        declarationShape offset false (x ++ z) = none := by
      intro z hz hspec
      obtain ⟨c, cs, rfl, hc⟩ := startsWord_iff.mp hz
      have hend : endsDeclarator c = false := by
        rw [Bool.eq_false_iff]
        intro hend
        rw [isWord_eq_false_of_endsDeclarator hend] at hc
        exact Bool.false_ne_true hc
      rw [declarationShape_append hstart hz hfront hspec rfl (by rw [hread _ hz, hrest]; rfl), hend,
        Bool.and_false, if_neg Bool.false_ne_true]
    rw [hnone y hy.1 htype, hnone _ hy'.1 htype']
    rfl
  | cons c rest =>
    have hend : ∀ z, startsWord z = true →
        trimStart (afterWord (trimStart (afterWord front) ++ z)) = c :: (rest ++ z) := by
      intro z hz
      rw [hread z hz, hrest, List.cons_append]
    rw [declarationShape_append hstart hy.1 hfront htype rfl (hend y hy.1),
      declarationShape_append hstart hy'.1 hfront htype' rfl (hend _ hy'.1),
      hname.leadingWord_append, hname.leadingWord_append]
    simp only [List.length_append, Nat.add_sub_add_right]
    split
    · simp only [Option.map_some, Declaration.moved]
      rw [movedAt_of_le (show offset ≤ place by omega), movedAt_of_le (by omega),
        movedAt_of_le (by omega), movedAt_of_le (by omega), if_neg (by omega)]
    · rfl

/-- A declaration that begins before the place is read alike, and names the
longer name if it named the old one. -/
theorem declarationShape_insert (hy : DeclaresName y) (hins : ∀ c ∈ ins, isWord c = true)
    (hx : AwaitsName x) (hstart : startsWord x = true) (hplace : offset + x.length = place) :
    declarationShape offset false (x ++ (ins ++ y)) =
      (declarationShape offset false (x ++ y)).map fun r =>
        (r.1.moved place ins, movedAt x.length ins.length r.2) := by
  have hy' := hy.insert hins
  rcases readsOn_skipSpecifiers hx hy with ⟨hnil, hlacks⟩ | ⟨hfront, htype⟩
  · rcases readsOn_skipSpecifiers hx hy' with ⟨-, hlacks'⟩ | ⟨hfront, -⟩
    · rw [declarationShape_of_lacksName hlacks, declarationShape_of_lacksName hlacks']
      rfl
    · exact absurd hnil hfront.ne_nil
  · rcases readsOn_skipSpecifiers hx hy' with ⟨hnil, -⟩ | ⟨-, htype'⟩
    · exact absurd hnil hfront.ne_nil
    · rcases hfront.trimStart_afterWord with hname | hname
      · exact declarationShape_insert_name hy hins hstart hplace hfront htype htype' hname
      · have hle : (trimStart (afterWord (skipSpecifiers x))).length ≤ x.length :=
          (length_trimStart_le _).trans
            ((length_afterWord_le _).trans (suffix_skipSpecifiers x).length_le)
        exact declarationShape_insert_before hy hins hstart hplace hfront htype htype' hle hname

theorem declarationShape_behind (a : Bool) (text : List Char) (h : place < offset) :
    declarationShape (offset + ins.length) a text =
      (declarationShape offset a text).map fun r => (r.1.moved place ins, r.2) := by
  unfold declarationShape
  split
  · rfl
  simp only
  split
  · split
    · simp only [Option.map_some, Declaration.moved]
      rw [movedAt_of_lt h, movedAt_of_lt (by omega), movedAt_of_lt (by omega), if_neg (by omega)]
      simp only [Option.some.injEq, Prod.mk.injEq, Declaration.mk.injEq, true_and, and_true]
      omega
    · rfl
  · rfl

theorem insertsAlike_declarationShape (hy : DeclaresName y) (hins : ∀ c ∈ ins, isWord c = true) :
    InsertsAlike declarationShape (Declaration.moved place ins) ins y place where
  inside _ _ := rfl
  start offset a _ h := declarationShape_of_not_startsWord offset a h
  before _ _ hx hstart hplace := declarationShape_insert hy hins hx hstart hplace
  here := by
    have hnone : ∀ z, DeclaresName z → declarationShape place false z = none := by
      intro z hz
      have hlacks := hz.lacksName
      exact declarationShape_of_lacksName
        (((hlacks.skipSpecifier rfl).skipSpecifier rfl).skipSpecifier rfl)
    exact ⟨hnone y hy, hnone _ (hy.insert hins)⟩
  behind _ a text h := declarationShape_behind a text h

end Declarations

/-- **The declarations of a text with a longer name** are those of the text,
each in its place; the one of the name has the longer name. -/
theorem declarations_insert {x y ins : List Char} (hx : AwaitsName x) (hy : DeclaresName y)
    (hins : ∀ c ∈ ins, isWord c = true) (hne : ins ≠ []) :
    declarations (x ++ (ins ++ y)) = (declarations (x ++ y)).map (.moved x.length ins) := by
  have h := scanFrom_insert (insertsAlike_declarationShape hy hins) hins hne hy.1 x 0 0 false
    (Nat.zero_add _) (hx.endsWord false) hx.endsAwaiting
  rwa [movedAt_of_le (Nat.zero_le _)] at h

end StyleCheck.Source
