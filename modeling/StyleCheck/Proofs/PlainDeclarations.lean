/-
# Plain declarations

A declaration of one variable on one line: specifiers, a type and a name, and at
the end a semicolon, before which a value or a size may stand
(`PlainDeclaration.text`). The scan for declarations reads it up to the mark
behind its name, and nothing else of it (`PlainDeclaration.scanFrom_text`).

At the head each specifier is passed over when it is there, and what follows is
not taken for it when it is not, because it begins with another specifier or
with a type (`LeadsToType`). Behind the name no word has blanks behind it, so no
declaration begins there (`DeclaratorEnd.scanFrom_rest`).

Key definitions: `PlainDeclaration`, `PlainDeclaration.text`,
`PlainDeclaration.declaration`, `LeadsToType`, `IsDeclared`.
Key theorems: `skipSpecifier_text`, `PlainDeclaration.declarationShape_text`,
`PlainDeclaration.scanFrom_text`, `PlainDeclaration.newline_not_mem`.
-/
import Mathlib.Data.Bool.AllAny
import StyleCheck.Proofs.Readings

namespace StyleCheck

open Text Source

/-! ### Declarations -/

/-- Blanks that stand on one line. -/
def LineBlanks (blanks : List Char) : Prop :=
  ∀ c ∈ blanks, isBlank c = true ∧ c ≠ '\n'

instance (blanks : List Char) : Decidable (LineBlanks blanks) :=
  decidable_of_iff (blanks.all fun c => isBlank c = true ∧ c ≠ '\n') List.all_iff_forall_prop

theorem LineBlanks.isBlank {blanks : List Char} (h : LineBlanks blanks) :
    ∀ c ∈ blanks, isBlank c = true :=
  fun c hc => (h c hc).1

/-- One of the `words`, and the blanks behind it. -/
structure Specifier (words : List String) where
  word : String
  blanks : List Char
  word_mem : word ∈ words
  blanks_ne_nil : blanks ≠ []
  blanks_line : LineBlanks blanks

/-- The text of a specifier, if there is one. -/
def specifierText {words : List String} : Option (Specifier words) → List Char
  | none => []
  | some s => s.word.toList ++ s.blanks

/-- A type that is spelt out, or a word that ends in `_t` with something before
it. A word that begins with `typedef` is none. -/
def IsPlainType (word : List Char) : Prop :=
  String.ofList word ∈ ["int", "char", "float", "double", "bool", "void"] ∨
    ∃ w, word = w ++ ['_', 't'] ∧ w ≠ [] ∧ (∀ c ∈ w, isWord c = true) ∧ ¬ "typedef".toList <+: w

/-- What stands behind a declared name: the end, or a value or a size before it.
The digits are of any script. -/
inductive DeclaratorEnd where
  | plain
  | value (blanks digits : List Char) (blanks_line : LineBlanks blanks)
    (digits_digit : ∀ c ∈ digits, isDigit c = true)
  | size (digits : List Char) (digits_digit : ∀ c ∈ digits, isDigit c = true)

namespace DeclaratorEnd

/-- The character that ends the name. -/
def mark : DeclaratorEnd → Char
  | plain => ';'
  | value _ _ _ _ => '='
  | size _ _ => '['

/-- The text behind the mark. -/
def rest : DeclaratorEnd → List Char
  | plain => []
  | value blanks digits _ _ => blanks ++ (digits ++ [';'])
  | size digits _ => digits ++ [']', ';']

/-- The mark is no character of a word, no blank, and ends a declared name. -/
theorem mark_spec (e : DeclaratorEnd) :
    isWord e.mark = false ∧ isBlank e.mark = false ∧ endsDeclarator e.mark = true := by
  have hmarks : ∀ c ∈ [';', '=', '['],
      isWord c = false ∧ isBlank c = false ∧ endsDeclarator c = true :=
    List.all_iff_forall_prop.mp (by decide)
  exact hmarks e.mark (by cases e <;> simp [mark])

end DeclaratorEnd

/-- A declaration of one variable on one line. -/
structure PlainDeclaration where
  linkage : Option (Specifier ["extern", "static"])
  constness : Option (Specifier ["const"])
  sign : Option (Specifier ["unsigned"])
  type : List Char
  gap : List Char
  name : List Char
  padding : List Char
  ending : DeclaratorEnd
  type_plain : IsPlainType type
  gap_ne_nil : gap ≠ []
  gap_line : LineBlanks gap
  name_ne_nil : name ≠ []
  name_word : ∀ c ∈ name, isWord c = true
  padding_line : LineBlanks padding

namespace PlainDeclaration

variable (x : PlainDeclaration)

/-- The text in front of the name. -/
def lead : List Char :=
  specifierText x.linkage ++ (specifierText x.constness ++ (specifierText x.sign ++
    (x.type ++ x.gap)))

/-- The text of a declaration. -/
def text : List Char :=
  x.lead ++ (x.name ++ (x.padding ++ x.ending.mark :: x.ending.rest))

/-- What is read of a declaration that stands at `place`: all up to the mark
behind the name. -/
def declaration (place : Nat) : Declaration where
  start := place
  stop := place + (x.lead.length + x.name.length + x.padding.length + 1)
  nameAt := place + x.lead.length
  name := x.name

end PlainDeclaration

/-! ### The words before a name -/

/-- The words that may stand before a type. -/
def specifierWords : List String :=
  ["extern", "static", "const", "unsigned"]

theorem toList_specifierWords : ∀ s ∈ specifierWords,
    (s.toList ≠ [] ∧ s.toList.all isWord = true) ∧
      ¬ ['_', 't'] <:+ s.toList ∧ ¬ "typedef".toList <+: s.toList := by
  decide

theorem toList_plainTypes : ∀ s ∈ ["int", "char", "float", "double", "bool", "void"],
    (s.toList ≠ [] ∧ s.toList.all isWord = true) ∧
      s ∉ specifierWords ∧ ¬ "typedef".toList <+: s.toList := by
  decide

namespace IsPlainType

variable {word : List Char}

theorem ne_nil (h : IsPlainType word) : word ≠ [] := by
  rcases h with h | ⟨w, rfl, -⟩
  · simpa using (toList_plainTypes _ h).1.1
  · simp

theorem isWord (h : IsPlainType word) : ∀ c ∈ word, isWord c = true := by
  rcases h with h | ⟨w, rfl, -, hw, -⟩
  · have hall := (toList_plainTypes _ h).1.2
    rw [String.toList_ofList] at hall
    exact List.all_eq_true.mp hall
  · intro c hc
    rcases List.mem_append.mp hc with hc | hc
    · exact hw c hc
    · have hsuffix : ['_', 't'].all Text.isWord = true := by decide
      exact List.all_eq_true.mp hsuffix c hc

theorem isTypeWord (h : IsPlainType word) : isTypeWord word = true := by
  unfold Source.isTypeWord
  rw [Bool.or_eq_true]
  rcases h with h | ⟨w, rfl, hne, -⟩
  · exact .inl (List.contains_iff_mem.mpr h)
  · have hlength := List.length_pos_iff.mpr hne
    refine .inr ?_
    rw [Bool.and_eq_true, decide_eq_true_eq, List.length_append, List.isSuffixOf_iff_suffix]
    exact ⟨by simp only [List.length_cons, List.length_nil]; omega, List.suffix_append w _⟩

theorem not_mem_specifierWords (h : IsPlainType word) : String.ofList word ∉ specifierWords := by
  rcases h with h | ⟨w, rfl, -⟩
  · exact (toList_plainTypes _ h).2.1
  · intro hmem
    refine (toList_specifierWords _ hmem).2.1 ?_
    rw [String.toList_ofList]
    exact List.suffix_append w _

theorem not_typedef (h : IsPlainType word) : ¬ "typedef".toList <+: word := by
  rcases h with h | ⟨w, rfl, -, -, hw⟩
  · simpa using (toList_plainTypes _ h).2.2
  · -- neither of the two characters behind `w` is the last one of `typedef`
    intro hprefix
    rw [show ['_', 't'] = ['_'] ++ ['t'] from rfl, ← List.append_assoc, List.prefix_concat_iff,
      List.prefix_concat_iff] at hprefix
    rcases hprefix with heq | heq | hprefix
    · simpa using congrArg List.getLast? heq
    · simpa using congrArg List.getLast? heq
    · exact hw hprefix

end IsPlainType

/-- The text begins with one of the `words` or with a type. -/
def LeadsToType (words : List String) (text : List Char) : Prop :=
  startsWord text = true ∧
    (String.ofList (leadingWord text) ∈ words ∨ IsPlainType (leadingWord text))

theorem IsPlainType.leadsToType {word blanks : List Char} (h : IsPlainType word)
    (hne : blanks ≠ []) (hblanks : LineBlanks blanks) (rest : List Char) :
    LeadsToType [] (word ++ (blanks ++ rest)) := by
  refine ⟨startsWord_append_of _ (startsWord_of_word h.ne_nil h.isWord), .inr ?_⟩
  rwa [leadingWord_word_append h.isWord (startsWord_blanks_append rest hne hblanks.isBlank)]

section Specifiers

variable {words others : List String} {rest : List Char} (hwords : words ⊆ specifierWords)
include hwords

theorem Specifier.isWord (s : Specifier words) : ∀ c ∈ s.word.toList, isWord c = true :=
  List.all_eq_true.mp (toList_specifierWords _ (hwords s.word_mem)).1.2

theorem Specifier.leadingWord_text (s : Specifier words) (rest : List Char) :
    leadingWord (s.word.toList ++ (s.blanks ++ rest)) = s.word.toList :=
  leadingWord_word_append (s.isWord hwords)
    (startsWord_blanks_append rest s.blanks_ne_nil s.blanks_line.isBlank)

theorem LeadsToType.specifier (s : Option (Specifier words)) (h : LeadsToType others rest) :
    LeadsToType (words ++ others) (specifierText s ++ rest) := by
  cases s with
  | none => exact ⟨h.1, h.2.imp_left (List.mem_append_right words)⟩
  | some s =>
    refine ⟨?_, .inl ?_⟩
    · rw [specifierText, List.append_assoc]
      have hne := (toList_specifierWords _ (hwords s.word_mem)).1.1
      exact startsWord_append_of _ (startsWord_of_word hne (s.isWord hwords))
    · rw [specifierText, List.append_assoc, s.leadingWord_text hwords, String.ofList_toList]
      exact List.mem_append_left others s.word_mem

/-- A specifier is passed over if it is there. What follows is not taken for
one, because it begins with another specifier or with a type. -/
theorem skipSpecifier_text (s : Option (Specifier words)) (h : LeadsToType others rest)
    (hothers : ∀ word ∈ others, word ∉ words) :
    skipSpecifier words (specifierText s ++ rest) = rest := by
  cases s with
  | none =>
    have hnot : String.ofList (leadingWord rest) ∉ words :=
      h.2.elim (hothers _) fun htype hmem => htype.not_mem_specifierWords (hwords hmem)
    rw [specifierText, List.nil_append]
    unfold skipSpecifier
    rw [if_neg (by simp [hnot])]
  | some s =>
    obtain ⟨c, cs, rfl, hc⟩ := startsWord_iff.mp h.1
    have hblank := isBlank_eq_false_of_isWord hc
    have hafter : afterWord (s.word.toList ++ (s.blanks ++ c :: cs)) = s.blanks ++ c :: cs :=
      afterWord_word_append (s.isWord hwords)
        (startsWord_blanks_append _ s.blanks_ne_nil s.blanks_line.isBlank)
    have hmem : words.contains (String.ofList s.word.toList) = true := by
      rw [String.ofList_toList]
      exact List.contains_iff_mem.mpr s.word_mem
    rw [specifierText, List.append_assoc]
    unfold skipSpecifier
    rw [s.leadingWord_text hwords, hafter, leadingBlanks_blanks_append s.blanks_line.isBlank hblank,
      trimStart_blanks_append s.blanks_line.isBlank hblank, hmem,
      if_pos (by simp [s.blanks_ne_nil])]

end Specifiers

theorem LeadsToType.not_typedef {text : List Char} (h : LeadsToType specifierWords text) :
    ¬ "typedef".toList <+: text := by
  rintro ⟨rest, rfl⟩
  have hword : ∀ c ∈ "typedef".toList, isWord c = true := List.all_eq_true.mp (by decide)
  have hprefix : "typedef".toList <+: leadingWord ("typedef".toList ++ rest) := by
    rw [leadingWord_append_word rest hword]
    exact List.prefix_append _ _
  rcases h.2 with hmem | htype
  · refine (toList_specifierWords _ hmem).2.2 ?_
    simpa using hprefix
  · exact htype.not_typedef hprefix

namespace PlainDeclaration

variable (x : PlainDeclaration) (rest : List Char)

/-- The text of a declaration from its name on, with what follows it. -/
def fromName : List Char :=
  x.name ++ (x.padding ++ x.ending.mark :: (x.ending.rest ++ rest))

theorem text_append : x.text ++ rest = specifierText x.linkage ++ (specifierText x.constness ++
    (specifierText x.sign ++ (x.type ++ (x.gap ++ x.fromName rest)))) := by
  simp [text, lead, fromName]

theorem leadsToType_sign : LeadsToType ["unsigned"]
    (specifierText x.sign ++ (x.type ++ (x.gap ++ x.fromName rest))) :=
  (x.type_plain.leadsToType x.gap_ne_nil x.gap_line _).specifier (by decide) x.sign

theorem leadsToType_constness : LeadsToType ["const", "unsigned"] (specifierText x.constness ++
    (specifierText x.sign ++ (x.type ++ (x.gap ++ x.fromName rest)))) :=
  (x.leadsToType_sign rest).specifier (by decide) x.constness

theorem leadsToType_text : LeadsToType specifierWords (x.text ++ rest) := by
  rw [x.text_append]
  exact (x.leadsToType_constness rest).specifier (by decide) x.linkage

theorem skipSpecifiers_text :
    skipSpecifiers (x.text ++ rest) = x.type ++ (x.gap ++ x.fromName rest) := by
  rw [x.text_append]
  unfold skipSpecifiers
  rw [skipSpecifier_text (by decide) x.linkage (x.leadsToType_constness rest) (by decide),
    skipSpecifier_text (by decide) x.constness (x.leadsToType_sign rest) (by decide),
    skipSpecifier_text (by decide) x.sign
      (x.type_plain.leadsToType x.gap_ne_nil x.gap_line _) (by decide)]

theorem startsWord_fromName : startsWord (x.fromName rest) = true :=
  startsWord_append_of _ (startsWord_of_word x.name_ne_nil x.name_word)

theorem startsWord_padding :
    startsWord (x.padding ++ x.ending.mark :: (x.ending.rest ++ rest)) = false := by
  cases hpadding : x.padding with
  | nil => exact x.ending.mark_spec.1
  | cons c cs =>
    have hc := x.padding_line.isBlank c (by rw [hpadding]; exact List.mem_cons_self)
    exact isWord_eq_false_of_isBlank hc

theorem declarationShape_text (place : Nat) :
    declarationShape place false (x.text ++ rest) =
      some (x.declaration place, x.lead.length + x.name.length + x.padding.length + 1) := by
  have hmark := x.ending.mark_spec
  have hgap : startsWord (x.gap ++ x.fromName rest) = false :=
    startsWord_blanks_append _ x.gap_ne_nil x.gap_line.isBlank
  obtain ⟨c, cs, hfrom, hc⟩ := startsWord_iff.mp (x.startsWord_fromName rest)
  have hblank := isBlank_eq_false_of_isWord hc
  have hafterType : afterWord (x.type ++ (x.gap ++ x.fromName rest)) = x.gap ++ x.fromName rest :=
    afterWord_word_append x.type_plain.isWord hgap
  have hatName : trimStart (x.gap ++ x.fromName rest) = x.fromName rest := by
    rw [hfrom]
    exact trimStart_blanks_append x.gap_line.isBlank hblank
  have hblanks : leadingBlanks (x.gap ++ x.fromName rest) = x.gap := by
    rw [hfrom]
    exact leadingBlanks_blanks_append x.gap_line.isBlank hblank
  have hatMark : trimStart (afterWord (x.fromName rest)) =
      x.ending.mark :: (x.ending.rest ++ rest) := by
    rw [fromName, afterWord_word_append x.name_word (x.startsWord_padding rest)]
    exact trimStart_blanks_append x.padding_line.isBlank hmark.2.1
  have hname : leadingWord (x.fromName rest) = x.name :=
    leadingWord_word_append x.name_word (x.startsWord_padding rest)
  rw [declarationShape_of_parts (x.leadsToType_text rest).1 (x.skipSpecifiers_text rest)
    ((congrArg trimStart hafterType).trans hatName) hatMark, hafterType, hblanks, hname,
    leadingWord_word_append x.type_plain.isWord hgap, x.type_plain.isTypeWord, hmark.2.2,
    if_pos (by simp [x.gap_ne_nil, x.name_ne_nil])]
  have hlength : (x.text ++ rest).length - (x.ending.rest ++ rest).length =
      x.lead.length + x.name.length + x.padding.length + 1 := by
    simp only [text, List.length_append, List.length_cons]
    omega
  have hnameAt : (x.text ++ rest).length - (x.fromName rest).length = x.lead.length := by
    simp only [text, fromName, List.length_append, List.length_cons]
    omega
  rw [hlength, hnameAt]
  rfl

end PlainDeclaration

/-! ### The scan -/

theorem scanFrom_blanks (text : List Char) : ∀ (blanks : List Char) (offset : Nat),
    (∀ c ∈ blanks, isBlank c = true) →
      scanFrom declarationShape 0 offset false (blanks ++ text) =
        scanFrom declarationShape 0 (offset + blanks.length) false text
  | [], offset, _ => rfl
  | c :: blanks, offset, h => by
    obtain ⟨hc, hblanks⟩ := List.forall_mem_cons.mp h
    rw [List.cons_append, scanFrom_notWord _ offset false (isWord_eq_false_of_isBlank hc),
      scanFrom_blanks text blanks (offset + 1) hblanks, List.length_cons, Nat.add_right_comm,
      Nat.add_assoc]

/-- Behind the mark nothing is read up to the end of a declaration: no blanks
stand behind the digits. -/
theorem DeclaratorEnd.scanFrom_rest (e : DeclaratorEnd) (text : List Char) (offset : Nat) :
    scanFrom declarationShape 0 offset false (e.rest ++ text) =
      scanFrom declarationShape 0 (offset + e.rest.length) false text := by
  cases e with
  | plain => rfl
  | value blanks digits hblanks hdigits =>
    have hunspaced : ∀ d ∈ digits, isBlank d = false :=
      fun d hd => isBlank_eq_false_of_isDigit (hdigits d hd)
    simp only [rest, List.append_assoc, List.singleton_append]
    rw [scanFrom_blanks _ blanks offset hblanks.isBlank,
      scanFrom_unspaced _ _ false hunspaced (by decide) (by decide)]
    simp [Nat.add_assoc]
  | size digits hdigits =>
    have hunspaced : ∀ d ∈ digits, isBlank d = false :=
      fun d hd => isBlank_eq_false_of_isDigit (hdigits d hd)
    simp only [rest, List.append_assoc, List.cons_append, List.nil_append]
    rw [scanFrom_unspaced _ _ false hunspaced (by decide) (by decide),
      scanFrom_notWord _ _ false (by decide)]
    simp [Nat.add_assoc]

namespace PlainDeclaration

variable (x : PlainDeclaration)

/-- **The scan of a declaration's text** reads the declaration and nothing else. -/
theorem scanFrom_text (place : Nat) (rest : List Char) :
    scanFrom declarationShape 0 place false (x.text ++ rest) =
      x.declaration place :: scanFrom declarationShape 0 (place + x.text.length) false rest := by
  have htext : x.text ++ rest =
      (x.lead ++ (x.name ++ (x.padding ++ [x.ending.mark]))) ++ (x.ending.rest ++ rest) := by
    simp [text]
  have htextLength : x.text.length =
      (x.lead ++ (x.name ++ (x.padding ++ [x.ending.mark]))).length + x.ending.rest.length := by
    simp only [text, List.length_append, List.length_cons, List.length_nil]
    omega
  have hread := x.declarationShape_text rest place
  have hlength : x.lead.length + x.name.length + x.padding.length + 1 =
      (x.lead ++ (x.name ++ (x.padding ++ [x.ending.mark]))).length := by
    simp [Nat.add_assoc]
  have hend : ∀ a, endsWord a (x.lead ++ (x.name ++ (x.padding ++ [x.ending.mark]))) = false := by
    intro a
    rw [endsWord_append, endsWord_append, endsWord_append, endsWord_cons]
    exact x.ending.mark_spec.1
  rw [htext, hlength] at hread
  rw [htext, scanFrom_reading _ (by simp) hread, hend, x.ending.scanFrom_rest, htextLength,
    Nat.add_assoc]

end PlainDeclaration

/-! ### The characters of a declaration -/

/-- A character that stands in a declaration. -/
def IsDeclared (c : Char) : Prop :=
  isWord c = true ∨ isBlank c = true ∧ c ≠ '\n' ∨ isDigit c = true ∨ c ∈ ['=', ';', '[', ']']

theorem LineBlanks.isDeclared {blanks : List Char} (h : LineBlanks blanks) :
    ∀ c ∈ blanks, IsDeclared c :=
  fun c hc => .inr (.inl (h c hc))

theorem isDeclared_specifierText {words : List String} (hwords : words ⊆ specifierWords) :
    ∀ s : Option (Specifier words), ∀ c ∈ specifierText s, IsDeclared c
  | none, c, hc => absurd hc List.not_mem_nil
  | some s, c, hc => by
    rcases List.mem_append.mp hc with hc | hc
    · exact .inl (s.isWord hwords c hc)
    · exact s.blanks_line.isDeclared c hc

theorem DeclaratorEnd.isDeclared (e : DeclaratorEnd) : ∀ c ∈ e.mark :: e.rest, IsDeclared c := by
  intro c hc
  cases e with
  | plain => exact .inr (.inr (.inr (by simp_all [mark, rest])))
  | value blanks digits hblanks hdigits =>
    simp only [mark, rest, List.mem_cons, List.mem_append, List.not_mem_nil, or_false] at hc
    rcases hc with rfl | hc | hc | rfl
    · exact .inr (.inr (.inr (by decide)))
    · exact hblanks.isDeclared c hc
    · exact .inr (.inr (.inl (hdigits c hc)))
    · exact .inr (.inr (.inr (by decide)))
  | size digits hdigits =>
    simp only [mark, rest, List.mem_cons, List.mem_append, List.not_mem_nil, or_false] at hc
    rcases hc with rfl | hc | rfl | rfl
    · exact .inr (.inr (.inr (by decide)))
    · exact .inr (.inr (.inl (hdigits c hc)))
    · exact .inr (.inr (.inr (by decide)))
    · exact .inr (.inr (.inr (by decide)))

theorem PlainDeclaration.isDeclared (x : PlainDeclaration) : ∀ c ∈ x.text, IsDeclared c := by
  intro c hc
  simp only [text, lead, List.mem_append] at hc
  rcases hc with (hc | hc | hc | hc | hc) | hc | hc | hc
  · exact isDeclared_specifierText (by decide) x.linkage c hc
  · exact isDeclared_specifierText (by decide) x.constness c hc
  · exact isDeclared_specifierText (by decide) x.sign c hc
  · exact .inl (x.type_plain.isWord c hc)
  · exact x.gap_line.isDeclared c hc
  · exact .inl (x.name_word c hc)
  · exact x.padding_line.isDeclared c hc
  · exact x.ending.isDeclared c hc

theorem PlainDeclaration.newline_not_mem (x : PlainDeclaration) : '\n' ∉ x.text := by
  intro hmem
  have hnot : isWord '\n' = false ∧ isDigit '\n' = false ∧ '\n' ∉ ['=', ';', '[', ']'] := by decide
  rcases x.isDeclared _ hmem with h | h | h | h
  · exact Bool.false_ne_true (hnot.1.symm.trans h)
  · exact h.2 rfl
  · exact Bool.false_ne_true (hnot.2.1.symm.trans h)
  · exact hnot.2.2 h

end StyleCheck
