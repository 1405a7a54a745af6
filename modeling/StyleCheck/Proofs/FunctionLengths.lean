/-
# The lengths of functions

A text of functions, one after the other: each has a header line that ends in
the opening brace, a body, and the closing brace (`PlainFunction.text`). In a
body braces are balanced and no parenthesis stands. The function length rule
finds each function once, at its place, counts its lines up to its own closing
brace, and reports those that have more lines than the limit
(`check_functionLength`).

The search for signatures passes over a body, because a signature has a
parenthesis and nothing but words and blanks before it, so that none begins in
front of a closing brace and reaches beyond it (`signatureShape_before`). And
the count of braces passes over a body, because its braces are balanced
(`blockEndFrom_append`).

Key definitions: `Balanced`, `PlainFunction`, `PlainFunction.finding`, `placed`.
Key theorems: `signatureShape_before`, `blockEndFrom_append`,
`signatures_functionsText`, `PlainFunction.functionSpan?_text`,
`PlainFunction.linesBetween_text`, `excesses_functionsText`, `check_functionLength`.
-/
import Mathlib.Data.Bool.AllAny
import Mathlib.Data.List.Infix
import StyleCheck.Proofs.LengthFindings
import StyleCheck.Proofs.MaskedText
import StyleCheck.Proofs.Readings

namespace StyleCheck

open Text

namespace Source

/-! ### Texts with nothing to read -/

theorem exists_lead_of_twoWords {a : Bool} {text first second third : List Char}
    (h : twoWords a text = some (first, second, third)) :
    ∃ lead, text = lead ++ third ∧ ∀ c ∈ lead, isWord c = true ∨ isBlank c = true := by
  obtain ⟨-, -, rfl, rfl⟩ := twoWords_eq_some_iff.mp h
  have hlead : ∀ part : List Char, ∀ c ∈ leadingWord part ++ leadingBlanks (afterWord part),
      isWord c = true ∨ isBlank c = true := by
    intro part c hc
    rcases List.mem_append.mp hc with hc | hc
    · exact .inl (isWord_of_mem_leadingWord hc)
    · exact .inr (isBlank_of_mem_leadingBlanks hc)
  refine ⟨_ ++ _, ?_, fun c hc => (List.mem_append.mp hc).elim (hlead text c)
    (hlead (trimStart (afterWord text)) c)⟩
  rw [List.append_assoc, leadingWord_append_blanks, leadingWord_append_blanks]

/-- No signature begins in front of a character that is neither a word's nor
blank, unless its parenthesis stands in front of it too. -/
theorem signatureShape_before {u v : List Char} {c : Char} (offset : Nat) (a : Bool)
    (hu : '(' ∉ u) (hc : '(' ≠ c) (hword : isWord c = false) (hblank : isBlank c = false) :
    signatureShape offset a (u ++ c :: v) = none := by
  unfold signatureShape
  split
  · rename_i first second parameters hwords
    obtain ⟨lead, hlead, hclass⟩ := exists_lead_of_twoWords hwords
    exfalso
    rcases List.append_eq_append_iff.mp hlead with ⟨m, rfl, hm⟩ | ⟨m, rfl, hm⟩
    · cases m with
      | nil => exact hc (List.cons.inj hm).1.symm
      | cons d m =>
        obtain ⟨rfl, -⟩ := List.cons.inj hm
        rcases hclass c (by simp) with h | h
        · exact Bool.false_ne_true (hword.symm.trans h)
        · exact Bool.false_ne_true (hblank.symm.trans h)
    · cases m with
      | nil => exact hc (List.cons.inj hm).1
      | cons d m =>
        obtain ⟨rfl, -⟩ := List.cons.inj hm
        exact hu (by simp)
  · rfl

theorem scanFrom_before {u v : List Char} {c : Char} (offset : Nat) (a : Bool) (hu : '(' ∉ u)
    (hc : '(' ≠ c) (hword : isWord c = false) (hblank : isBlank c = false) :
    scanFrom signatureShape 0 offset a (u ++ c :: v) =
      scanFrom signatureShape 0 (offset + u.length + 1) false v :=
  scanFrom_past v hword u offset a fun _ hw offset a =>
    signatureShape_before offset a (fun h => hu (hw.subset h)) hc hword hblank

/-! ### Balanced braces -/

/-- Every brace that is closed was opened before, and all are closed. -/
def Balanced (text : List Char) : Prop :=
  (∀ p ∈ text.inits, p.count closeBrace ≤ p.count openBrace) ∧
    text.count openBrace = text.count closeBrace

instance (text : List Char) : Decidable (Balanced text) :=
  inferInstanceAs (Decidable (_ ∧ _))

theorem Balanced.cons {text : List Char} {c : Char} (h : Balanced text) (hopen : c ≠ openBrace)
    (hclose : c ≠ closeBrace) : Balanced (c :: text) := by
  refine ⟨fun p hp => ?_, ?_⟩
  · cases p with
    | nil => exact Nat.le_refl 0
    | cons d p =>
      obtain ⟨rfl, hprefix⟩ := List.cons_prefix_cons.mp ((List.mem_inits _ _).mp hp)
      rw [List.count_cons_of_ne hopen, List.count_cons_of_ne hclose]
      exact h.1 p ((List.mem_inits _ _).mpr hprefix)
  · rw [List.count_cons_of_ne hopen, List.count_cons_of_ne hclose]
    exact h.2

section Block

variable (depth offset : Nat) (text : List Char)

theorem blockEndFrom_open :
    blockEndFrom depth offset (openBrace :: text) = blockEndFrom (depth + 1) (offset + 1) text := by
  rw [blockEndFrom.eq_def]
  rfl

theorem blockEndFrom_close_inner :
    blockEndFrom (depth + 2) offset (closeBrace :: text) =
      blockEndFrom (depth + 1) (offset + 1) text := by
  rw [blockEndFrom.eq_def]
  rfl

theorem blockEndFrom_close_last : blockEndFrom 1 offset (closeBrace :: text) = some offset := by
  rw [blockEndFrom.eq_def]
  rfl

theorem blockEndFrom_other {c : Char} (hopen : c ≠ openBrace) (hclose : c ≠ closeBrace) :
    blockEndFrom depth offset (c :: text) = blockEndFrom depth (offset + 1) text := by
  rw [blockEndFrom.eq_def]
  simp only [if_neg hopen, if_neg hclose]

end Block

/-- Where `depth + 1` braces are open, a text that never closes the outermost of
them is passed over, and `depth' + 1` are open behind it. -/
theorem blockEndFrom_append (v : List Char) : ∀ (u : List Char) (depth depth' offset : Nat),
    (∀ p, p <+: u → p.count closeBrace ≤ depth + p.count openBrace) →
    depth' + u.count closeBrace = depth + u.count openBrace →
      blockEndFrom (depth + 1) offset (u ++ v) = blockEndFrom (depth' + 1) (offset + u.length) v
  | [], depth, depth', offset, _, hsum => by
    obtain rfl : depth' = depth := hsum
    rfl
  | c :: u, depth, depth', offset, hle, hsum => by
    have hstep : ∀ p, p <+: u →
        (c :: p).count closeBrace ≤ depth + (c :: p).count openBrace :=
      fun p hp => hle (c :: p) (List.cons_prefix_cons.mpr ⟨rfl, hp⟩)
    have hadd : offset + (c :: u).length = offset + 1 + u.length := by
      rw [List.length_cons, Nat.add_right_comm, Nat.add_assoc]
    rw [List.cons_append, hadd]
    by_cases hopen : c = openBrace
    · subst hopen
      have hne : openBrace ≠ closeBrace := by decide
      simp only [List.count_cons_self, List.count_cons_of_ne hne] at hstep hsum
      rw [blockEndFrom_open]
      exact blockEndFrom_append v u (depth + 1) depth' (offset + 1)
        (fun p hp => by have := hstep p hp; omega) (by omega)
    by_cases hclose : c = closeBrace
    · subst hclose
      simp only [List.count_cons_self, List.count_cons_of_ne hopen] at hstep hsum
      -- the empty prefix of what follows: one brace at least is open besides the outermost
      have hpos : 1 ≤ depth := by simpa using hstep [] List.nil_prefix
      obtain ⟨depth, rfl⟩ : ∃ k, depth = k + 1 := ⟨depth - 1, by omega⟩
      rw [blockEndFrom_close_inner]
      exact blockEndFrom_append v u depth depth' (offset + 1)
        (fun p hp => by have := hstep p hp; omega) (by omega)
    · simp only [List.count_cons_of_ne hopen, List.count_cons_of_ne hclose] at hstep hsum
      rw [blockEndFrom_other _ _ _ hopen hclose]
      exact blockEndFrom_append v u depth depth' (offset + 1) hstep hsum

/-- Inside a block a text with balanced braces is passed over. -/
theorem blockEndFrom_balanced {u : List Char} (v : List Char) (offset : Nat) (h : Balanced u) :
    blockEndFrom 1 offset (u ++ v) = blockEndFrom 1 (offset + u.length) v := by
  refine blockEndFrom_append v u 0 0 offset (fun p hp => ?_) ?_
  · rw [Nat.zero_add]
    exact h.1 p ((List.mem_inits p u).mpr hp)
  · rw [h.2]

end Source

/-! ### Functions -/

open Source

/-- A function without parameters and without a result. Its body is any text
with balanced braces and without quotes, slashes and parentheses; the last line
of the body may be the one with the closing brace. -/
structure PlainFunction where
  name : List Char
  body : List Char
  name_ne_nil : name ≠ []
  name_word : ∀ c ∈ name, isWord c = true
  name_free : String.ofList name ∉ controlWords
  body_plain : ∀ c ∈ body, c ∉ ['"', '/', '(', ')']
  body_balanced : Balanced body

namespace PlainFunction

variable (f : PlainFunction)

/-- The header line up to the opening brace. -/
def header : List Char :=
  "void ".toList ++ (f.name ++ "(void) ".toList)

/-- The text of a function. -/
def text : List Char :=
  f.header ++ openBrace :: '\n' :: (f.body ++ [closeBrace, '\n'])

/-- The number of its lines: the header line, the lines of the body, and the
line with the closing brace. -/
def lineCount : Int :=
  2 + newlineCount f.body

/-- What is reported about a function that is too long: it stands at `place`,
and its name five characters further on, behind the return type. -/
def finding (limit : Int) (place : Nat) : Finding where
  ruleId := "CUBTEK-FUNC-001"
  message := "Function \"" ++ String.ofList f.name ++ "\" is " ++
    String.ofList (integerText f.lineCount) ++ " lines long (maximum allowed is " ++
    String.ofList (integerText limit) ++ ")"
  kind := .function
  offset := some ((place + 5 : Nat) : Int)
  identifier := some (String.ofList f.name)
  details := [("name", .text (String.ofList f.name)), ("lineCount", .number (.whole f.lineCount)),
    ("maxAllowed", .number (.whole limit))]

/-- The signature of a function that stands at `place`. -/
def signature (place : Nat) : Signature where
  start := place
  stop := place + f.header.length + 1
  returnType := "void".toList
  nameAt := place + 5
  name := f.name

end PlainFunction

/-- The text of functions that follow each other. -/
def functionsText (functions : List PlainFunction) : List Char :=
  functions.flatMap PlainFunction.text

/-- The functions with their places in the text, the first one at `place`. -/
def placed (place : Nat) : List PlainFunction → List (Nat × PlainFunction)
  | [] => []
  | f :: functions => (place, f) :: placed (place + f.text.length) functions

/-! ### The signatures in the text -/

namespace PlainFunction

variable (f : PlainFunction)

theorem header_eq : f.header = "void ".toList ++ (f.name ++ "(void) ".toList) := rfl

theorem not_mem_header {c : Char} (hword : isWord c = false)
    (hfixed : c ∉ "void ".toList ++ "(void) ".toList) : c ∉ f.header := by
  simp only [header_eq, List.mem_append, not_or] at hfixed ⊢
  exact ⟨hfixed.1, not_mem_of_word f.name_word hword, hfixed.2⟩

theorem not_mem_body {c : Char} (h : c ∈ ['"', '/', '(', ')']) : c ∉ f.body :=
  fun hc => f.body_plain c hc h

theorem not_mem_text {c : Char} (hc : c ∈ ['"', '/']) : c ∉ f.text := by
  have hfixed : ∀ d ∈ ['"', '/'], isWord d = false ∧ d ∉ "void ".toList ++ "(void) ".toList ∧
      d ∉ [openBrace, '\n', closeBrace] := List.all_iff_forall_prop.mp (by decide)
  obtain ⟨hword, hheader, hbrace⟩ := hfixed c hc
  have hbody := f.not_mem_body (List.mem_append_left ['(', ')'] hc)
  simp only [List.mem_cons, List.not_mem_nil, or_false, not_or] at hbrace
  simp [text, f.not_mem_header hword hheader, hbody, hbrace]

theorem twoWords_header (rest : List Char) :
    twoWords false (f.header ++ rest) =
      some ("void".toList, f.name ++ ("(void) ".toList ++ rest), "(void) ".toList ++ rest) := by
  have htype : AwaitsName "void ".toList :=
    ⟨"voi".toList, 'd', [' '], rfl, by decide, by decide, List.forall_mem_singleton.mpr (by decide)⟩
  have hname : startsWord f.name = true := startsWord_of_word f.name_ne_nil f.name_word
  have hsecond := startsWord_append_of ("(void) ".toList ++ rest) hname
  have htext : f.header ++ rest = "void ".toList ++ (f.name ++ ("(void) ".toList ++ rest)) := by
    simp only [header_eq, List.append_assoc]
  have hafter : afterWord (f.header ++ rest) = [' '] ++ (f.name ++ ("(void) ".toList ++ rest)) := by
    rw [htext, htype.afterWord_append]
    rfl
  have htrim : trimStart (afterWord (f.header ++ rest)) = f.name ++ ("(void) ".toList ++ rest) := by
    rw [hafter, trimStart_append _ hsecond]
    rfl
  refine twoWords_eq_some_iff.mpr ⟨⟨rfl, ?_, ?_, ?_⟩, ?_, htrim.symm, ?_⟩
  · rw [htext]
    rfl
  · rw [hafter, leadingBlanks_append _ hsecond]
    decide
  · rw [htrim]
    exact hsecond
  · rw [htext, htype.leadingWord_append]
    rfl
  · rw [htrim, afterWord_append_word _ f.name_word]
    rfl

theorem signatureShape_header (place : Nat) (rest : List Char) :
    signatureShape place false (f.header ++ openBrace :: rest) =
      some (f.signature place, f.header.length + 1) := by
  have hname : leadingWord (f.name ++ ("(void) ".toList ++ openBrace :: rest)) = f.name := by
    rw [leadingWord_append_word _ f.name_word]
    exact List.append_nil f.name
  have hbody : (afterParenthesis ("void) ".toList ++ openBrace :: rest)).bind afterOpening =
      some rest := rfl
  have hlength : (f.header ++ openBrace :: rest).length - rest.length = f.header.length + 1 := by
    simp only [List.length_append, List.length_cons]
    omega
  have hnameAt : (f.header ++ openBrace :: rest).length -
      (f.name ++ ("(void) ".toList ++ openBrace :: rest)).length = 5 := by
    have hvoid : "void ".toList.length = 5 := rfl
    simp only [header_eq, List.length_append, hvoid]
    omega
  have hopen : "(void) ".toList = '(' :: "void) ".toList := rfl
  unfold signatureShape
  rw [f.twoWords_header]
  simp only [hopen, List.cons_append] at hname hnameAt ⊢
  rw [hbody]
  simp only [hname, hlength, hnameAt]
  rfl

theorem isFunction_signature (place : Nat) : (f.signature place).isFunction = true := by
  have hname : controlWords.contains (String.ofList f.name) = false := by
    simpa using f.name_free
  unfold Signature.isFunction signature
  simp only [hname]
  decide

/-- **The scan of a function's text** reads its signature and nothing else. -/
theorem scanFrom_text (place : Nat) (rest : List Char) :
    scanFrom signatureShape 0 place false (f.text ++ rest) =
      f.signature place :: scanFrom signatureShape 0 (place + f.text.length) false rest := by
  have htext : f.text ++ rest =
      (f.header ++ [openBrace]) ++ (('\n' :: f.body) ++ closeBrace :: '\n' :: rest) := by
    simp [text]
  have hread : signatureShape place false
      ((f.header ++ [openBrace]) ++ (('\n' :: f.body) ++ closeBrace :: '\n' :: rest)) =
        some (f.signature place, (f.header ++ [openBrace]).length) := by
    rw [List.append_assoc, List.singleton_append, f.signatureShape_header, List.length_append,
      List.length_singleton]
  have hparen : '(' ∉ '\n' :: f.body :=
    List.not_mem_cons_of_ne_of_not_mem (by decide) (f.not_mem_body (by decide))
  rw [htext, scanFrom_reading _ (by simp) hread,
    scanFrom_before _ _ hparen (by decide) (by decide) (by decide), scanFrom,
    signatureShape_of_not_startsWord _ _ rfl]
  simp only [List.cons.injEq, true_and]
  congr 1
  simp only [text, List.length_append, List.length_cons, List.length_nil]
  omega

end PlainFunction

theorem scanFrom_functionsText : ∀ (functions : List PlainFunction) (place : Nat),
    scanFrom signatureShape 0 place false (functionsText functions) =
      (placed place functions).map fun (place, f) => f.signature place
  | [], place => rfl
  | f :: functions, place => by
    have ih := scanFrom_functionsText functions (place + f.text.length)
    unfold functionsText at ih ⊢
    rw [List.flatMap_cons, f.scanFrom_text, ih]
    rfl

/-- **The signatures in a text of functions**: one for each function, in order,
at its place. -/
theorem signatures_functionsText (functions : List PlainFunction) :
    signatures (functionsText functions) =
      (placed 0 functions).map fun (place, f) => f.signature place := by
  have hscan : scan signatureShape (functionsText functions) =
      (placed 0 functions).map fun (place, f) => f.signature place :=
    scanFrom_functionsText functions 0
  rw [signatures, hscan, List.filter_eq_self]
  intro s hs
  obtain ⟨⟨place, f⟩, -, rfl⟩ := List.mem_map.mp hs
  exact f.isFunction_signature place

theorem mask_functionsText (functions : List PlainFunction) :
    mask (functionsText functions) = functionsText functions := by
  have hnot : ∀ c ∈ ['"', '/'], c ∉ functionsText functions := by
    intro c hc hmem
    obtain ⟨f, -, hf⟩ := List.mem_flatMap.mp hmem
    exact f.not_mem_text hc hf
  exact mask_eq_self (hnot '"' (by decide)) (hnot '/' (by decide))

/-! ### The lines of a function -/

namespace PlainFunction

variable (f : PlainFunction) {before after : List Char}

/-- The text of a function up to its closing brace. -/
def opened : List Char :=
  f.header ++ openBrace :: '\n' :: f.body

theorem text_eq : f.text = f.opened ++ [closeBrace, '\n'] := by
  simp [text, opened]

/-- A function's block ends at its own closing brace. -/
theorem functionSpan?_text :
    functionSpan? (before ++ (f.text ++ after)) (f.signature before.length) =
      some (before.length, before.length + f.opened.length) := by
  have htext : before ++ (f.text ++ after) =
      (before ++ f.header) ++ openBrace :: (('\n' :: f.body) ++ closeBrace :: '\n' :: after) := by
    simp [text]
  have hstart : ((f.signature before.length).stop : Int) - 1 =
      ((before ++ f.header).length : Int) := by
    simp only [signature, List.length_append]
    omega
  have hblock : blockEndFrom 0 (before ++ f.header).length
      (openBrace :: (('\n' :: f.body) ++ closeBrace :: '\n' :: after)) =
        some ((before ++ f.header).length + 1 + ('\n' :: f.body).length) := by
    have hbalanced : Balanced ('\n' :: f.body) := f.body_balanced.cons (by decide) (by decide)
    rw [blockEndFrom_open, blockEndFrom_balanced _ _ hbalanced, blockEndFrom_close_last]
  unfold functionSpan? blockEnd?
  rw [hstart, Int.toNat_natCast, htext, List.drop_left' rfl, hblock]
  simp only [signature, opened, Option.map_some, List.length_append, List.length_cons]
  congr 2
  omega

theorem linesBetween_text (d : Document) (htext : d.text = before ++ (f.text ++ after)) :
    d.linesBetween before.length (before.length + f.opened.length) = f.lineCount := by
  have hbefore : d.text.take before.length = before := by
    rw [htext, List.take_left' rfl]
  have hopened : d.text.take (before.length + f.opened.length) = before ++ f.opened := by
    rw [htext, f.text_eq, List.append_assoc, ← List.append_assoc, List.take_left' (by simp)]
  have hheader : '\n' ∉ f.header := f.not_mem_header (by decide) (by decide)
  unfold Document.linesBetween Document.positionAt
  simp only [Int.toNat_natCast, hbefore, hopened]
  simp only [lineCount, newlineCount, opened, List.count_append, List.count_cons_self,
    List.count_cons_of_ne (show openBrace ≠ '\n' by decide),
    List.count_eq_zero_of_not_mem hheader]
  omega

end PlainFunction

theorem exists_of_mem_placed {f : PlainFunction} {place : Nat} :
    ∀ (functions : List PlainFunction) (first : Nat), (place, f) ∈ placed first functions →
      ∃ before after, functionsText functions = before ++ (f.text ++ after) ∧
        place = first + before.length
  | [], first, h => by simp [placed] at h
  | g :: functions, first, h => by
    rcases List.mem_cons.mp h with h | h
    · obtain ⟨rfl, rfl⟩ := Prod.mk.inj h
      exact ⟨[], functionsText functions, rfl, rfl⟩
    · obtain ⟨before, after, htext, rfl⟩ := exists_of_mem_placed functions _ h
      refine ⟨g.text ++ before, after, ?_, by simp [Nat.add_assoc]⟩
      unfold functionsText at htext ⊢
      rw [List.flatMap_cons, htext, List.append_assoc]

theorem excessLines?_of_mem_placed {limit : Int} {functions : List PlainFunction} {place : Nat}
    {f : PlainFunction} (d : Document) (htext : d.text = functionsText functions)
    (h : (place, f) ∈ placed 0 functions) :
    excessLines? limit d (functionsText functions) (f.signature place) =
      if limit < f.lineCount then some f.lineCount else none := by
  obtain ⟨before, after, hat, rfl⟩ := exists_of_mem_placed functions 0 h
  rw [Nat.zero_add]
  unfold excessLines?
  rw [hat, f.functionSpan?_text]
  simp only [f.linesBetween_text d (htext.trans hat)]
  split
  · rw [if_neg (by omega)]
  · rw [if_pos (by omega)]

theorem excesses_functionsText (limit : Int) (d : Document) (functions : List PlainFunction)
    (htext : d.text = functionsText functions) :
    excesses limit d = (placed 0 functions).filterMap fun (place, f) =>
      if limit < f.lineCount then some (f.signature place, f.lineCount) else none := by
  unfold excesses
  rw [htext, mask_functionsText, signatures_functionsText, List.filterMap_map]
  refine List.filterMap_congr fun (place, f) h => ?_
  simp only [Function.comp_apply, excessLines?_of_mem_placed d htext h]
  by_cases hlong : limit < f.lineCount
  · rw [if_pos hlong, if_pos hlong, Option.map_some]
  · rw [if_neg hlong, if_neg hlong, Option.map_none]

theorem map_snd_placed : ∀ (functions : List PlainFunction) (first : Nat),
    (placed first functions).map (·.2) = functions
  | [], _ => rfl
  | f :: functions, _ => congrArg (f :: ·) (map_snd_placed functions _)

theorem forall_excesses_functionsText_iff {limit : Int} {d : Document}
    {functions : List PlainFunction} (htext : d.text = functionsText functions) :
    (∀ e ∈ excesses limit d, IsShown limit e.2) ↔
      ∀ f ∈ functions, limit < f.lineCount → IsShown limit f.lineCount := by
  rw [excesses_functionsText limit d functions htext]
  conv_rhs => rw [← map_snd_placed functions 0]
  simp only [List.forall_mem_filterMap, List.forall_mem_map]
  refine forall₂_congr fun (place, f) _ => ?_
  by_cases hlong : limit < f.lineCount
  · simp [hlong]
  · simp [hlong]

/-- **The boundary of the function length rule.** In a text of functions the
rule reports exactly those with more lines than the limit, in order, each with
its name, the place of its name, its number of lines and the limit. It fails
only if it would have to show a number of too many digits for one of them: their
lines are more than a text can have, or the limit is as far below zero. -/
theorem check_functionLength (r : Rule) (limit : Int) (hlimit : r.limit? = some limit)
    (d : Document) (functions : List PlainFunction) (htext : d.text = functionsText functions) :
    (r.check d).value =
      if ∀ f ∈ functions, limit < f.lineCount → IsShown limit f.lineCount then
        some ((placed 0 functions).filterMap fun (place, f) =>
          if limit < f.lineCount then some (f.finding limit place) else none)
      else none := by
  split
  · rename_i hshown
    rw [Rule.value_check_eq_some_iff hlimit, longFunctions_eq_ok_iff]
    refine ⟨(forall_excesses_functionsText_iff htext).mpr hshown, ?_⟩
    rw [excesses_functionsText limit d functions htext, List.map_filterMap]
    refine List.filterMap_congr fun (place, f) _ => ?_
    by_cases hlong : limit < f.lineCount
    · simp only [if_pos hlong]
      rfl
    · simp only [if_neg hlong]
      rfl
  · rename_i hshown
    rw [← forall_excesses_functionsText_iff htext, ← exists_longFunctions_eq_ok_iff] at hshown
    cases hcheck : (r.check d).value with
    | none => rfl
    | some findings => exact absurd ⟨findings, (Rule.value_check_eq_some_iff hlimit).mp hcheck⟩ hshown

/-- A function of four lines. -/
def waitFunction : PlainFunction where
  name := "wait".toList
  body := "a;\nb;\n".toList
  name_ne_nil := by decide
  name_word := List.all_iff_forall_prop.mp (by decide)
  name_free := by decide
  body_plain := List.all_iff_forall_prop.mp (by decide)
  body_balanced := by decide

/-- A function of five lines with a block in its body. -/
def drainFunction : PlainFunction where
  name := "drain".toList
  body := "do \x7b a; \x7d b;\n\x7b\n\x7d\n".toList
  name_ne_nil := by decide
  name_word := List.all_iff_forall_prop.mp (by decide)
  name_free := by decide
  body_plain := List.all_iff_forall_prop.mp (by decide)
  body_balanced := by decide

/-- With a limit of four lines the function of five is reported, and the ones of
four lines before and behind it are not. -/
theorem check_functionLength_four :
    ((Rule.functionLength 4).check { text := ("void wait(void) \x7b\na;\nb;\n\x7d\n" ++
        "void drain(void) \x7b\ndo \x7b a; \x7d b;\n\x7b\n\x7d\n\x7d\n" ++
        "void wait(void) \x7b\na;\nb;\n\x7d\n").toList }).value.map
          (fun findings => findings.map fun f => (f.identifier, f.offset, f.details)) =
      some [(some "drain", some 31, [("name", .text "drain"), ("lineCount", .number (.whole 5)),
        ("maxAllowed", .number (.whole 4))])] := by
  rw [check_functionLength (Rule.functionLength 4) 4 rfl _
    [waitFunction, drainFunction, waitFunction] (by decide), if_pos (by decide +kernel)]
  rfl

end StyleCheck
