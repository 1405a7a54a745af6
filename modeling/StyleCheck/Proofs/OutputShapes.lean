/-
# The shape of a reported problem

Which lines of the analyzer's output report a problem is said here by the ways to cut
a line into parts (`OutputLine.IsWrittenAs`), from the path in front to the rule id at
the end, and not by the order in which a reader tries them. A line is read exactly if
it can be cut in some way (`read?_isSome_iff`), and what is read is one of the ways
(`isWrittenAs_of_read?`).

The reader passes over two ends of a message that the cuts allow. It takes the first
place where a rule id follows, and so one at that place or before it. And it does not
end a message of more than one character with a blank: the same rule id follows one
character earlier, since that blank can stand in the gap instead
(`exists_readMessage?`).

Key definitions: `IsGap`, `IsNumeral`, `EndsWithRuleId`, `ReadsMessage`,
`OutputLine.ReadsProblem`, `OutputLine.IsWrittenAs`.
Key theorems: `readRuleId?_eq_some_iff`, `exists_readMessage?`,
`readAfterBlanks?_isSome_iff`, `readAfterPath?_isSome_iff`, `isWrittenAs_of_read?`,
`read?_isSome_iff`.
-/
import Mathlib.Data.List.Induction
import StyleCheck.Proofs.OutputLines

namespace StyleCheck

open Text Source

/-! ### Ways to cut a line -/

/-- Blanks, at least one. -/
def IsGap (gap : List Char) : Prop :=
  gap ≠ [] ∧ ∀ c ∈ gap, isBlank c = true

/-- Digits, at least one. -/
def IsNumeral (digits : List Char) : Prop :=
  digits ≠ [] ∧ ∀ c ∈ digits, isDigit c = true

namespace OutputLine

/-- The text is a rule id in brackets behind a gap, and nothing but blanks follows. -/
def EndsWithRuleId (ruleId text : List Char) : Prop :=
  ∃ gap after, text = gap ++ '[' :: (ruleId ++ ']' :: after) ∧ IsGap gap ∧ ruleId ≠ [] ∧
    ']' ∉ ruleId ∧ ∀ c ∈ after, isBlank c = true

/-- The text is a message on one line behind a gap, and a rule id follows. -/
def ReadsMessage (message ruleId text : List Char) : Prop :=
  ∃ gap rest, text = gap ++ (message ++ rest) ∧ IsGap gap ∧ message ≠ [] ∧ '\n' ∉ message ∧
    EndsWithRuleId ruleId rest

/-- The text gives the place, the grade, the message and the rule id of a problem. -/
def ReadsProblem (o : OutputLine) (text : List Char) : Prop :=
  ∃ gap rest, text = o.line ++ ':' :: (o.column ++ ':' :: (gap ++
      (o.grade.name.toList ++ ':' :: rest))) ∧
    IsNumeral o.line ∧ IsNumeral o.column ∧ IsGap gap ∧ ReadsMessage o.message o.ruleId rest

/-- The text is a path on one line, a colon, and a problem. -/
def IsWrittenAs (o : OutputLine) (text : List Char) : Prop :=
  ∃ rest, text = o.path ++ ':' :: rest ∧ o.path ≠ [] ∧ '\n' ∉ o.path ∧ o.ReadsProblem rest

/-! ### The rule id -/

/-- **A rule id is read exactly where one ends the text.** -/
theorem readRuleId?_eq_some_iff {text ruleId : List Char} :
    readRuleId? text = some ruleId ↔ EndsWithRuleId ruleId text := by
  constructor
  · intro h
    obtain ⟨gap, after, rfl, hblanks, hopen, hafter⟩ := eq_of_readRuleId? h
    have hgap : IsGap gap := by
      refine ⟨?_, hblanks⟩
      rintro rfl
      have hnone : readRuleId? ('[' :: (ruleId ++ ']' :: after)) = none := rfl
      exact absurd (hnone.symm.trans h) nofun
    rw [readRuleId?_of_cut after hgap.1 hgap.2 hopen] at h
    have hne : ruleId ≠ [] := by
      rintro rfl
      rw [if_neg (by simp)] at h
      exact absurd h nofun
    exact ⟨gap, after, rfl, hgap, hne, hopen, hafter⟩
  · rintro ⟨gap, after, rfl, hgap, hne, hopen, hafter⟩
    rw [readRuleId?_of_cut after hgap.1 hgap.2 hopen]
    exact if_pos ⟨hne, List.all_eq_true.mpr hafter⟩

theorem EndsWithRuleId.cons {ruleId text : List Char} {c : Char} (hc : isBlank c = true)
    (h : EndsWithRuleId ruleId text) : EndsWithRuleId ruleId (c :: text) := by
  obtain ⟨gap, after, rfl, hgap, hrest⟩ := h
  exact ⟨c :: gap, after, rfl, ⟨List.cons_ne_nil c gap, List.forall_mem_cons.mpr ⟨hc, hgap.2⟩⟩,
    hrest⟩

/-! ### The message -/

theorem exists_of_readMessage? {message ruleId : List Char} :
    ∀ {before text : List Char}, readMessage? before text = some (message, ruleId) →
      ∃ word rest, text = word ++ rest ∧ message = before.reverse ++ word ∧ word ≠ [] ∧
        '\n' ∉ word ∧ EndsWithRuleId ruleId rest
  | before, [], h => by simp [readMessage?] at h
  | before, c :: text, h => by
    rw [readMessage?] at h
    by_cases hline : c = '\n'
    · rw [if_pos hline] at h
      cases h
    rw [if_neg hline] at h
    split at h
    · -- the message ends with `c`
      rename_i found hfound
      obtain ⟨rfl, rfl⟩ := Prod.mk.inj (Option.some.inj h)
      have hread : readRuleId? text = some found := by
        split at hfound
        · cases hfound
        · exact hfound
      exact ⟨[c], text, rfl, List.reverse_cons, List.cons_ne_nil c [],
        fun hmem => hline (List.mem_singleton.mp hmem).symm, readRuleId?_eq_some_iff.mp hread⟩
    · obtain ⟨word, rest, rfl, rfl, -, hword, hrest⟩ := exists_of_readMessage? h
      refine ⟨c :: word, rest, rfl, ?_, List.cons_ne_nil c word, ?_, hrest⟩
      · rw [List.reverse_cons, List.append_assoc]
        rfl
      · exact List.not_mem_cons_of_ne_of_not_mem (fun heq => hline heq.symm) hword

/-- A message is read up to a character behind which a rule id stands, or ends
before it. -/
theorem exists_readMessage?_of_last {c : Char} {rest ruleId : List Char} (hline : c ≠ '\n')
    (hrest : EndsWithRuleId ruleId rest) :
    ∀ before init : List Char, '\n' ∉ init →
      (isBlank c = false ∨ before = [] ∧ init = []) →
      ∃ r, readMessage? before (init ++ c :: rest) = some r
  | before, [], _, hend => by
    have htried : ¬ (before ≠ [] ∧ isBlank c = true) := by
      rintro ⟨hne, hc⟩
      rcases hend with hblank | ⟨rfl, -⟩
      · rw [hc] at hblank
        exact absurd hblank nofun
      · exact hne rfl
    have hread : readRuleId? rest = some ruleId := readRuleId?_eq_some_iff.mpr hrest
    refine ⟨((c :: before).reverse, ruleId), ?_⟩
    rw [List.nil_append, readMessage?, if_neg hline, if_neg htried, hread]
  | before, e :: init, hinit, hend => by
    have he : e ≠ '\n' := fun heq => hinit (heq ▸ List.mem_cons_self)
    have hinit' : '\n' ∉ init := fun hmem => hinit (List.mem_cons_of_mem e hmem)
    have hend' : isBlank c = false := by
      rcases hend with hblank | ⟨-, hnil⟩
      · exact hblank
      · exact absurd hnil (List.cons_ne_nil e init)
    rw [List.cons_append, readMessage?, if_neg he]
    split
    · exact ⟨_, rfl⟩
    · exact exists_readMessage?_of_last hline hrest (e :: before) init hinit' (Or.inl hend')

/-- **Where a message goes on to a rule id, a message is read.** -/
theorem exists_readMessage? {ruleId : List Char} (word : List Char) :
    ∀ rest, word ≠ [] → '\n' ∉ word → EndsWithRuleId ruleId rest →
      ∃ r, readMessage? [] (word ++ rest) = some r := by
  -- from the end of the message, since blanks there are left to the gap
  induction word using List.reverseRecOn with
  | nil => exact fun _ hne => absurd rfl hne
  | append_singleton init c ih =>
    intro rest _ hnewline hrest
    have hinit : '\n' ∉ init := fun hmem => hnewline (List.mem_append_left [c] hmem)
    have hline : c ≠ '\n' := fun heq => hnewline (by rw [heq]; simp)
    rw [List.append_assoc, List.singleton_append]
    by_cases hend : isBlank c = false ∨ ([] : List Char) = [] ∧ init = []
    · exact exists_readMessage?_of_last hline hrest [] init hinit hend
    · rw [not_or, Bool.not_eq_false] at hend
      have hne : init ≠ [] := fun hnil => hend.2 ⟨rfl, hnil⟩
      exact ih (c :: rest) hne hinit (hrest.cons hend.1)

theorem readsMessage_of_readAfterBlanks? {message ruleId : List Char} :
    ∀ {text : List Char}, readAfterBlanks? text = some (message, ruleId) →
      ReadsMessage message ruleId text
  | [], h => by simp [readAfterBlanks?] at h
  | c :: text, h => by
    rw [readAfterBlanks?] at h
    split at h
    · rename_i hc
      rcases Option.or_eq_some_iff.mp (Option.orElse_eq_or ▸ h) with hlater | ⟨-, hhere⟩
      · obtain ⟨gap, rest, rfl, hgap, hmessage⟩ := readsMessage_of_readAfterBlanks? hlater
        exact ⟨c :: gap, rest, rfl,
          ⟨List.cons_ne_nil c gap, List.forall_mem_cons.mpr ⟨hc, hgap.2⟩⟩, hmessage⟩
      · obtain ⟨word, rest, rfl, rfl, hne, hword, hrest⟩ := exists_of_readMessage? hhere
        exact ⟨[c], rest, rfl, ⟨List.cons_ne_nil c [], List.forall_mem_singleton.mpr hc⟩, hne,
          hword, hrest⟩
    · cases h

theorem exists_readAfterBlanks? {body : List Char} (hbody : ∃ r, readMessage? [] body = some r) :
    ∀ gap : List Char, IsGap gap → ∃ r, readAfterBlanks? (gap ++ body) = some r
  | [], hgap => absurd rfl hgap.1
  | c :: gap, hgap => by
    obtain ⟨hc, hblanks⟩ := List.forall_mem_cons.mp hgap.2
    rw [List.cons_append, readAfterBlanks?, if_pos hc]
    cases hlater : readAfterBlanks? (gap ++ body) with
    | some r => exact ⟨r, rfl⟩
    | none =>
      have hnil : gap = [] := by
        by_contra hne
        obtain ⟨r, hr⟩ := exists_readAfterBlanks? hbody gap ⟨hne, hblanks⟩
        cases hlater.symm.trans hr
      rw [hnil]
      exact hbody

/-- **A message is read exactly where there is one.** -/
theorem readAfterBlanks?_isSome_iff {text : List Char} :
    (∃ r, readAfterBlanks? text = some r) ↔ ∃ message ruleId, ReadsMessage message ruleId text := by
  constructor
  · rintro ⟨⟨message, ruleId⟩, h⟩
    exact ⟨message, ruleId, readsMessage_of_readAfterBlanks? h⟩
  · rintro ⟨message, ruleId, gap, rest, rfl, hgap, hne, hnewline, hrest⟩
    exact exists_readAfterBlanks? (exists_readMessage? message rest hne hnewline hrest) gap hgap

/-! ### The place and the grade -/

theorem readNumber?_eq_some_iff {text digits rest : List Char} :
    readNumber? text = some (digits, rest) ↔ text = digits ++ ':' :: rest ∧ IsNumeral digits := by
  constructor
  · intro h
    refine ⟨(eq_of_readNumber? h).1, ?_⟩
    unfold readNumber? at h
    split at h
    · rename_i d ds tail htake hdrop
      obtain ⟨rfl, -⟩ := Prod.mk.inj (Option.some.inj h)
      refine ⟨List.cons_ne_nil d ds, ?_⟩
      rw [← htake]
      exact List.all_eq_true.mp List.all_takeWhile
    · exact absurd h nofun
  · rintro ⟨rfl, hdigits⟩
    exact readNumber?_append rest hdigits.1 hdigits.2

theorem eq_of_readGrade? {text rest : List Char} {grade : Grade}
    (h : readGrade? text = some (grade, rest)) :
    text = grade.name.toList ++ ':' :: rest := by
  obtain ⟨grade', -, hgrade⟩ := List.exists_of_findSome?_eq_some h
  obtain ⟨rest', hdrop, heq⟩ := Option.map_eq_some_iff.mp hgrade
  obtain ⟨rfl, rfl⟩ := Prod.mk.inj heq
  rw [eq_append_of_dropWord? hdrop, List.append_assoc]
  rfl

theorem readsProblem_of_readAfterPath? {path text : List Char} {o : OutputLine}
    (h : readAfterPath? path text = some o) : o.path = path ∧ o.ReadsProblem text := by
  unfold readAfterPath? at h
  obtain ⟨⟨line, rest₁⟩, hline, hbehindLine⟩ := Option.bind_eq_some_iff.mp h
  obtain ⟨⟨column, rest₂⟩, hcolumn, hbehindColumn⟩ := Option.bind_eq_some_iff.mp hbehindLine
  obtain ⟨hline, hlineDigits⟩ := readNumber?_eq_some_iff.mp hline
  obtain ⟨hcolumn, hcolumnDigits⟩ := readNumber?_eq_some_iff.mp hcolumn
  simp only at hbehindColumn
  split at hbehindColumn
  · exact absurd hbehindColumn nofun
  · rename_i hne
    obtain ⟨⟨grade, rest₃⟩, hgrade, hbehindGrade⟩ := Option.bind_eq_some_iff.mp hbehindColumn
    obtain ⟨⟨message, ruleId⟩, hmessage, ho⟩ := Option.bind_eq_some_iff.mp hbehindGrade
    obtain rfl := Option.some.inj ho
    have hrest : rest₂.takeWhile isBlank ++ (grade.name.toList ++ ':' :: rest₃) = rest₂ := by
      rw [← eq_of_readGrade? hgrade, List.takeWhile_append_dropWhile]
    exact ⟨rfl, rest₂.takeWhile isBlank, rest₃, by rw [hline, hcolumn, hrest], hlineDigits,
      hcolumnDigits, ⟨hne, List.all_eq_true.mp List.all_takeWhile⟩,
      readsMessage_of_readAfterBlanks? hmessage⟩

/-- **A problem is read exactly where there is one.** -/
theorem readAfterPath?_isSome_iff {path text : List Char} :
    (∃ o, readAfterPath? path text = some o) ↔ ∃ o, ReadsProblem o text := by
  constructor
  · rintro ⟨o, h⟩
    exact ⟨o, (readsProblem_of_readAfterPath? h).2⟩
  · rintro ⟨o, gap, rest, rfl, hline, hcolumn, hgap, hmessage⟩
    obtain ⟨⟨message, ruleId⟩, hread⟩ := readAfterBlanks?_isSome_iff.mpr ⟨_, _, hmessage⟩
    obtain ⟨c, letters, hname, hc⟩ :
        ∃ c letters, o.grade.name.toList = c :: letters ∧ isBlank c = false := by
      cases o.grade <;> exact ⟨_, _, rfl, by decide⟩
    have htake : (gap ++ (o.grade.name.toList ++ ':' :: rest)).takeWhile isBlank = gap := by
      rw [hname, List.cons_append, List.takeWhile_append_of_pos hgap.2,
        List.takeWhile_cons_of_neg (by simp [hc]), List.append_nil]
    have hdrop : (gap ++ (o.grade.name.toList ++ ':' :: rest)).dropWhile isBlank =
        o.grade.name.toList ++ ':' :: rest := by
      rw [hname, List.cons_append, List.dropWhile_append_of_pos hgap.2,
        List.dropWhile_cons_of_neg (by simp [hc])]
    obtain ⟨c, blanks, rfl⟩ := List.exists_cons_of_ne_nil hgap.1
    refine ⟨⟨path, o.line, o.column, o.grade, message, ruleId⟩, ?_⟩
    unfold readAfterPath?
    rw [readNumber?_eq_some_iff.mpr ⟨rfl, hline⟩]
    simp only [Option.bind_eq_bind, Option.bind_some]
    rw [readNumber?_eq_some_iff.mpr ⟨rfl, hcolumn⟩]
    simp only [Option.bind_some, htake, hdrop, readGrade?_append, hread]
    rfl

/-! ### The path -/

theorem exists_of_readFrom? {o : OutputLine} :
    ∀ {before text : List Char}, readFrom? before text = some o →
      ∃ word rest, text = word ++ ':' :: rest ∧ o.path = before.reverse ++ word ∧ o.path ≠ [] ∧
        '\n' ∉ word ∧ o.ReadsProblem rest
  | before, [], h => by simp [readFrom?] at h
  | before, c :: text, h => by
    rw [readFrom?] at h
    split at h
    · -- the path ends in front of `c`
      rename_i found hfound
      obtain rfl := Option.some.inj h
      split at hfound
      · rename_i hend
        obtain ⟨rfl, hne⟩ := hend
        obtain ⟨hpath, hproblem⟩ := readsProblem_of_readAfterPath? hfound
        exact ⟨[], text, rfl, by rw [hpath, List.append_nil], by simpa [hpath] using hne,
          List.not_mem_nil, hproblem⟩
      · cases hfound
    · split at h
      · cases h
      · rename_i hline
        obtain ⟨word, rest, rfl, hpath, hne, hword, hproblem⟩ := exists_of_readFrom? h
        refine ⟨c :: word, rest, rfl, ?_, hne, ?_, hproblem⟩
        · rw [hpath, List.reverse_cons, List.append_assoc]
          rfl
        · exact List.not_mem_cons_of_ne_of_not_mem (fun heq => hline heq.symm) hword

/-- Where a path and a problem behind it stand, a line is read, with this path or a
shorter one. -/
theorem exists_readFrom? {rest : List Char} (hproblem : ∃ o, ReadsProblem o rest) :
    ∀ before word : List Char, (before ≠ [] ∨ word ≠ []) → '\n' ∉ word →
      ∃ o, readFrom? before (word ++ ':' :: rest) = some o
  | before, [], hne, _ => by
    have hbefore : before ≠ [] := hne.resolve_right fun h => h rfl
    obtain ⟨o, ho⟩ := readAfterPath?_isSome_iff.mpr hproblem
    refine ⟨o, ?_⟩
    rw [List.nil_append, readFrom?, if_pos ⟨rfl, hbefore⟩, ho]
  | before, c :: word, _, hnewline => by
    have hline : c ≠ '\n' := fun heq => hnewline (heq ▸ List.mem_cons_self)
    have hword : '\n' ∉ word := fun hmem => hnewline (List.mem_cons_of_mem c hmem)
    rw [List.cons_append, readFrom?]
    split
    · exact ⟨_, rfl⟩
    · rw [if_neg hline]
      exact exists_readFrom? hproblem (c :: before) word (Or.inl (List.cons_ne_nil c before)) hword

/-- **What is read from a line is one of the ways to cut it**, blanks around it apart. -/
theorem isWrittenAs_of_read? {line : List Char} {o : OutputLine} (h : read? line = some o) :
    o.IsWrittenAs (trim line) := by
  obtain ⟨word, rest, htext, hpath, hne, hword, hproblem⟩ := exists_of_readFrom? h
  obtain rfl : o.path = word := hpath
  exact ⟨rest, htext, hne, hword, hproblem⟩

/-- **A line is read exactly if it can be cut.** -/
theorem read?_isSome_iff {line : List Char} :
    (∃ o, read? line = some o) ↔ ∃ o, IsWrittenAs o (trim line) := by
  constructor
  · rintro ⟨o, h⟩
    exact ⟨o, isWrittenAs_of_read? h⟩
  · rintro ⟨o, rest, htext, hne, hpath, hproblem⟩
    rw [read?, htext]
    exact exists_readFrom? ⟨o, hproblem⟩ [] o.path (Or.inr hne) hpath

end OutputLine

end StyleCheck
