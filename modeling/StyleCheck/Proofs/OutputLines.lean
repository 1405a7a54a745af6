/-
# Reading what the analyzer writes

A report of the analyzer is a path, two numbers, a grade, a message and a rule
id, written on one line (`ToolReport.text`). Reading that line gives the report back
(`parseOutput_text`), although the path may hold colons and digits and the
message brackets: what is asked of a report is only that no blank stands in its
path, that every bracket opened in its message is closed there, and that none is
closed in its rule id.

Two arguments carry this. The numbers end where the first blank stands, and a
reading with a shorter path would have to end its numbers before it, with colons
left over (`readAfterPath?_eq_none`). And a rule id ends the line, so that a
bracket of the message opens none: what closes it is not the end
(`readRuleId?_eq_none`).

Key definitions: `ToolReport`, `ToolReport.text`, `ToolReport.diagnostic`.
Key theorems: `value_parseOutputLines`, `ToolReport.read?_text`,
`parseOutput_text`.
-/
import Mathlib.Data.Bool.AllAny
import StyleCheck.Analyzer.OutputLine
import StyleCheck.Proofs.Words

namespace StyleCheck

open Text

/-! ### Numbers in base ten -/

namespace Text

theorem toNat_of_isDigit {c : Char} (h : c.isDigit = true) : 48 ≤ c.toNat ∧ c.toNat ≤ 57 := by
  simp only [Char.isDigit, Bool.and_eq_true, decide_eq_true_eq] at h
  exact ⟨UInt32.le_iff_toNat_le.mp h.1, UInt32.le_iff_toNat_le.mp h.2⟩

theorem digitValue?_of_isDigit {c : Char} (h : c.isDigit = true) :
    digitValue? c = some (c.toNat - 48) := by
  have hascii : c.toNat < 128 := Nat.lt_of_le_of_lt (toNat_of_isDigit h).2 (by decide)
  rw [digitValue?, if_pos hascii, if_pos h]

theorem isDigit_of_mem_toDigits {n : Nat} {c : Char} (h : c ∈ Nat.toDigits 10 n) :
    isDigit c = true := by
  rw [isDigit, digitValue?_of_isDigit (Nat.isDigit_of_mem_toDigits (by decide) (by decide) h)]
  rfl

theorem isBlank_of_mem_toDigits {n : Nat} {c : Char} (h : c ∈ Nat.toDigits 10 n) :
    isBlank c = false := by
  have := toNat_of_isDigit (Nat.isDigit_of_mem_toDigits (by decide) (by decide) h)
  rw [Bool.eq_false_iff, ne_eq, isBlank_iff]
  omega

theorem decimalValue_toDigits (n : Nat) : decimalValue (Nat.toDigits 10 n) = n := by
  have hvalue : ∀ (digits : List Char) (start : Nat), (∀ c ∈ digits, c.isDigit = true) →
      digits.foldl (fun n c => 10 * n + (digitValue? c).getD 0) start =
        Nat.ofDigitChars 10 digits start := by
    intro digits
    induction digits with
    | nil => exact fun _ _ => rfl
    | cons c digits ih =>
      intro start hdigits
      obtain ⟨hc, hdigits⟩ := List.forall_mem_cons.mp hdigits
      rw [List.foldl_cons, digitValue?_of_isDigit hc]
      exact ih _ hdigits
  rw [decimalValue, hvalue _ _ fun c hc => Nat.isDigit_of_mem_toDigits (by decide) (by decide) hc]
  exact Nat.ofDigitChars_toDigits (by decide) (by decide)

/-! ### Lines of output -/

theorem isLineBreak_of_isBlank {c : Char} (h : isBlank c = false) : isLineBreak c = false := by
  rw [Bool.eq_false_iff, ne_eq, isBlank_iff] at h
  rw [Bool.eq_false_iff]
  intro hbreak
  simp only [isLineBreak, Bool.or_eq_true, Bool.and_eq_true, decide_eq_true_eq,
    beq_iff_eq] at hbreak
  omega

theorem outputLinesFrom_unbroken {c : Char} (hc : isLineBreak c = false) (line text : List Char) :
    outputLinesFrom line (c :: text) = outputLinesFrom (c :: line) text := by
  rw [outputLinesFrom, if_neg (by simp [hc])]
  rintro rest rfl -
  exact absurd hc (by decide)

theorem outputLinesFrom_append {text : List Char} (h : ∀ c ∈ text, isLineBreak c = false)
    (line : List Char) : outputLinesFrom line text = outputLinesFrom (text.reverse ++ line) [] := by
  induction text generalizing line with
  | nil => rfl
  | cons c text ih =>
    obtain ⟨hc, htext⟩ := List.forall_mem_cons.mp h
    rw [outputLinesFrom_unbroken hc, ih htext, List.reverse_cons, List.append_assoc]
    rfl

theorem outputLines_of_unbroken {text : List Char} (hne : text ≠ [])
    (h : ∀ c ∈ text, isLineBreak c = false) : outputLines text = [text] := by
  rw [outputLines, outputLinesFrom_append h, List.append_nil, outputLinesFrom, if_neg (by simpa),
    List.reverse_reverse]

end Text

theorem value_parseOutputLines (d : Document) (lines : List (List Char)) :
    (parseOutputLines d lines).value =
      lines.flatMap fun line => (parseOutputLine d line).value.toList := by
  induction lines with
  | nil => rfl
  | cons line lines ih =>
    simp only [parseOutputLines, Traced.value_bind, Traced.value_pure, List.flatMap_cons, ih]

namespace OutputLine

/-! ### The place of a problem -/

theorem eq_of_readNumber? {text digits rest : List Char}
    (h : readNumber? text = some (digits, rest)) :
    text = digits ++ ':' :: rest ∧ ':' ∉ digits := by
  unfold readNumber? at h
  split at h
  · rename_i d ds tail htake hdrop
    obtain ⟨rfl, rfl⟩ := Prod.mk.inj (Option.some.inj h)
    rw [← htake, ← hdrop]
    refine ⟨List.takeWhile_append_dropWhile.symm, fun hcolon => ?_⟩
    have hdigit := List.all_eq_true.mp List.all_takeWhile _ hcolon
    exact absurd hdigit (by decide)
  · simp at h

theorem readNumber?_append {digits : List Char} (rest : List Char) (hne : digits ≠ [])
    (hdigits : ∀ c ∈ digits, isDigit c = true) :
    readNumber? (digits ++ ':' :: rest) = some (digits, rest) := by
  have htake : (digits ++ ':' :: rest).takeWhile isDigit = digits := by
    rw [List.takeWhile_append_of_pos hdigits, List.takeWhile_cons_of_neg (by decide),
      List.append_nil]
  have hdrop : (digits ++ ':' :: rest).dropWhile isDigit = ':' :: rest := by
    rw [List.dropWhile_append_of_pos hdigits, List.dropWhile_cons_of_neg (by decide)]
  obtain ⟨d, digits, rfl⟩ := List.exists_cons_of_ne_nil hne
  rw [readNumber?, htake, hdrop]
  rfl

/-- What stands before the first blank stands before every blank. -/
theorem prefix_of_append_eq {word more before after : List Char} {b : Char}
    (hword : ∀ c ∈ word, isBlank c = false) (hb : isBlank b = true)
    (h : word ++ more = before ++ b :: after) : word <+: before := by
  rcases List.append_eq_append_iff.mp h with ⟨m, rfl, -⟩ | ⟨m, rfl, hm⟩
  · exact List.prefix_append word m
  · cases m with
    | nil => exact ⟨[], by simp⟩
    | cons d m =>
      have hblank : isBlank d = false := hword d (by simp)
      rw [List.cons_append] at hm
      rw [← (List.cons.inj hm).1, hb] at hblank
      exact absurd hblank nofun

/-- **No place is read where colons are left over**: two numbers and their colons
are followed by a blank, and a third colon would have to stand before it. -/
theorem readAfterPath?_eq_none {word : List Char} (path more : List Char)
    (hword : ∀ c ∈ word, isBlank c = false) (hcolons : 2 < word.count ':') :
    readAfterPath? path (word ++ more) = none := by
  cases hline : readNumber? (word ++ more) with
  | none => simp [readAfterPath?, hline]
  | some first =>
    obtain ⟨line, rest⟩ := first
    cases hcolumn : readNumber? rest with
    | none => simp [readAfterPath?, hline, hcolumn]
    | some second =>
      obtain ⟨column, rest'⟩ := second
      have hnone : rest'.takeWhile isBlank = [] := by
        obtain ⟨htext, hnoLine⟩ := eq_of_readNumber? hline
        obtain ⟨rfl, hnoColumn⟩ := eq_of_readNumber? hcolumn
        cases rest' with
        | nil => rfl
        | cons b after =>
          refine List.takeWhile_cons_of_neg fun hb => ?_
          have hprefix : word <+: line ++ ':' :: (column ++ [':']) :=
            @prefix_of_append_eq _ more _ after b hword hb (by rw [htext]; simp)
          have hcount := hprefix.sublist.count_le ':'
          rw [List.count_append, List.count_cons_self, List.count_append,
            List.count_eq_zero_of_not_mem hnoLine, List.count_eq_zero_of_not_mem hnoColumn,
            List.count_singleton_self] at hcount
          omega
      simp [readAfterPath?, hline, hcolumn, hnone]

theorem readFrom?_append {place : List Char} (more : List Char)
    (hplace : ∀ c ∈ place, isBlank c = false) (hcolons : 2 ≤ place.count ':') :
    ∀ (before word : List Char), (∀ c ∈ word, isBlank c = false) →
      readFrom? before (word ++ ':' :: (place ++ more)) =
        readFrom? (word.reverse ++ before) (':' :: (place ++ more))
  | before, [], _ => rfl
  | before, c :: word, hword => by
    obtain ⟨hc, hword⟩ := List.forall_mem_cons.mp hword
    have hhere : readAfterPath? before.reverse (word ++ ':' :: (place ++ more)) = none := by
      have hwhole : ∀ c ∈ word ++ ':' :: place, isBlank c = false :=
        List.forall_mem_append.mpr ⟨hword, List.forall_mem_cons.mpr ⟨by decide, hplace⟩⟩
      have hcount : 2 < (word ++ ':' :: place).count ':' := by
        rw [List.count_append, List.count_cons_self]
        omega
      have hnone := readAfterPath?_eq_none before.reverse more hwhole hcount
      rwa [List.append_assoc, List.cons_append] at hnone
    have hnewline : c ≠ '\n' := by
      rintro rfl
      exact absurd hc (by decide)
    rw [List.cons_append, readFrom?, hhere, ite_self, if_neg hnewline,
      readFrom?_append more hplace hcolons (c :: before) word hword, List.reverse_cons,
      List.append_assoc]
    rfl

/-! ### The message and the rule id -/

theorem eq_of_readRuleId? {text ruleId : List Char} (h : readRuleId? text = some ruleId) :
    ∃ blanks after, text = blanks ++ '[' :: (ruleId ++ ']' :: after) ∧
      (∀ c ∈ blanks, isBlank c = true) ∧ ']' ∉ ruleId ∧ ∀ c ∈ after, isBlank c = true := by
  unfold readRuleId? at h
  split at h
  · rename_i first blanks inner htake hdrop
    simp only at h
    split at h
    · rename_i close after hclose
      split at h
      · rename_i hgood
        obtain rfl := Option.some.inj h
        have hblanks : ∀ c ∈ first :: blanks, isBlank c = true := by
          rw [← htake]
          exact List.all_eq_true.mp List.all_takeWhile
        have hopen : ']' ∉ inner.takeWhile (· ≠ ']') := fun hmem => by
          simpa using List.all_eq_true.mp List.all_takeWhile _ hmem
        have hbracket : close = ']' := by
          have := List.head?_dropWhile_not (· ≠ ']') inner
          rw [hclose] at this
          simpa using this
        subst hbracket
        refine ⟨first :: blanks, after, ?_, hblanks, hopen, List.all_eq_true.mp hgood.2⟩
        rw [← hclose, List.takeWhile_append_dropWhile, ← hdrop, ← htake,
          List.takeWhile_append_dropWhile]
      · simp at h
    · simp at h
  · simp at h

/-- Behind blanks and up to the bracket that closes it, a rule id is read if it is not empty
and only blanks follow. -/
theorem readRuleId?_of_cut {blanks ruleId : List Char} (after : List Char) (hne : blanks ≠ [])
    (hblanks : ∀ c ∈ blanks, isBlank c = true) (hopen : ']' ∉ ruleId) :
    readRuleId? (blanks ++ '[' :: (ruleId ++ ']' :: after)) =
      if ruleId ≠ [] ∧ after.all isBlank then some ruleId else none := by
  have htake : (ruleId ++ ']' :: after).takeWhile (· ≠ ']') = ruleId :=
    Source.takeWhile_append_stop after hopen
  have hdrop : (ruleId ++ ']' :: after).dropWhile (· ≠ ']') = ']' :: after :=
    Source.dropWhile_append_stop after hopen
  have htakeBlanks : (blanks ++ '[' :: (ruleId ++ ']' :: after)).takeWhile isBlank = blanks := by
    rw [List.takeWhile_append_of_pos hblanks, List.takeWhile_cons_of_neg (by decide),
      List.append_nil]
  have hdropBlanks : (blanks ++ '[' :: (ruleId ++ ']' :: after)).dropWhile isBlank =
      '[' :: (ruleId ++ ']' :: after) := by
    rw [List.dropWhile_append_of_pos hblanks, List.dropWhile_cons_of_neg (by decide)]
  obtain ⟨c, rest, hcons⟩ := List.exists_cons_of_ne_nil hne
  unfold readRuleId?
  rw [htakeBlanks, hdropBlanks, hcons]
  simp only [htake, hdrop]

theorem readRuleId?_append {ruleId : List Char} (hne : ruleId ≠ []) (hopen : ']' ∉ ruleId) :
    readRuleId? (' ' :: '[' :: (ruleId ++ [']'])) = some ruleId := by
  have hread := readRuleId?_of_cut [] (List.cons_ne_nil ' ' [])
    (List.forall_mem_singleton.mpr (by decide)) hopen
  rw [if_pos ⟨hne, rfl⟩] at hread
  exact hread

/-- **No rule id is read from the middle of a message**: where a bracket of the
message opens, it is closed before the end of the line. -/
theorem readRuleId?_eq_none {word tail : List Char} (hne : word ≠ [])
    (hlast : ∀ c ∈ word.getLast?, isBlank c = false)
    (hclosed : ∀ before after, word = before ++ '[' :: after → ']' ∈ after)
    (htail : ∃ c ∈ tail, isBlank c = false) : readRuleId? (word ++ tail) = none := by
  rw [Option.eq_none_iff_forall_ne_some]
  intro ruleId hread
  obtain ⟨blanks, after, heq, hblanks, hopen, hafter⟩ := eq_of_readRuleId? hread
  -- the message does not end among the blanks, so the bracket stands in it
  have hnot : ¬ ∀ c ∈ word, isBlank c = true := fun hall => by
    have hend := hlast _ (List.getLast?_eq_some_getLast hne)
    rw [hall _ (List.getLast_mem hne)] at hend
    exact absurd hend nofun
  obtain ⟨inner, rfl⟩ : ∃ inner, word = blanks ++ '[' :: inner := by
    rcases List.append_eq_append_iff.mp heq with ⟨m, rfl, -⟩ | ⟨m, rfl, hm⟩
    · exact absurd (fun c hc => hblanks c (List.mem_append_left m hc)) hnot
    · cases m with
      | nil => exact absurd (by simpa using hblanks) hnot
      | cons c m => exact ⟨m, by rw [(List.cons.inj hm).1]⟩
  have hmem := hclosed blanks inner rfl
  rw [List.append_assoc, List.cons_append] at heq
  have hrest : inner ++ tail = ruleId ++ ']' :: after :=
    (List.cons.inj (List.append_cancel_left heq)).2
  -- what closes it stands in the message as well, and the tail comes behind
  rcases List.append_eq_append_iff.mp hrest with ⟨m, rfl, -⟩ | ⟨m, rfl, hm⟩
  · exact hopen (List.mem_append_left m hmem)
  · cases m with
    | nil => exact hopen (by simpa using hmem)
    | cons c m =>
      obtain ⟨d, hd, hblank⟩ := htail
      have hmem : d ∈ after := by
        rw [(List.cons.inj hm).2]
        exact List.mem_append_right m hd
      rw [hafter d hmem] at hblank
      exact absurd hblank nofun

theorem readMessage?_append {tail ruleId : List Char} (hruleId : readRuleId? tail = some ruleId)
    (htail : ∃ c ∈ tail, isBlank c = false) :
    ∀ before rest : List Char, rest ≠ [] → '\n' ∉ rest →
      (∀ c ∈ rest.getLast?, isBlank c = false) →
      (∀ u v, rest = u ++ '[' :: v → ']' ∈ v) →
      readMessage? before (rest ++ tail) = some (before.reverse ++ rest, ruleId)
  | before, [], hne, _, _, _ => absurd rfl hne
  | before, [c], _, hnewline, hlast, _ => by
    have hc : isBlank c = false := hlast c rfl
    have hne : c ≠ '\n' := fun heq => hnewline (heq ▸ List.mem_cons_self)
    rw [List.singleton_append, readMessage?, if_neg hne, if_neg (by simp [hc]), hruleId,
      List.reverse_cons]
  | before, c :: e :: rest, _, hnewline, hlast, hclosed => by
    have hne : c ≠ '\n' := fun heq => hnewline (heq ▸ List.mem_cons_self)
    have hnewline' : '\n' ∉ e :: rest := fun hmem => hnewline (List.mem_cons_of_mem c hmem)
    have hlast' : ∀ c ∈ (e :: rest).getLast?, isBlank c = false := by
      rw [List.getLast?_cons_cons] at hlast
      exact hlast
    have hclosed' : ∀ u v, e :: rest = u ++ '[' :: v → ']' ∈ v := fun u v heq =>
      hclosed (c :: u) v (congrArg (c :: ·) heq)
    have hnone := readRuleId?_eq_none (List.cons_ne_nil e rest) hlast' hclosed' htail
    rw [List.cons_append, readMessage?, if_neg hne, hnone, ite_self,
      readMessage?_append hruleId htail (c :: before) (e :: rest) (List.cons_ne_nil e rest)
        hnewline' hlast' hclosed', List.reverse_cons, List.append_assoc]
    rfl

theorem readGrade?_append (grade : Grade) (rest : List Char) :
    readGrade? (grade.name.toList ++ ':' :: rest) = some (grade, rest) := by
  cases grade with
  | fatalError => rfl
  | error => rfl
  | warning => rfl
  | note => rfl
  | remark => rfl

end OutputLine

/-! ### Reports -/

/-- What the analyzer reports on one line: where, how grave, what, and by which
rule. The path has no blanks; the numbers count from one and are not too long;
message and rule id stay on the line and have no blanks around them; and
brackets that open in the message are closed in it, while the rule id closes
none. -/
structure ToolReport where
  path : List Char
  line : Nat
  column : Nat
  grade : Grade
  message : List Char
  ruleId : List Char
  path_ne_nil : path ≠ []
  path_unblank : ∀ c ∈ path, isBlank c = false
  line_pos : 1 ≤ line
  line_short : (Nat.toDigits 10 line).length ≤ maxIntegerDigits
  column_pos : 1 ≤ column
  column_short : (Nat.toDigits 10 column).length ≤ maxIntegerDigits
  message_ne_nil : message ≠ []
  message_unbroken : ∀ c ∈ message, isLineBreak c = false
  message_trimmed : trim message = message
  message_closed : ∀ before after, message = before ++ '[' :: after → ']' ∈ after
  ruleId_ne_nil : ruleId ≠ []
  ruleId_unbroken : ∀ c ∈ ruleId, isLineBreak c = false
  ruleId_trimmed : trim ruleId = ruleId
  ruleId_open : ']' ∉ ruleId

namespace ToolReport

open Source

variable (r : ToolReport)

/-- The message and the rule id behind it in brackets. -/
def messageText : List Char :=
  r.message ++ ' ' :: '[' :: (r.ruleId ++ [']'])

/-- The line that the analyzer writes. -/
def text : List Char :=
  r.path ++ ':' :: (Nat.toDigits 10 r.line ++ ':' :: (Nat.toDigits 10 r.column ++ ':' :: ' ' ::
    (r.grade.name.toList ++ ':' :: ' ' :: r.messageText)))

/-- The parts of that line. -/
def parts : OutputLine where
  path := r.path
  line := Nat.toDigits 10 r.line
  column := Nat.toDigits 10 r.column
  grade := r.grade
  message := r.message
  ruleId := r.ruleId

/-- What a report says about a document. -/
def diagnostic (d : Document) : Diagnostic where
  range := Range.onLine (r.line - 1 : Nat) (r.column - 1 : Nat)
    (OutputLine.endColumn d (r.line - 1) (r.column - 1))
  message := String.ofList r.messageText
  severity := r.grade.severity
  ruleId := String.ofList r.ruleId
  origin := .analyzer
  details := [("path", .text (String.ofList r.path))]

theorem readAfterBlanks?_messageText :
    OutputLine.readAfterBlanks? (' ' :: r.messageText) = some (r.message, r.ruleId) := by
  obtain ⟨hfirst, hlast⟩ := (trim_eq_self_iff r.message).mp r.message_trimmed
  obtain ⟨c, cs, hmessage⟩ := List.exists_cons_of_ne_nil r.message_ne_nil
  have hc : isBlank c = false := hfirst c (by rw [hmessage]; rfl)
  have hnone : OutputLine.readAfterBlanks? r.messageText = none := by
    rw [messageText, hmessage, List.cons_append, OutputLine.readAfterBlanks?, if_neg (by simp [hc])]
  have hnewline : '\n' ∉ r.message := fun hmem => by
    exact absurd (r.message_unbroken _ hmem) (by decide)
  have hread := OutputLine.readMessage?_append
    (OutputLine.readRuleId?_append r.ruleId_ne_nil r.ruleId_open) ⟨'[', by simp, by decide⟩
    [] r.message r.message_ne_nil hnewline hlast r.message_closed
  rw [OutputLine.readAfterBlanks?, if_pos (by decide), hnone, Option.orElse_none]
  exact hread

theorem readAfterPath?_text :
    OutputLine.readAfterPath? r.path (Nat.toDigits 10 r.line ++ ':' :: (Nat.toDigits 10 r.column ++
      ':' :: ' ' :: (r.grade.name.toList ++ ':' :: ' ' :: r.messageText))) = some r.parts := by
  have hline := OutputLine.readNumber?_append (Nat.toDigits 10 r.column ++ ':' :: ' ' ::
    (r.grade.name.toList ++ ':' :: ' ' :: r.messageText)) (@Nat.toDigits_ne_nil r.line 10)
    fun c hc => isDigit_of_mem_toDigits hc
  have hcolumn := OutputLine.readNumber?_append (' ' ::
    (r.grade.name.toList ++ ':' :: ' ' :: r.messageText)) (@Nat.toDigits_ne_nil r.column 10)
    fun c hc => isDigit_of_mem_toDigits hc
  have hgrade := OutputLine.readGrade?_append r.grade (' ' :: r.messageText)
  have hmessage := r.readAfterBlanks?_messageText
  have hblanks : (' ' :: (r.grade.name.toList ++ ':' :: ' ' :: r.messageText)).takeWhile isBlank =
      [' '] := by
    cases r.grade <;> rfl
  have hrest : (' ' :: (r.grade.name.toList ++ ':' :: ' ' :: r.messageText)).dropWhile isBlank =
      r.grade.name.toList ++ ':' :: ' ' :: r.messageText := by
    cases r.grade <;> rfl
  unfold OutputLine.readAfterPath?
  rw [hline]
  simp only [Option.bind_eq_bind, Option.bind_some, hcolumn, hblanks, hrest, hgrade, hmessage]
  rfl

theorem trim_text : trim r.text = r.text := by
  rw [trim_eq_self_iff]
  constructor
  · intro c hc
    obtain ⟨first, path, hpath⟩ := List.exists_cons_of_ne_nil r.path_ne_nil
    rw [text, hpath] at hc
    obtain rfl := Option.some.inj hc
    exact r.path_unblank first (by rw [hpath]; exact List.mem_cons_self)
  · intro c hc
    have hlast : r.text = (r.path ++ ':' :: (Nat.toDigits 10 r.line ++ ':' ::
        (Nat.toDigits 10 r.column ++ ':' :: ' ' :: (r.grade.name.toList ++ ':' :: ' ' ::
          (r.message ++ ' ' :: '[' :: r.ruleId))))) ++ [']'] := by
      simp [text, messageText]
    rw [hlast, List.getLast?_concat] at hc
    obtain rfl := Option.some.inj hc
    decide

/-- **Reading a report's line gives its parts back.** -/
theorem read?_text : OutputLine.read? r.text = some r.parts := by
  have hplace : ∀ c ∈ Nat.toDigits 10 r.line ++ ':' :: (Nat.toDigits 10 r.column ++ [':']),
      isBlank c = false := by
    refine List.forall_mem_append.mpr ⟨fun c hc => isBlank_of_mem_toDigits hc,
      List.forall_mem_cons.mpr ⟨by decide, List.forall_mem_append.mpr
        ⟨fun c hc => isBlank_of_mem_toDigits hc, List.forall_mem_singleton.mpr (by decide)⟩⟩⟩
  have hcolons : 2 ≤ (Nat.toDigits 10 r.line ++ ':' :: (Nat.toDigits 10 r.column ++ [':'])).count
      ':' := by
    rw [List.count_append, List.count_cons_self, List.count_append, List.count_singleton_self]
    omega
  have hpath := OutputLine.readFrom?_append
    (' ' :: (r.grade.name.toList ++ ':' :: ' ' :: r.messageText)) hplace hcolons [] r.path
    r.path_unblank
  have hne : r.path.reverse ≠ [] := by simpa using r.path_ne_nil
  simp only [List.append_assoc, List.cons_append, List.nil_append, List.append_nil] at hpath
  rw [OutputLine.read?, r.trim_text, text, hpath, OutputLine.readFrom?, if_pos ⟨rfl, hne⟩,
    List.reverse_reverse, r.readAfterPath?_text]

/-- The line of a report is one line of output. -/
theorem outputLines_text : outputLines r.text = [r.text] := by
  refine outputLines_of_unbroken (by simp [text]) ?_
  have hpath : ∀ c ∈ r.path, isLineBreak c = false :=
    fun c hc => isLineBreak_of_isBlank (r.path_unblank c hc)
  have hdigits : ∀ n, ∀ c ∈ Nat.toDigits 10 n, isLineBreak c = false :=
    fun n c hc => isLineBreak_of_isBlank (isBlank_of_mem_toDigits hc)
  have hgrade : ∀ c ∈ r.grade.name.toList, isLineBreak c = false := by
    cases r.grade <;> exact List.all_iff_forall_prop.mp (by decide)
  have hcolon : isLineBreak ':' = false := by decide
  have hspace : isLineBreak ' ' = false := by decide
  simp only [text, messageText, List.forall_mem_append, List.forall_mem_cons]
  exact ⟨hpath, hcolon, hdigits _, hcolon, hdigits _, hcolon, hspace, hgrade, hcolon, hspace,
    r.message_unbroken, hspace, by decide, r.ruleId_unbroken, by decide, List.forall_mem_nil _⟩

theorem number_toDigits {n : Nat} (h : (Nat.toDigits 10 n).length ≤ maxIntegerDigits) :
    OutputLine.number (Nat.toDigits 10 n) = .ok n := by
  rw [OutputLine.number, if_pos h, decimalValue_toDigits]

theorem diagnose_parts (d : Document) : r.parts.diagnose d = .ok (r.diagnostic d) := by
  have hline : OutputLine.number r.parts.line = .ok r.line := number_toDigits r.line_short
  have hcolumn : OutputLine.number r.parts.column = .ok r.column := number_toDigits r.column_short
  have hpositive : ¬ (r.line = 0 ∨ r.column = 0) := by
    have := r.line_pos
    have := r.column_pos
    omega
  have hmessage : String.ofList r.parts.message ++ " [" ++ String.ofList r.ruleId ++ "]" =
      String.ofList r.messageText := by
    apply String.toList_injective
    simp [messageText, parts]
  have htrim : trim r.parts.ruleId = r.ruleId := r.ruleId_trimmed
  unfold OutputLine.diagnose
  rw [hline, hcolumn, htrim]
  simp only [bind, Except.bind, if_neg hpositive]
  rw [hmessage]
  rfl

end ToolReport

/-- **Reading undoes writing.** The line that a report is written on, read as an
output about any document, gives one diagnostic, and this says what the report
says. -/
theorem parseOutput_text (d : Document) (r : ToolReport) :
    (parseOutput d r.text).value = [r.diagnostic d] := by
  have hline : (parseOutputLine d r.text).value = some (r.diagnostic d) := by
    unfold parseOutputLine
    rw [r.read?_text]
    simp only [r.diagnose_parts d, Traced.value_pure]
  rw [parseOutput, r.outputLines_text, value_parseOutputLines, List.flatMap_singleton, hline]
  rfl

/-- Where no bracket opens behind one that closes, all that open are closed. -/
theorem closed_of_last {u v before after : List Char} (hv : '[' ∉ v)
    (h : u ++ ']' :: v = before ++ '[' :: after) : ']' ∈ after := by
  rcases List.append_eq_append_iff.mp h with ⟨m, rfl, hm⟩ | ⟨m, rfl, hm⟩
  · cases m with
    | nil => exact absurd (List.cons.inj hm).1 (by decide)
    | cons c m =>
      rw [(List.cons.inj hm).2] at hv
      exact absurd (by simp) hv
  · cases m with
    | nil => exact absurd (List.cons.inj hm).1 (by decide)
    | cons c m =>
      rw [(List.cons.inj hm).2]
      simp

/-- A report with numbers in its path, a place and brackets in its message, and a
bracket in its rule id. -/
def bracketedReport : ToolReport where
  path := "C:3:9:x.c".toList
  line := 12
  column := 7
  grade := .fatalError
  message := "in [a] at y.c:1:2: b".toList
  ruleId := "misc [sub".toList
  path_ne_nil := by decide
  path_unblank := List.all_iff_forall_prop.mp (by decide)
  line_pos := by decide
  line_short := by decide
  column_pos := by decide
  column_short := by decide
  message_ne_nil := by decide
  message_unbroken := List.all_iff_forall_prop.mp (by decide)
  message_trimmed := by decide
  message_closed := fun _ _ h =>
    closed_of_last (show '[' ∉ " at y.c:1:2: b".toList by decide) (u := "in [a".toList) h
  ruleId_ne_nil := by decide
  ruleId_unbroken := List.all_iff_forall_prop.mp (by decide)
  ruleId_trimmed := by decide
  ruleId_open := by decide

/-- It is read back as it stands. -/
theorem parseOutput_text_bracketed :
    (parseOutput { text := [] }
        "C:3:9:x.c:12:7: fatal error: in [a] at y.c:1:2: b [misc [sub]".toList).value.map
          (fun d => (d.ruleId, d.severity, d.range.start)) =
      [("misc [sub", .error, ⟨11, 6⟩)] := by
  have htext : bracketedReport.text =
      "C:3:9:x.c:12:7: fatal error: in [a] at y.c:1:2: b [misc [sub]".toList := by decide
  rw [← htext, parseOutput_text { text := [] } bracketedReport]
  rfl

end StyleCheck
