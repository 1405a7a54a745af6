/-
# What is accepted as a rule id

A rule id is the mark of the standard, a category in capital letters, a hyphen and three
digits from `0` to `9` (`IsRuleId`). What is accepted is more than that in two ways: the
digits may be those of any script, and one newline may stand behind them (`IsReadAs`). It is
accepted with its category, and all else is refused (`categoryOf?_eq_some_iff`).

So of the texts in ASCII that have no newline exactly the rule ids are accepted
(`isRuleId_iff`). An id with foreign digits or a newline is accepted beside the one that it
looks like, and is another id (`create_accepts_lookalikes`).

Key definitions: `HasIdShape`, `IsRuleId`, `IsReadAs`.
Key theorems: `categoryOf?_eq_some_iff`, `isRuleId_iff`, `isRuleId_of_mem_builtinRules`,
`RuleInfo.create_accepts_iff`.
-/
import Mathlib.Data.List.Basic
import StyleCheck.Proofs.ConvertedNames
import StyleCheck.Rule.Registry

namespace StyleCheck

open Text

/-! ### The shape of an id -/

/-- The mark, a category in capital ASCII letters, a hyphen and three digits of the class
`digit`. -/
def HasIdShape (digit : Char → Bool) (category id : List Char) : Prop :=
  category ≠ [] ∧ (∀ c ∈ category, c.isUpper = true) ∧
    ∃ digits, digits.length = 3 ∧ (∀ d ∈ digits, digit d = true) ∧
      id = "CUBTEK-".toList ++ (category ++ '-' :: digits)

/-- A rule id of the category. -/
def IsRuleId (category id : List Char) : Prop :=
  HasIdShape Char.isDigit category id

/-- What is accepted as a rule id of the category: the digits are of any script, and one
newline may stand behind them. -/
def IsReadAs (category id : List Char) : Prop :=
  ∃ shown tail, HasIdShape isDigit category shown ∧ (tail = [] ∨ tail = ['\n']) ∧
    id = shown ++ tail

theorem span_category {category : List Char} (h : ∀ c ∈ category, c.isUpper = true)
    (rest : List Char) :
    (category ++ '-' :: rest).takeWhile Char.isUpper = category ∧
      (category ++ '-' :: rest).dropWhile Char.isUpper = '-' :: rest := by
  have hhyphen : ¬ '-'.isUpper = true := by decide
  rw [List.takeWhile_append_of_pos h, List.dropWhile_append_of_pos h,
    List.takeWhile_cons_of_neg hhyphen, List.dropWhile_cons_of_neg hhyphen, List.append_nil]
  exact ⟨rfl, rfl⟩

theorem isReadAs_of_categoryOf? {category id : List Char} (h : categoryOf? id = some category) :
    IsReadAs category id := by
  unfold categoryOf? at h
  split at h
  · rename_i rest hrest
    dsimp only at h
    split at h
    · rename_i a b c tail hdigits
      split at h
      · rename_i hall
        obtain ⟨hne, ha, hb, hc, htail⟩ := hall
        obtain rfl := Option.some.inj h
        have hcut : rest = rest.takeWhile Char.isUpper ++ '-' :: a :: b :: c :: tail := by
          rw [← hdigits, List.takeWhile_append_dropWhile]
        refine ⟨_, tail, ⟨hne, fun _ hmem => List.mem_takeWhile_imp hmem, [a, b, c], rfl,
          by simp [ha, hb, hc], rfl⟩, htail, ?_⟩
        rw [Source.eq_append_of_dropWord? hrest, List.append_assoc, List.append_assoc]
        exact congrArg _ hcut
      · exact absurd h nofun
    · exact absurd h nofun
  · exact absurd h nofun

theorem categoryOf?_of_isReadAs {category id : List Char} (h : IsReadAs category id) :
    categoryOf? id = some category := by
  obtain ⟨-, tail, ⟨hne, hcapital, digits, hthree, hdigit, rfl⟩, htail, rfl⟩ := h
  obtain ⟨a, b, c, rfl⟩ := List.length_eq_three.mp hthree
  obtain ⟨htake, hdrop⟩ := span_category hcapital (a :: b :: c :: tail)
  have hid : "CUBTEK-".toList ++ (category ++ ['-', a, b, c]) ++ tail =
      "CUBTEK-".toList ++ (category ++ '-' :: a :: b :: c :: tail) := by simp
  rw [categoryOf?, hid, Source.dropWord?_append]
  dsimp only
  rw [hdrop, htake]
  exact if_pos ⟨hne, hdigit a (by simp), hdigit b (by simp), hdigit c (by simp), htail⟩

/-- **What is accepted as an id**, and with which category. -/
theorem categoryOf?_eq_some_iff {category id : List Char} :
    categoryOf? id = some category ↔ IsReadAs category id :=
  ⟨isReadAs_of_categoryOf?, categoryOf?_of_isReadAs⟩

/-! ### Ids as they are published -/

theorem isDigit_eq_of_ascii {c : Char} (h : c.toNat < 128) : isDigit c = c.isDigit := by
  rw [isDigit, digitValue?, if_pos h]
  cases c.isDigit <;> rfl

theorem HasIdShape.imp {digit digit' : Char → Bool} {category id : List Char}
    (h : HasIdShape digit category id) (himp : ∀ d ∈ id, digit d = true → digit' d = true) :
    HasIdShape digit' category id := by
  obtain ⟨hne, hcapital, digits, hthree, hdigit, rfl⟩ := h
  exact ⟨hne, hcapital, digits, hthree, fun d hd => himp d (by simp [hd]) (hdigit d hd), rfl⟩

theorem IsRuleId.forall_mem {category id : List Char} (h : IsRuleId category id) :
    ∀ c ∈ id, c.isAlphanum = true ∨ c = '-' := by
  obtain ⟨-, hcapital, digits, -, hdigit, rfl⟩ := h
  have hmark : ∀ c ∈ "CUBTEK-".toList, c.isAlphanum = true ∨ c = '-' := by simp
  intro c hc
  rcases List.mem_append.mp hc with hc | hc
  · exact hmark c hc
  rcases List.mem_append.mp hc with hc | hc
  · exact Or.inl (isAlphanum_of_isAlpha (Bool.or_eq_true_iff.mpr (Or.inl (hcapital c hc))))
  rcases List.mem_cons.mp hc with hc | hc
  · exact Or.inr hc
  · exact Or.inl (Bool.or_eq_true_iff.mpr (Or.inr (hdigit c hc)))

/-- **The rule ids** are what is accepted, in ASCII and without a newline. -/
theorem isRuleId_iff {category id : List Char} :
    IsRuleId category id ↔ IsReadAs category id ∧ isAscii id = true ∧ '\n' ∉ id := by
  constructor
  · intro h
    have hascii : isAscii id = true := isAscii_iff.mpr fun c hc =>
      (h.forall_mem c hc).elim toNat_of_isAlphanum fun hhyphen => hhyphen ▸ by decide
    have hread : HasIdShape isDigit category id := HasIdShape.imp h fun d hd hdigit => by
      rw [isDigit_eq_of_ascii (isAscii_iff.mp hascii d hd), hdigit]
    exact ⟨⟨id, [], hread, Or.inl rfl, (List.append_nil id).symm⟩, hascii,
      fun hnewline => absurd (h.forall_mem _ hnewline) (by decide)⟩
  · rintro ⟨⟨shown, tail, hread, rfl | rfl, rfl⟩, hascii, hnewline⟩
    · rw [List.append_nil] at hascii ⊢
      exact hread.imp fun d hd hdigit => by
        rw [← isDigit_eq_of_ascii (isAscii_iff.mp hascii d hd), hdigit]
    · exact absurd (List.mem_append_right shown List.mem_cons_self) hnewline

/-- The rules of the standard have rule ids. -/
theorem isRuleId_of_mem_builtinRules {rule : Rule} (h : rule ∈ builtinRules) :
    ∃ category, IsRuleId category rule.info.id.toList := by
  rcases List.mem_pair.mp h with rfl | rfl
  · exact ⟨"FUNC".toList, by simp, by simp, "001".toList, rfl, by simp, rfl⟩
  · exact ⟨"NAME".toList, by simp, by simp, "001".toList, rfl, by simp, rfl⟩

/-! ### The fixed part of a rule -/

namespace RuleInfo

variable (id name description category : String) (severity : Severity)

theorem create_eq_ok_iff {info : RuleInfo} :
    create id name description category severity = .ok info ↔
      info = ⟨id, name, description, category, severity⟩ ∧
        ∃ token, categoryOf? id.toList = some token := by
  rw [create, ← Option.isSome_iff_exists]
  split
  · rename_i hsome
    rw [Except.ok.injEq, eq_comm, and_iff_left hsome]
  · rename_i hnone
    exact ⟨nofun, fun h => absurd h.2 hnone⟩

/-- **A rule is set up exactly for what is accepted as an id**, with the category in it, and
for all else there is the error that names the id. The rule ids among what is accepted are
those in ASCII without a newline. -/
theorem create_accepts_iff :
    (∀ token, IsReadAs token id.toList ↔
      ∃ info, create id name description category severity = .ok info ∧ info.id = id ∧
        info.categoryToken = String.ofList token) ∧
    (create id name description category severity = .error ⟨id⟩ ↔
      ∀ token, ¬ IsReadAs token id.toList) ∧
    ∀ token, IsRuleId token id.toList ↔
      IsReadAs token id.toList ∧ isAscii id.toList = true ∧ '\n' ∉ id.toList := by
  refine ⟨fun token => ?_, ?_, fun token => isRuleId_iff⟩
  · rw [← categoryOf?_eq_some_iff]
    constructor
    · intro h
      refine ⟨_, (create_eq_ok_iff ..).mpr ⟨rfl, token, h⟩, rfl, ?_⟩
      rw [categoryToken, h, Option.getD_some]
    · rintro ⟨info, hok, -, htoken⟩
      obtain ⟨rfl, read, hread⟩ := (create_eq_ok_iff ..).mp hok
      rw [categoryToken, hread, Option.getD_some] at htoken
      rw [hread, String.ofList_injective htoken]
  · simp only [← categoryOf?_eq_some_iff, ← Option.eq_none_iff_forall_ne_some]
    rw [create]
    cases categoryOf? id.toList <;> simp

/-- A newline behind an id and digits of another script are accepted, though what they are
in is no rule id. -/
theorem create_accepts_lookalikes :
    (∃ info, create "CUBTEK-NAME-001\n" "" "" "" .warning = .ok info ∧
        info.categoryToken = "NAME") ∧
      (∀ token, ¬ IsRuleId token "CUBTEK-NAME-001\n".toList) ∧
      (∃ info, create "CUBTEK-NAME-٠٠١" "" "" "" .warning = .ok info ∧
        info.categoryToken = "NAME") ∧
      ∀ token, ¬ IsRuleId token "CUBTEK-NAME-٠٠١".toList := by
  refine ⟨⟨_, rfl, by decide⟩, fun token h => ?_, ⟨_, rfl, by decide⟩, fun token h => ?_⟩
  · exact absurd (isRuleId_iff.mp h).2.2 (by decide)
  · exact absurd (isRuleId_iff.mp h).2.1 (by decide)

end RuleInfo

end StyleCheck
