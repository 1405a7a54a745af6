/-
# What the length rule finds

The length rule goes through the functions of a document and reports those that are closed
and have more lines than the limit (`excesses`), each with the same finding but for its name,
its place and its lines (`longFinding`).

A finding shows two numbers, its lines and the limit. Where one of the two has too many
digits for one of the functions to be reported, the rule fails and reports none of them
(`longFunctions_eq_ok_iff`).

Key definitions: `longFinding`, `excesses`, `IsShown`.
Key theorems: `value_longFunctions`, `longFunctions_eq_ok_iff`,
`exists_longFunctions_eq_ok_iff`, `mem_excesses_iff`, `Rule.value_check_eq_some_iff`.
-/
import StyleCheck.Proofs.FailingSteps
import StyleCheck.Rule.Basic

namespace StyleCheck

open Source

/-- The finding about a function of this many lines, with its message. -/
def longFinding (limit : Int) (s : Signature) (lineCount : Int) : Finding where
  ruleId := functionInfo.id
  message := "Function \"" ++ String.ofList s.name ++ "\" is " ++
    String.ofList (integerText lineCount) ++ " lines long (maximum allowed is " ++
    String.ofList (integerText limit) ++ ")"
  kind := .function
  offset := some s.nameAt
  identifier := some (String.ofList s.name)
  details := [("name", .text (String.ofList s.name)), ("lineCount", .number (.whole lineCount)),
    ("maxAllowed", .number (.whole limit))]

/-- A finding can show this limit and this number of lines. -/
def IsShown (limit lineCount : Int) : Prop :=
  limit.natAbs < 10 ^ maxIntegerDigits ∧ lineCount.natAbs < 10 ^ maxIntegerDigits

instance (limit lineCount : Int) : Decidable (IsShown limit lineCount) :=
  inferInstanceAs (Decidable (_ ∧ _))

theorem lengthFinding_of_isShown {limit lineCount : Int} (h : IsShown limit lineCount)
    (s : Signature) : lengthFinding limit s lineCount = .ok (longFinding limit s lineCount) := by
  unfold lengthFinding
  rw [writtenInteger_of_isWritable (isWritable_iff.mpr h.1),
    writtenInteger_of_isWritable (isWritable_iff.mpr h.2)]
  rfl

theorem lengthFinding_of_not_isShown {limit lineCount : Int} (h : ¬ IsShown limit lineCount)
    (s : Signature) : lengthFinding limit s lineCount = .error .tooLong := by
  unfold lengthFinding
  cases hcount : isWritable lineCount with
  | false =>
    rw [writtenInteger_of_not_isWritable hcount]
    rfl
  | true =>
    have hlimit : isWritable limit = false := Bool.eq_false_iff.mpr fun hlimit =>
      h ⟨isWritable_iff.mp hlimit, isWritable_iff.mp hcount⟩
    rw [writtenInteger_of_isWritable hcount, writtenInteger_of_not_isWritable hlimit]
    rfl

theorem lengthFinding_eq_ok_iff {limit lineCount : Int} {s : Signature} {f : Finding} :
    lengthFinding limit s lineCount = .ok f ↔
      IsShown limit lineCount ∧ longFinding limit s lineCount = f := by
  by_cases h : IsShown limit lineCount
  · simp [lengthFinding_of_isShown h, h]
  · simp [lengthFinding_of_not_isShown h, h]

/-! ### The functions that are too long -/

/-- The functions that are closed and longer than the limit, with their numbers of lines. -/
def excesses (limit : Int) (d : Document) : List (Signature × Int) :=
  (signatures (mask d.text)).filterMap fun s =>
    (excessLines? limit d (mask d.text) s).map fun lineCount => (s, lineCount)

theorem excessLines?_eq_some_iff {limit lineCount : Int} {d : Document} {masked : List Char}
    {s : Signature} : excessLines? limit d masked s = some lineCount ↔
      ∃ last, blockEnd? masked ((s.stop : Int) - 1) = some last ∧ limit < lineCount ∧
        lineCount = d.linesBetween s.start last := by
  unfold excessLines? functionSpan?
  cases blockEnd? masked ((s.stop : Int) - 1) with
  | none => simp
  | some last =>
    simp only [Option.map_some, Option.some.injEq, exists_eq_left']
    split
    · exact iff_of_false nofun fun ⟨hlong, hcount⟩ => by omega
    · rw [Option.some.injEq]
      exact ⟨fun hcount => ⟨by omega, hcount.symm⟩, fun h => h.2.symm⟩

theorem mem_excesses_iff {limit lineCount : Int} {d : Document} {s : Signature} :
    (s, lineCount) ∈ excesses limit d ↔
      s ∈ signatures (mask d.text) ∧
        ∃ last, blockEnd? (mask d.text) ((s.stop : Int) - 1) = some last ∧
          limit < lineCount ∧ lineCount = d.linesBetween s.start last := by
  unfold excesses
  simp only [List.mem_filterMap, Option.map_eq_some_iff, Prod.mk.injEq, excessLines?_eq_some_iff]
  constructor
  · rintro ⟨_, hs, _, hlines, rfl, rfl⟩
    exact ⟨hs, hlines⟩
  · rintro ⟨hs, hlines⟩
    exact ⟨s, hs, lineCount, hlines, rfl, rfl⟩

theorem forall_excesses_iff {limit : Int} {d : Document} {p : Int → Prop} :
    (∀ e ∈ excesses limit d, p e.2) ↔
      ∀ s ∈ signatures (mask d.text), ∀ last,
        blockEnd? (mask d.text) ((s.stop : Int) - 1) = some last →
          limit < d.linesBetween s.start last → p (d.linesBetween s.start last) := by
  constructor
  · intro h s hs last hlast hlong
    exact h (s, _) (mem_excesses_iff.mpr ⟨hs, last, hlast, hlong, rfl⟩)
  · rintro h ⟨s, lineCount⟩ he
    obtain ⟨hs, last, hlast, hlong, rfl⟩ := mem_excesses_iff.mp he
    exact h s hs last hlast hlong

/-! ### Findings -/

theorem value_longFunctionsAmong (limit : Int) (d : Document) (masked : List Char) :
    ∀ found : List Signature, (longFunctionsAmong limit d masked found).value =
      (found.filterMap fun s => (excessLines? limit d masked s).map fun lineCount =>
        (s, lineCount)).mapM fun e => lengthFinding limit e.1 e.2
  | [] => rfl
  | s :: rest => by
    have ih := value_longFunctionsAmong limit d masked rest
    rw [longFunctionsAmong, Traced.value_bind]
    cases hlines : excessLines? limit d masked s with
    | none =>
      rw [List.filterMap_cons, hlines]
      exact ih
    | some lineCount =>
      rw [List.filterMap_cons, hlines]
      simp only [Option.map_some, List.mapM_cons]
      cases hfinding : lengthFinding limit s lineCount with
      | error e => rfl
      | ok finding =>
        simp only [Traced.value_bind, Traced.value_pure, ih]
        rfl

theorem value_longFunctions (limit : Int) (d : Document) :
    (longFunctions limit d).value =
      (excesses limit d).mapM fun e => lengthFinding limit e.1 e.2 :=
  value_longFunctionsAmong limit d (mask d.text) (signatures (mask d.text))

/-- **When the length rule reports**: the numbers of all the functions that are too long can be
shown, and there is a finding for each of these functions, in order. -/
theorem longFunctions_eq_ok_iff {limit : Int} {d : Document} {findings : List Finding} :
    (longFunctions limit d).value = .ok findings ↔
      (∀ e ∈ excesses limit d, IsShown limit e.2) ∧
        (excesses limit d).map (fun e => longFinding limit e.1 e.2) = findings := by
  rw [value_longFunctions, mapM_eq_ok_iff]
  simp only [lengthFinding_eq_ok_iff]
  induction excesses limit d generalizing findings with
  | nil => simp [eq_comm]
  | cons e rest ih =>
    simp only [List.forall₂_cons_left_iff, ih, List.forall_mem_cons, List.map_cons]
    constructor
    · rintro ⟨_, _, ⟨hshown, rfl⟩, ⟨hrest, rfl⟩, rfl⟩
      exact ⟨⟨hshown, hrest⟩, rfl⟩
    · rintro ⟨⟨hshown, hrest⟩, rfl⟩
      exact ⟨_, _, ⟨hshown, rfl⟩, ⟨hrest, rfl⟩, rfl⟩

theorem exists_longFunctions_eq_ok_iff {limit : Int} {d : Document} :
    (∃ findings, (longFunctions limit d).value = .ok findings) ↔
      ∀ e ∈ excesses limit d, IsShown limit e.2 := by
  simp only [longFunctions_eq_ok_iff, exists_and_left, exists_eq', and_true]

theorem mem_of_longFunctions {limit : Int} {d : Document} {findings : List Finding}
    (h : (longFunctions limit d).value = .ok findings) {f : Finding} :
    f ∈ findings ↔ ∃ s ∈ signatures (mask d.text), ∃ last,
      blockEnd? (mask d.text) ((s.stop : Int) - 1) = some last ∧
      limit < d.linesBetween s.start last ∧
      f = longFinding limit s (d.linesBetween s.start last) := by
  obtain ⟨-, rfl⟩ := longFunctions_eq_ok_iff.mp h
  constructor
  · intro hf
    obtain ⟨⟨s, lineCount⟩, he, rfl⟩ := List.mem_map.mp hf
    obtain ⟨hs, last, hlast, hlong, rfl⟩ := mem_excesses_iff.mp he
    exact ⟨s, hs, last, hlast, hlong, rfl⟩
  · rintro ⟨s, hs, last, hlast, hlong, rfl⟩
    exact List.mem_map.mpr ⟨(s, _), mem_excesses_iff.mpr ⟨hs, last, hlast, hlong, rfl⟩, rfl⟩

/-! ### Checks -/

theorem Rule.value_check_eq_some_iff {r : Rule} {limit : Int} (h : r.limit? = some limit)
    {d : Document} {findings : List Finding} :
    (r.check d).value = some findings ↔ (longFunctions limit d).value = .ok findings := by
  unfold Rule.limit? at h
  split at h
  · rename_i standard limit' hinspection
    obtain rfl := Option.some.inj h
    have hcheck : (r.check d).value = (longFunctions limit' d).value.toOption := by
      unfold Rule.check
      rw [hinspection]
      rfl
    rw [hcheck]
    cases (longFunctions limit' d).value with
    | error e => exact iff_of_false nofun nofun
    | ok found => simp [Except.toOption]
  · exact absurd h nofun

end StyleCheck
