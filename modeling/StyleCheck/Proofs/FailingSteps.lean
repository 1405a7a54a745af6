/-
# Steps that may fail

A number of too many digits is not written, and what would show it fails
(`isWritable_iff`, `writtenInteger_of_not_isWritable`).

Of steps that are done one after the other, the first that fails makes the whole fail. If
none does, the whole gives what each step gives, in order (`mapM_eq_ok_iff`).

Key theorems: `isWritable_iff`, `mapM_eq_ok_iff`, `exists_of_mem_mapM`.
-/
import Mathlib.Algebra.GroupWithZero.Nat
import Mathlib.Data.List.Forall2
import StyleCheck.Number.Basic

namespace StyleCheck

/-! ### Numbers of too many digits -/

theorem leastLongInteger_eq : leastLongInteger = 10 ^ maxIntegerDigits := by
  have hpower : ∀ k, Binary64.tenTo k = 10 ^ k := fun _ => rfl
  unfold leastLongInteger
  exact hpower maxIntegerDigits

theorem isWritable_iff {n : Int} : isWritable n = true ↔ n.natAbs < 10 ^ maxIntegerDigits := by
  rw [isWritable, decide_eq_true_iff, leastLongInteger_eq]

theorem isWritable_eq_false_iff {n : Int} :
    isWritable n = false ↔ 10 ^ maxIntegerDigits ≤ n.natAbs := by
  rw [← Bool.not_eq_true, isWritable_iff, Nat.not_lt]

theorem writtenInteger_of_isWritable {n : Int} (h : isWritable n = true) :
    writtenInteger n = .ok (String.ofList (integerText n)) := by
  rw [writtenInteger, if_pos h]

theorem writtenInteger_of_not_isWritable {n : Int} (h : isWritable n = false) :
    writtenInteger n = .error .tooLong := by
  rw [writtenInteger, h]
  rfl

/-! ### One step after the other -/

theorem exists_of_mem_left {α β : Type} {R : α → β → Prop} : ∀ {xs : List α} {ys : List β},
    List.Forall₂ R xs ys → ∀ x ∈ xs, ∃ y ∈ ys, R x y
  | _, _, .nil, _, h => absurd h List.not_mem_nil
  | _, _, .cons hxy hrest, x, h => by
    rcases List.mem_cons.mp h with rfl | h
    · exact ⟨_, List.mem_cons_self, hxy⟩
    · obtain ⟨y, hy, hR⟩ := exists_of_mem_left hrest x h
      exact ⟨y, List.mem_cons_of_mem _ hy, hR⟩

section Steps

variable {α β ε : Type} {f : α → Except ε β}

/-- **Steps that all succeed** give what each of them gives. -/
theorem mapM_eq_ok_iff {xs : List α} {ys : List β} :
    xs.mapM f = .ok ys ↔ List.Forall₂ (fun x y => f x = .ok y) xs ys := by
  induction xs generalizing ys with
  | nil =>
    rw [List.mapM_nil, List.forall₂_nil_left_iff]
    exact ⟨fun h => (Except.ok.inj h).symm, fun h => h ▸ rfl⟩
  | cons x xs ih =>
    rw [List.mapM_cons, List.forall₂_cons_left_iff]
    cases hx : f x with
    | error e => exact iff_of_false nofun fun ⟨_, _, h, _⟩ => nomatch h
    | ok y =>
      simp only [← ih]
      cases hxs : xs.mapM f with
      | error e => exact iff_of_false nofun fun ⟨_, _, _, h, _⟩ => nomatch h
      | ok rest =>
        constructor
        · rintro ⟨⟩
          exact ⟨y, rest, rfl, rfl, rfl⟩
        · rintro ⟨_, _, ⟨⟩, ⟨⟩, rfl⟩
          rfl

theorem exists_of_mem_mapM {xs : List α} {ys : List β} (h : xs.mapM f = .ok ys) {y : β}
    (hy : y ∈ ys) : ∃ x ∈ xs, f x = .ok y :=
  exists_of_mem_left (mapM_eq_ok_iff.mp h).flip y hy

end Steps

end StyleCheck
