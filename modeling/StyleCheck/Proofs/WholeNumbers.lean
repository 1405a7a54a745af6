/-
# Whole numbers

A text writes a whole number if it consists of blanks, a sign or none, digits
with single underscores between them, and blanks again; the digits may be of any
script, and are not more than can be read (`WritesInteger`). The reader accepts
exactly these texts, each with the number that it writes
(`readInteger?_eq_some_iff`).

A double becomes a whole number by losing its fraction, so it is rounded towards
zero (`Binary64.truncate?_eq`).

Key definitions: `JoinedDigits`, `WritesInteger`, `Binary64.toRat?`,
`wholePart`.
Key theorems: `joinedDigits?_eq_some_iff`, `readInteger?_eq_some_iff`,
`Binary64.truncate?_eq`.
-/
import Mathlib.Data.Rat.Floor
import StyleCheck.Number.Basic
import StyleCheck.Proofs.Words

namespace StyleCheck

open Text Source

/-! ### Digits -/

/-- Digits, and the same digits with single underscores between them. -/
inductive JoinedDigits : (text digits : List Char) → Prop where
  | single {c} (hc : isDigit c = true) : JoinedDigits [c] [c]
  | next {c text digits} (hc : isDigit c = true) (h : JoinedDigits text digits) :
      JoinedDigits (c :: text) (c :: digits)
  | underscore {c text digits} (hc : isDigit c = true) (h : JoinedDigits text digits) :
      JoinedDigits (c :: '_' :: text) (c :: digits)

theorem ne_of_isDigit {c d : Char} (hc : isDigit c = true) (hd : isDigit d = false) : c ≠ d := by
  rintro rfl
  exact Bool.false_ne_true (hd.symm.trans hc)

theorem joinedDigits?_digit {c : Char} (hc : isDigit c = true) (afterDigit : Bool)
    (text : List Char) :
    joinedDigits? afterDigit (c :: text) = (joinedDigits? true text).map (c :: ·) := by
  rw [joinedDigits?, if_neg (ne_of_isDigit hc (by decide)), if_pos hc]

namespace JoinedDigits

variable {text digits : List Char}

theorem exists_head (h : JoinedDigits text digits) : ∃ c cs, text = c :: cs ∧ isDigit c = true := by
  cases h with
  | single hc => exact ⟨_, _, rfl, hc⟩
  | next hc h => exact ⟨_, _, rfl, hc⟩
  | underscore hc h => exact ⟨_, _, rfl, hc⟩

theorem exists_last (h : JoinedDigits text digits) :
    ∃ c, text.getLast? = some c ∧ isDigit c = true := by
  induction h with
  | single hc => exact ⟨_, rfl, hc⟩
  | next hc h ih =>
    obtain ⟨d, hlast, hd⟩ := ih
    exact ⟨d, by rw [List.getLast?_cons, hlast]; rfl, hd⟩
  | underscore hc h ih =>
    obtain ⟨d, hlast, hd⟩ := ih
    exact ⟨d, by rw [List.getLast?_cons, List.getLast?_cons, hlast]; rfl, hd⟩

theorem read (h : JoinedDigits text digits) (afterDigit : Bool) :
    joinedDigits? afterDigit text = some digits := by
  induction h generalizing afterDigit with
  | single hc => rw [joinedDigits?_digit hc]; rfl
  | next hc h ih => rw [joinedDigits?_digit hc, ih true]; rfl
  | underscore hc h ih =>
    rw [joinedDigits?_digit hc, joinedDigits?, if_pos rfl, if_pos rfl, ih false]
    rfl

end JoinedDigits

theorem joinedDigits_of_read {text digits : List Char} {afterDigit : Bool}
    (h : joinedDigits? afterDigit text = some digits) :
    if afterDigit then ∀ c, isDigit c = true → JoinedDigits (c :: text) (c :: digits)
    else JoinedDigits text digits := by
  fun_induction joinedDigits? afterDigit text generalizing digits with
  | case1 =>
    obtain rfl := Option.some.inj h
    exact fun c hc => .single hc
  | case2 => simp at h
  | case3 cs ih => exact fun c hc => .underscore hc (ih h)
  | case4 => simp at h
  | case5 afterDigit d cs hne hd ih =>
    obtain ⟨rest, hrest, rfl⟩ := Option.map_eq_some_iff.mp h
    have hjoined : JoinedDigits (d :: cs) (d :: rest) := ih hrest d hd
    split
    · exact fun c hc => .next hc hjoined
    · exact hjoined
  | case6 => simp at h

/-- **Digits with underscores** are read exactly if single ones stand between
them. -/
theorem joinedDigits?_eq_some_iff {text digits : List Char} :
    joinedDigits? false text = some digits ↔ JoinedDigits text digits :=
  ⟨fun h => joinedDigits_of_read h, fun h => h.read false⟩

/-! ### Signs and blanks -/

/-- A sign that may stand before a number, and whether it is a minus. -/
inductive IsSign : (text : List Char) → (negative : Bool) → Prop where
  | none : IsSign [] false
  | plus : IsSign ['+'] false
  | minus : IsSign ['-'] true

theorem exists_takeSign (text : List Char) :
    ∃ sign, IsSign sign (takeSign text).1 ∧ sign ++ (takeSign text).2 = text := by
  unfold takeSign
  split
  · exact ⟨_, .minus, rfl⟩
  · exact ⟨_, .plus, rfl⟩
  · exact ⟨_, .none, rfl⟩

theorem takeSign_append {sign numeral digits : List Char} {negative : Bool}
    (hsign : IsSign sign negative) (hnumeral : JoinedDigits numeral digits) :
    takeSign (sign ++ numeral) = (negative, numeral) := by
  cases hsign with
  | none =>
    obtain ⟨c, cs, rfl, hc⟩ := hnumeral.exists_head
    have hminus : c ≠ '-' := ne_of_isDigit hc (by decide)
    have hplus : c ≠ '+' := ne_of_isDigit hc (by decide)
    simp [takeSign, hminus, hplus]
  | plus => rfl
  | minus => rfl

theorem isNumberBlank_eq_false_of_isDigit {c : Char} (hc : isDigit c = true) :
    isNumberBlank c = false := by
  rw [isNumberBlank, isBlank_eq_false_of_isDigit hc, Bool.false_and]

/-- The blanks around a text are passed over if it begins and ends with something
else. -/
theorem trimNumber_append {before text after : List Char} {c d : Char}
    (hbefore : ∀ c ∈ before, isNumberBlank c = true)
    (hafter : ∀ c ∈ after, isNumberBlank c = true)
    (hfirst : text.head? = some c) (hc : isNumberBlank c = false)
    (hlast : text.getLast? = some d) (hd : isNumberBlank d = false) :
    trimNumber (before ++ text ++ after) = text := by
  obtain ⟨cs, rfl⟩ : ∃ cs, text = c :: cs := by
    cases text with
    | nil => simp at hfirst
    | cons b cs => exact ⟨cs, by rw [Option.some.inj hfirst]⟩
  have hself : dropEndWhile isNumberBlank (c :: cs) = c :: cs :=
    (dropEndWhile_eq_self_iff _ _).mpr fun x hx => by
      rw [hlast] at hx
      exact Option.some.inj hx ▸ hd
  rw [trimNumber, List.append_assoc, List.dropWhile_append_of_pos hbefore, List.cons_append,
    List.dropWhile_cons_of_neg (by simp [hc]), ← List.cons_append,
    dropEndWhile_append_of_forall _ hafter, hself]

theorem exists_trimNumber (text : List Char) : ∃ before after,
    before ++ trimNumber text ++ after = text ∧ (∀ c ∈ before, isNumberBlank c = true) ∧
      ∀ c ∈ after, isNumberBlank c = true := by
  obtain ⟨after, heq, hafter⟩ :=
    exists_dropEndWhile_append isNumberBlank (text.dropWhile isNumberBlank)
  refine ⟨text.takeWhile isNumberBlank, after, ?_, fun c hc => List.mem_takeWhile_imp hc, hafter⟩
  rw [trimNumber, List.append_assoc, heq, List.takeWhile_append_dropWhile]

/-! ### Whole numbers -/

/-- The text is a whole number between blanks. -/
inductive WritesInteger : (text : List Char) → (n : Int) → Prop where
  | mk {before sign numeral digits after negative}
      (hbefore : ∀ c ∈ before, isNumberBlank c = true)
      (hsign : IsSign sign negative) (hnumeral : JoinedDigits numeral digits)
      (hlength : digits.length ≤ maxIntegerDigits)
      (hafter : ∀ c ∈ after, isNumberBlank c = true) :
      WritesInteger (before ++ (sign ++ numeral) ++ after)
        (if negative then -(decimalValue digits : Int) else decimalValue digits)

/-- **A text is read as a whole number** exactly if it writes it. -/
theorem readInteger?_eq_some_iff {text : List Char} {n : Int} :
    readInteger? text = some n ↔ WritesInteger text n := by
  constructor
  · intro h
    obtain ⟨before, after, htext, hbefore, hafter⟩ := exists_trimNumber text
    obtain ⟨sign, hsign, heq⟩ := exists_takeSign (trimNumber text)
    unfold readInteger? at h
    cases hread : joinedDigits? false (takeSign (trimNumber text)).2 with
    | none => simp [hread] at h
    | some digits =>
      by_cases hlength : digits.length ≤ maxIntegerDigits
      · simp only [hread, hlength, if_true] at h
        rw [← htext, ← heq, ← Option.some.inj h]
        exact .mk hbefore hsign (joinedDigits?_eq_some_iff.mp hread) hlength hafter
      · simp [hread, hlength] at h
  · rintro ⟨hbefore, hsign, hnumeral, hlength, hafter⟩
    rename_i before sign numeral digits after negative
    obtain ⟨d, hlast, hd⟩ := hnumeral.exists_last
    obtain ⟨c, cs, hcons, hc⟩ := hnumeral.exists_head
    have hfirst : ∃ b, (sign ++ numeral).head? = some b ∧ isNumberBlank b = false := by
      cases hsign with
      | none => exact ⟨c, by rw [hcons]; rfl, isNumberBlank_eq_false_of_isDigit hc⟩
      | plus => exact ⟨_, rfl, by decide⟩
      | minus => exact ⟨_, rfl, by decide⟩
    obtain ⟨b, hhead, hb⟩ := hfirst
    have htrim : trimNumber (before ++ (sign ++ numeral) ++ after) = sign ++ numeral :=
      trimNumber_append hbefore hafter hhead hb (by rw [List.getLast?_append, hlast]; rfl)
        (isNumberBlank_eq_false_of_isDigit hd)
    simp only [readInteger?, htrim, takeSign_append hsign hnumeral,
      joinedDigits?_eq_some_iff.mpr hnumeral, hlength, if_true]

/-! ### Doubles -/

/-- The part of a number before the point: its fraction is cut off. -/
def wholePart (q : ℚ) : ℤ :=
  if 0 ≤ q then ⌊q⌋ else ⌈q⌉

theorem wholePart_neg (q : ℚ) : wholePart (-q) = -wholePart q := by
  unfold wholePart
  rcases lt_trichotomy q 0 with hq | rfl | hq
  · rw [if_pos (neg_nonneg.mpr hq.le), if_neg hq.not_ge, Int.floor_neg]
  · simp
  · rw [if_neg (neg_neg_iff_pos.mpr hq).not_ge, if_pos hq.le, Int.ceil_neg]

namespace Binary64

/-- What a double is, if it is a number and finite. -/
def toRat? : Binary64 → Option ℚ
  | finite negative significand exponent =>
    let magnitude : ℚ := significand * 2 ^ exponent
    some (if negative then -magnitude else magnitude)
  | _ => none

/-- The size of a double, rounded down. -/
theorem floor_size (significand : Nat) (exponent : Int) :
    ⌊(significand * 2 ^ exponent : ℚ)⌋ =
      ((if 0 ≤ exponent then significand * twoTo exponent.toNat
        else significand / twoTo (-exponent).toNat : Nat) : ℤ) := by
  split
  · rename_i hexponent
    obtain ⟨k, rfl⟩ := Int.eq_ofNat_of_zero_le hexponent
    have hcast : (significand * 2 ^ (k : ℤ) : ℚ) = ((significand * 2 ^ k : ℕ) : ℚ) := by
      push_cast
      rfl
    rw [hcast, Int.floor_natCast]
    rfl
  · rename_i hexponent
    obtain ⟨k, hk⟩ := Int.eq_ofNat_of_zero_le (a := -exponent) (by omega)
    have hcast : (significand * 2 ^ exponent : ℚ) = (significand : ℚ) / ((2 ^ k : ℕ) : ℚ) := by
      rw [show exponent = -(k : ℤ) by omega, zpow_neg, div_eq_mul_inv]
      push_cast
      rfl
    rw [hcast, Rat.floor_natCast_div_natCast, hk]
    rfl

/-- **Only a finite double has an integer part**, the number without its
fraction. -/
theorem truncate?_eq (x : Binary64) : x.truncate? = x.toRat?.map wholePart := by
  cases x with
  | nan => rfl
  | infinite negative => rfl
  | finite negative significand exponent =>
    have hsize : (0 : ℚ) ≤ significand * 2 ^ exponent :=
      mul_nonneg (Nat.cast_nonneg _) (zpow_nonneg (by decide) _)
    have hwhole : wholePart (significand * 2 ^ exponent) = _ :=
      (if_pos hsize).trans (floor_size significand exponent)
    cases negative with
    | false => exact congrArg some hwhole.symm
    | true => exact congrArg some ((wholePart_neg _).trans (congrArg (- ·) hwhole)).symm

end Binary64

end StyleCheck
