/-
# Settings of the function length limit

The parameter that sets the limit may be any value. Truth values, numbers and texts
that write a whole number convert to one (`Value.ConvertsTo`); the conversion fails
on an infinite number and on nothing else (`limitOf_eq_error_iff`).

A rule is reset and given parameters any number of times, one call after the other.
A call fails exactly if it gives an infinite number, and then the limit of the call
before stays. All other calls forget it: the limit is what the given value converts
to if that is at least one, or else the standard limit. So it is positive at all
times (`Rule.limit_afterCalls`).

Key definitions: `Value.ConvertsTo`, `Value.IsInfinite`, `RuleCall`, `Rule.call`,
`Rule.afterCalls`.
Key theorems: `limitOf_eq_ok_some_iff`, `limitOf_eq_error_iff`,
`value_configureLimit`, `Rule.limit_afterCalls`.
-/
import StyleCheck.Proofs.WholeNumbers
import StyleCheck.Rule.Basic

namespace StyleCheck

open Text

/-! ### Conversion -/

/-- The whole number that a value converts to: a truth value counts as one or zero,
a double loses its fraction, a text writes the number. -/
inductive Value.ConvertsTo : Value → Int → Prop where
  | bool (b : Bool) : ConvertsTo (.bool b) (if b then 1 else 0)
  | whole (n : Int) : ConvertsTo (.number (.whole n)) n
  | real {x : Binary64} {q : ℚ} (h : x.toRat? = some q) :
      ConvertsTo (.number (.real x)) (wholePart q)
  | text {text : List Char} {n : Int} (h : WritesInteger text n) :
      ConvertsTo (.text (points text)) n

/-- An infinite number. -/
def Value.IsInfinite (v : Value) : Prop :=
  ∃ negative, v = .number (.real (.infinite negative))

theorem chars?_eq_some_iff {s : PointText} {text : List Char} :
    chars? s = some text ↔ s = points text := by
  refine ⟨fun h => ?_, fun h => h ▸ chars?_points text⟩
  fun_induction chars? s generalizing text with
  | case1 => exact Option.some.inj h ▸ rfl
  | case2 c rest ih =>
    obtain ⟨cs, hcs, rfl⟩ := Option.map_eq_some_iff.mp h
    rw [ih hcs]
    rfl
  | case3 => simp at h

theorem limitOf_eq_ok_some_iff {v : Value} {n : Int} :
    limitOf v = .ok (some n) ↔ v.ConvertsTo n := by
  constructor
  · intro h
    unfold limitOf at h
    split at h
    · obtain rfl := Option.some.inj (Except.ok.inj h)
      exact .bool _
    · obtain rfl := Option.some.inj (Except.ok.inj h)
      exact .whole _
    · exact absurd h nofun
    · rw [Binary64.truncate?_eq] at h
      obtain ⟨q, hq, rfl⟩ := Option.map_eq_some_iff.mp (Except.ok.inj h)
      exact .real hq
    · obtain ⟨text, htext, hread⟩ := Option.bind_eq_some_iff.mp (Except.ok.inj h)
      rw [chars?_eq_some_iff.mp htext]
      exact .text (readInteger?_eq_some_iff.mp hread)
    · exact absurd (Except.ok.inj h) nofun
  · rintro (b | n | @⟨x, q, hq⟩ | @⟨text, n, hn⟩)
    · rfl
    · rfl
    · cases x with
      | nan => simp [Binary64.toRat?] at hq
      | infinite negative => simp [Binary64.toRat?] at hq
      | finite negative significand exponent =>
        rw [limitOf, Binary64.truncate?_eq, hq, Option.map_some]
        nofun
    · rw [limitOf, chars?_points, Option.bind_some, readInteger?_eq_some_iff.mpr hn]

theorem limitOf_eq_error_iff {v : Value} {e : LimitError} :
    limitOf v = .error e ↔ v.IsInfinite := by
  constructor
  · intro h
    unfold limitOf at h
    split at h
    case h_3 negative => exact ⟨negative, rfl⟩
    all_goals exact absurd h nofun
  · rintro ⟨negative, rfl⟩
    rfl

theorem Value.ConvertsTo.unique {v : Value} {m n : Int} (hm : v.ConvertsTo m)
    (hn : v.ConvertsTo n) : m = n := by
  have heq := (limitOf_eq_ok_some_iff.mpr hm).symm.trans (limitOf_eq_ok_some_iff.mpr hn)
  exact Option.some.inj (Except.ok.inj heq)

theorem Value.IsInfinite.not_convertsTo {v : Value} (h : v.IsInfinite) (n : Int) :
    ¬ v.ConvertsTo n := by
  intro hn
  have herror : limitOf v = .error .infinite := limitOf_eq_error_iff.mpr h
  exact absurd ((limitOf_eq_ok_some_iff.mpr hn).symm.trans herror) nofun

/-- The limit that parameters set: what their value converts to if it is at least
one, or else the standard limit. -/
theorem value_configureLimit (standard : Int) (params : Mapping) :
    (configureLimit standard params).value =
      (limitOf (limitParameter params)).map fun n? => (n?.filter (1 ≤ ·)).getD standard := by
  unfold configureLimit
  split
  · rename_i hnull
    rw [hnull]
    rfl
  · cases limitOf (limitParameter params) with
    | error e => rfl
    | ok n? =>
      cases n? with
      | none => rfl
      | some n =>
        by_cases hn : n < 1
        · simp only [if_pos hn]
          simp [Except.map, Option.filter, Int.not_le.mpr hn]
        · simp only [if_neg hn]
          simp [Except.map, Option.filter, Int.not_lt.mp hn]

/-! ### Calls -/

/-- A call that sets the state of a rule. -/
inductive RuleCall where
  | reset
  | configure (params : Mapping)

/-- The value that a call gives for the limit; to reset a rule gives none. -/
def RuleCall.given : RuleCall → Value
  | reset => .null
  | configure params => limitParameter params

namespace Rule

/-- The rule behind a call, and why the call failed, if it did. Parameters that fail
leave the rule as it is. -/
def call (r : Rule) : RuleCall → Rule × Option LimitError
  | .reset => (r.reset, none)
  | .configure params =>
    match (r.configure params).value with
    | .ok configured => (configured, none)
    | .error e => (r, some e)

/-- The rule behind calls, one after the other. -/
def afterCalls (r : Rule) (calls : List RuleCall) : Rule :=
  calls.foldl (fun r c => (r.call c).1) r

end Rule

/-- What a call makes of the limit, by the value that it gives, and whether it
fails. -/
inductive LimitStep (standard former : Int) (given : Value) :
    (limit : Int) → (failure : Option LimitError) → Prop where
  | taken {n : Int} (hn : given.ConvertsTo n) (hpositive : 1 ≤ n) :
      LimitStep standard former given n none
  | passedOver (hfinite : ¬ given.IsInfinite) (hnone : ∀ n, given.ConvertsTo n → n < 1) :
      LimitStep standard former given standard none
  | failed (hinfinite : given.IsInfinite) :
      LimitStep standard former given former (some .infinite)

theorem LimitStep.positive {standard former limit : Int} {given : Value}
    {failure : Option LimitError} (h : LimitStep standard former given limit failure)
    (hstandard : 1 ≤ standard) (hformer : 1 ≤ former) : 1 ≤ limit := by
  cases h with
  | taken hn hpositive => exact hpositive
  | passedOver hfinite hnone => exact hstandard
  | failed hinfinite => exact hformer

theorem limitStep_of_limitOf {v : Value} {n? : Option Int} (h : limitOf v = .ok n?)
    (standard former : Int) :
    LimitStep standard former v ((n?.filter (1 ≤ ·)).getD standard) none := by
  have hfinite : ¬ v.IsInfinite := fun hinfinite => by
    have herror : limitOf v = .error .infinite := limitOf_eq_error_iff.mpr hinfinite
    exact absurd (h.symm.trans herror) nofun
  have hunique : ∀ n, v.ConvertsTo n → n? = some n := fun n hn =>
    Except.ok.inj (h.symm.trans (limitOf_eq_ok_some_iff.mpr hn))
  cases n? with
  | none => exact .passedOver hfinite fun n hn => absurd (hunique n hn) nofun
  | some n =>
    by_cases hpositive : 1 ≤ n
    · rw [Option.filter_some_pos (by simpa using hpositive)]
      exact .taken (limitOf_eq_ok_some_iff.mp h) hpositive
    · rw [Option.filter_some_neg (by simpa using hpositive)]
      refine .passedOver hfinite fun m hm => ?_
      obtain rfl := Option.some.inj (hunique m hm)
      exact Int.not_le.mp hpositive

namespace Rule

/-- One call: the rule stays a function length rule with the same standard limit. -/
theorem exists_limitStep {r : Rule} {standard former : Int}
    (hr : r.inspection = .functionLength standard former) (c : RuleCall) :
    ∃ limit, (r.call c).1.inspection = .functionLength standard limit ∧
      LimitStep standard former c.given limit (r.call c).2 := by
  cases c with
  | reset =>
    have hnull : limitOf RuleCall.reset.given = .ok none := rfl
    exact ⟨standard, by simp only [call, reset, hr], limitStep_of_limitOf hnull standard former⟩
  | configure params =>
    have hvalue := value_configureLimit standard params
    simp only [call, configure, hr, Traced.value_bind]
    cases hlimit : limitOf (limitParameter params) with
    | error e =>
      rw [hlimit] at hvalue
      rw [hvalue]
      exact ⟨former, hr, .failed (limitOf_eq_error_iff.mp hlimit)⟩
    | ok n? =>
      rw [hlimit] at hvalue
      rw [hvalue]
      exact ⟨_, rfl, limitStep_of_limitOf hlimit standard former⟩

/-- Any number of calls: a positive limit stays positive. -/
theorem exists_inspection_afterCalls {standard : Int} (hstandard : 1 ≤ standard)
    (calls : List RuleCall) {r : Rule} {former : Int}
    (hr : r.inspection = .functionLength standard former) (hformer : 1 ≤ former) :
    ∃ limit, (r.afterCalls calls).inspection = .functionLength standard limit ∧ 1 ≤ limit := by
  induction calls generalizing r former with
  | nil => exact ⟨former, hr, hformer⟩
  | cons c calls ih =>
    obtain ⟨limit, hlimit, hstep⟩ := exists_limitStep hr c
    exact ih hlimit (hstep.positive hstandard hformer)

theorem limit?_eq {r : Rule} {standard limit : Int}
    (hr : r.inspection = .functionLength standard limit) : r.limit? = some limit := by
  rw [limit?, hr]

/-- **The limit behind a call.** Whatever calls were made before, a call fails exactly
if it gives an infinite number, and then the limit stays as it was. Otherwise the limit
is what the given value converts to if that is at least one, and else the standard
limit. It is positive in every case. -/
theorem limit_afterCalls (standard : Int) (hstandard : 1 ≤ standard) (calls : List RuleCall)
    (c : RuleCall) :
    let r := (functionLength standard).afterCalls calls
    ∃ former limit, r.limit? = some former ∧ (r.call c).1.limit? = some limit ∧ 1 ≤ limit ∧
      ((r.call c).2.isSome ↔ c.given.IsInfinite) ∧
      (c.given.IsInfinite → limit = former) ∧
      (∀ n, c.given.ConvertsTo n → 1 ≤ n → limit = n) ∧
      (¬ c.given.IsInfinite → (∀ n, c.given.ConvertsTo n → n < 1) → limit = standard) := by
  intro r
  have hnew : (functionLength standard).inspection = .functionLength standard standard := rfl
  obtain ⟨former, hr, hformer⟩ := exists_inspection_afterCalls hstandard calls hnew hstandard
  obtain ⟨limit, hlimit, hstep⟩ := exists_limitStep hr c
  refine ⟨former, limit, limit?_eq hr, limit?_eq hlimit, hstep.positive hstandard hformer, ?_⟩
  generalize (r.call c).2 = failure at hstep
  cases hstep with
  | taken hn hpositive =>
    have hfinite : ¬ c.given.IsInfinite := fun h => h.not_convertsTo _ hn
    exact ⟨by simpa using hfinite, fun h => absurd h hfinite, fun m hm _ => hn.unique hm,
      fun _ hnone => absurd (hnone _ hn) (Int.not_lt.mpr hpositive)⟩
  | passedOver hfinite hnone =>
    exact ⟨by simpa using hfinite, fun h => absurd h hfinite,
      fun n hn hpositive => absurd (hnone n hn) (Int.not_lt.mpr hpositive), fun _ _ => rfl⟩
  | failed hinfinite =>
    exact ⟨by simpa using hinfinite, fun _ => rfl,
      fun n hn => absurd hn (hinfinite.not_convertsTo n), fun h => absurd hinfinite h⟩

/-- Parameters that set the limit to the value. -/
def settingLimit (v : Value) : RuleCall :=
  .configure [(.text "maxLines", v)]

/-- A limit of seven stays when an infinite one fails, and a text that writes ten
replaces it. -/
theorem limit_afterCalls_text :
    1 ≤ standardLimit ∧
    let calls :=
      [settingLimit (.number (.whole 7)), settingLimit (.number (.real (.infinite true)))]
    let r := (functionLength standardLimit).afterCalls calls
    r.limit? = some 7 ∧ (r.call (settingLimit (.text " +1_0\n"))).2 = none ∧
      (r.call (settingLimit (.text " +1_0\n"))).1.limit? = some 10 := by
  refine ⟨by decide, ?_⟩
  intro calls r
  have hwrites : WritesInteger " +1_0\n".toList 10 := readInteger?_eq_some_iff.mp (by decide)
  have hgiven : (settingLimit (.text " +1_0\n")).given.ConvertsTo 10 := .text hwrites
  obtain ⟨former, limit, hformer, hlimit, -, hfails, -, htaken, -⟩ :=
    limit_afterCalls standardLimit (by decide) calls (settingLimit (.text " +1_0\n"))
  obtain rfl := htaken 10 hgiven (by decide)
  refine ⟨rfl, ?_, hlimit⟩
  rw [← Option.not_isSome_iff_eq_none, hfails]
  exact fun h => h.not_convertsTo _ hgiven

/-- **An infinite limit** does not lead back to the standard limit: the call fails, and
the limit of the call before stays. -/
theorem call_fails_on_infinite_limit :
    let r := (functionLength standardLimit).afterCalls [settingLimit (.number (.whole 7))]
    let infinite := settingLimit (.number (.real (.infinite false)))
    (r.call infinite).2 = some .infinite ∧ (r.call infinite).1.limit? = some 7 ∧
      (∀ n, ¬ infinite.given.ConvertsTo n) ∧ standardLimit ≠ 7 := by
  refine ⟨rfl, rfl, fun n => ?_, by decide⟩
  exact Value.IsInfinite.not_convertsTo ⟨false, rfl⟩ n

end Rule

end StyleCheck
