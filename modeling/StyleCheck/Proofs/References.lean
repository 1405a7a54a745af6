/-
# References of a name

A name is looked for from left to right, and the search goes on behind each occurrence.
What it finds comes in order, and each place found lies between two word boundaries
(`exists_of_mem_occurrencesFrom`); it finds nothing only if there is no such place
(`occurrences_eq_nil_iff`).

For a name made of word characters nothing is missed either (`mem_occurrences_iff`),
although the search passes over what it has found: two places where the name is a whole
word are never so close that one overlaps the other or touches it
(`WholeWord.add_length_lt`). So the references of such a name are the ranges of the
places where it is a whole word, one for each, in order (`Document.references_cover_whole_words`).

Key definitions: `OccursAt`.
Key theorems: `occurrences_eq_nil_iff`, `occursAt_iff_wholeWord`, `mem_occurrences_iff`,
`WholeWord.add_length_lt`, `Document.references_cover_whole_words`.
-/
import StyleCheck.Proofs.Highlighting
import StyleCheck.Proofs.PositionOrder

namespace StyleCheck.Source

open Text

/-! ### What a search finds -/

/-- The text goes on with `name` at `offset`, between two word boundaries. -/
def OccursAt (name text : List Char) (offset : Nat) : Prop :=
  ∃ before after, text = before ++ (name ++ after) ∧ before.length = offset ∧
    atBoundary (endsWord false before) (name ++ after) = true ∧
      atBoundary (endsWord false (before ++ name)) after = true

variable {name : List Char}

theorem occursHere_iff {a : Bool} {text : List Char} :
    occursHere name a text = true ↔ ∃ after, text = name ++ after ∧
      atBoundary a (name ++ after) = true ∧ atBoundary (endsWord a name) after = true := by
  rw [occursHere, Bool.and_eq_true]
  constructor
  · rintro ⟨hstart, hrest⟩
    split at hrest
    · rename_i after hafter
      obtain rfl := eq_append_of_dropWord? hafter
      exact ⟨after, rfl, hstart, hrest⟩
    · exact absurd hrest Bool.false_ne_true
  · rintro ⟨after, rfl, hstart, hstop⟩
    rw [dropWord?_append]
    exact ⟨hstart, hstop⟩

theorem occursAt_iff_occursHere {text : List Char} {offset : Nat} :
    OccursAt name text offset ↔ ∃ before rest, text = before ++ rest ∧ before.length = offset ∧
      occursHere name (endsWord false before) rest = true := by
  constructor
  · rintro ⟨before, after, rfl, rfl, hstart, hstop⟩
    rw [endsWord_append] at hstop
    exact ⟨before, name ++ after, rfl, rfl, occursHere_iff.mpr ⟨after, rfl, hstart, hstop⟩⟩
  · rintro ⟨before, rest, rfl, rfl, hhere⟩
    obtain ⟨after, rfl, hstart, hstop⟩ := occursHere_iff.mp hhere
    exact ⟨before, after, rfl, rfl, hstart, by rwa [endsWord_append]⟩

theorem exists_of_mem_occurrencesFrom {i : Nat} : ∀ (text : List Char) (skip offset : Nat)
    (a : Bool), i ∈ occurrencesFrom name skip offset a text →
      ∃ before rest, text = before ++ rest ∧ offset + before.length = i ∧
        occursHere name (endsWord a before) rest = true
  | [], skip, offset, a, h => by
    rw [occurrencesFrom] at h
    split at h
    · rename_i hhere
      rw [List.mem_singleton.mp h]
      exact ⟨[], [], rfl, rfl, hhere.2⟩
    · exact absurd h List.not_mem_nil
  | c :: text, skip, offset, a, h => by
    -- a place further on, found in the text behind `c`
    have later : ∀ skip', i ∈ occurrencesFrom name skip' (offset + 1) (isWord c) text →
        ∃ before rest, c :: text = before ++ rest ∧ offset + before.length = i ∧
          occursHere name (endsWord a before) rest = true := by
      intro skip' h'
      obtain ⟨before, rest, rfl, rfl, hhere⟩ :=
        exists_of_mem_occurrencesFrom text skip' (offset + 1) (isWord c) h'
      refine ⟨c :: before, rest, rfl, ?_, by rwa [endsWord_cons]⟩
      rw [List.length_cons]
      omega
    cases skip with
    | succ skip => exact later skip h
    | zero =>
      rw [occurrencesFrom] at h
      split at h
      · rename_i hhere
        rcases List.mem_cons.mp h with rfl | h
        · exact ⟨[], c :: text, rfl, rfl, hhere⟩
        · exact later _ h
      · exact later 0 h

theorem pairwise_occurrencesFrom : ∀ (text : List Char) (skip offset : Nat) (a : Bool),
    (occurrencesFrom name skip offset a text).Pairwise (· < ·)
  | [], skip, offset, a => by
    rw [occurrencesFrom]
    split
    · exact List.pairwise_singleton _ _
    · exact List.Pairwise.nil
  | c :: text, skip, offset, a => by
    cases skip with
    | succ skip => exact pairwise_occurrencesFrom text skip (offset + 1) (isWord c)
    | zero =>
      rw [occurrencesFrom]
      split
      · refine List.pairwise_cons.mpr ⟨fun i hi => ?_, pairwise_occurrencesFrom text _ _ _⟩
        obtain ⟨before, rest, -, rfl, -⟩ := exists_of_mem_occurrencesFrom text _ _ _ hi
        omega
      · exact pairwise_occurrencesFrom text 0 (offset + 1) (isWord c)

theorem occurrencesFrom_eq_nil {text : List Char} {offset : Nat} {a : Bool}
    (h : occurrencesFrom name 0 offset a text = []) :
    ∀ before rest, text = before ++ rest → occursHere name (endsWord a before) rest = false := by
  induction text generalizing offset a with
  | nil =>
    rintro before rest hnil
    obtain ⟨rfl, rfl⟩ := List.append_eq_nil_iff.mp hnil.symm
    rw [occurrencesFrom] at h
    split at h
    · exact absurd h (List.cons_ne_nil _ _)
    · rename_i hhere
      exact Bool.eq_false_iff.mpr fun htrue => hhere ⟨rfl, htrue⟩
  | cons c text ih =>
    rintro before rest htext
    rw [occurrencesFrom] at h
    split at h
    · exact absurd h (List.cons_ne_nil _ _)
    · rename_i hhere
      cases before with
      | nil =>
        rw [List.nil_append] at htext
        subst htext
        exact Bool.eq_false_iff.mpr hhere
      | cons b before =>
        obtain ⟨rfl, rfl⟩ := List.cons.inj htext
        rw [endsWord_cons]
        exact ih h before rest rfl

theorem occursAt_of_mem_occurrences {text : List Char} {i : Nat} (h : i ∈ occurrences name text) :
    OccursAt name text i := by
  obtain ⟨before, rest, rfl, rfl, hhere⟩ := exists_of_mem_occurrencesFrom text 0 0 false h
  exact occursAt_iff_occursHere.mpr ⟨before, rest, rfl, (Nat.zero_add _).symm, hhere⟩

/-- **A search finds nothing** exactly if the name occurs nowhere. -/
theorem occurrences_eq_nil_iff {text : List Char} :
    occurrences name text = [] ↔ ∀ i, ¬ OccursAt name text i := by
  constructor
  · intro hnil i hoccurs
    obtain ⟨before, rest, htext, -, hhere⟩ := occursAt_iff_occursHere.mp hoccurs
    rw [occurrencesFrom_eq_nil hnil before rest htext] at hhere
    exact Bool.false_ne_true hhere
  · intro hnone
    exact List.eq_nil_iff_forall_not_mem.mpr fun i hi => hnone i (occursAt_of_mem_occurrences hi)

/-! ### Whole words -/

section WholeWord

variable {text : List Char} (hne : name ≠ []) (hname : ∀ c ∈ name, isWord c = true)

include hne hname

/-- A name of word characters occurs where it is a whole word. -/
theorem occursAt_iff_wholeWord {i : Nat} : OccursAt name text i ↔ WholeWord name text i := by
  have hstart : ∀ after, startsWord (name ++ after) = true :=
    fun after => startsWord_append_of after (startsWord_of_word hne hname)
  have hend : ∀ before, endsWord false (before ++ name) = true := fun before => by
    rw [endsWord_append, endsWord_of_word _ hne hname]
  constructor
  · rintro ⟨before, after, htext, hlength, hfirst, hlast⟩
    rw [atBoundary, hstart] at hfirst
    rw [atBoundary, hend] at hlast
    exact ⟨before, after, htext, hlength, hne, hname, by simpa using hfirst, by simpa using hlast⟩
  · rintro ⟨before, after, htext, hlength, -, -, hfirst, hlast⟩
    refine ⟨before, after, htext, hlength, ?_, ?_⟩
    · rw [atBoundary, hfirst, hstart]
      rfl
    · rw [atBoundary, hend, hlast]
      rfl

/-- **A search finds exactly the whole words.** -/
theorem mem_occurrences_iff {i : Nat} : i ∈ occurrences name text ↔ WholeWord name text i :=
  ⟨fun h => (occursAt_iff_wholeWord hne hname).mp (occursAt_of_mem_occurrences h),
    mem_occurrences_of_wholeWord⟩

end WholeWord

namespace WholeWord

variable {text : List Char} {i j : Nat}

theorem add_length_le (h : WholeWord name text i) : i + name.length ≤ text.length := by
  obtain ⟨before, after, rfl, rfl, -⟩ := h
  simp only [List.length_append]
  omega

/-- **Whole words are apart**: of two places of a name the earlier one ends before the later
one begins, with a character between them. -/
theorem add_length_lt (hi : WholeWord name text i) (hj : WholeWord name text j) (hlt : i < j) :
    i + name.length < j := by
  obtain ⟨before, after, rfl, rfl, -, hname, -, -⟩ := hi
  obtain ⟨before', after', htext, rfl, -, -, hstart, -⟩ := hj
  by_contra hclose
  -- what leads from the one place to the other would be the beginning of the name
  have hbefore' : before' <+: before ++ (name ++ after) := by
    rw [htext]
    exact List.prefix_append before' _
  obtain ⟨between, rfl⟩ : before <+: before' :=
    List.prefix_of_prefix_length_le (List.prefix_append before _) hbefore' (Nat.le_of_lt hlt)
  rw [List.append_assoc] at htext
  have hahead : between <+: name ++ after := by
    rw [List.append_cancel_left htext]
    exact List.prefix_append between _
  have hbetween : between <+: name := by
    refine List.prefix_of_prefix_length_le hahead (List.prefix_append name after) ?_
    rw [List.length_append] at hclose
    omega
  have hne : between ≠ [] := by
    rintro rfl
    simp at hlt
  rw [endsWord_append, endsWord_of_word _ hne fun c hc => hname c (hbetween.subset hc)] at hstart
  exact Bool.false_ne_true hstart.symm

end WholeWord

end StyleCheck.Source

namespace StyleCheck.Document

open Text Source

/-- **References are complete and exact.** For a name made of word characters there is one
reference for each offset at which the name is a whole word of the text, and no other. They
come in the order of their offsets, each ends before the next one begins, and each lies on one
line and has the name as its text. -/
theorem references_cover_whole_words (d : Document) (name : List Char) (hne : name ≠ [])
    (hname : ∀ c ∈ name, isWord c = true) :
    (∃ offsets : List Nat,
      d.references name = offsets.map (fun i : Nat =>
        ⟨d.positionAt i, d.positionAt ((i + name.length : Nat) : Int)⟩) ∧
      (∀ i, i ∈ offsets ↔ WholeWord name d.text i) ∧ offsets.Pairwise (· < ·)) ∧
    (d.references name).Pairwise (fun r s => r.stop.before s.start = true) ∧
    ∀ r ∈ d.references name, r.isSingleLine = true ∧ d.textIn r = name := by
  have hmem : ∀ i, i ∈ occurrences name d.text ↔ WholeWord name d.text i :=
    fun i => mem_occurrences_iff hne hname
  have hordered : (occurrences name d.text).Pairwise (· < ·) :=
    pairwise_occurrencesFrom d.text 0 0 false
  refine ⟨⟨occurrences name d.text, rfl, hmem, hordered⟩, ?_, ?_⟩
  · refine List.pairwise_map.mpr (hordered.imp_of_mem fun {i j} hi hj hlt => ?_)
    have hwordj := (hmem j).mp hj
    have hapart := ((hmem i).mp hi).add_length_lt hwordj hlt
    have hinside := hwordj.add_length_le
    exact d.before_positionAt hapart (by omega)
  · intro r hr
    obtain ⟨i, hi, rfl⟩ := List.mem_map.mp hr
    have hword := (hmem i).mp hi
    exact ⟨isSingleLine_of_wholeWord hword, textIn_of_wholeWord hword⟩

/-- A source where a name also stands inside longer words, and at both of its ends. -/
def sourceOfRepeatedName : Document where
  text := "aa = aaa + é_aa;\r\n(aa)aa".toList

/-- Only the whole words are references. -/
theorem references_cover_whole_words_overlapping :
    ("aa".toList ≠ [] ∧ ∀ c ∈ "aa".toList, isWord c = true) ∧
    (∃ offsets : List Nat,
      sourceOfRepeatedName.references "aa".toList = offsets.map (fun i : Nat =>
        ⟨sourceOfRepeatedName.positionAt i,
          sourceOfRepeatedName.positionAt ((i + "aa".toList.length : Nat) : Int)⟩) ∧
      (∀ i, i ∈ offsets ↔ WholeWord "aa".toList sourceOfRepeatedName.text i) ∧
        offsets.Pairwise (· < ·)) ∧
    (sourceOfRepeatedName.references "aa".toList).Pairwise
      (fun r s => r.stop.before s.start = true) ∧
    (∀ r ∈ sourceOfRepeatedName.references "aa".toList,
      r.isSingleLine = true ∧ sourceOfRepeatedName.textIn r = "aa".toList) ∧
    sourceOfRepeatedName.references "aa".toList =
      [Range.onLine 0 0 2, Range.onLine 1 1 3, Range.onLine 1 4 6] := by
  have hne : "aa".toList ≠ [] := by decide
  have hname : ∀ c ∈ "aa".toList, isWord c = true := List.all_eq_true.mp (by decide)
  obtain ⟨hoffsets, hpairwise, hranges⟩ := references_cover_whole_words sourceOfRepeatedName _ hne hname
  exact ⟨⟨hne, hname⟩, hoffsets, hpairwise, hranges, by decide +kernel⟩

end StyleCheck.Document
