/-
# Settings from files

Which file settings are read from depends on the tree alone: an explicit file, or
else the first of the usual places below a root at which a file stands. What comes
of reading it depends on the state of the file and on what its text is read as
(`loadMapping_iff`), and is one of three things (`settingsFrom_outcomes`).

* There are settings if no file applies, or if the chosen one has a text that
  stands for a mapping or for something that counts as false.
* There is an error that names the file if it is missing or cannot be read, if its
  text is malformed, or if it stands for something else.
* There is an error of another kind if the place is refused, if the bytes are not
  UTF-8, or if the text stands for a value that there is none of.

The last kind is not one that loading settings ought to end with: whoever reports
the errors of a settings file does not expect it
(`settingsFrom_stops_at_malformed_bytes`).

Key definitions: `SearchComesTo`, `PicksFile`, `PicksNothing`, `SearchRefusedAt`,
`Tree.HasText`, `FileReading`, `LoadError.IsAbout`.
Key theorems: `chosenFile_eq_some_iff`, `loadMapping_iff`, `settingsFrom_outcomes`.
-/
import StyleCheck.Config.Load

namespace StyleCheck

/-! ### Which file -/

section Choice

variable (tree : Tree) (locations : List Path) (explicit root : Option Path)

/-- At this place no file stands, and it can be looked at. -/
def Tree.IsVacant (path : Path) : Prop :=
  tree.isFile path = false ∧ tree.refuses path = false

/-- A search of the places below `top` comes to this one: those before it are
vacant. -/
def SearchComesTo (top path : Path) : Prop :=
  ∃ before location after, locations = before ++ location :: after ∧ path = top.join location ∧
    ∀ other ∈ before, tree.IsVacant (top.join other)

/-- Settings are read from this file: it is the explicit one, or there is none and
it is the first file that a search below the root comes to. -/
def PicksFile (path : Path) : Prop :=
  explicit = some path ∨
    explicit = none ∧ ∃ top, root = some top ∧ SearchComesTo tree locations top path ∧
      tree.isFile path = true

/-- Settings are read from no file: none is explicit, and no file stands at a
place below the root, if there is a root. -/
def PicksNothing : Prop :=
  explicit = none ∧ ∀ top, root = some top → ∀ location ∈ locations,
    tree.IsVacant (top.join location)

/-- The search comes to a place that cannot be looked at. -/
def SearchRefusedAt (path : Path) : Prop :=
  explicit = none ∧ ∃ top, root = some top ∧ SearchComesTo tree locations top path ∧
    tree.refuses path = true

variable {tree locations explicit root}

theorem Tree.refuses_of_isFile {path : Path} (h : tree.isFile path = true) :
    tree.refuses path = false := by
  unfold isFile at h
  unfold refuses
  cases hnode : tree.node path with
  | found place content => rfl
  | missing => rfl
  | notDirectory => rfl
  | nameTooLong =>
    rw [hnode] at h
    exact absurd h nofun

theorem Tree.isVacant_iff {path : Path} :
    tree.IsVacant path ↔ (tree.isFile path || tree.refuses path) = false :=
  Bool.or_eq_false_iff.symm

theorem find?_places_eq_some_iff {top path : Path} :
    (locations.map top.join).find? (fun path => tree.isFile path || tree.refuses path) = some path ↔
      SearchComesTo tree locations top path ∧ (tree.isFile path || tree.refuses path) = true := by
  rw [List.find?_eq_some_iff_append]
  constructor
  · rintro ⟨hstops, places, others, hsplit, hvacant⟩
    obtain ⟨before, rest, rfl, rfl, hrest⟩ := List.map_eq_append_iff.mp hsplit
    obtain ⟨location, after, rfl, rfl, rfl⟩ := List.map_eq_cons_iff.mp hrest
    refine ⟨⟨before, location, after, rfl, rfl, fun other hother => ?_⟩, hstops⟩
    rw [Tree.isVacant_iff]
    simpa using hvacant _ (List.mem_map_of_mem hother)
  · rintro ⟨⟨before, location, after, rfl, rfl, hvacant⟩, hstops⟩
    refine ⟨hstops, before.map top.join, after.map top.join, by simp, fun other hother => ?_⟩
    obtain ⟨location, hlocation, rfl⟩ := List.mem_map.mp hother
    simpa using Tree.isVacant_iff.mp (hvacant location hlocation)

theorem discover_eq_some_iff {top path : Path} :
    discover tree locations top = .ok (some path) ↔
      SearchComesTo tree locations top path ∧ tree.isFile path = true := by
  unfold discover
  constructor
  · intro h
    split at h
    · rename_i found hfound
      obtain ⟨hcomes, hstops⟩ := find?_places_eq_some_iff.mp hfound
      by_cases hrefuses : tree.refuses found = true
      · rw [if_pos hrefuses] at h
        exact absurd h nofun
      · rw [if_neg hrefuses] at h
        obtain rfl := Option.some.inj (Except.ok.inj h)
        exact ⟨hcomes, (Bool.or_eq_true_iff.mp hstops).resolve_right hrefuses⟩
    · exact absurd h nofun
  · rintro ⟨hcomes, hfile⟩
    have hstops := Bool.or_eq_true_iff.mpr (Or.inl hfile : _ ∨ tree.refuses path = true)
    rw [find?_places_eq_some_iff.mpr ⟨hcomes, hstops⟩]
    simp [Tree.refuses_of_isFile hfile]

theorem discover_eq_error_iff {top : Path} {error : LoadError} :
    discover tree locations top = .error error ↔
      ∃ path, error = .refused path ∧ SearchComesTo tree locations top path ∧
        tree.refuses path = true := by
  unfold discover
  constructor
  · intro h
    split at h
    · rename_i found hfound
      by_cases hrefuses : tree.refuses found = true
      · rw [if_pos hrefuses] at h
        exact ⟨found, (Except.error.inj h).symm, (find?_places_eq_some_iff.mp hfound).1, hrefuses⟩
      · rw [if_neg hrefuses] at h
        exact absurd h nofun
    · exact absurd h nofun
  · rintro ⟨path, rfl, hcomes, hrefuses⟩
    have hstops := Bool.or_eq_true_iff.mpr (Or.inr hrefuses : tree.isFile path = true ∨ _)
    rw [find?_places_eq_some_iff.mpr ⟨hcomes, hstops⟩]
    simp [hrefuses]

theorem discover_eq_none_iff {top : Path} :
    discover tree locations top = .ok none ↔
      ∀ location ∈ locations, tree.IsVacant (top.join location) := by
  have hvacant : (locations.map top.join).find?
      (fun path => tree.isFile path || tree.refuses path) = none ↔
        ∀ location ∈ locations, tree.IsVacant (top.join location) := by
    simp only [List.find?_eq_none, List.mem_map, forall_exists_index, and_imp,
      forall_apply_eq_imp_iff₂, Bool.not_eq_true, Tree.isVacant_iff]
  rw [← hvacant]
  unfold discover
  split
  · rename_i path hfind
    by_cases hrefuses : tree.refuses path = true
    · simp [hrefuses, hfind]
    · simp [hrefuses, hfind]
  · rename_i hfind
    simp [hfind]

/-- **The choice comes to a file** exactly if that is the one to pick. -/
theorem chosenFile_eq_some_iff {path : Path} :
    chosenFile tree locations explicit root = .ok (some path) ↔
      PicksFile tree locations explicit root path := by
  unfold chosenFile PicksFile
  cases explicit with
  | some own => simp
  | none =>
    cases root with
    | none => simp
    | some top => simp [discover_eq_some_iff]

theorem chosenFile_eq_none_iff :
    chosenFile tree locations explicit root = .ok none ↔
      PicksNothing tree locations explicit root := by
  unfold chosenFile PicksNothing
  cases explicit with
  | some own => simp
  | none =>
    cases root with
    | none => simp
    | some top => simp [discover_eq_none_iff]

theorem chosenFile_eq_error_iff {error : LoadError} :
    chosenFile tree locations explicit root = .error error ↔
      ∃ path, error = .refused path ∧ SearchRefusedAt tree locations explicit root path := by
  unfold chosenFile SearchRefusedAt
  cases explicit with
  | some own => simp
  | none =>
    cases root with
    | none => simp
    | some top => simp [discover_eq_error_iff]

end Choice

/-! ### What is in it -/

section Reading

/-- The file at the path can be read, and is UTF-8 for this text. -/
def Tree.HasText (tree : Tree) (path : Path) (text : List Char) : Prop :=
  ∃ bytes chars, tree.readBytes path = .ok bytes ∧ Text.decodeUtf8? bytes = some chars ∧
    text = Text.unifyNewlines chars

variable (parse : List Char → Except Yaml.Fault Value) (tree : Tree) (path : Path)

/-- What comes of reading settings from the file at a path, by the state of the
file and by what its text is read as. -/
inductive FileReading : Except LoadError Mapping → Prop
  | refused (hrefuses : tree.refuses path = true) : FileReading (.error (.refused path))
  | notFound (hrefuses : tree.refuses path = false) (hholds : tree.holds path = false) :
    FileReading (.error (.notFound path))
  | unreadable (hholds : tree.holds path = true) (hread : ∀ bytes, tree.readBytes path ≠ .ok bytes) :
    FileReading (.error (.unreadable path))
  | notUtf8 {bytes : List UInt8} (hread : tree.readBytes path = .ok bytes)
    (hdecode : Text.decodeUtf8? bytes = none) : FileReading (.error (.notUtf8 path))
  | malformed {text : List Char} (htext : tree.HasText path text)
    (hparse : parse text = .error .malformed) : FileReading (.error (.malformed path))
  | badValue {text : List Char} {cause : Yaml.BadValue} (htext : tree.HasText path text)
    (hparse : parse text = .error (.badValue cause)) : FileReading (.error (.badValue cause))
  | noMapping {text : List Char} {value : Value} (htext : tree.HasText path text)
    (hparse : parse text = .ok value) (hvalue : mappingOf? value = none) :
    FileReading (.error (.noMapping path))
  | mapping {text : List Char} {value : Value} {entries : Mapping} (htext : tree.HasText path text)
    (hparse : parse text = .ok value) (hvalue : mappingOf? value = some entries) :
    FileReading (.ok entries)

variable {parse tree path}

theorem Tree.refuses_of_holds (h : tree.holds path = true) : tree.refuses path = false := by
  unfold holds at h
  unfold refuses
  split at h
  · rename_i hnode
    rw [hnode]
  · exact absurd h nofun

theorem Tree.holds_of_readBytes {bytes : List UInt8} (h : tree.readBytes path = .ok bytes) :
    tree.holds path = true := by
  unfold readBytes at h
  unfold holds
  split at h
  · exact absurd h nofun
  · split at h
    · rename_i hnode
      rw [hnode]
    · exact absurd h nofun
    · exact absurd h nofun
    · exact absurd h nofun
    · exact absurd h nofun

theorem Tree.HasText.refuses {text : List Char} (h : tree.HasText path text) :
    tree.refuses path = false := by
  obtain ⟨bytes, _, hread, -, -⟩ := h
  exact refuses_of_holds (holds_of_readBytes hread)

theorem loadMapping_of_text {text : List Char} (h : tree.HasText path text) :
    loadMapping parse tree path =
      match parse text with
      | .error .malformed => .error (.malformed path)
      | .error (.badValue cause) => .error (.badValue cause)
      | .ok value =>
        match mappingOf? value with
        | some entries => .ok entries
        | none => .error (.noMapping path) := by
  obtain ⟨bytes, chars, hread, hdecode, rfl⟩ := h
  have hholds := Tree.holds_of_readBytes hread
  unfold loadMapping
  rw [if_neg (by simp [Tree.refuses_of_holds hholds]), if_neg (by simp [hholds]), hread]
  cases hparse : parse (Text.unifyNewlines chars) with
  | error fault =>
    cases fault with
    | malformed => simp [hdecode, hparse]
    | badValue cause => simp [hdecode, hparse]
  | ok value =>
    cases hvalue : mappingOf? value with
    | none => simp [hdecode, hparse, hvalue]
    | some entries => simp [hdecode, hparse, hvalue]

/-- **What comes of reading a file of settings**, case by case. -/
theorem loadMapping_iff {outcome : Except LoadError Mapping} :
    loadMapping parse tree path = outcome ↔ FileReading parse tree path outcome := by
  constructor
  · rintro rfl
    by_cases hrefuses : tree.refuses path = true
    · rw [loadMapping, if_pos hrefuses]
      exact .refused hrefuses
    by_cases hholds : tree.holds path = true
    · cases hread : tree.readBytes path with
      | error e =>
        rw [loadMapping, if_neg hrefuses, if_neg (by simp [hholds]), hread]
        refine .unreadable hholds fun bytes => ?_
        rw [hread]
        exact nofun
      | ok bytes =>
        cases hdecode : Text.decodeUtf8? bytes with
        | none =>
          rw [loadMapping, if_neg hrefuses, if_neg (by simp [hholds]), hread]
          simp only [hdecode]
          exact .notUtf8 hread hdecode
        | some chars =>
          have htext : tree.HasText path (Text.unifyNewlines chars) :=
            ⟨bytes, chars, hread, hdecode, rfl⟩
          rw [loadMapping_of_text htext]
          split
          · exact .malformed htext ‹_›
          · exact .badValue htext ‹_›
          · split
            · exact .mapping htext ‹_› ‹_›
            · exact .noMapping htext ‹_› ‹_›
    · rw [loadMapping, if_neg hrefuses, if_pos (by simp [hholds])]
      exact .notFound (Bool.not_eq_true _ ▸ hrefuses) (Bool.not_eq_true _ ▸ hholds)
  · intro h
    cases h with
    | refused hrefuses => rw [loadMapping, if_pos hrefuses]
    | notFound hrefuses hholds =>
      rw [loadMapping, if_neg (by simp [hrefuses]), if_pos (by simp [hholds])]
    | unreadable hholds hread =>
      rw [loadMapping, if_neg (by simp [Tree.refuses_of_holds hholds]), if_neg (by simp [hholds])]
      cases hbytes : tree.readBytes path with
      | error e => rfl
      | ok bytes => exact absurd hbytes (hread bytes)
    | notUtf8 hread hdecode =>
      have hholds := Tree.holds_of_readBytes hread
      rw [loadMapping, if_neg (by simp [Tree.refuses_of_holds hholds]),
        if_neg (by simp [hholds]), hread]
      simp only [hdecode]
    | malformed htext hparse => rw [loadMapping_of_text htext, hparse]
    | badValue htext hparse => rw [loadMapping_of_text htext, hparse]
    | noMapping htext hparse hvalue =>
      rw [loadMapping_of_text htext, hparse]
      simp only [hvalue]
    | mapping htext hparse hvalue =>
      rw [loadMapping_of_text htext, hparse]
      simp only [hvalue]

end Reading

/-! ### What the file gives -/

theorem mappingOf?_of_ne_map {value : Value} (h : ∀ entries, value ≠ .map entries) :
    mappingOf? value = if value.isTruthy then none else some [] := by
  cases value with
  | map entries => exact absurd rfl (h entries)
  | null => rfl
  | bool b => rfl
  | number n => rfl
  | moment m => rfl
  | text t => rfl
  | list items => rfl

/-- A mapping counts as itself, and what counts as false as the empty one. -/
theorem mappingOf?_eq_some_iff {value : Value} {entries : Mapping} :
    mappingOf? value = some entries ↔
      value = .map entries ∨ value.isTruthy = false ∧ entries = [] := by
  by_cases hmap : ∃ own, value = .map own
  · obtain ⟨own, rfl⟩ := hmap
    have hempty : (Value.map own).isTruthy = false ↔ own = [] := by simp [Value.isTruthy]
    rw [hempty, Value.map.injEq, mappingOf?, Option.some.injEq]
    constructor
    · exact Or.inl
    · rintro (rfl | ⟨rfl, rfl⟩)
      · rfl
      · rfl
  · have hne := not_exists.mp hmap
    rw [mappingOf?_of_ne_map hne, or_iff_right (hne entries)]
    by_cases htrue : value.isTruthy = true
    · simp [htrue]
    · simp [htrue, eq_comm]

theorem mappingOf?_eq_none_iff {value : Value} :
    mappingOf? value = none ↔ value.isTruthy = true ∧ ∀ entries, value ≠ .map entries := by
  by_cases hmap : ∃ own, value = .map own
  · obtain ⟨own, rfl⟩ := hmap
    exact iff_of_false nofun fun h => h.2 own rfl
  · have hne := not_exists.mp hmap
    rw [mappingOf?_of_ne_map hne, and_iff_left hne]
    by_cases htrue : value.isTruthy = true
    · simp [htrue]
    · simp [htrue]

/-- The error is one about the file at this path, which it names. -/
def LoadError.IsAbout (e : LoadError) (path : Path) : Prop :=
  e = .notFound path ∨ e = .unreadable path ∨ e = .malformed path ∨ e = .noMapping path

section Outcomes

variable {parse : List Char → Except Yaml.Fault Value} {tree : Tree} {path : Path}

/-- A file of settings gives a mapping exactly if it has a text that stands for
one, or for something that counts as false. -/
theorem loadMapping_eq_ok_iff {entries : Mapping} :
    loadMapping parse tree path = .ok entries ↔
      ∃ text value, tree.HasText path text ∧ parse text = .ok value ∧
        (value = .map entries ∨ value.isTruthy = false ∧ entries = []) := by
  rw [loadMapping_iff]
  constructor
  · intro h
    cases h with
    | mapping htext hparse hvalue =>
      exact ⟨_, _, htext, hparse, mappingOf?_eq_some_iff.mp hvalue⟩
  · rintro ⟨text, value, htext, hparse, hvalue⟩
    exact .mapping htext hparse (mappingOf?_eq_some_iff.mpr hvalue)

/-- It gives an error about itself exactly if it cannot be read, is malformed or
stands for something else. -/
theorem loadMapping_isAbout_iff {other : Path} :
    (∃ e, loadMapping parse tree path = .error e ∧ e.IsAbout other) ↔
      other = path ∧ tree.refuses path = false ∧
        ((∀ bytes, tree.readBytes path ≠ .ok bytes) ∨
          ∃ text, tree.HasText path text ∧
            (parse text = .error .malformed ∨
              ∃ value, parse text = .ok value ∧ value.isTruthy = true ∧
                ∀ entries, value ≠ .map entries)) := by
  constructor
  · rintro ⟨e, hload, habout⟩
    cases loadMapping_iff.mp hload with
    | notFound hrefuses hholds =>
      have hunread : ∀ bytes, tree.readBytes path ≠ .ok bytes := by
        intro bytes hread
        rw [Tree.holds_of_readBytes hread] at hholds
        exact absurd hholds nofun
      simp only [LoadError.IsAbout, LoadError.notFound.injEq, reduceCtorEq, or_false] at habout
      exact ⟨habout.symm, hrefuses, Or.inl hunread⟩
    | unreadable hholds hunread =>
      simp only [LoadError.IsAbout, LoadError.unreadable.injEq, reduceCtorEq, or_false,
        false_or] at habout
      exact ⟨habout.symm, Tree.refuses_of_holds hholds, Or.inl hunread⟩
    | malformed htext hparse =>
      simp only [LoadError.IsAbout, LoadError.malformed.injEq, reduceCtorEq, or_false,
        false_or] at habout
      exact ⟨habout.symm, htext.refuses, Or.inr ⟨_, htext, Or.inl hparse⟩⟩
    | noMapping htext hparse hvalue =>
      simp only [LoadError.IsAbout, LoadError.noMapping.injEq, reduceCtorEq, false_or] at habout
      exact ⟨habout.symm, htext.refuses,
        Or.inr ⟨_, htext, Or.inr ⟨_, hparse, mappingOf?_eq_none_iff.mp hvalue⟩⟩⟩
    | refused _ => simp [LoadError.IsAbout] at habout
    | notUtf8 _ _ => simp [LoadError.IsAbout] at habout
    | badValue _ _ => simp [LoadError.IsAbout] at habout
  · rintro ⟨rfl, hrefuses, hunread | ⟨text, htext, hmalformed | ⟨value, hparse, hvalue⟩⟩⟩
    · by_cases hholds : tree.holds other = true
      · exact ⟨_, loadMapping_iff.mpr (.unreadable hholds hunread), Or.inr (Or.inl rfl)⟩
      · exact ⟨_, loadMapping_iff.mpr (.notFound hrefuses (Bool.not_eq_true _ ▸ hholds)),
          Or.inl rfl⟩
    · exact ⟨_, loadMapping_iff.mpr (.malformed htext hmalformed), Or.inr (Or.inr (Or.inl rfl))⟩
    · exact ⟨_, loadMapping_iff.mpr (.noMapping htext hparse (mappingOf?_eq_none_iff.mpr hvalue)),
        Or.inr (Or.inr (Or.inr rfl))⟩

/-- It gives another error exactly if its place is refused, if its bytes are not
UTF-8, or if its text is written like a value and stands for none. -/
theorem loadMapping_not_isAbout_iff :
    (∃ e, loadMapping parse tree path = .error e ∧ ∀ other, ¬ e.IsAbout other) ↔
      tree.refuses path = true ∨
        (∃ bytes, tree.readBytes path = .ok bytes ∧ Text.decodeUtf8? bytes = none) ∨
        ∃ text cause, tree.HasText path text ∧ parse text = .error (.badValue cause) := by
  constructor
  · rintro ⟨e, hload, hother⟩
    cases loadMapping_iff.mp hload with
    | refused hrefuses => exact Or.inl hrefuses
    | notUtf8 hread hdecode => exact Or.inr (Or.inl ⟨_, hread, hdecode⟩)
    | badValue htext hparse => exact Or.inr (Or.inr ⟨_, _, htext, hparse⟩)
    | notFound _ _ => exact absurd (Or.inl rfl) (hother path)
    | unreadable _ _ => exact absurd (Or.inr (Or.inl rfl)) (hother path)
    | malformed _ _ => exact absurd (Or.inr (Or.inr (Or.inl rfl))) (hother path)
    | noMapping _ _ _ => exact absurd (Or.inr (Or.inr (Or.inr rfl))) (hother path)
  · rintro (hrefuses | ⟨bytes, hread, hdecode⟩ | ⟨text, cause, htext, hparse⟩)
    · exact ⟨_, loadMapping_iff.mpr (.refused hrefuses), by simp [LoadError.IsAbout]⟩
    · exact ⟨_, loadMapping_iff.mpr (.notUtf8 hread hdecode), by simp [LoadError.IsAbout]⟩
    · exact ⟨_, loadMapping_iff.mpr (.badValue htext hparse), by simp [LoadError.IsAbout]⟩

end Outcomes

/-! ### The settings -/

variable (parse : List Char → Except Yaml.Fault Value) (tree : Tree) (locations : List Path)
  (explicit root : Option Path)

theorem value_settingsFrom_eq_ok_iff {path : Path} {s : Settings}
    (h : chosenFile tree locations explicit root = .ok (some path)) :
    (settingsFrom parse tree locations explicit root).value = .ok s ↔
      ∃ entries, loadMapping parse tree path = .ok entries ∧
        s = (Settings.standard.merge entries (some path)).value := by
  rw [settingsFrom, h]
  simp only
  cases loadMapping parse tree path with
  | error e => simp
  | ok data => simp [eq_comm]

theorem value_settingsFrom_eq_error_iff {path : Path} {e : LoadError}
    (h : chosenFile tree locations explicit root = .ok (some path)) :
    (settingsFrom parse tree locations explicit root).value = .error e ↔
      loadMapping parse tree path = .error e := by
  rw [settingsFrom, h]
  simp only
  cases loadMapping parse tree path with
  | error own => simp
  | ok data => simp

/-- **What comes of loading settings.** There are settings exactly if no file applies,
and then the standard ones, or if the chosen file has a text that stands for a
mapping, or for something that counts as false, and then that mapping over the
standard ones. There is an error that is about a file exactly if that is the
chosen one and it is missing, cannot be read, is malformed or stands for something
else. And there is another error exactly if a place is refused, if the bytes are not
UTF-8, or if the text is written like a value and stands for none. -/
theorem settingsFrom_outcomes :
    (∀ s, (settingsFrom parse tree locations explicit root).value = .ok s ↔
      PicksNothing tree locations explicit root ∧ s = .standard ∨
        ∃ path text value entries, PicksFile tree locations explicit root path ∧
          tree.HasText path text ∧ parse text = .ok value ∧
          (value = .map entries ∨ value.isTruthy = false ∧ entries = []) ∧
          s = (Settings.standard.merge entries (some path)).value) ∧
    (∀ path, (∃ e, (settingsFrom parse tree locations explicit root).value = .error e ∧
        e.IsAbout path) ↔
      PicksFile tree locations explicit root path ∧ tree.refuses path = false ∧
        ((∀ bytes, tree.readBytes path ≠ .ok bytes) ∨
          ∃ text, tree.HasText path text ∧
            (parse text = .error .malformed ∨
              ∃ value, parse text = .ok value ∧ value.isTruthy = true ∧
                ∀ entries, value ≠ .map entries))) ∧
    ((∃ e, (settingsFrom parse tree locations explicit root).value = .error e ∧
        ∀ path, ¬ e.IsAbout path) ↔
      ∃ path, SearchRefusedAt tree locations explicit root path ∨
        PicksFile tree locations explicit root path ∧
          (tree.refuses path = true ∨
            (∃ bytes, tree.readBytes path = .ok bytes ∧ Text.decodeUtf8? bytes = none) ∨
            ∃ text cause, tree.HasText path text ∧ parse text = .error (.badValue cause))) := by
  simp only [← chosenFile_eq_some_iff, ← chosenFile_eq_none_iff]
  cases hchosen : chosenFile tree locations explicit root with
  | error e =>
    obtain ⟨path, rfl, hrefused⟩ := chosenFile_eq_error_iff.mp hchosen
    have hvalue : (settingsFrom parse tree locations explicit root).value =
        .error (.refused path) := by
      rw [settingsFrom, hchosen]
      rfl
    rw [hvalue]
    refine ⟨by simp, by simp [LoadError.IsAbout], iff_of_true ?_ ⟨path, Or.inl hrefused⟩⟩
    exact ⟨_, rfl, by simp [LoadError.IsAbout]⟩
  | ok choice =>
    have hsearch : ∀ path, ¬ SearchRefusedAt tree locations explicit root path := by
      intro path hrefused
      have herror := chosenFile_eq_error_iff.mpr ⟨path, rfl, hrefused⟩
      rw [hchosen] at herror
      exact absurd herror nofun
    cases choice with
    | none =>
      have hvalue : (settingsFrom parse tree locations explicit root).value = .ok .standard := by
        rw [settingsFrom, hchosen]
        rfl
      rw [hvalue]
      refine ⟨fun s => ⟨fun h => Or.inl ⟨rfl, (Except.ok.inj h).symm⟩, ?_⟩, by simp,
        by simp [hsearch]⟩
      rintro (⟨-, rfl⟩ | ⟨_, _, _, _, hpath, -⟩)
      · rfl
      · exact absurd hpath nofun
    | some path =>
      simp only [value_settingsFrom_eq_ok_iff parse tree locations explicit root hchosen,
        value_settingsFrom_eq_error_iff parse tree locations explicit root hchosen,
        loadMapping_eq_ok_iff, loadMapping_isAbout_iff, loadMapping_not_isAbout_iff, hsearch,
        Except.ok.injEq, Option.some.injEq, reduceCtorEq, false_and, false_or]
      refine ⟨fun s => ⟨?_, ?_⟩, fun other => ⟨?_, ?_⟩, ⟨?_, ?_⟩⟩
      · rintro ⟨entries, ⟨text, value, htext, hparse, hvalue⟩, hs⟩
        exact ⟨path, text, value, entries, rfl, htext, hparse, hvalue, hs⟩
      · rintro ⟨_, text, value, entries, rfl, htext, hparse, hvalue, hs⟩
        exact ⟨entries, ⟨text, value, htext, hparse, hvalue⟩, hs⟩
      · rintro ⟨rfl, hrest⟩
        exact ⟨rfl, hrest⟩
      · rintro ⟨rfl, hrest⟩
        exact ⟨rfl, hrest⟩
      · intro h
        exact ⟨path, rfl, h⟩
      · rintro ⟨_, rfl, h⟩
        exact h

/-- A tree with one file of settings, whose only byte is no UTF-8. -/
def latinTree : Tree where
  base := ⟨"/", ["project"]⟩
  entries := [(["cubtek.json"], .file [0xE9])]

/-- Loading settings from it ends with an error that is not one about a file of
settings, although every text stands for a value. -/
theorem settingsFrom_stops_at_malformed_bytes :
    ¬ ∀ (parse : List Char → Except Yaml.Fault Value) (tree : Tree) (locations : List Path)
      (explicit root : Option Path),
      (∀ text cause, parse text ≠ .error (.badValue cause)) →
      ((∃ s, (settingsFrom parse tree locations explicit root).value = .ok s) ↔
        PicksNothing tree locations explicit root ∨
          ∃ path text value, PicksFile tree locations explicit root path ∧
            tree.HasText path text ∧ parse text = .ok value ∧
            (value = .null ∨ ∃ entries, value = .map entries)) ∧
      ∀ e, (settingsFrom parse tree locations explicit root).value = .error e →
        ∃ path, e.IsAbout path := by
  intro h
  have herror : (settingsFrom (fun _ => .ok .null) latinTree []
      (some ⟨"", ["cubtek.json"]⟩) none).value = .error (.notUtf8 ⟨"", ["cubtek.json"]⟩) := by
    rfl
  obtain ⟨-, habout⟩ := h (fun _ => .ok .null) latinTree [] (some ⟨"", ["cubtek.json"]⟩) none nofun
  obtain ⟨path, hpath⟩ := habout _ herror
  simp [LoadError.IsAbout] at hpath

end StyleCheck
