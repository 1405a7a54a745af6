/-
# Runs over a project

A check of a project goes through its items one after another, and each of them
comes to one entry (`Checker.ComesTo`): a document to its own check, kept under
its path or under its place in the project, and a file that cannot be read to
one error and no diagnostics, kept under the name it was given by. Two things end
the run without a result (`Checker.EndsAt`): a document that the analyzer cannot
be handed, and a file name with a null character in it.

A run that is told to stop gives what a run over the items before the stop gives,
and says that it was cancelled if there was another item. The results are the
entries laid over each other: a key that comes up again keeps its first place and
takes the later result (`checkProject_keeps_completed`). That *every* file that
cannot be read is an error of its own is false
(`checkProject_ends_at_null_name`).

Key definitions: `Checker.ComesTo`, `Checker.EndsAt`, `Checker.RunsTo`.
Key theorems: `Checker.comesTo_or_endsAt`, `Checker.value_checkFrom_take`,
`Checker.value_checkFrom_append`, `Checker.checkProject_keeps_completed`.
-/
import StyleCheck.Project
import StyleCheck.Proofs.AnalyzerRuns
import StyleCheck.Proofs.Entries

namespace StyleCheck

/-! ### Files -/

theorem Tree.path_of_document {tree : Tree} {name : String} {d : Document}
    (h : tree.document name = .ok d) : d.path = some (Path.ofString name) := by
  unfold Tree.document at h
  cases htext : tree.readText (Path.ofString name) with
  | error e => simp [htext, Except.map] at h
  | ok text =>
    simp only [htext, Except.map, Except.ok.injEq] at h
    rw [← h]

/-- A null character in its name is noticed before anything else about a file. -/
theorem Tree.document_eq_nullCharacter_iff {tree : Tree} {name : String} :
    tree.document name = .error .nullCharacter ↔ (Path.ofString name).hasNull = true := by
  have hread : tree.document name = .error .nullCharacter ↔
      tree.readBytes (Path.ofString name) = .error .nullCharacter := by
    simp only [Tree.document, Tree.readText]
    cases tree.readBytes (Path.ofString name) with
    | error e => simp [Except.map]
    | ok bytes => simp [Except.map]
  rw [hread]
  unfold Tree.readBytes
  by_cases hnull : (Path.ofString name).hasNull = true
  · simp [hnull]
  · rw [if_neg hnull]
    refine iff_of_false ?_ hnull
    cases tree.node (Path.ofString name) with
    | found place content => cases content <;> simp
    | _ => simp

namespace Checker

variable (c : Checker) (around : Surroundings)

/-! ### One item -/

/-- The analyzer cannot be handed the document. -/
def CannotHandOver (d : Document) (error : FileError) : Prop :=
  d.isSupported = true ∧ ∃ a, c.analyzer = some a ∧ a.inputError? d = some error

/-- **What an item comes to** at its place in a project: what it is kept under and
its result. -/
inductive ComesTo (index : Nat) : Item → String × CheckResult → Prop
  /-- A document with a path is kept under the path. -/
  | document {d : Document} {path : Path} {result : CheckResult} (hpath : d.path = some path)
      (hcheck : (c.check around d).value = .ok result) :
      ComesTo index (.document d) (path.text, result)
  /-- A document without a path is kept under its place. -/
  | pathless {d : Document} {result : CheckResult} (hpath : d.path = none)
      (hcheck : (c.check around d).value = .ok result) :
      ComesTo index (.document d) ("<document " ++ toString index ++ ">", result)
  /-- A file that can be read is checked like the document in it. -/
  | file {name : String} {d : Document} {result : CheckResult}
      (hread : around.tree.document name = .ok d)
      (hcheck : (c.check around d).value = .ok result) :
      ComesTo index (.file name) ((Path.ofString name).text, result)
  /-- A file that cannot be read is one error. -/
  | unreadable {name : String} {error : FileError}
      (hread : around.tree.document name = .error error) (hnull : error ≠ .nullCharacter) :
      ComesTo index (.file name) (name, {
        diagnostics := []
        errors := ["Failed to read " ++ name ++ ": " ++ error.message] })

/-- **What ends a run**: a document that cannot be handed over, or a file name with
a null character in it. -/
inductive EndsAt : Item → FileError → Prop
  | document {d : Document} {error : FileError} (h : c.CannotHandOver d error) :
      EndsAt (.document d) error
  | file {name : String} {d : Document} {error : FileError}
      (hread : around.tree.document name = .ok d) (h : c.CannotHandOver d error) :
      EndsAt (.file name) error
  | nullName {name : String} (h : (Path.ofString name).hasNull = true) :
      EndsAt (.file name) .nullCharacter

theorem check_cases (d : Document) :
    (∃ result, (c.check around d).value = .ok result) ∨
      ∃ error, c.CannotHandOver d error ∧ (c.check around d).value = .error error := by
  by_cases hd : d.isSupported = true
  · cases hcheck : (c.check around d).value with
    | ok result => exact Or.inl ⟨result, rfl⟩
    | error error =>
      exact Or.inr ⟨error, ⟨hd, (c.value_check_eq_error_iff around hd error).mp hcheck⟩, rfl⟩
  · have hskipped : (c.check around d).value = .ok { diagnostics := [], coverage := .skipped } := by
      rw [check, if_neg hd]
      rfl
    exact Or.inl ⟨_, hskipped⟩

/-- **An item comes to an entry or ends the run.** -/
theorem comesTo_or_endsAt (index : Nat) (item : Item) :
    (∃ entry, c.ComesTo around index item entry) ∨ ∃ error, c.EndsAt around item error := by
  cases item with
  | document d =>
    rcases c.check_cases around d with ⟨result, hcheck⟩ | ⟨error, hhanded, -⟩
    · cases hpath : d.path with
      | some path => exact Or.inl ⟨_, .document hpath hcheck⟩
      | none => exact Or.inl ⟨_, .pathless hpath hcheck⟩
    · exact Or.inr ⟨error, .document hhanded⟩
  | file name =>
    cases hread : around.tree.document name with
    | ok d =>
      rcases c.check_cases around d with ⟨result, hcheck⟩ | ⟨error, hhanded, -⟩
      · exact Or.inl ⟨_, .file hread hcheck⟩
      · exact Or.inr ⟨error, .file hread hhanded⟩
    | error error =>
      by_cases hnull : error = .nullCharacter
      · rw [hnull] at hread
        exact Or.inr ⟨_, .nullName (Tree.document_eq_nullCharacter_iff.mp hread)⟩
      · exact Or.inl ⟨_, .unreadable hread hnull⟩

theorem ComesTo.value_checkItem {c : Checker} {around : Surroundings} {index : Nat} {item : Item}
    {entry : String × CheckResult} (h : c.ComesTo around index item entry) :
    (c.checkItem around index item).value = .ok entry := by
  cases h with
  | document hpath hcheck => simp [checkItem, hpath, hcheck, Except.map]
  | pathless hpath hcheck => simp [checkItem, hpath, hcheck, Except.map]
  | file hread hcheck =>
    simp [checkItem, hread, hcheck, Tree.path_of_document hread, Except.map]
  | @unreadable name error hread hnull =>
    simp only [checkItem, hread]
    cases error with
    | nullCharacter => exact absurd rfl hnull
    | _ => rfl

theorem EndsAt.value_checkItem {c : Checker} {around : Surroundings} {item : Item}
    {error : FileError} (h : c.EndsAt around item error) (index : Nat) :
    (c.checkItem around index item).value = .error error := by
  have hcheck : ∀ {d : Document}, c.CannotHandOver d error →
      (c.check around d).value = .error error := by
    rintro d ⟨hd, h⟩
    exact (c.value_check_eq_error_iff around hd error).mpr h
  cases h with
  | document h => simp [checkItem, hcheck h, Except.map]
  | file hread h => simp [checkItem, hread, hcheck h, Except.map]
  | @nullName name h =>
    have hread : around.tree.document name = .error .nullCharacter :=
      Tree.document_eq_nullCharacter_iff.mpr h
    simp [checkItem, hread]

/-! ### One item after the other -/

/-- **What the items of a project come to**, the first of them being at the given
place. -/
def RunsTo (index : Nat) (items : List Item) (entries : List (String × CheckResult)) : Prop :=
  List.Forall₂ (fun place entry => c.ComesTo around place.2 place.1 entry)
    (items.zipIdx index) entries

variable {cancelled : Nat → Bool} (index : Nat) (done : List (String × CheckResult))

/-- One step of a run that is not told to stop. -/
theorem value_checkFrom_cons (hgo : cancelled index = false) (item : Item) (rest : List Item) :
    (c.checkFrom around cancelled index done (item :: rest)).value =
      (c.checkItem around index item).value.bind fun entry =>
        (c.checkFrom around cancelled (index + 1) (putEntry entry.1 entry.2 done) rest).value := by
  rw [checkFrom, if_neg (by simp [hgo]), Traced.value_bind]
  cases (c.checkItem around index item).value with
  | error e => rfl
  | ok entry => rfl

/-- **A run that is told to stop before an item** gives what the run over the items
before it gives, and says that it was cancelled. -/
theorem value_checkFrom_take : ∀ (items : List Item) (index k : Nat)
    (done : List (String × CheckResult)),
    (∀ i < k, cancelled (index + i) = false) →
    (k < items.length → cancelled (index + k) = true) →
    (c.checkFrom around cancelled index done items).value =
      (c.checkFrom around (fun _ => false) index done (items.take k)).value.map fun p =>
        { p with cancelled := decide (k < items.length) }
  | [], _, _, _, _, _ => by
    simp [checkFrom, Except.map]
  | item :: rest, index, 0, done, _, hseen => by
    have hstop : cancelled index = true := hseen (by simp)
    simp [checkFrom, hstop, Except.map]
  | item :: rest, index, k + 1, done, hgo, hseen => by
    rw [List.take_succ_cons, c.value_checkFrom_cons around index done (hgo 0 (by omega)),
      c.value_checkFrom_cons around index done rfl]
    cases (c.checkItem around index item).value with
    | error e => rfl
    | ok entry =>
      have hgoRest : ∀ i < k, cancelled (index + 1 + i) = false := fun i hi => by
        rw [Nat.add_assoc, Nat.add_comm 1 i]
        exact hgo (i + 1) (by omega)
      have hseenRest : k < rest.length → cancelled (index + 1 + k) = true := fun hk => by
        rw [Nat.add_assoc, Nat.add_comm 1 k]
        exact hseen (by simpa using hk)
      have ih := value_checkFrom_take rest (index + 1) k (putEntry entry.1 entry.2 done)
        hgoRest hseenRest
      simpa [Except.bind] using ih

/-- **Items that come to entries are passed**, and their entries are kept. -/
theorem value_checkFrom_append : ∀ (before rest : List Item) (index : Nat)
    (entries done : List (String × CheckResult)),
    c.RunsTo around index before entries →
    (c.checkFrom around (fun _ => false) index done (before ++ rest)).value =
      (c.checkFrom around (fun _ => false) (index + before.length) (putEntries entries done)
        rest).value
  | [], rest, index, entries, done, h => by
    cases h
    rfl
  | item :: before, rest, index, entries, done, h => by
    rw [RunsTo, List.zipIdx_cons] at h
    cases h with
    | @cons _ entry _ entries hentry hentries =>
      have ih := value_checkFrom_append before rest (index + 1) entries
        (putEntry entry.1 entry.2 done) hentries
      rw [List.cons_append, c.value_checkFrom_cons around index done rfl, hentry.value_checkItem,
        putEntries_cons, List.length_cons, Nat.add_comm before.length, ← Nat.add_assoc, ← ih]
      rfl

/-- All items come to entries, or one of them ends the run behind items that do. -/
theorem runsTo_or_endsAt : ∀ (items : List Item) (index : Nat),
    (∃ entries, c.RunsTo around index items entries) ∨
      ∃ before item after entries error, items = before ++ item :: after ∧
        c.RunsTo around index before entries ∧ c.EndsAt around item error
  | [], _ => Or.inl ⟨[], .nil⟩
  | item :: rest, index => by
    rcases c.comesTo_or_endsAt around index item with ⟨entry, hentry⟩ | ⟨error, hends⟩
    · rcases runsTo_or_endsAt rest (index + 1) with ⟨entries, hentries⟩ |
        ⟨before, last, after, entries, error, rfl, hentries, hends⟩
      · exact Or.inl ⟨entry :: entries, .cons hentry hentries⟩
      · exact Or.inr ⟨item :: before, last, after, entry :: entries, error, rfl,
          .cons hentry hentries, hends⟩
    · exact Or.inr ⟨[], item, rest, [], error, rfl, .nil, hends⟩

/-! ### Whole runs -/

theorem RunsTo.value_checkProject {c : Checker} {around : Surroundings} {items : List Item}
    {entries : List (String × CheckResult)} (h : c.RunsTo around 0 items entries) :
    (c.checkProject around (fun _ => false) items).value = .ok ⟨putEntries entries [], false⟩ := by
  have hpassed := c.value_checkFrom_append around items [] 0 entries [] h
  rw [List.append_nil] at hpassed
  exact hpassed

theorem EndsAt.value_checkProject {c : Checker} {around : Surroundings} {item : Item}
    {error : FileError} (h : c.EndsAt around item error) {before : List Item}
    {entries : List (String × CheckResult)} (hbefore : c.RunsTo around 0 before entries)
    (after : List Item) :
    (c.checkProject around (fun _ => false) (before ++ item :: after)).value = .error error := by
  rw [checkProject, c.value_checkFrom_append around before (item :: after) 0 entries [] hbefore,
    c.value_checkFrom_cons around _ _ rfl, h.value_checkItem]
  rfl

theorem value_checkProject_eq_error_iff (items : List Item) (error : FileError) :
    (c.checkProject around (fun _ => false) items).value = .error error ↔
      ∃ before item after entries, items = before ++ item :: after ∧
        c.RunsTo around 0 before entries ∧ c.EndsAt around item error := by
  constructor
  · intro herror
    rcases c.runsTo_or_endsAt around items 0 with ⟨entries, hentries⟩ |
      ⟨before, item, after, entries, other, rfl, hbefore, hends⟩
    · exact absurd (hentries.value_checkProject.symm.trans herror) nofun
    · have hother := (hends.value_checkProject hbefore after).symm.trans herror
      rw [Except.error.injEq] at hother
      exact ⟨before, item, after, entries, rfl, hbefore, hother ▸ hends⟩
  · rintro ⟨before, item, after, entries, rfl, hbefore, hends⟩
    exact hends.value_checkProject hbefore after

theorem exists_runsTo_of_value_eq_ok {items : List Item} {p : ProjectResult}
    (h : (c.checkProject around (fun _ => false) items).value = .ok p) :
    ∃ entries, c.RunsTo around 0 items entries ∧ p = ⟨putEntries entries [], false⟩ := by
  rcases c.runsTo_or_endsAt around items 0 with ⟨entries, hentries⟩ |
    ⟨before, item, after, entries, error, rfl, hbefore, hends⟩
  · have hp := hentries.value_checkProject.symm.trans h
    rw [Except.ok.injEq] at hp
    exact ⟨entries, hentries, hp.symm⟩
  · exact absurd ((hends.value_checkProject hbefore after).symm.trans h) nofun

/-- **What is kept of a stopped run.** Let a run be told to stop before the item at
place `k`, if there is one, and not before. It gives what the run over the first `k`
items gives that nobody stops, and says that it was cancelled exactly if there is an
item at place `k`. It has no result exactly if one of the first `k` items ends it.
Otherwise each of them comes to an entry of its own; the keys of the results are
those of the entries in the order in which they first come up, and under each key is
the last entry for it. -/
theorem checkProject_keeps_completed (cancelled : Nat → Bool) (items : List Item) (k : Nat)
    (hgo : ∀ i < k, cancelled i = false) (hseen : k < items.length → cancelled k = true) :
    (c.checkProject around cancelled items).value =
        (c.checkProject around (fun _ => false) (items.take k)).value.map (fun p =>
          { p with cancelled := decide (k < items.length) }) ∧
      (∀ error, (c.checkProject around cancelled items).value = .error error ↔
        ∃ before item after entries, items.take k = before ++ item :: after ∧
          c.RunsTo around 0 before entries ∧ c.EndsAt around item error) ∧
      ∀ p, (c.checkProject around cancelled items).value = .ok p →
        p.cancelled = decide (k < items.length) ∧
          ∃ entries, c.RunsTo around 0 (items.take k) entries ∧
            p.results.map (·.1) = (entries.map (·.1)).eraseDups ∧
            ∀ key, entryAt? key p.results = entryAt? key entries.reverse := by
  have hcut : (c.checkProject around cancelled items).value =
      (c.checkProject around (fun _ => false) (items.take k)).value.map fun p =>
        { p with cancelled := decide (k < items.length) } :=
    c.value_checkFrom_take around items 0 k [] (by simpa using hgo) (by simpa using hseen)
  refine ⟨hcut, fun error => ?_, fun p hp => ?_⟩
  · rw [← c.value_checkProject_eq_error_iff around, hcut]
    cases (c.checkProject around (fun _ => false) (items.take k)).value with
    | error e => simp [Except.map]
    | ok p => simp [Except.map]
  · cases hrun : (c.checkProject around (fun _ => false) (items.take k)).value with
    | error e =>
      rw [hcut, hrun] at hp
      exact absurd hp nofun
    | ok whole =>
      obtain ⟨entries, hentries, rfl⟩ := c.exists_runsTo_of_value_eq_ok around hrun
      rw [hcut, hrun, Except.map, Except.ok.injEq] at hp
      subst hp
      refine ⟨rfl, entries, hentries, keys_putEntries_nil entries, fun key => ?_⟩
      rw [entryAt?_putEntries]
      simp [entryAt?]

/-- A checker with the naming rule and without an analyzer. -/
def namingChecker : Checker :=
  { settings := {}, registry := ⟨[Rule.naming]⟩ }

/-- A file that is not there, a document without a path, the file again, and
another file. -/
def repeatingItems : List Item :=
  [.file "b.c", .document { text := "int z;".toList }, .file "b.c", .file "a.c"]

/-- The run is stopped before the last item: the missing file is there once and keeps
its place in front of the document. -/
theorem checkProject_keeps_missing_file :
    ((∀ i < 3, decide (3 ≤ i) = false) ∧ (3 < repeatingItems.length → decide (3 ≤ 3) = true)) ∧
    (namingChecker.checkProject default (fun i => decide (3 ≤ i)) repeatingItems).value.map
        (fun p => (p.cancelled, p.results.map (·.1), p.errors)) =
      .ok (true, ["b.c", "<document 1>"],
        ["Failed to read b.c: [Errno 2] No such file or directory: 'b.c'"]) := by
  have hgo : ∀ i < 3, decide (3 ≤ i) = false := fun i hi => decide_eq_false (by omega)
  refine ⟨⟨hgo, fun _ => rfl⟩, ?_⟩
  rw [(checkProject_keeps_completed namingChecker default (fun i => decide (3 ≤ i))
    repeatingItems 3 hgo fun _ => rfl).1]
  rfl

/-- A file whose name has a null character in it cannot be read, and it is no error
of its own: the document behind it has no result. -/
theorem checkProject_ends_at_null_name :
    ¬ ∀ (c : Checker) (around : Surroundings) (name : String) (error : FileError) (d : Document),
      c.analyzer = none → around.tree.document name = .error error →
      ∃ p, (c.checkProject around (fun _ => false) [.file name, .document d]).value = .ok p := by
  intro h
  have hnull : (Path.ofString "b\x00.c").hasNull = true := by decide +kernel
  have hread : (default : Surroundings).tree.document "b\x00.c" = .error .nullCharacter :=
    Tree.document_eq_nullCharacter_iff.mpr hnull
  obtain ⟨p, hp⟩ := h namingChecker default "b\x00.c" .nullCharacter { text := "int z;".toList }
    rfl hread
  have hends : namingChecker.EndsAt default (.file "b\x00.c") .nullCharacter := .nullName hnull
  have hbefore : namingChecker.RunsTo default 0 [] [] := .nil
  have herror := hends.value_checkProject hbefore [.document { text := "int z;".toList }]
  exact absurd (herror.symm.trans hp) nofun

end Checker

end StyleCheck
