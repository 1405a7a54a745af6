/-
# Entries laid over others

Settings and results are kept as entries in order, each under a key, and are
written one after the other: a key that is there keeps its place and takes the
later value, a new one comes last (`putEntry`). After any number of entries the
keys are those of before, and behind them the new ones in the order in which
they first came up (`keys_putEntries`); under each key stands the last entry for
it, or what stood there before (`entryAt?_putEntries`). Laying the same entries
over the outcome once more changes nothing (`putEntries_putEntries`).

Key definitions: `putEntries`.
Key theorems: `keys_putEntry`, `keys_putEntries`, `entryAt?_putEntries`,
`putEntries_putEntries`.
-/
import Mathlib.Data.List.Induction
import StyleCheck.Config.Settings

namespace StyleCheck

variable {κ α : Type} [DecidableEq κ]

/-- Sets entries one after the other. -/
def putEntries (entries earlier : List (κ × α)) : List (κ × α) :=
  entries.foldl (fun all entry => putEntry entry.1 entry.2 all) earlier

theorem putEntries_nil (earlier : List (κ × α)) : putEntries [] earlier = earlier := rfl

theorem putEntries_cons (entry : κ × α) (entries earlier : List (κ × α)) :
    putEntries (entry :: entries) earlier =
      putEntries entries (putEntry entry.1 entry.2 earlier) := rfl

theorem putEntries_concat (entries earlier : List (κ × α)) (entry : κ × α) :
    putEntries (entries ++ [entry]) earlier =
      putEntry entry.1 entry.2 (putEntries entries earlier) := by
  simp [putEntries, List.foldl_append]

/-! ### Keys -/

/-- A key that is there keeps its place, a new one comes last. -/
theorem keys_putEntry (key : κ) (a : α) : ∀ entries : List (κ × α),
    (putEntry key a entries).map (·.1) =
      entries.map (·.1) ++ if key ∈ entries.map (·.1) then [] else [key]
  | [] => rfl
  | entry :: rest => by
    have ih := keys_putEntry key a rest
    rw [putEntry]
    by_cases h : entry.1 = key
    · simp [h]
    · have hmem : key ∈ (entry :: rest).map (·.1) ↔ key ∈ rest.map (·.1) := by
        rw [List.map_cons, List.mem_cons, or_iff_right fun heq => h heq.symm]
      rw [if_neg h, List.map_cons, ih, if_congr hmem rfl rfl, List.map_cons, List.cons_append]

/-- **The keys of before stay in their places, and behind them come the new ones**
in the order in which they first come up. -/
theorem keys_putEntries [BEq κ] [LawfulBEq κ] : ∀ entries earlier : List (κ × α),
    (putEntries entries earlier).map (·.1) =
      earlier.map (·.1) ++ ((entries.map (·.1)).removeAll (earlier.map (·.1))).eraseDups
  | [], earlier => by simp [putEntries_nil, List.removeAll]
  | entry :: entries, earlier => by
    rw [putEntries_cons, keys_putEntries entries, keys_putEntry, List.map_cons]
    by_cases h : entry.1 ∈ earlier.map (·.1)
    · have hdrop : (entry.1 :: entries.map (·.1)).removeAll (earlier.map (·.1)) =
          (entries.map (·.1)).removeAll (earlier.map (·.1)) := by
        rw [List.cons_removeAll, if_neg (by simpa using h)]
      rw [if_pos h, List.append_nil, hdrop]
    · -- the new key is kept once, in front of the others
      have hkeep : (entry.1 :: entries.map (·.1)).removeAll (earlier.map (·.1)) =
          entry.1 :: (entries.map (·.1)).removeAll (earlier.map (·.1)) := by
        rw [List.cons_removeAll, if_pos (by simpa using h)]
      have hothers : (entries.map (·.1)).removeAll (earlier.map (·.1) ++ [entry.1]) =
          ((entries.map (·.1)).removeAll (earlier.map (·.1))).filter fun key => !key == entry.1 := by
        simp only [List.removeAll, List.filter_filter]
        refine List.filter_congr fun key _ => Bool.eq_iff_iff.mpr ?_
        simp only [List.elem_eq_mem, Bool.not_eq_true', decide_eq_false_iff_not, List.mem_append,
          List.mem_singleton, not_or, Bool.and_eq_true, beq_eq_false_iff_ne, ne_eq]
        exact and_comm
      rw [if_neg h, hkeep, hothers, List.eraseDups_cons, List.append_assoc, List.singleton_append]

theorem keys_putEntries_nil [BEq κ] [LawfulBEq κ] (entries : List (κ × α)) :
    (putEntries entries []).map (·.1) = (entries.map (·.1)).eraseDups := by
  rw [keys_putEntries, List.map_nil, List.nil_append, List.removeAll]
  congr 1
  exact List.filter_eq_self.mpr fun key _ => rfl

theorem mem_putEntry {key : κ} {a : α} {entry : κ × α} : ∀ {entries : List (κ × α)},
    entry ∈ putEntry key a entries → entry = (key, a) ∨ entry ∈ entries
  | [], h => Or.inl (List.mem_singleton.mp h)
  | first :: rest, h => by
    rw [putEntry] at h
    split at h
    · rcases List.mem_cons.mp h with h | h
      · exact Or.inl h
      · exact Or.inr (List.mem_cons_of_mem first h)
    · rcases List.mem_cons.mp h with rfl | h
      · exact Or.inr List.mem_cons_self
      · exact (mem_putEntry h).imp_right (List.mem_cons_of_mem first)

theorem mem_keys_putEntry {key other : κ} {a : α} {entries : List (κ × α)}
    (h : other ∈ entries.map (·.1)) : other ∈ (putEntry key a entries).map (·.1) := by
  rw [keys_putEntry]
  exact List.mem_append_left _ h

theorem mem_keys_putEntries {key : κ} {entries earlier : List (κ × α)}
    (h : key ∈ entries.map (·.1)) : key ∈ (putEntries entries earlier).map (·.1) := by
  rw [keys_putEntries, List.mem_append, List.mem_eraseDups, List.removeAll, List.mem_filter]
  by_cases hearlier : key ∈ earlier.map (·.1)
  · exact Or.inl hearlier
  · exact Or.inr ⟨h, by simpa using hearlier⟩

/-! ### Values -/

theorem entryAt?_append (key : κ) (xs ys : List (κ × α)) :
    entryAt? key (xs ++ ys) = (entryAt? key xs).or (entryAt? key ys) := by
  unfold entryAt?
  rw [List.find?_append]
  cases xs.find? fun entry => entry.1 = key with
  | none => simp
  | some entry => simp

/-- **Under each key stands the last entry for it**, or what stood there before. -/
theorem entryAt?_putEntries (key : κ) : ∀ entries earlier : List (κ × α),
    entryAt? key (putEntries entries earlier) =
      (entryAt? key entries.reverse).or (entryAt? key earlier)
  | [], earlier => rfl
  | entry :: entries, earlier => by
    rw [putEntries_cons, entryAt?_putEntries key entries, List.reverse_cons, entryAt?_append,
      Option.or_assoc]
    by_cases h : entry.1 = key
    · subst h
      rw [entryAt?_putEntry_self]
      simp [entryAt?]
    · rw [entryAt?_putEntry_of_ne (fun heq => h heq.symm)]
      simp [entryAt?, h]

theorem entryAt?_eq_none_iff {key : κ} {entries : List (κ × α)} :
    entryAt? key entries = none ↔ key ∉ entries.map (·.1) := by
  unfold entryAt?
  rw [Option.map_eq_none_iff, List.find?_eq_none]
  simp only [decide_eq_true_eq, List.mem_map, not_exists, not_and]

theorem mem_of_entryAt?_eq_some {key : κ} {a : α} {entries : List (κ × α)}
    (h : entryAt? key entries = some a) : (key, a) ∈ entries := by
  obtain ⟨entry, hfind, rfl⟩ := Option.map_eq_some_iff.mp h
  have hkey : entry.1 = key := by simpa using List.find?_some hfind
  exact hkey ▸ List.mem_of_find?_eq_some hfind

theorem entryAt?_reverse_of_last {key : κ} {a : α} {before after : List (κ × α)}
    (h : key ∉ after.map (·.1)) :
    entryAt? key (before ++ (key, a) :: after).reverse = some a := by
  have hafter : entryAt? key after.reverse = none := by
    rw [entryAt?_eq_none_iff, List.map_reverse, List.mem_reverse]
    exact h
  rw [List.reverse_append, List.reverse_cons, List.append_assoc, entryAt?_append, hafter]
  simp [entryAt?]

/-! ### Once more -/

theorem putEntry_putEntry_self (key : κ) (a b : α) : ∀ entries : List (κ × α),
    putEntry key b (putEntry key a entries) = putEntry key b entries
  | [] => by simp [putEntry]
  | entry :: rest => by
    have ih := putEntry_putEntry_self key a b rest
    by_cases h : entry.1 = key
    · simp [putEntry, h]
    · simp [putEntry, h, ih]

/-- The order does not matter between two keys if one of them is there already. -/
theorem putEntry_comm {key other : κ} (hne : other ≠ key) (a b : α) :
    ∀ {entries : List (κ × α)}, other ∈ entries.map (·.1) →
      putEntry other b (putEntry key a entries) = putEntry key a (putEntry other b entries)
  | [], h => absurd h List.not_mem_nil
  | entry :: rest, h => by
    by_cases hkey : entry.1 = key
    · have hother : key ≠ other := hne.symm
      simp [putEntry, hkey, hother]
    · by_cases hother : entry.1 = other
      · simp [putEntry, hother, hne]
      · have hrest : other ∈ rest.map (·.1) :=
          (List.mem_cons.mp h).resolve_left fun heq => hother heq.symm
        simp [putEntry, hkey, hother, putEntry_comm hne a b hrest]

/-- An entry that is set at the end does not show whether it was set before the
others, if these have their keys already. -/
theorem putEntry_putEntries_putEntry (key : κ) (a b : α) : ∀ (entries earlier : List (κ × α)),
    (∀ entry ∈ entries, entry.1 ∈ earlier.map (·.1)) →
    putEntry key b (putEntries entries (putEntry key a earlier)) =
      putEntry key b (putEntries entries earlier)
  | [], earlier, _ => putEntry_putEntry_self key a b earlier
  | entry :: entries, earlier, h => by
    obtain ⟨hentry, hentries⟩ := List.forall_mem_cons.mp h
    have hkept : ∀ other ∈ entries, other.1 ∈ (putEntry entry.1 entry.2 earlier).map (·.1) :=
      fun other hother => mem_keys_putEntry (hentries other hother)
    rw [putEntries_cons, putEntries_cons]
    by_cases hkey : entry.1 = key
    · subst hkey
      rw [putEntry_putEntry_self]
    · rw [putEntry_comm hkey a entry.2 hentry]
      exact putEntry_putEntries_putEntry key a b entries _ hkept

/-- **Laying entries over others twice is the same as once.** -/
theorem putEntries_putEntries (entries earlier : List (κ × α)) :
    putEntries entries (putEntries entries earlier) = putEntries entries earlier := by
  induction entries using List.reverseRecOn with
  | nil => rfl
  | append_singleton entries entry ih =>
    have hkept : ∀ other ∈ entries, other.1 ∈ (putEntries entries earlier).map (·.1) :=
      fun other hother => mem_keys_putEntries (List.mem_map_of_mem hother)
    calc putEntries (entries ++ [entry]) (putEntries (entries ++ [entry]) earlier)
        = putEntry entry.1 entry.2
            (putEntries entries (putEntry entry.1 entry.2 (putEntries entries earlier))) := by
          rw [putEntries_concat, putEntries_concat]
      _ = putEntry entry.1 entry.2 (putEntries entries (putEntries entries earlier)) :=
          putEntry_putEntries_putEntry entry.1 entry.2 entry.2 entries _ hkept
      _ = putEntry entry.1 entry.2 (putEntries entries earlier) := by rw [ih]
      _ = putEntries (entries ++ [entry]) earlier := (putEntries_concat entries earlier entry).symm

end StyleCheck
