/-
# Texts that are cut, and the texts of paths

A text cut at a separator gives parts without the separator (`not_mem_of_mem_splitAtChar`),
which are the text again but for the separators (`flatten_splitAtChar`); and parts without
the separator that are joined by it are cut at the same places
(`splitAtChar_intercalate`).

A path that is read from a text has a root that paths have, and parts that are neither
empty nor a single dot and have no slash in them (`Path.IsNormal`). The text of such a path
reads as the path (`Path.ofString_text`), so two of them with the same text are the same
(`Path.IsNormal.text_injective`).

Reading drops characters and adds none, so a path is no longer than the text that it is read
from (`Path.text_ofString_sublist`).

Key definitions: `Path.IsNormal`.
Key theorems: `splitAtChar_intercalate`, `flatten_splitAtChar`, `Path.isNormal_ofString`,
`Path.ofString_text`, `Path.IsNormal.text_injective`, `Path.text_ofString_sublist`.
-/
import Mathlib.Data.String.Basic
import StyleCheck.Source.Path

namespace StyleCheck.Path

/-! ### Cutting at a separator -/

section Split

variable {separator : Char}

theorem splitAtChar_ne_nil : ∀ text : List Char, splitAtChar separator text ≠ []
  | [] => List.cons_ne_nil _ _
  | c :: text => by
    rw [splitAtChar]
    split
    · exact List.cons_ne_nil _ _
    · split
      · exact List.cons_ne_nil _ _
      · exact List.cons_ne_nil _ _

theorem splitAtChar_separator (text : List Char) :
    splitAtChar separator (separator :: text) = [] :: splitAtChar separator text :=
  if_pos rfl

theorem exists_splitAtChar_cons {c : Char} (hc : c ≠ separator) (text : List Char) :
    ∃ part rest, splitAtChar separator text = part :: rest ∧
      splitAtChar separator (c :: text) = (c :: part) :: rest := by
  obtain ⟨part, rest, hparts⟩ := List.exists_cons_of_ne_nil (splitAtChar_ne_nil text)
  refine ⟨part, rest, hparts, ?_⟩
  rw [splitAtChar, if_neg hc, hparts]

theorem not_mem_of_mem_splitAtChar : ∀ (text : List Char),
    ∀ part ∈ splitAtChar separator text, separator ∉ part
  | [] => by simp [splitAtChar]
  | c :: text => by
    have ih := not_mem_of_mem_splitAtChar text
    by_cases hc : c = separator
    · rw [hc, splitAtChar_separator]
      exact List.forall_mem_cons.mpr ⟨List.not_mem_nil, ih⟩
    · obtain ⟨part, rest, hparts, hcut⟩ := exists_splitAtChar_cons hc text
      rw [hparts] at ih
      obtain ⟨hpart, hrest⟩ := List.forall_mem_cons.mp ih
      rw [hcut]
      refine List.forall_mem_cons.mpr ⟨fun hmem => ?_, hrest⟩
      exact (List.mem_cons.mp hmem).elim (fun heq => hc heq.symm) hpart

/-- **The parts are the text** without the separators. -/
theorem flatten_splitAtChar : ∀ text : List Char,
    (splitAtChar separator text).flatten = text.filter (· ≠ separator)
  | [] => rfl
  | c :: text => by
    have ih := flatten_splitAtChar text
    by_cases hc : c = separator
    · rw [hc, splitAtChar_separator, List.flatten_cons, ih, List.filter_cons_of_neg (by simp)]
      rfl
    · obtain ⟨part, rest, hparts, hcut⟩ := exists_splitAtChar_cons hc text
      rw [hparts] at ih
      rw [hcut, List.filter_cons_of_pos (by simpa using hc), ← ih]
      rfl

theorem splitAtChar_of_not_mem : ∀ {text : List Char}, separator ∉ text →
    splitAtChar separator text = [text]
  | [], _ => rfl
  | c :: text, h => by
    have hc : c ≠ separator := fun heq => h (heq ▸ List.mem_cons_self)
    have ih := splitAtChar_of_not_mem fun hmem => h (List.mem_cons_of_mem c hmem)
    rw [splitAtChar, if_neg hc, ih]

theorem splitAtChar_append (text : List Char) : ∀ {part : List Char}, separator ∉ part →
    splitAtChar separator (part ++ separator :: text) = part :: splitAtChar separator text
  | [], _ => splitAtChar_separator text
  | c :: part, h => by
    have hc : c ≠ separator := fun heq => h (heq ▸ List.mem_cons_self)
    have ih := splitAtChar_append text fun hmem => h (List.mem_cons_of_mem c hmem)
    rw [List.cons_append, splitAtChar, if_neg hc, ih]

/-- **Parts that are joined by the separator** are cut there again. -/
theorem splitAtChar_intercalate : ∀ {parts : List (List Char)}, parts ≠ [] →
    (∀ part ∈ parts, separator ∉ part) →
    splitAtChar separator (List.intercalate [separator] parts) = parts
  | [], h, _ => absurd rfl h
  | [part], _, h => by
    rw [List.intercalate_singleton]
    exact splitAtChar_of_not_mem (h part List.mem_cons_self)
  | part :: next :: parts, _, h => by
    obtain ⟨hpart, hparts⟩ := List.forall_mem_cons.mp h
    rw [List.intercalate_cons_cons, List.append_assoc, List.singleton_append,
      splitAtChar_append _ hpart, splitAtChar_intercalate (List.cons_ne_nil _ _) hparts]

end Split

/-! ### Paths as they are read -/

/-- A part that a path keeps when it is read. -/
def IsPart (part : String) : Prop :=
  part ≠ "" ∧ part ≠ "." ∧ '/' ∉ part.toList

instance (part : String) : Decidable (IsPart part) :=
  inferInstanceAs (Decidable (_ ∧ _ ∧ _))

/-- A path as reading gives it. -/
structure IsNormal (p : Path) : Prop where
  root : p.root = "" ∨ p.root = "/" ∨ p.root = "//"
  parts : ∀ part ∈ p.parts, IsPart part

instance (p : Path) : Decidable p.IsNormal :=
  decidable_of_iff
    ((p.root = "" ∨ p.root = "/" ∨ p.root = "//") ∧ ∀ part ∈ p.parts, IsPart part)
    ⟨fun ⟨hroot, hparts⟩ => ⟨hroot, hparts⟩, fun ⟨hroot, hparts⟩ => ⟨hroot, hparts⟩⟩

theorem IsNormal.descend {p : Path} (h : p.IsNormal) {names : List String}
    (hnames : ∀ name ∈ names, IsPart name) : (p.descend names).IsNormal where
  root := h.root
  parts := List.forall_mem_append.mpr ⟨h.parts, hnames⟩

theorem rootOf_cases (text : List Char) :
    rootOf text = "" ∨ rootOf text = "/" ∨ rootOf text = "//" := by
  unfold rootOf
  split <;> simp

theorem isNormal_ofString (text : String) : (ofString text).IsNormal where
  root := rootOf_cases text.toList
  parts := by
    intro part hpart
    obtain ⟨chars, hchars, rfl⟩ := List.mem_map.mp hpart
    obtain ⟨hmem, hkept⟩ := List.mem_filter.mp hchars
    obtain ⟨hempty, hdot⟩ : chars ≠ [] ∧ chars ≠ ['.'] := by simpa using hkept
    refine ⟨fun h => hempty ?_, fun h => hdot ?_, ?_⟩
    · exact String.ofList_eq_empty_iff.mp h
    · rw [← String.toList_ofList (l := chars), h]
      rfl
    · rw [String.toList_ofList]
      exact not_mem_of_mem_splitAtChar _ chars hmem

theorem IsPart.kept {part : String} (h : IsPart part) :
    decide (part.toList ≠ [] ∧ part.toList ≠ ['.']) = true := by
  obtain ⟨hempty, hdot, -⟩ := h
  refine decide_eq_true ⟨fun hnil => hempty (String.toList_eq_nil_iff.mp hnil), fun heq => hdot ?_⟩
  rw [← String.ofList_toList (s := part), heq]

section Text

variable {parts : List String} (h : ∀ part ∈ parts, IsPart part)

include h

theorem filter_splitAtChar_intercalate :
    (splitAtChar '/' (List.intercalate ['/'] (parts.map String.toList))).filter
      (fun part => part ≠ [] ∧ part ≠ ['.']) = parts.map String.toList := by
  by_cases hnil : parts = []
  · rw [hnil]
    rfl
  · have hslash : ∀ part ∈ parts.map String.toList, '/' ∉ part := by
      intro part hpart
      obtain ⟨name, hname, rfl⟩ := List.mem_map.mp hpart
      exact (h name hname).2.2
    rw [splitAtChar_intercalate (by simpa using hnil) hslash]
    refine List.filter_eq_self.mpr fun part hpart => ?_
    obtain ⟨name, hname, rfl⟩ := List.mem_map.mp hpart
    exact (h name hname).kept

theorem head?_intercalate (c : Char)
    (hc : (List.intercalate ['/'] (parts.map String.toList)).head? = some c) : c ≠ '/' := by
  cases parts with
  | nil => exact absurd hc nofun
  | cons part rest =>
    obtain ⟨hempty, -, hslash⟩ := h part List.mem_cons_self
    obtain ⟨first, chars, hfirst⟩ := List.exists_cons_of_ne_nil
      fun hnil => hempty (String.toList_eq_nil_iff.mp hnil)
    have hhead : (List.intercalate ['/'] ((part :: rest).map String.toList)).head? = some first := by
      cases rest with
      | nil => simp [hfirst]
      | cons next rest => simp [hfirst]
    rintro rfl
    rw [hhead] at hc
    rw [hfirst, Option.some.inj hc] at hslash
    exact hslash List.mem_cons_self

end Text

theorem rootOf_append {root : String} (hroot : root = "" ∨ root = "/" ∨ root = "//")
    {body : List Char} (hbody : ∀ c, body.head? = some c → c ≠ '/') :
    rootOf (root.toList ++ body) = root := by
  cases body with
  | nil => rcases hroot with rfl | rfl | rfl <;> rfl
  | cons c body =>
    have hc : c ≠ '/' := hbody c rfl
    rcases hroot with rfl | rfl | rfl
    · simp [rootOf, hc]
    · simp [rootOf, hc]
    · simp [rootOf, hc]

theorem filter_splitAtChar_root {root : String} (hroot : root = "" ∨ root = "/" ∨ root = "//")
    (body : List Char) :
    (splitAtChar '/' (root.toList ++ body)).filter (fun part => part ≠ [] ∧ part ≠ ['.']) =
      (splitAtChar '/' body).filter fun part => part ≠ [] ∧ part ≠ ['.'] := by
  rcases hroot with rfl | rfl | rfl
  · rfl
  · have hcut : splitAtChar '/' ("/".toList ++ body) = [] :: splitAtChar '/' body := rfl
    rw [hcut, List.filter_cons_of_neg (by simp)]
  · have hcut : splitAtChar '/' ("//".toList ++ body) = [] :: [] :: splitAtChar '/' body := rfl
    rw [hcut, List.filter_cons_of_neg (by simp), List.filter_cons_of_neg (by simp)]

/-- **The text of a path reads as the path.** -/
theorem ofString_text {p : Path} (h : p.IsNormal) : ofString p.text = p := by
  obtain ⟨root, parts⟩ := p
  obtain ⟨hroot, hparts⟩ := h
  simp only at hroot hparts
  by_cases hhere : root = "" ∧ parts = []
  · obtain ⟨rfl, rfl⟩ := hhere
    rfl
  · have htext : (text ⟨root, parts⟩).toList =
        root.toList ++ List.intercalate ['/'] (parts.map String.toList) := by
      rw [text, if_neg hhere, String.toList_append, String.toList_intercalate]
      rfl
    unfold ofString ofChars
    rw [htext, rootOf_append hroot (head?_intercalate hparts), filter_splitAtChar_root hroot,
      filter_splitAtChar_intercalate hparts]
    simp

/-- Two paths with the same text are the same. -/
theorem IsNormal.text_injective {p q : Path} (hp : p.IsNormal) (hq : q.IsNormal)
    (h : p.text = q.text) : p = q := by
  rw [← ofString_text hp, h, ofString_text hq]

/-! ### How long the text of a path is -/

theorem utf8ByteSize_le_of_sublist {s t : String} (h : s.toList.Sublist t.toList) :
    s.utf8ByteSize ≤ t.utf8ByteSize := by
  rw [← String.utf8Len_toList, ← String.utf8Len_toList]
  exact String.utf8Len_le_of_sublist h

section Join

variable (separator : Char)

theorem intercalate_splitAtChar : ∀ text : List Char,
    List.intercalate [separator] (splitAtChar separator text) = text
  | [] => rfl
  | c :: text => by
    have ih := intercalate_splitAtChar text
    by_cases hc : c = separator
    · obtain ⟨part, rest, hparts⟩ := List.exists_cons_of_ne_nil (splitAtChar_ne_nil text)
      rw [hc, splitAtChar_separator, hparts, List.intercalate_cons_cons, ← hparts, ih]
      rfl
    · obtain ⟨part, rest, hparts, hcut⟩ := exists_splitAtChar_cons hc text
      rw [hparts] at ih
      rw [hcut, ← ih]
      cases rest with
      | nil => simp
      | cons next rest => simp [List.intercalate_cons_cons]

/-- Fewer parts make a shorter text. -/
theorem intercalate_sublist {fewer parts : List (List Char)} (h : fewer.Sublist parts) :
    (List.intercalate [separator] fewer).Sublist (List.intercalate [separator] parts) := by
  induction h with
  | slnil => exact List.Sublist.refl _
  | @cons fewer parts part h ih =>
    cases parts with
    | nil => simp [List.sublist_nil.mp h]
    | cons next parts =>
      rw [List.intercalate_cons_cons]
      exact ih.trans (List.sublist_append_right _ _)
  | @cons_cons fewer parts part h ih =>
    cases fewer with
    | nil =>
      cases parts with
      | nil => exact List.Sublist.refl _
      | cons next parts =>
        rw [List.intercalate_singleton, List.intercalate_cons_cons, List.append_assoc]
        exact List.sublist_append_left _ _
    | cons first fewer =>
      cases parts with
      | nil => exact absurd h (by simp)
      | cons next parts =>
        rw [List.intercalate_cons_cons, List.intercalate_cons_cons]
        exact ih.append_left _

end Join

theorem prefix_rootOf (text : List Char) : (rootOf text).toList <+: text := by
  unfold rootOf
  split
  · rename_i rest
    exact ⟨'/' :: '/' :: rest, rfl⟩
  · rename_i rest _
    exact ⟨rest, rfl⟩
  · rename_i rest _ _
    exact ⟨rest, rfl⟩
  · exact List.nil_prefix

/-- **A path is no longer than the text that it is read from**, unless that is empty. -/
theorem text_ofString_sublist (s : String) :
    (ofString s).text = "." ∨ (ofString s).text.toList.Sublist s.toList := by
  by_cases hhere : (ofString s).root = "" ∧ (ofString s).parts = []
  · exact .inl (if_pos hhere)
  · right
    obtain ⟨body, hbody⟩ := prefix_rootOf s.toList
    have hparts : (ofString s).parts.map String.toList =
        (splitAtChar '/' body).filter fun part => part ≠ [] ∧ part ≠ ['.'] := by
      rw [← filter_splitAtChar_root (rootOf_cases s.toList), hbody, ofString, ofChars, List.map_map]
      exact List.map_id'' (fun _ => String.toList_ofList) _
    have hkept := intercalate_sublist '/'
      (hparts ▸ List.filter_sublist : (_ : List (List Char)).Sublist (splitAtChar '/' body))
    rw [intercalate_splitAtChar] at hkept
    rw [text, if_neg hhere, String.toList_append, String.toList_intercalate]
    exact hbody ▸ hkept.append_left _

theorem utf8ByteSize_text_ofString_le (s : String) :
    (ofString s).text.utf8ByteSize ≤ max 1 s.utf8ByteSize := by
  rcases text_ofString_sublist s with hhere | hsub
  · rw [hhere]
    exact Nat.le_max_left 1 _
  · exact (utf8ByteSize_le_of_sublist hsub).trans (Nat.le_max_right 1 _)

theorem name_eq_or_mem (p : Path) : p.name = "" ∨ p.name ∈ p.parts := by
  unfold name
  rw [List.getLastD_eq_getLast?]
  cases hlast : p.parts.getLast? with
  | none => exact .inl rfl
  | some part => exact .inr (List.mem_of_getLast? hlast)

theorem utf8ByteSize_name_le (p : Path) : p.name.utf8ByteSize ≤ p.text.utf8ByteSize := by
  refine utf8ByteSize_le_of_sublist ?_
  rcases name_eq_or_mem p with hempty | hmem
  · rw [hempty]
    exact List.nil_sublist _
  · have hnil : p.parts ≠ [] := List.ne_nil_of_mem hmem
    have hpart : p.name.toList ∈ p.parts.map String.toList := List.mem_map_of_mem hmem
    have hone := intercalate_sublist '/' (List.singleton_sublist.mpr hpart)
    rw [List.intercalate_singleton] at hone
    rw [text, if_neg fun h => hnil h.2, String.toList_append, String.toList_intercalate]
    exact hone.trans (List.sublist_append_right _ _)

end StyleCheck.Path
