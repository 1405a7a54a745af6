/-
# Files and directories below a path

In a tree of files and directories (`Tree.WellFormed`) the names are such that a directory
may hold them, and a file has its place to itself. What is there are then the listed places
and all places on the way to them (`Tree.isSome_contentAt_iff`), and on the way to one of
them there are directories only (`Tree.WellFormed.contentAt_eq_directory`). So a path that leads
to a directory leads on from there by names to whatever stands at their place
(`Tree.follow_append`, `Tree.WellFormed.follow_names`).

What stands below a directory can therefore be reached by the directory's path and the names
from there on, unless that path is too long (`Tree.WellFormed.node_descend`). The names that
lead to something below a directory are sorted, and each of them comes up once
(`Tree.mem_namesBelow_iff`, `Tree.pairwise_namesBelow`).

Key definitions: `IsName`, `Tree.WellFormed`, `Tree.StandsBelow`.
Key theorems: `Tree.isSome_contentAt_iff`, `Tree.WellFormed.contentAt_eq_directory`,
`Tree.WellFormed.node_descend`, `Tree.mem_namesBelow_iff`, `Tree.pairwise_namesBelow`.
-/
import Mathlib.Data.List.Infix
import StyleCheck.Proofs.PathTexts
import StyleCheck.Source.Tree

namespace StyleCheck

/-! ### What is there -/

/-- A name that a directory may hold. -/
structure IsName (name : String) : Prop where
  isPart : Path.IsPart name
  ne_dots : name ≠ ".."
  not_null : '\x00' ∉ name.toList
  not_long : isLongName name = false

instance (name : String) : Decidable (IsName name) :=
  decidable_of_iff
    (Path.IsPart name ∧ name ≠ ".." ∧ '\x00' ∉ name.toList ∧ isLongName name = false)
    ⟨fun ⟨hpart, hdots, hnull, hlong⟩ => ⟨hpart, hdots, hnull, hlong⟩,
      fun ⟨hpart, hdots, hnull, hlong⟩ => ⟨hpart, hdots, hnull, hlong⟩⟩

namespace Tree

/-- The listed places have names that a directory may hold, and a file is listed below the
working directory, once, and with nothing below it. -/
structure WellFormed (tree : Tree) : Prop where
  base : ∀ name ∈ tree.base.parts, IsName name
  names : ∀ entry ∈ tree.entries, ∀ name ∈ entry.1, IsName name
  leaf : ∀ entry ∈ tree.entries, ∀ bytes, entry.2 = .file bytes →
    entry.1 ≠ [] ∧ ∀ other ∈ tree.entries, entry.1 <+: other.1 → other = entry

variable {tree : Tree} {place here names : List String}

theorem mem_takes_iff {α : Type} {all part : List α} :
    part ∈ (List.range (all.length + 1)).map all.take ↔ part <+: all := by
  simp only [List.mem_map, List.mem_range]
  refine ⟨fun ⟨n, _, heq⟩ => heq ▸ all.take_prefix n, fun h => ⟨part.length, ?_, ?_⟩⟩
  · have := h.length_le
    omega
  · exact (List.prefix_iff_eq_take.mp h).symm

/-- **The places that are there** lie on the way to the working directory or to a listed place. -/
theorem mem_places_iff : place ∈ tree.places ↔
    place <+: tree.base.parts ∨
      ∃ entry ∈ tree.entries, place <+: tree.base.parts ++ entry.1 := by
  rw [places, List.mem_eraseDups, List.mem_flatMap]
  simp only [mem_takes_iff, List.exists_mem_cons_iff]
  exact or_congr_right (by simp)

theorem prefix_mem_places {part : List String} (h : place ∈ tree.places)
    (hpart : part <+: place) : part ∈ tree.places := by
  rw [mem_places_iff] at h ⊢
  exact h.imp hpart.trans fun ⟨entry, hentry, h⟩ => ⟨entry, hentry, hpart.trans h⟩

theorem WellFormed.isName_of_mem_places (h : tree.WellFormed) (hplace : place ∈ tree.places) :
    ∀ name ∈ place, IsName name := by
  intro name hname
  rcases mem_places_iff.mp hplace with hpre | ⟨entry, hentry, hpre⟩
  · exact h.base name (hpre.subset hname)
  · exact (List.mem_append.mp (hpre.subset hname)).elim (h.base name) (h.names entry hentry name)

theorem isSome_contentBelow_iff {parts : List String} :
    (tree.contentBelow parts).isSome = true ↔
      parts = [] ∨ ∃ entry ∈ tree.entries, parts <+: entry.1 := by
  unfold contentBelow
  cases hfind : tree.entries.find? fun entry => entry.1 = parts with
  | some entry =>
    have heq : entry.1 = parts := by simpa using List.find?_some hfind
    simp only [Option.isSome_some, true_iff]
    exact .inr ⟨entry, List.mem_of_find?_eq_some hfind, heq ▸ List.prefix_refl _⟩
  | none => simp

/-- **Something stands at a place** exactly if the place is there. -/
theorem isSome_contentAt_iff : (tree.contentAt place).isSome = true ↔ place ∈ tree.places := by
  unfold contentAt
  rw [mem_places_iff]
  by_cases hbelow : tree.base.parts <+: place
  · obtain ⟨rest, rfl⟩ := hbelow
    have hhere : tree.base.parts ++ rest <+: tree.base.parts ↔ rest = [] := by
      refine ⟨fun h => ?_, fun h => by rw [h, List.append_nil]⟩
      have hle := h.length_le
      rw [List.length_append] at hle
      exact List.eq_nil_of_length_eq_zero (by omega)
    rw [if_pos (by simp), List.drop_left, isSome_contentBelow_iff, hhere]
    simp only [List.prefix_append_right_inj]
  · have habove : (∃ entry ∈ tree.entries, place <+: tree.base.parts ++ entry.1) →
        place <+: tree.base.parts := fun ⟨entry, _, h⟩ =>
      (List.prefix_or_prefix_of_prefix h (List.prefix_append _ entry.1)).resolve_right hbelow
    rw [if_neg (by simpa using hbelow), or_iff_left_of_imp habove]
    simp

theorem exists_entry_of_contentAt {bytes : List UInt8}
    (h : tree.contentAt place = some (.file bytes)) :
    ∃ entry ∈ tree.entries, entry.2 = .file bytes ∧ place = tree.base.parts ++ entry.1 := by
  unfold contentAt at h
  split at h
  · rename_i hbelow
    obtain ⟨rest, rfl⟩ := List.isPrefixOf_iff_prefix.mp hbelow
    rw [List.drop_left, contentBelow] at h
    split at h
    · rename_i entry hfind
      have heq : entry.1 = rest := by simpa using List.find?_some hfind
      exact ⟨entry, List.mem_of_find?_eq_some hfind, Option.some.inj h, by rw [heq]⟩
    · split at h
      · exact absurd h nofun
      · exact absurd h nofun
  · split at h
    · exact absurd h nofun
    · exact absurd h nofun

/-- **On the way to a place there are directories.** -/
theorem WellFormed.contentAt_eq_directory (h : tree.WellFormed) (hplace : place ∈ tree.places)
    {part : List String} (hpart : part <+: place) (hne : part ≠ place) :
    tree.contentAt part = some .directory := by
  obtain ⟨content, hcontent⟩ := Option.isSome_iff_exists.mp
    (isSome_contentAt_iff.mpr (prefix_mem_places hplace hpart))
  cases content with
  | directory => exact hcontent
  | file bytes =>
    -- nothing stands below a file, so the place itself would be the file's
    obtain ⟨entry, hentry, hfile, rfl⟩ := exists_entry_of_contentAt hcontent
    obtain ⟨hnonempty, hleaf⟩ := h.leaf entry hentry bytes hfile
    rcases mem_places_iff.mp hplace with hpre | ⟨other, hother, hpre⟩
    · have hle := (hpart.trans hpre).length_le
      rw [List.length_append] at hle
      exact absurd (List.eq_nil_of_length_eq_zero (by omega)) hnonempty
    · have hsame := hleaf other hother ((List.prefix_append_right_inj _).mp (hpart.trans hpre))
      rw [hsame] at hpre
      exact absurd (hpart.eq_of_length_le hpre.length_le) hne

/-! ### Following a path -/

/-- A part that is followed leads on from a directory, to the same place whatever comes
behind it. -/
theorem exists_next_of_follow {part : String} {rest : List String} {content : Content}
    (h : tree.follow here (part :: rest) = .found place content) :
    ∃ next, (∀ more, tree.follow here (part :: more) = tree.follow next more) ∧
      tree.follow next rest = .found place content ∧ (part ≠ ".." → next = here ++ [part]) := by
  cases hcontent : tree.contentAt here with
  | none => simp [follow, hcontent] at h
  | some content =>
    cases content with
    | file bytes => simp [follow, hcontent] at h
    | directory =>
      simp only [follow, hcontent] at h ⊢
      by_cases hdots : part = ".."
      · simp only [if_pos hdots] at h ⊢
        exact ⟨_, fun _ => rfl, h, fun hne => absurd hdots hne⟩
      · by_cases hlong : isLongName part = true
        · simp [hdots, hlong] at h
        · simp only [if_neg hdots, if_neg hlong] at h ⊢
          exact ⟨_, fun _ => rfl, h, fun _ => rfl⟩

theorem follow_nil_eq_found_iff {content : Content} :
    tree.follow here [] = .found place content ↔
      here = place ∧ tree.contentAt here = some content := by
  unfold follow
  cases tree.contentAt here with
  | none => simp
  | some other => simp

theorem contentAt_of_follow {content : Content} : ∀ {parts here : List String},
    tree.follow here parts = .found place content → tree.contentAt place = some content
  | [], here, h => by
    obtain ⟨rfl, hcontent⟩ := follow_nil_eq_found_iff.mp h
    exact hcontent
  | part :: rest, here, h => by
    obtain ⟨next, -, hnext, -⟩ := exists_next_of_follow h
    exact contentAt_of_follow hnext

/-- **A path that leads to a directory** leads on from there. -/
theorem follow_append (more : List String) : ∀ {parts here : List String},
    tree.follow here parts = .found place .directory →
      tree.follow here (parts ++ more) = tree.follow place more
  | [], here, h => by
    obtain ⟨rfl, -⟩ := follow_nil_eq_found_iff.mp h
    rfl
  | part :: rest, here, h => by
    obtain ⟨next, hstep, hnext, -⟩ := exists_next_of_follow h
    rw [List.cons_append, hstep, follow_append more hnext]

theorem place_of_follow {content : Content} : ∀ {names here : List String}, ".." ∉ names →
    tree.follow here names = .found place content → place = here ++ names
  | [], here, _, h => by
    obtain ⟨rfl, -⟩ := follow_nil_eq_found_iff.mp h
    rw [List.append_nil]
  | name :: rest, here, hdots, h => by
    obtain ⟨hname, hrest⟩ := not_or.mp (mt List.mem_cons.mpr hdots)
    obtain ⟨next, -, hnext, hstep⟩ := exists_next_of_follow h
    rw [place_of_follow hrest hnext, hstep (Ne.symm hname), List.append_assoc,
      List.singleton_append]

/-- **From a place the names lead to what stands at the place that they spell**, if something
does. -/
theorem WellFormed.follow_names (h : tree.WellFormed) {content : Content} :
    ∀ {names here : List String}, tree.contentAt (here ++ names) = some content →
      tree.follow here names = .found (here ++ names) content
  | [], here, hcontent => by
    rw [List.append_nil] at hcontent ⊢
    rw [follow, hcontent]
  | name :: rest, here, hcontent => by
    have hplace : here ++ name :: rest ∈ tree.places :=
      isSome_contentAt_iff.mp (Option.isSome_of_eq_some hcontent)
    have hname : IsName name :=
      h.isName_of_mem_places hplace name (List.mem_append_right _ List.mem_cons_self)
    have hdirectory : tree.contentAt here = some .directory :=
      h.contentAt_eq_directory hplace (List.prefix_append _ _) (by simp)
    rw [List.append_cons] at hcontent ⊢
    rw [follow, hdirectory]
    simp only
    rw [if_neg hname.ne_dots, if_neg (by simp [hname.not_long]), h.follow_names hcontent]

/-! ### Below a directory -/

section Below

variable {path : Path}

theorem node_eq_found_iff {content : Content} : tree.node path = .found place content ↔
    path.hasNull = false ∧ path.isLong = false ∧
      tree.follow (if path.isAbsolute then [] else tree.base.parts) path.parts =
        .found place content := by
  unfold node
  cases path.hasNull <;> cases path.isLong <;> simp

theorem hasNull_descend (hpath : path.hasNull = false) (hnames : ∀ name ∈ names, IsName name) :
    (path.descend names).hasNull = false := by
  have hnone : (names.any fun part => part.toList.contains '\x00') = false := by
    simpa using fun name hname => (hnames name hname).not_null
  rw [Path.hasNull] at hpath ⊢
  rw [Path.descend, List.any_append, hpath, hnone]
  rfl

/-- **What stands below a directory** is reached by its names, unless the path is too long. -/
theorem WellFormed.node_descend (h : tree.WellFormed)
    (hpath : tree.node path = .found here .directory) {content : Content}
    (hcontent : tree.contentAt (here ++ names) = some content) :
    tree.node (path.descend names) =
      if (path.descend names).isLong then .nameTooLong else .found (here ++ names) content := by
  obtain ⟨hnull, -, hfollow⟩ := node_eq_found_iff.mp hpath
  have hnames : ∀ name ∈ names, IsName name := fun name hname =>
    h.isName_of_mem_places (isSome_contentAt_iff.mp (Option.isSome_of_eq_some hcontent)) name
      (List.mem_append_right here hname)
  rw [node, hasNull_descend hnull hnames, if_neg Bool.false_ne_true]
  split
  · rfl
  · exact (follow_append names hfollow).trans (h.follow_names hcontent)

/-- Names that do not lead back from a directory lead to what stands at the place that they
spell. -/
theorem contentAt_of_node_descend (hpath : tree.node path = .found here .directory)
    (hdots : ".." ∉ names) {content : Content}
    (hnode : tree.node (path.descend names) = .found place content) :
    tree.contentAt (here ++ names) = some content := by
  obtain ⟨-, -, hfollow⟩ := node_eq_found_iff.mp hpath
  obtain ⟨-, -, hall⟩ := node_eq_found_iff.mp hnode
  have hrest := (follow_append names hfollow).symm.trans hall
  rw [← place_of_follow hdots hrest]
  exact contentAt_of_follow hrest

theorem isFile_eq_true_iff :
    tree.isFile path = true ↔ ∃ place bytes, tree.node path = .found place (.file bytes) := by
  unfold isFile
  cases tree.node path with
  | found place content => cases content <;> simp
  | _ => simp

theorem isDirectory_eq_true_iff :
    tree.isDirectory path = true ↔ ∃ place, tree.node path = .found place .directory := by
  unfold isDirectory
  cases tree.node path with
  | found place content => cases content <;> simp
  | _ => simp

theorem isFile_of_holds (hholds : tree.holds path = true)
    (hdirectory : tree.isDirectory path = false) : tree.isFile path = true := by
  unfold holds at hholds
  unfold isDirectory at hdirectory
  unfold isFile
  cases hnode : tree.node path with
  | found place content =>
    cases content with
    | file bytes => rfl
    | directory => simp [hnode] at hdirectory
  | _ => simp [hnode] at hholds

/-- Something stands where the names lead to from the directory at the path. -/
def StandsBelow (tree : Tree) (path : Path) (names : List String) : Prop :=
  names ≠ [] ∧ ∃ here, tree.node path = .found here .directory ∧
    (tree.contentAt (here ++ names)).isSome = true

end Below

/-! ### In order -/

theorem partsLE_cons {x y : String} {a b : List String} :
    Path.partsLE (x :: a) (y :: b) = true ↔ x < y ∨ x = y ∧ Path.partsLE a b = true := by
  rw [Path.partsLE]
  by_cases h : x = y
  · simp [h]
  · simp [h]

theorem partsLE_trans : ∀ a b c : List String, Path.partsLE a b = true →
    Path.partsLE b c = true → Path.partsLE a c = true
  | [], _, _, _, _ => rfl
  | _ :: _, [], _, hab, _ => absurd hab nofun
  | _ :: _, _ :: _, [], _, hbc => absurd hbc nofun
  | x :: a, y :: b, z :: c, hab, hbc => by
    rw [partsLE_cons] at hab hbc ⊢
    rcases hab with hxy | ⟨rfl, hab⟩
    · rcases hbc with hyz | ⟨rfl, -⟩
      · exact .inl (String.lt_trans hxy hyz)
      · exact .inl hxy
    · exact hbc.imp_right fun ⟨heq, hbc⟩ => ⟨heq, partsLE_trans a b c hab hbc⟩

theorem partsLE_total : ∀ a b : List String, (Path.partsLE a b || Path.partsLE b a) = true
  | [], _ => rfl
  | _ :: _, [] => rfl
  | x :: a, y :: b => by
    rw [Bool.or_eq_true, partsLE_cons, partsLE_cons]
    have ih := Bool.or_eq_true _ _ ▸ partsLE_total a b
    rcases lt_trichotomy x y with hlt | rfl | hlt
    · exact .inl (.inl hlt)
    · exact ih.imp (fun h => .inr ⟨rfl, h⟩) fun h => .inr ⟨rfl, h⟩
    · exact .inr (.inl hlt)

theorem partsLE_append : ∀ (above a b : List String),
    Path.partsLE (above ++ a) (above ++ b) = Path.partsLE a b
  | [], _, _ => rfl
  | x :: above, a, b => by
    rw [List.cons_append, List.cons_append, Path.partsLE, if_pos rfl, partsLE_append above]

/-- Below a path the names alone tell the order. -/
theorem precedes_descend (path : Path) (a b : List String) :
    (path.descend a).precedes (path.descend b) = Path.partsLE a b := by
  have hroot : ∀ names, (path.descend names).isAbsolute = path.isAbsolute := fun _ => rfl
  unfold Path.precedes
  rw [hroot, hroot]
  split
  · exact partsLE_append (path.root :: path.parts) a b
  · exact partsLE_append path.parts a b

theorem descend_injective (path : Path) {a b : List String}
    (h : path.descend a = path.descend b) : a = b :=
  List.append_cancel_left (Path.mk.inj h).2

theorem nodup_eraseDups {α : Type} [BEq α] [LawfulBEq α] : ∀ l : List α, l.eraseDups.Nodup
  | [] => by simp
  | a :: l => by
    rw [List.eraseDups_cons, List.nodup_cons]
    exact ⟨by simp [List.mem_eraseDups], nodup_eraseDups _⟩
termination_by l => l.length
decreasing_by
  have := List.length_filter_le (fun b => !b == a) l
  rw [List.length_cons]
  omega

/-- **The names that lead to something below a place.** -/
theorem mem_namesBelow_iff :
    names ∈ tree.namesBelow here ↔ names ≠ [] ∧ here ++ names ∈ tree.places := by
  simp only [namesBelow, List.mem_mergeSort, List.mem_map, List.mem_filter, Bool.and_eq_true,
    List.isPrefixOf_iff_prefix, decide_eq_true_eq]
  constructor
  · rintro ⟨_, ⟨hplace, ⟨rest, rfl⟩, hlt⟩, rfl⟩
    rw [List.drop_left]
    rw [List.length_append] at hlt
    exact ⟨List.ne_nil_of_length_pos (by omega), hplace⟩
  · rintro ⟨hne, hplace⟩
    have hpos := List.length_pos_of_ne_nil hne
    refine ⟨_, ⟨hplace, List.prefix_append _ _, ?_⟩, List.drop_left⟩
    rw [List.length_append]
    omega

theorem pairwise_namesBelow (tree : Tree) (here : List String) :
    (tree.namesBelow here).Pairwise fun a b => Path.partsLE a b = true ∧ a ≠ b := by
  have hsorted := List.pairwise_mergeSort partsLE_trans partsLE_total
  refine (hsorted _).and ((List.mergeSort_perm _ _).symm.nodup ?_)
  -- what the names lead to is a place each, and the places come up once
  refine List.pairwise_map.mpr (List.Pairwise.imp_of_mem ?_ ((nodup_eraseDups _).filter _))
  intro a b ha hb hne heq
  simp only [List.mem_filter, Bool.and_eq_true, List.isPrefixOf_iff_prefix] at ha hb
  obtain ⟨rest, rfl⟩ := ha.2.1
  obtain ⟨rest', rfl⟩ := hb.2.1
  rw [List.drop_left, List.drop_left] at heq
  exact hne (congrArg (here ++ ·) heq)

end Tree

end StyleCheck
