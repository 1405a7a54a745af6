/-
# The files that paths stand for

The paths that a check is given stand for files: a file for itself, a directory for the
source files at any depth below it (`Command.ExpandsTo`). What counts as a source file is
told by the same suffixes as the language (`Command.isSourceFile_eq_isSupported`).

A search below a directory looks at the paths of all that is there, from the directory's own
path on. It breaks off exactly if one of them is too long (`Tree.tooLongBelow_of_failure`,
`Tree.failure_of_tooLongBelow`), and otherwise finds exactly the files
(`Tree.mem_filesBelow_iff`), in order and each of them once (`Tree.pairwise_filesBelow`). So
paths of which no search breaks off stand for what each of them stands for, one behind the
other (`Command.exists_expansions`).

Key definitions: `Tree.FileBelow`, `Tree.TooLongBelow`, `Command.SourceBelow`,
`Command.ExpandsTo`.
Key theorems: `Tree.filesBelow_cases`, `Tree.mem_filesBelow_iff`,
`Command.failure_expandPaths_eq_none_iff`, `Command.exists_expansions`.
-/
import Mathlib.Data.List.Forall2
import StyleCheck.Command.Run
import StyleCheck.Proofs.FileTrees
import StyleCheck.Proofs.ProjectRuns

namespace StyleCheck

/-! ### What a search below a directory finds -/

namespace Tree

variable {tree : Tree} {here names : List String} {path q : Path}

/-- A file at any depth below the directory at the path. -/
def FileBelow (tree : Tree) (path q : Path) : Prop :=
  ∃ here names bytes, tree.node path = .found here .directory ∧ names ≠ [] ∧
    tree.contentAt (here ++ names) = some (.file bytes) ∧ q = path.descend names

/-- Something stands below the directory at a path whose own path is too long. -/
def TooLongBelow (tree : Tree) (path q : Path) : Prop :=
  ∃ names, tree.StandsBelow path names ∧ q = path.descend names ∧ q.isLong = true

theorem standsBelow_iff (hpath : tree.node path = .found here .directory) :
    tree.StandsBelow path names ↔ names ∈ tree.namesBelow here := by
  rw [mem_namesBelow_iff, ← isSome_contentAt_iff]
  refine and_congr_right fun _ => ⟨?_, fun hcontent => ⟨here, hpath, hcontent⟩⟩
  rintro ⟨other, hother, hcontent⟩
  rw [hpath] at hother
  cases hother
  exact hcontent

/-- A search breaks off where there is no directory with a path that is too long, or before
it finds anything. -/
theorem filesBelow_cases (hpath : tree.node path = .found here .directory) :
    (∃ names ∈ tree.namesBelow here, (path.descend names).isLong = true ∧
      tree.filesBelow path = ⟨[], some (.nameTooLong (path.descend names))⟩) ∨
    tree.filesBelow path =
      ⟨(((tree.namesBelow here).takeWhile fun names => !(path.descend names).isLong).map
          path.descend).filter tree.isFile,
        ((tree.namesBelow here).find? fun names => (path.descend names).isLong).map
          fun names => .nameTooLong (path.descend names)⟩ := by
  unfold filesBelow
  rw [hpath]
  simp only
  split
  · rename_i names hfind
    have hlong := List.find?_some hfind
    rw [Bool.and_eq_true] at hlong
    exact .inl ⟨names, List.mem_of_find?_eq_some hfind, hlong.2, rfl⟩
  · exact .inr rfl

theorem filesBelow_of_not_isDirectory (h : tree.isDirectory path = false) :
    tree.filesBelow path = ⟨[], none⟩ := by
  unfold filesBelow
  unfold isDirectory at h
  cases hnode : tree.node path with
  | found place content =>
    cases content with
    | file bytes => rfl
    | directory => simp [hnode] at h
  | _ => rfl

/-- **A search breaks off at a path that is too long.** -/
theorem tooLongBelow_of_failure {e : FileError} (h : (tree.filesBelow path).failure = some e) :
    ∃ q, tree.TooLongBelow path q ∧ e = .nameTooLong q := by
  cases hdirectory : tree.isDirectory path with
  | false =>
    rw [filesBelow_of_not_isDirectory hdirectory] at h
    exact absurd h nofun
  | true =>
    obtain ⟨here, hpath⟩ := isDirectory_eq_true_iff.mp hdirectory
    rcases filesBelow_cases hpath with ⟨names, hnames, hlong, heq⟩ | heq
    · rw [heq] at h
      exact ⟨_, ⟨names, (standsBelow_iff hpath).mpr hnames, rfl, hlong⟩, (Option.some.inj h).symm⟩
    · rw [heq] at h
      obtain ⟨names, hfind, rfl⟩ := Option.map_eq_some_iff.mp h
      have hlong : (path.descend names).isLong = true := by simpa using List.find?_some hfind
      exact ⟨_, ⟨names, (standsBelow_iff hpath).mpr (List.mem_of_find?_eq_some hfind), rfl, hlong⟩,
        rfl⟩

/-- **A search that does not break off** takes every path as it is. -/
theorem found_filesBelow (hpath : tree.node path = .found here .directory)
    (hnone : (tree.filesBelow path).failure = none) :
    (∀ names ∈ tree.namesBelow here, (path.descend names).isLong = false) ∧
      (tree.filesBelow path).found =
        ((tree.namesBelow here).map path.descend).filter tree.isFile := by
  rcases filesBelow_cases hpath with ⟨names, -, -, heq⟩ | heq
  · rw [heq] at hnone
    exact absurd hnone nofun
  · rw [heq] at hnone ⊢
    have hshort : ∀ names ∈ tree.namesBelow here, (path.descend names).isLong = false := by
      simpa using hnone
    have hall : (tree.namesBelow here).takeWhile (fun names => !(path.descend names).isLong) =
        tree.namesBelow here :=
      List.takeWhile_eq_self_iff.mpr fun names hnames => by rw [hshort names hnames]; rfl
    exact ⟨hshort, by simp only [hall]⟩

theorem failure_of_tooLongBelow (h : tree.TooLongBelow path q) :
    (tree.filesBelow path).failure ≠ none := by
  obtain ⟨names, hnames, rfl, hlong⟩ := h
  intro hnone
  obtain ⟨-, here, hpath, -⟩ := id hnames
  have hshort := (found_filesBelow hpath hnone).1 names ((standsBelow_iff hpath).mp hnames)
  exact absurd (hshort.symm.trans hlong) nofun

/-- What is found is a file below the directory, also where the search breaks off later. -/
theorem exists_of_mem_filesBelow (h : q ∈ (tree.filesBelow path).found) :
    tree.isFile q = true ∧ ∃ names, tree.StandsBelow path names ∧ q = path.descend names := by
  cases hdirectory : tree.isDirectory path with
  | false =>
    rw [filesBelow_of_not_isDirectory hdirectory] at h
    exact absurd h List.not_mem_nil
  | true =>
    obtain ⟨here, hpath⟩ := isDirectory_eq_true_iff.mp hdirectory
    rcases filesBelow_cases hpath with ⟨_, -, -, heq⟩ | heq
    · rw [heq] at h
      exact absurd h List.not_mem_nil
    · rw [heq] at h
      obtain ⟨hmem, hfile⟩ := List.mem_filter.mp h
      obtain ⟨names, hnames, rfl⟩ := List.mem_map.mp hmem
      exact ⟨hfile, names, (standsBelow_iff hpath).mpr ((List.takeWhile_sublist _).subset hnames),
        rfl⟩

/-- **A whole search finds exactly the files** below the directory. -/
theorem mem_filesBelow_iff (htree : tree.WellFormed) (hpath : tree.node path = .found here .directory)
    (hnone : (tree.filesBelow path).failure = none) :
    q ∈ (tree.filesBelow path).found ↔ tree.FileBelow path q := by
  obtain ⟨hshort, hfound⟩ := found_filesBelow hpath hnone
  rw [hfound, List.mem_filter, List.mem_map]
  constructor
  · rintro ⟨⟨names, hnames, rfl⟩, hfile⟩
    obtain ⟨hne, hplace⟩ := mem_namesBelow_iff.mp hnames
    have hdots : ".." ∉ names := fun hmem =>
      (htree.isName_of_mem_places hplace ".." (List.mem_append_right here hmem)).ne_dots rfl
    obtain ⟨place, bytes, hnode⟩ := isFile_eq_true_iff.mp hfile
    exact ⟨here, names, bytes, hpath, hne, contentAt_of_node_descend hpath hdots hnode, rfl⟩
  · rintro ⟨other, names, bytes, hother, hne, hcontent, rfl⟩
    obtain rfl : here = other := (Node.found.inj (hpath.symm.trans hother)).1
    have hplace := isSome_contentAt_iff.mp (Option.isSome_of_eq_some hcontent)
    have hnames : names ∈ tree.namesBelow here := mem_namesBelow_iff.mpr ⟨hne, hplace⟩
    have hnode := htree.node_descend hpath hcontent
    rw [hshort names hnames, if_neg Bool.false_ne_true] at hnode
    exact ⟨⟨names, hnames, rfl⟩, isFile_eq_true_iff.mpr ⟨_, bytes, hnode⟩⟩

/-- **In order, and each of them once.** -/
theorem pairwise_filesBelow (hpath : tree.node path = .found here .directory)
    (hnone : (tree.filesBelow path).failure = none) :
    (tree.filesBelow path).found.Pairwise fun p q => p.precedes q = true ∧ p ≠ q := by
  rw [(found_filesBelow hpath hnone).2]
  refine List.Pairwise.filter _ (List.pairwise_map.mpr ?_)
  refine (pairwise_namesBelow tree here).imp fun {a b} h => ?_
  exact ⟨(precedes_descend path a b).trans h.1, fun heq => h.2 (descend_injective path heq)⟩

end Tree

/-! ### What paths stand for -/

namespace Command

open Text

variable {tree : Tree} {path q : Path} {paths : List Path}

/-- **The suffixes of source files are those that tell a language.** -/
theorem isSourceFile_eq_isSupported (path : Path) :
    isSourceFile path = Document.supportedLanguages.contains path.language := by
  unfold isSourceFile Path.language languageOfSuffix
  generalize String.ofList (lower path.suffix) = word
  have hsuffixes : sourceSuffixes.contains word =
      ([".c", ".h"].contains word ||
        [".cpp", ".cc", ".cxx", ".hpp", ".hh", ".hxx"].contains word) := by
    rw [Bool.eq_iff_iff]
    simp [sourceSuffixes]
    tauto
  rw [hsuffixes]
  simp only
  cases [".c", ".h"].contains word with
  | true => rfl
  | false =>
    cases [".cpp", ".cc", ".cxx", ".hpp", ".hh", ".hxx"].contains word with
    | true => rfl
    | false => rfl

/-- A source file at any depth below the directory at the path, by its suffix in any letter
case. -/
def SourceBelow (tree : Tree) (path q : Path) : Prop :=
  tree.FileBelow path q ∧ String.ofList (lower q.suffix) ∈ sourceSuffixes

/-- **The files that a path stands for**: the source files below a directory, in order and
each of them once, and anything else for itself. -/
inductive ExpandsTo (tree : Tree) (path : Path) : List Path → Prop
  | file (h : tree.isDirectory path = false) : ExpandsTo tree path [path]
  | directory {found : List Path} (h : tree.isDirectory path = true)
      (hmem : ∀ q, q ∈ found ↔ SourceBelow tree path q)
      (hsorted : found.Pairwise fun p q => p.precedes q = true ∧ p ≠ q) :
      ExpandsTo tree path found

theorem ExpandsTo.mem_iff {found : List Path} (h : ExpandsTo tree path found)
    (hdirectory : tree.isDirectory path = true) : q ∈ found ↔ SourceBelow tree path q := by
  cases h with
  | file h => exact absurd (h.symm.trans hdirectory) nofun
  | directory _ hmem _ => exact hmem q

theorem failure_andThen (first second : Search) :
    (first.andThen second).failure = first.failure.or second.failure := by
  unfold Search.andThen
  cases h : first.failure with
  | none => rfl
  | some e => simp [h]

theorem found_andThen {first : Search} (h : first.failure = none) (second : Search) :
    (first.andThen second).found = first.found ++ second.found := by
  unfold Search.andThen
  rw [h]

theorem mem_found_andThen {first second : Search} (h : q ∈ (first.andThen second).found) :
    q ∈ first.found ∨ q ∈ second.found := by
  unfold Search.andThen at h
  split at h
  · exact .inl h
  · exact List.mem_append.mp h

theorem expandPath_of_isDirectory (h : tree.isDirectory path = true) :
    expandPath tree path =
      ⟨(tree.filesBelow path).found.filter isSourceFile, (tree.filesBelow path).failure⟩ :=
  if_pos h

theorem expandPath_of_not_isDirectory (h : tree.isDirectory path = false) :
    expandPath tree path = ⟨[path], none⟩ :=
  if_neg (by simp [h])

theorem failure_expandPath : (expandPath tree path).failure = (tree.filesBelow path).failure := by
  cases hdirectory : tree.isDirectory path with
  | false =>
    rw [expandPath_of_not_isDirectory hdirectory, Tree.filesBelow_of_not_isDirectory hdirectory]
  | true => rw [expandPath_of_isDirectory hdirectory]

theorem failure_expandPaths_eq_none_iff : ∀ {paths : List Path},
    (expandPaths tree paths).failure = none ↔
      ∀ path ∈ paths, (tree.filesBelow path).failure = none
  | [] => by simp [expandPaths]
  | path :: rest => by
    rw [expandPaths, failure_andThen, Option.or_eq_none_iff, failure_expandPath,
      failure_expandPaths_eq_none_iff, List.forall_mem_cons]

theorem exists_of_failure_expandPaths {e : FileError} : ∀ {paths : List Path},
    (expandPaths tree paths).failure = some e →
      ∃ path ∈ paths, (tree.filesBelow path).failure = some e
  | [], h => absurd h nofun
  | path :: rest, h => by
    rw [expandPaths, failure_andThen, failure_expandPath, Option.or_eq_some_iff] at h
    rcases h with h | ⟨-, h⟩
    · exact ⟨path, List.mem_cons_self, h⟩
    · obtain ⟨other, hother, h⟩ := exists_of_failure_expandPaths h
      exact ⟨other, List.mem_cons_of_mem path hother, h⟩

theorem mem_found_expandPaths : ∀ {paths : List Path}, q ∈ (expandPaths tree paths).found →
    ∃ path ∈ paths, q ∈ (expandPath tree path).found
  | [], h => absurd h List.not_mem_nil
  | path :: rest, h => by
    rcases mem_found_andThen h with h | h
    · exact ⟨path, List.mem_cons_self, h⟩
    · obtain ⟨other, hother, h⟩ := mem_found_expandPaths h
      exact ⟨other, List.mem_cons_of_mem path hother, h⟩

/-- **A path whose search does not break off** stands for what the search finds. -/
theorem expandsTo_expandPath (htree : tree.WellFormed)
    (hnone : (tree.filesBelow path).failure = none) :
    ExpandsTo tree path (expandPath tree path).found := by
  cases hdirectory : tree.isDirectory path with
  | false =>
    rw [expandPath_of_not_isDirectory hdirectory]
    exact .file hdirectory
  | true =>
    obtain ⟨here, hpath⟩ := Tree.isDirectory_eq_true_iff.mp hdirectory
    rw [expandPath_of_isDirectory hdirectory]
    refine .directory hdirectory (fun q => ?_) ((Tree.pairwise_filesBelow hpath hnone).filter _)
    have hsource : isSourceFile q = true ↔ String.ofList (lower q.suffix) ∈ sourceSuffixes :=
      List.contains_iff_mem
    rw [List.mem_filter, Tree.mem_filesBelow_iff htree hpath hnone, hsource]
    exact Iff.rfl

/-- **Paths whose search does not break off** stand for what each of them stands for, one
behind the other. -/
theorem exists_expansions (htree : tree.WellFormed) : ∀ {paths : List Path},
    (expandPaths tree paths).failure = none →
      ∃ expansions, List.Forall₂ (ExpandsTo tree) paths expansions ∧
        (expandPaths tree paths).found = expansions.flatten
  | [], _ => ⟨[], .nil, rfl⟩
  | path :: rest, h => by
    obtain ⟨hpath, hrest⟩ := List.forall_mem_cons.mp (failure_expandPaths_eq_none_iff.mp h)
    obtain ⟨expansions, hall, hfound⟩ :=
      exists_expansions htree (failure_expandPaths_eq_none_iff.mpr hrest)
    refine ⟨_, .cons (expandsTo_expandPath htree hpath) hall, ?_⟩
    rw [expandPaths, found_andThen (failure_expandPath.trans hpath), hfound, List.flatten_cons]

theorem mem_found_of_sourceBelow (htree : tree.WellFormed)
    (hnone : (expandPaths tree paths).failure = none) (hpath : path ∈ paths)
    (hdirectory : tree.isDirectory path = true) (hq : SourceBelow tree path q) :
    q ∈ (expandPaths tree paths).found := by
  obtain ⟨expansions, hexpansions, hfound⟩ := exists_expansions htree hnone
  obtain ⟨found, hmem, hexpands⟩ := exists_of_mem_left hexpansions path hpath
  rw [hfound]
  exact List.mem_flatten.mpr ⟨found, hmem, (hexpands.mem_iff hdirectory).mpr hq⟩

end Command

end StyleCheck
