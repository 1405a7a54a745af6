/-
# Checks of paths

A check of paths is a run over the files that the paths stand for. These are there, so each
of them is read (`Tree.exists_document_of_isFile`), and a source file among them has a suffix
of a few letters, with which it can be handed to the analyzer (`Analyzer.inputError?_of_source`).
So each comes to a result of its own, and a source file to one of a check
(`Checker.exists_comesTo_file`).

A check of paths therefore ends without a result exactly if there is something below one of
the directories whose path is too long (`Command.checkPaths_covers_paths`). That it happens,
with a file that could be read otherwise, is shown by a directory that is named with many
detours (`Command.checkPaths_ends_at_long_path`).

Key definitions: `Checker.CoversSource`, `Checker.IsEntryOf`.
Key theorems: `Checker.exists_comesTo_file`, `Command.exists_value_checkPaths`,
`Command.value_checkPaths_eq_error_iff`, `Command.checkPaths_covers_paths`.
-/
import StyleCheck.Proofs.PathExpansion
import StyleCheck.Report.Basic

namespace StyleCheck

open Text

/-! ### Files that are there -/

/-- **A file that is there is read**, as a document in the language of its suffix. -/
theorem Tree.exists_document_of_isFile {tree : Tree} {q : Path} (hq : q.IsNormal)
    (hfile : tree.isFile q = true) :
    ∃ d, tree.document q.text = .ok d ∧ d.path = some q ∧ d.language = q.language := by
  obtain ⟨place, bytes, hnode⟩ := isFile_eq_true_iff.mp hfile
  have hread : tree.readBytes q = .ok bytes := by
    rw [readBytes, if_neg (by simp [(node_eq_found_iff.mp hnode).1]), hnode]
  unfold document readText
  simp only [Path.ofString_text hq, hread, Except.map]
  generalize q.language = language
  exact ⟨_, rfl, rfl, rfl⟩

/-! ### Suffixes -/

theorem length_le_length_lowerAfter : ∀ (text : List Char) (cased : Bool),
    text.length ≤ (lowerAfter cased text).length
  | [], _ => Nat.le_refl 0
  | c :: text, cased => by
    have hletter : 1 ≤ (lowerLetter c).length := by
      unfold lowerLetter
      split
      · exact Nat.le_refl 1
      · split
        · exact Nat.le_succ 1
        · exact Nat.le_refl 1
    have ih := length_le_length_lowerAfter text (if isCaseIgnorable c then cased else isCased c)
    rw [lowerAfter, List.length_append, List.length_cons]
    split
    · rw [List.length_singleton]
      omega
    · omega

theorem mem_of_mem_suffixOf {name : List Char} {c : Char} (h : c ∈ Path.suffixOf name) :
    c = '.' ∨ c ∈ name := by
  unfold Path.suffixOf at h
  simp only at h
  split at h
  · refine (List.mem_cons.mp h).imp_right fun h => ?_
    exact List.mem_reverse.mp ((List.takeWhile_sublist _).subset (List.mem_reverse.mp h))
  · exact absurd h List.not_mem_nil

theorem Path.null_not_mem_suffix {q : Path} (h : q.hasNull = false) : '\x00' ∉ q.suffix := by
  intro hmem
  have hname : '\x00' ∈ q.name.toList := (mem_of_mem_suffixOf hmem).resolve_left (by decide)
  rcases q.name_eq_or_mem with hempty | hpart
  · rw [hempty] at hname
    exact absurd hname List.not_mem_nil
  · have hnull : q.hasNull = true :=
      List.any_eq_true.mpr ⟨q.name, hpart, List.contains_iff_mem.mpr hname⟩
    exact absurd (h.symm.trans hnull) nofun

theorem utf8ByteSize_ofList_le (text : List Char) :
    (String.ofList text).utf8ByteSize ≤ 4 * text.length := by
  rw [String.utf8ByteSize_ofList]
  induction text with
  | nil => exact Nat.le_refl 0
  | cons c text ih =>
    have hc := c.utf8Size_le_four
    rw [String.utf8Len_cons, List.length_cons]
    omega

section Source

variable {q : Path} (hsource : Command.isSourceFile q = true)

include hsource

theorem Path.suffix_of_source : q.suffix ≠ [] ∧ q.suffix.length ≤ 4 := by
  have hword : String.ofList (lower q.suffix) ∈ Command.sourceSuffixes :=
    List.contains_iff_mem.mp hsource
  have hlength : (lower q.suffix).length ≤ 4 := by
    have hall : ∀ word ∈ Command.sourceSuffixes, word.toList.length ≤ 4 := by decide
    simpa using hall _ hword
  refine ⟨fun hnil => ?_, Nat.le_trans (length_le_length_lowerAfter q.suffix false) hlength⟩
  rw [hnil] at hword
  exact absurd hword (by decide)

/-- **A source file can be handed to the analyzer**, if the place for its input has a name of
some length. -/
theorem Analyzer.inputError?_of_source {a : Analyzer} (hstem : a.inputStem.utf8ByteSize < 240)
    (hnull : q.hasNull = false) {d : Document} (hpath : d.path = some q) :
    a.inputError? d = none := by
  obtain ⟨hne, hlength⟩ := Path.suffix_of_source hsource
  have hsuffix : inputSuffix d = q.suffix := by
    unfold inputSuffix
    rw [hpath, Option.map_some, Option.getD_some]
    cases hcut : q.suffix with
    | nil => exact absurd hcut hne
    | cons c rest => rfl
  have hsize : (a.inputPath d).text.utf8ByteSize ≤ 255 := by
    have htext := Path.utf8ByteSize_text_ofString_le (a.inputStem ++ String.ofList q.suffix)
    have hend := utf8ByteSize_ofList_le q.suffix
    rw [String.utf8ByteSize_append] at htext
    rw [inputPath, hsuffix]
    omega
  have hname := (a.inputPath d).utf8ByteSize_name_le
  have hshortName : isLongName (a.inputPath d).name = false := decide_eq_false (by omega)
  have hshort : (a.inputPath d).isLong = false := decide_eq_false (by omega)
  rw [inputError?, hsuffix, if_neg (by simpa using Path.null_not_mem_suffix hnull), hshortName,
    hshort]
  rfl

end Source

/-! ### What the files come to -/

namespace Checker

/-- The result for a file says that it was checked in the language of its suffix, if it is a
source file. -/
def CoversSource (c : Checker) (q : Path) (result : CheckResult) : Prop :=
  Command.isSourceFile q = true →
    result.coverage = .checked q.language c.registry.enabled.length (some q)

/-- What a file adds to the results: a result of its own, under its path. -/
def IsEntryOf (c : Checker) (q : Path) (entry : String × CheckResult) : Prop :=
  entry.1 = q.text ∧ c.CoversSource q entry.2

variable {c : Checker} {around : Surroundings}
  (hstem : ∀ a, c.analyzer = some a → a.inputStem.utf8ByteSize < 240)

include hstem

/-- **A file that is there comes to a result** under its path, and a source file to that of a
check. -/
theorem exists_comesTo_file {q : Path} (hq : q.IsNormal) (hfile : around.tree.isFile q = true)
    (index : Nat) :
    ∃ result, c.ComesTo around index (.file q.text) (q.text, result) ∧
      c.CoversSource q result := by
  obtain ⟨d, hread, hpath, hlanguage⟩ := Tree.exists_document_of_isFile hq hfile
  have hsupported : d.isSupported = Command.isSourceFile q := by
    rw [Command.isSourceFile_eq_isSupported, Document.isSupported, hlanguage]
  rcases c.check_cases around d with ⟨result, hcheck⟩ | ⟨error, ⟨hd, a, ha, hinput⟩, -⟩
  · have hcomes : c.ComesTo around index (.file q.text) ((Path.ofString q.text).text, result) :=
      .file hread hcheck
    rw [Path.ofString_text hq] at hcomes
    refine ⟨result, hcomes, fun hsource => ?_⟩
    rw [c.value_check around (hsupported.trans hsource)] at hcheck
    obtain ⟨external, errors, rfl, -⟩ := exists_external_parts hcheck
    rw [← hlanguage, ← hpath]
    rfl
  · obtain ⟨place, bytes, hnode⟩ := Tree.isFile_eq_true_iff.mp hfile
    have hnone := Analyzer.inputError?_of_source (hsupported.symm.trans hd) (hstem a ha)
      (Tree.node_eq_found_iff.mp hnode).1 hpath
    exact absurd (hnone.symm.trans hinput) nofun

/-- Files that are there come to results, one after the other. -/
theorem exists_runsTo_files : ∀ {qs : List Path} (index : Nat),
    (∀ q ∈ qs, q.IsNormal ∧ around.tree.isFile q = true) →
    ∃ entries, c.RunsTo around index (qs.map fun q => .file q.text) entries ∧
      List.Forall₂ c.IsEntryOf qs entries
  | [], _, _ => ⟨[], .nil, .nil⟩
  | q :: qs, index, h => by
    obtain ⟨⟨hq, hfile⟩, hqs⟩ := List.forall_mem_cons.mp h
    obtain ⟨result, hcomes, hcoverage⟩ := exists_comesTo_file hstem hq hfile index
    obtain ⟨entries, hentries, hall⟩ := exists_runsTo_files (index + 1) hqs
    exact ⟨(q.text, result) :: entries, .cons hcomes hentries, .cons ⟨rfl, hcoverage⟩ hall⟩

end Checker

/-! ### Checks of paths -/

namespace Command

variable {c : Checker} {around : Surroundings} {paths : List Path}

/-- The arguments of a check: paths as they are read, at which something stands. -/
def AreArguments (tree : Tree) (paths : List Path) : Prop :=
  ∀ path ∈ paths, path.IsNormal ∧ tree.holds path = true

theorem areArguments_ofString {tree : Tree} (words : List String)
    (h : ∀ word ∈ words, tree.holds (Path.ofString word) = true) :
    AreArguments tree (words.map Path.ofString) := by
  intro path hpath
  obtain ⟨word, hword, rfl⟩ := List.mem_map.mp hpath
  exact ⟨Path.isNormal_ofString word, h word hword⟩

theorem isFile_of_mem_found {tree : Tree} {q : Path} (htree : tree.WellFormed)
    (hpaths : AreArguments tree paths) (h : q ∈ (expandPaths tree paths).found) :
    q.IsNormal ∧ tree.isFile q = true := by
  obtain ⟨path, hpath, hq⟩ := mem_found_expandPaths h
  obtain ⟨hnormal, hholds⟩ := hpaths path hpath
  cases hdirectory : tree.isDirectory path with
  | false =>
    rw [expandPath_of_not_isDirectory hdirectory] at hq
    obtain rfl := List.mem_singleton.mp hq
    exact ⟨hnormal, Tree.isFile_of_holds hholds hdirectory⟩
  | true =>
    rw [expandPath_of_isDirectory hdirectory] at hq
    obtain ⟨hfile, names, ⟨-, here, -, hcontent⟩, rfl⟩ :=
      Tree.exists_of_mem_filesBelow (List.mem_filter.mp hq).1
    have hnames : ∀ name ∈ names, Path.IsPart name := fun name hname =>
      (htree.isName_of_mem_places (Tree.isSome_contentAt_iff.mp hcontent) name
        (List.mem_append_right here hname)).isPart
    exact ⟨hnormal.descend hnames, hfile⟩

section Runs

variable (htree : around.tree.WellFormed) (hpaths : AreArguments around.tree paths)
  (hstem : ∀ a, c.analyzer = some a → a.inputStem.utf8ByteSize < 240)

include htree hpaths hstem

/-- **What a check of paths comes to**: the files that are found come to results, and the check
gives these unless the search breaks off. -/
theorem exists_value_checkPaths :
    ∃ entries, List.Forall₂ c.IsEntryOf (expandPaths around.tree paths).found entries ∧
      (checkPaths c around paths).value =
        match (expandPaths around.tree paths).failure with
        | none => .ok ⟨putEntries entries [], false⟩
        | some e => .error e := by
  obtain ⟨entries, hruns, hall⟩ := Checker.exists_runsTo_files hstem 0
    fun q hq => isFile_of_mem_found htree hpaths hq
  refine ⟨entries, hall, ?_⟩
  rw [checkPaths, Traced.value_bind, hruns.value_checkProject]
  cases (expandPaths around.tree paths).failure with
  | none => rfl
  | some e => rfl

theorem value_checkPaths_eq_error_iff {e : FileError} :
    (checkPaths c around paths).value = .error e ↔
      (expandPaths around.tree paths).failure = some e := by
  obtain ⟨entries, -, hvalue⟩ := exists_value_checkPaths htree hpaths hstem
  rw [hvalue]
  cases (expandPaths around.tree paths).failure with
  | none => simp
  | some other => simp

theorem exists_entries_of_value_checkPaths {result : ProjectResult}
    (h : (checkPaths c around paths).value = .ok result) :
    (expandPaths around.tree paths).failure = none ∧
      ∃ entries, List.Forall₂ c.IsEntryOf (expandPaths around.tree paths).found entries ∧
        result = ⟨putEntries entries [], false⟩ := by
  obtain ⟨entries, hall, hvalue⟩ := exists_value_checkPaths htree hpaths hstem
  rw [hvalue] at h
  cases hfailure : (expandPaths around.tree paths).failure with
  | none =>
    rw [hfailure, Except.ok.injEq] at h
    exact ⟨rfl, entries, hall, h.symm⟩
  | some e =>
    rw [hfailure] at h
    exact absurd h nofun

theorem exists_error_of_tooLongBelow {path q : Path} (hpath : path ∈ paths)
    (hq : around.tree.TooLongBelow path q) : ∃ e, (checkPaths c around paths).value = .error e := by
  have hfailure : (expandPaths around.tree paths).failure ≠ none := fun hnone =>
    Tree.failure_of_tooLongBelow hq (failure_expandPaths_eq_none_iff.mp hnone path hpath)
  obtain ⟨e, he⟩ := Option.ne_none_iff_exists'.mp hfailure
  exact ⟨e, (value_checkPaths_eq_error_iff htree hpaths hstem).mpr he⟩

end Runs

section Entries

variable {qs : List Path} {entries : List (String × CheckResult)}
  (hall : List.Forall₂ c.IsEntryOf qs entries)

include hall

theorem keys_of_isEntryOf : entries.map (·.1) = qs.map Path.text := by
  induction hall with
  | nil => rfl
  | cons h _ ih => rw [List.map_cons, List.map_cons, h.1, ih]

/-- Under the path of a file among them, entries have a result that is the file's. -/
theorem exists_entryAt?_of_isEntryOf (hqs : ∀ q ∈ qs, q.IsNormal) {q : Path} (hq : q ∈ qs) :
    ∃ result, entryAt? q.text (putEntries entries []) = some result ∧ c.CoversSource q result := by
  have hsome : entryAt? q.text entries.reverse ≠ none := fun hnone => by
    rw [entryAt?_eq_none_iff, List.map_reverse, List.mem_reverse, keys_of_isEntryOf hall] at hnone
    exact hnone (List.mem_map_of_mem hq)
  obtain ⟨result, hresult⟩ := Option.ne_none_iff_exists'.mp hsome
  refine ⟨result, by rw [entryAt?_putEntries, hresult]; rfl, ?_⟩
  -- the entry belongs to a file with the same path
  obtain ⟨other, hother, hkey, hcovers⟩ :=
    exists_of_mem_left hall.flip _ (List.mem_reverse.mp (mem_of_entryAt?_eq_some hresult))
  rwa [(hqs q hq).text_injective (hqs other hother) hkey]

end Entries

/-- **What a check of paths covers.** Let the paths be there, in a tree of files and directories,
and let the analyzer's input have a place with a name of some length. The check ends without a
result exactly if the path of something below one of the directories is too long. Otherwise each
path stands for files: a directory for exactly the source files below it, sorted, and a file for
itself. The results are kept under the paths of these, each once and where it first comes up; so
many files are reported as checked; and every file that was found through a directory was checked
in the language of its suffix. -/
theorem checkPaths_covers_paths (c : Checker) (around : Surroundings) (paths : List Path)
    (htree : around.tree.WellFormed) (hpaths : AreArguments around.tree paths)
    (hstem : ∀ a, c.analyzer = some a → a.inputStem.utf8ByteSize < 240) :
    (∀ e, (checkPaths c around paths).value = .error e →
      ∃ path ∈ paths, ∃ q, around.tree.TooLongBelow path q ∧ e = .nameTooLong q) ∧
    (∀ path ∈ paths, ∀ q, around.tree.TooLongBelow path q →
      ∃ e, (checkPaths c around paths).value = .error e) ∧
    ∀ result, (checkPaths c around paths).value = .ok result →
      ∃ expansions, List.Forall₂ (ExpandsTo around.tree) paths expansions ∧
        result.results.map (·.1) = (expansions.flatten.map Path.text).eraseDups ∧
        (result.results.map (·.1)).Nodup ∧
        (∀ threshold words, (Report.ofResult result threshold words).filesChecked =
          (result.results.map (·.1)).length) ∧
        ∀ path ∈ paths, around.tree.isDirectory path = true →
          ∀ q, SourceBelow around.tree path q →
            ∃ file, entryAt? q.text result.results = some file ∧
              file.coverage = .checked q.language c.registry.enabled.length (some q) ∧
              q.language ∈ Document.supportedLanguages := by
  refine ⟨fun e herror => ?_,
    fun path hpath q hq => exists_error_of_tooLongBelow htree hpaths hstem hpath hq,
    fun result hok => ?_⟩
  · have hfailure := (value_checkPaths_eq_error_iff htree hpaths hstem).mp herror
    obtain ⟨path, hpath, hbelow⟩ := exists_of_failure_expandPaths hfailure
    obtain ⟨q, hq, heq⟩ := Tree.tooLongBelow_of_failure hbelow
    exact ⟨path, hpath, q, hq, heq⟩
  · obtain ⟨hnone, entries, hall, rfl⟩ :=
      exists_entries_of_value_checkPaths htree hpaths hstem hok
    obtain ⟨expansions, hexpansions, hfound⟩ := exists_expansions htree hnone
    have hkeys : (putEntries entries []).map (·.1) =
        (expansions.flatten.map Path.text).eraseDups := by
      rw [keys_putEntries_nil, keys_of_isEntryOf hall, hfound]
    refine ⟨expansions, hexpansions, hkeys, hkeys ▸ Tree.nodup_eraseDups _,
      fun _ _ => (List.length_map _).symm, fun path hpath hdirectory q hq => ?_⟩
    obtain ⟨file, hfile, hcoverage⟩ := exists_entryAt?_of_isEntryOf hall
      (fun q hq => (isFile_of_mem_found htree hpaths hq).1)
      (mem_found_of_sourceBelow htree hnone hpath hdirectory hq)
    have hsource : isSourceFile q = true := List.contains_iff_mem.mpr hq.2
    refine ⟨file, hfile, hcoverage hsource, ?_⟩
    rw [isSourceFile_eq_isSupported] at hsource
    exact List.contains_iff_mem.mp hsource

/-- A directory with a source file, and with a directory that is named like one. -/
def nestedTree : Tree where
  base := ⟨"/", ["work"]⟩
  entries := [(["a", "x.C"], .file []), (["a", "d.c", "e.hpp"], .file [])]

theorem wellFormed_nestedTree : nestedTree.WellFormed where
  base := by decide
  names := by
    intro entry hentry
    rcases List.mem_pair.mp hentry with rfl | rfl
    · decide
    · decide
  leaf := by
    intro entry hentry bytes _
    refine ⟨?_, fun other hother hpre => ?_⟩
    · rcases List.mem_pair.mp hentry with rfl | rfl
      · decide
      · decide
    · rcases List.mem_pair.mp hentry with rfl | rfl
      · exact (List.mem_pair.mp hother).resolve_right (by rintro rfl; exact absurd hpre (by decide))
      · exact (List.mem_pair.mp hother).resolve_left (by rintro rfl; exact absurd hpre (by decide))

/-- The directory, and the source file in it once more. -/
def overlappingPaths : List Path :=
  [⟨"", ["a"]⟩, ⟨"", ["a", "x.C"]⟩]

theorem areArguments_overlappingPaths : AreArguments nestedTree overlappingPaths :=
  areArguments_ofString ["a", "a/x.C"] (by decide)

theorem not_tooLongBelow_overlappingPaths {path q : Path} (hpath : path ∈ overlappingPaths) :
    ¬ nestedTree.TooLongBelow path q := by
  rintro ⟨names, ⟨hne, here, hnode, hcontent⟩, rfl, hlong⟩
  rcases List.mem_pair.mp hpath with rfl | rfl
  · obtain rfl : ["work", "a"] = here := by
      have hhere : nestedTree.node ⟨"", ["a"]⟩ = .found ["work", "a"] .directory := rfl
      rw [hhere] at hnode
      exact (Node.found.inj hnode).1
    have hplaces : nestedTree.places = [[], ["work"], ["work", "a"], ["work", "a", "x.C"],
        ["work", "a", "d.c"], ["work", "a", "d.c", "e.hpp"]] := by decide
    have hmem := Tree.isSome_contentAt_iff.mp hcontent
    simp only [hplaces, List.mem_cons, List.cons_append, List.nil_append, List.cons.injEq,
      List.not_mem_nil, reduceCtorEq, and_false, true_and, false_or, or_false] at hmem
    rcases hmem with rfl | rfl | rfl | rfl
    · exact hne rfl
    · exact absurd hlong (by decide)
    · exact absurd hlong (by decide)
    · exact absurd hlong (by decide)
  · have hfile : nestedTree.node ⟨"", ["a", "x.C"]⟩ = .found ["work", "a", "x.C"] (.file []) := rfl
    rw [hfile] at hnode
    exact absurd (Node.found.inj hnode).2 nofun

/-- Both files have one result each, and the one with a capital suffix is checked. -/
theorem checkPaths_covers_overlapping_paths :
    (nestedTree.WellFormed ∧ AreArguments nestedTree overlappingPaths ∧
      ∀ a, Checker.namingChecker.analyzer = some a → a.inputStem.utf8ByteSize < 240) ∧
    ∃ result expansions,
      (checkPaths Checker.namingChecker ⟨nestedTree, default⟩ overlappingPaths).value = .ok result ∧
      List.Forall₂ (ExpandsTo nestedTree) overlappingPaths expansions ∧
      result.results.map (·.1) = (expansions.flatten.map Path.text).eraseDups ∧
      ∃ file, entryAt? "a/x.C" result.results = some file ∧
        file.coverage = .checked "c" 1 (some ⟨"", ["a", "x.C"]⟩) := by
  have hstem : ∀ a, Checker.namingChecker.analyzer = some a → a.inputStem.utf8ByteSize < 240 :=
    nofun
  obtain ⟨herror, -, hok⟩ := checkPaths_covers_paths Checker.namingChecker ⟨nestedTree, default⟩
    overlappingPaths wellFormed_nestedTree areArguments_overlappingPaths hstem
  refine ⟨⟨wellFormed_nestedTree, areArguments_overlappingPaths, hstem⟩, ?_⟩
  cases hvalue : (checkPaths Checker.namingChecker ⟨nestedTree, default⟩ overlappingPaths).value with
  | error e =>
    obtain ⟨path, hpath, q, hq, -⟩ := herror e hvalue
    exact absurd hq (not_tooLongBelow_overlappingPaths hpath)
  | ok result =>
    obtain ⟨expansions, hexpansions, hkeys, -, -, hchecked⟩ := hok result hvalue
    obtain ⟨file, hfile, hcoverage, -⟩ := hchecked ⟨"", ["a"]⟩ List.mem_cons_self rfl
      ⟨"", ["a", "x.C"]⟩ ⟨⟨["work", "a"], ["x.C"], [], rfl, by decide, rfl, rfl⟩, by decide⟩
    exact ⟨result, expansions, rfl, hexpansions, hkeys, file, hfile, hcoverage⟩

/-! ### A directory named with detours -/

/-- A directory with one source file. -/
def oneSourceTree : Tree where
  base := ⟨"/", ["work"]⟩
  entries := [(["a", "bb.c"], .file [])]

theorem wellFormed_oneSourceTree : oneSourceTree.WellFormed where
  base := by decide
  names := by
    intro entry hentry
    obtain rfl := List.mem_singleton.mp hentry
    decide
  leaf := by
    intro entry hentry bytes _
    obtain rfl := List.mem_singleton.mp hentry
    exact ⟨by decide, fun other hother _ => List.mem_singleton.mp hother⟩

/-- The way into the directory and back, some times over. -/
def detours (n : Nat) : List String :=
  (List.replicate n ["a", ".."]).flatten

theorem detours_succ (n : Nat) : detours (n + 1) = "a" :: ".." :: detours n := by
  rw [detours, List.replicate_succ, List.flatten_cons]
  rfl

theorem follow_detours (rest : List String) : ∀ n : Nat,
    oneSourceTree.follow ["work"] (detours n ++ rest) = oneSourceTree.follow ["work"] rest
  | 0 => rfl
  | n + 1 => by
    have hround : ∀ more, oneSourceTree.follow ["work"] ("a" :: ".." :: more) =
        oneSourceTree.follow ["work"] more := fun _ => rfl
    rw [detours_succ, List.cons_append, List.cons_append, hround, follow_detours rest n]

theorem utf8ByteSize_detours {rest : List String} (hne : rest ≠ []) : ∀ n : Nat,
    (Path.text ⟨"", detours n ++ rest⟩).utf8ByteSize = 5 * n + (Path.text ⟨"", rest⟩).utf8ByteSize
  | 0 => by
    rw [Nat.mul_zero, Nat.zero_add]
    rfl
  | n + 1 => by
    have htext : ∀ parts : List String, parts ≠ [] →
        Path.text ⟨"", "a" :: ".." :: parts⟩ = "a/../" ++ Path.text ⟨"", parts⟩ := by
      intro parts hparts
      obtain ⟨part, more, rfl⟩ := List.exists_cons_of_ne_nil hparts
      rw [Path.text, Path.text, if_neg (by simp), if_neg (by simp), ← String.toList_inj]
      simp [String.toList_intercalate]
    have hmore : detours n ++ rest ≠ [] := by simp [hne]
    rw [detours_succ, List.cons_append, List.cons_append, htext _ hmore,
      String.utf8ByteSize_append, utf8ByteSize_detours hne n]
    have hround : "a/../".utf8ByteSize = 5 := by decide
    omega

/-- The directory, named with 818 detours. -/
def detour : Path := ⟨"", detours 818 ++ ["a"]⟩

theorem text_detour : detour.text.utf8ByteSize = 4091 := by
  have hlast : (Path.text ⟨"", ["a"]⟩).utf8ByteSize = 1 := by decide
  rw [detour, utf8ByteSize_detours (List.cons_ne_nil _ _), hlast]

theorem isLong_descend_detour : (detour.descend ["bb.c"]).isLong = true := by
  have hlast : (Path.text ⟨"", ["a", "bb.c"]⟩).utf8ByteSize = 6 := by decide
  have hparts : detour.descend ["bb.c"] = ⟨"", detours 818 ++ ["a", "bb.c"]⟩ :=
    congrArg (Path.mk "") (List.append_assoc _ _ _)
  have hsize : (detour.descend ["bb.c"]).text.utf8ByteSize = 4096 := by
    rw [hparts, utf8ByteSize_detours (List.cons_ne_nil _ _), hlast]
  exact decide_eq_true (Nat.le_of_eq hsize.symm)

theorem mem_detours {part : String} {n : Nat} (h : part ∈ detours n) : part = "a" ∨ part = ".." := by
  obtain ⟨round, hround, hpart⟩ := List.mem_flatten.mp h
  rw [List.eq_of_mem_replicate hround] at hpart
  simpa using hpart

theorem forall_mem_detour {p : String → Prop} (ha : p "a") (hdots : p "..") :
    ∀ part ∈ detour.parts, p part := by
  intro part hpart
  rcases List.mem_append.mp hpart with h | h
  · rcases mem_detours h with rfl | rfl
    · exact ha
    · exact hdots
  · obtain rfl := List.mem_singleton.mp h
    exact ha

theorem node_detour : oneSourceTree.node detour = .found ["work", "a"] .directory := by
  have hnull : detour.hasNull = false := by
    rw [Path.hasNull, List.any_eq_false]
    exact forall_mem_detour (by decide) (by decide)
  have hlong : detour.isLong = false := decide_eq_false (by rw [text_detour]; decide)
  refine Tree.node_eq_found_iff.mpr ⟨hnull, hlong, ?_⟩
  exact (follow_detours ["a"] 818).trans rfl

/-- The source file in the directory can be read, but the path at which it is found through the
detours is too long: the check ends without a result. -/
theorem checkPaths_ends_at_long_path :
    ¬ ∀ (c : Checker) (around : Surroundings) (paths : List Path), c.analyzer = none →
      around.tree.WellFormed → AreArguments around.tree paths →
      ∃ result, (checkPaths c around paths).value = .ok result := by
  intro h
  have hholds : oneSourceTree.holds detour = true := by
    rw [Tree.holds, node_detour]
  have hnormal : detour.IsNormal := ⟨.inl rfl, forall_mem_detour (by decide) (by decide)⟩
  have hpaths : AreArguments oneSourceTree [detour] := by
    intro path hpath
    obtain rfl := List.mem_singleton.mp hpath
    exact ⟨hnormal, hholds⟩
  have hstands : oneSourceTree.StandsBelow detour ["bb.c"] :=
    ⟨List.cons_ne_nil _ _, ["work", "a"], node_detour, rfl⟩
  obtain ⟨result, hok⟩ := h Checker.namingChecker ⟨oneSourceTree, default⟩ [detour] rfl
    wellFormed_oneSourceTree hpaths
  obtain ⟨e, herror⟩ : ∃ e, (checkPaths Checker.namingChecker ⟨oneSourceTree, default⟩
      [detour]).value = .error e :=
    exists_error_of_tooLongBelow wellFormed_oneSourceTree hpaths nofun List.mem_cons_self
      ⟨["bb.c"], hstands, rfl, isLong_descend_detour⟩
  exact absurd (herror.symm.trans hok) nofun

end Command

end StyleCheck
