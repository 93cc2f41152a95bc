import Mathlib.Data.List.Nodup
import Mathlib.Data.List.TakeDrop
import ServiceManifest.Project.Discovery
import ServiceManifest.Proofs.Ascending
import ServiceManifest.Proofs.Name

/-!
# Which units are discovered

The paths of the units below a root tell which units these are: a module that can be imported has no
slash in its name, so the parts of its path can be told from the path, and units come in the order of
their parts.
-/

namespace ServiceManifest.Project

/-- Neither a slash nor NUL is part of an identifier. -/
theorem not_mem_of_isIdentifier {name : List Char} (h : Text.isIdentifier name = true) {c : Char}
    (hc : c = '/' ∨ c = '\x00') : c ∉ name := by
  have hstart : Text.isIdentifierStart c = false := by rcases hc with rfl | rfl <;> decide
  have hcontinue : Text.isIdentifierContinue c = false := by rcases hc with rfl | rfl <;> decide
  cases name with
  | nil => exact List.not_mem_nil
  | cons first rest =>
    simp only [Text.isIdentifier, Bool.and_eq_true, List.all_eq_true] at h
    intro hmem
    rcases List.mem_cons.mp hmem with rfl | hmem
    · exact Bool.eq_false_iff.mp hstart h.1
    · exact Bool.eq_false_iff.mp hcontinue (h.2 c hmem)

/-- Neither a slash nor NUL is in the name of a module that can be imported. -/
theorem not_mem_of_isImportable {module : String} (h : isImportable module = true) {c : Char}
    (hc : c = '/' ∨ c = '\x00') : c ∉ module.toList := by
  simp only [isImportable, Bool.and_eq_true, List.all_eq_true] at h
  rw [← intercalate_nameParts module]
  refine not_mem_intercalate ?_ fun part hpart => not_mem_of_isIdentifier (h.2 part hpart) hc
  rcases hc with rfl | rfl <;> decide

/-- The name of a source file is its stem and its ending, or nothing but the ending. -/
theorem stem_of_sourceEnding {name : String} {front : List Char}
    (h : name.toList = front ++ sourceEnding.toList) (hfront : front ≠ []) :
    Path.stem name = String.ofList front := by
  have hreversed : name.toList.reverse = 'y' :: 'p' :: '.' :: front.reverse := by
    rw [h]
    simp [sourceEnding]
  have hspan : name.toList.reverse.span (· ≠ '.') = (['y', 'p'], '.' :: front.reverse) := by
    rw [hreversed]
    simp [List.span_eq_takeWhile_dropWhile]
  unfold Path.stem
  rw [hspan]
  simp [hfront]

/-- A path that ends like a source file has a last part that does. -/
theorem exists_concat_of_isSourcePath {parts : List String} (h : isSourcePath parts = true) :
    ∃ front last stem, parts = front ++ [last] ∧ last.toList = stem ++ sourceEnding.toList := by
  rcases List.eq_nil_or_concat' parts with rfl | ⟨front, last, rfl⟩
  · exact absurd h (by decide)
  · have hsuffix : sourceEnding.toList <:+ last.toList := by simpa [isSourcePath] using h
    obtain ⟨stem, hstem⟩ := hsuffix
    exact ⟨front, last, stem, rfl, hstem.symm⟩

/-- A path that ends like a source file has parts. -/
theorem ne_nil_of_isSourcePath {parts : List String} (h : isSourcePath parts = true) : parts ≠ [] := by
  rintro rfl
  exact absurd h (by decide)

/-- The parts of a module are the folders and the stem, which does not count for a package. -/
theorem moduleParts_concat (front : List String) (last : String) : moduleParts (front ++ [last]) =
    if Path.stem last = packageStem then front else front ++ [Path.stem last] := by
  simp [moduleParts]

/-- Neither a slash nor NUL is in parts that make a module that can be imported. -/
theorem not_mem_of_discovered {parts : List String} (hsource : isSourcePath parts = true)
    (himportable : isImportable (".".intercalate (moduleParts parts)) = true) {c : Char}
    (hc : c = '/' ∨ c = '\x00') : ∀ part ∈ parts, c ∉ part.toList := by
  obtain ⟨front, last, stem, rfl, hstem⟩ := exists_concat_of_isSourcePath hsource
  have hmodule : c ∉ ".".toList.intercalate ((moduleParts (front ++ [last])).map String.toList) := by
    rw [← String.toList_intercalate]
    exact not_mem_of_isImportable himportable hc
  have hpart {part : String} (hmem : part ∈ moduleParts (front ++ [last])) : c ∉ part.toList :=
    fun hchar => hmodule (mem_intercalate_of_mem (List.mem_map.mpr ⟨part, hmem, rfl⟩) hchar)
  rw [moduleParts_concat] at hpart
  rw [List.forall_mem_append, List.forall_mem_singleton, hstem, List.mem_append, not_or]
  refine ⟨fun part hmem => hpart ?_, fun hchar => ?_, ?_⟩
  · split
    · exact hmem
    · exact List.mem_append_left _ hmem
  · have hname := stem_of_sourceEnding hstem (List.ne_nil_of_mem hchar)
    have hchar' : c ∈ (Path.stem last).toList := by rwa [hname, String.toList_ofList]
    by_cases hpackage : Path.stem last = packageStem
    · rw [hpackage] at hchar'
      rcases hc with rfl | rfl <;> exact absurd hchar' (by decide)
    · exact hpart (by rw [if_neg hpackage]; simp) hchar'
  · rcases hc with rfl | rfl <;> decide

/-- Whether a path below the root makes a unit. -/
def makesUnit (parts : List String) : Bool :=
  parts.dropLast.all isSourceFolder && isImportable (".".intercalate (moduleParts parts))

/-- The unit at a path below the root. -/
def unitAt (parts : List String) : SourceUnit :=
  ⟨"/".intercalate parts, ".".intercalate (moduleParts parts)⟩

/-- The paths below a folder that make units, in order. -/
def unitPaths (tree : Disk.Tree) (folder : Disk.Place) : List (List String) :=
  (sourcePaths tree folder).filter makesUnit

/-- The units below a folder are those at the paths that make units. -/
theorem units_eq_map (tree : Disk.Tree) (folder : Disk.Place) :
    ((sourcePaths tree folder).map discoverPath).flatMap (·.units) =
      (unitPaths tree folder).map unitAt := by
  unfold unitPaths
  induction sourcePaths tree folder with
  | nil => rfl
  | cons parts rest ih =>
    rw [List.map_cons, List.flatMap_cons, ih, List.filter_cons]
    by_cases hfolders : parts.dropLast.all isSourceFolder = true
    · by_cases himportable : isImportable (".".intercalate (moduleParts parts)) = true
      · simp [discoverPath, makesUnit, hfolders, himportable, unitAt]
      · simp [discoverPath, makesUnit, hfolders, himportable]
    · simp [discoverPath, makesUnit, hfolders]

/-- The path of a unit tells its parts. -/
theorem parts_of_path {parts : List String} (hne : parts ≠ [])
    (hslash : ∀ part ∈ parts, '/' ∉ part.toList) :
    (("/".intercalate parts).toList.splitOn '/').map String.ofList = parts := by
  rw [String.toList_intercalate, show "/".toList = ['/'] by simp,
    List.splitOn_intercalate '/' (by simpa using hslash) (by simpa using hne), List.map_map]
  simp

/-- Paths that make units are told apart by the paths of these. -/
theorem parts_eq_of_path_eq {parts others : List String} (hsource : isSourcePath parts = true)
    (hother : isSourcePath others = true) (hmakes : makesUnit parts = true)
    (hmakesOther : makesUnit others = true) (h : (unitAt parts).path = (unitAt others).path) :
    parts = others := by
  simp only [makesUnit, Bool.and_eq_true] at hmakes hmakesOther
  have hslash := not_mem_of_discovered hsource hmakes.2 (.inl rfl)
  have hslashOther := not_mem_of_discovered hother hmakesOther.2 (.inl rfl)
  rw [← parts_of_path (ne_nil_of_isSourcePath hsource) hslash,
    ← parts_of_path (ne_nil_of_isSourcePath hother) hslashOther]
  exact congrArg (fun path : String => (path.toList.splitOn '/').map String.ofList) h

section Order

variable {tree other : Disk.Tree} {folder : Disk.Place}

/-- The places below a folder, each seen from it, come once. -/
theorem nodup_below (hnodup : (tree.entries.map (·.1)).Nodup) :
    ((tree.below folder).map (·.1)).Nodup := by
  have hplaces : (tree.below folder).map (·.1) = (tree.entries.map (·.1)).filterMap fun place =>
      if folder.isPrefixOf place && folder.length < place.length
      then some (place.drop folder.length) else none := by
    rw [Disk.Tree.below, List.map_filterMap, List.filterMap_map]
    refine List.filterMap_congr fun entry _ => ?_
    simp only [Function.comp_apply]
    split <;> rfl
  rw [hplaces]
  refine List.Nodup.filterMap (fun place place' rest hplace hplace' => ?_) hnodup
  simp only [Option.mem_def, Option.ite_none_right_eq_some, Option.some.injEq, Bool.and_eq_true,
    List.isPrefixOf_iff_prefix] at hplace hplace'
  obtain ⟨⟨⟨after, rfl⟩, -⟩, rfl⟩ := hplace
  obtain ⟨⟨⟨after', rfl⟩, -⟩, hrest⟩ := hplace'
  simpa using hrest.symm

/-- The paths of source files do not hang on the order in which a folder is listed. -/
theorem sourcePaths_eq_of_perm (hentries : other.entries.Perm tree.entries) :
    sourcePaths other folder = sourcePaths tree folder :=
  Ascending.sort_eq_of_perm Ascending.textsBefore_isOrder
    (((hentries.filterMap _).map _).filter _)

/-- The paths that make units come in order, and each of them once. -/
theorem unitPaths_ordered (hnodup : (tree.entries.map (·.1)).Nodup) :
    (unitPaths tree folder).Pairwise (fun a b => ¬b < a) ∧ (unitPaths tree folder).Nodup := by
  have hsorted : (sourcePaths tree folder).Pairwise fun a b => decide (b < a) = false :=
    Ascending.textsBefore_isOrder.pairwise_sort _
  refine ⟨(hsorted.imp fun h => by simpa using h).filter _, List.Nodup.filter _ ?_⟩
  exact (Ascending.sort_perm _ _).nodup_iff.mpr ((nodup_below hnodup).filter _)

/-- A path that makes a unit ends like a source file. -/
theorem makesUnit_of_mem {parts : List String} (h : parts ∈ unitPaths tree folder) :
    isSourcePath parts = true ∧ makesUnit parts = true := by
  obtain ⟨hmem, hmakes⟩ := List.mem_filter.mp h
  rw [sourcePaths, (Ascending.sort_perm _ _).mem_iff] at hmem
  exact ⟨(List.mem_filter.mp hmem).2, hmakes⟩

/-- If every unit of a tree has the path of a unit of another, its parts are there, too. -/
theorem unitPaths_subset
    (hpaths : ∀ unit ∈ (unitPaths tree folder).map unitAt,
      ∃ found ∈ (unitPaths other folder).map unitAt, found.path = unit.path) :
    ∀ parts ∈ unitPaths tree folder, parts ∈ unitPaths other folder := by
  intro parts hparts
  obtain ⟨found, hfound, hpath⟩ := hpaths _ (List.mem_map.mpr ⟨parts, hparts, rfl⟩)
  obtain ⟨others, hothers, rfl⟩ := List.mem_map.mp hfound
  obtain ⟨hsource, hmakes⟩ := makesUnit_of_mem hparts
  obtain ⟨hsourceOther, hmakesOther⟩ := makesUnit_of_mem hothers
  rw [parts_eq_of_path_eq hsource hsourceOther hmakes hmakesOther hpath.symm]
  exact hothers

/-- Units with the same paths are the same units, in the same order. -/
theorem units_eq_of_paths (hnodup : (tree.entries.map (·.1)).Nodup)
    (hnodupOther : (other.entries.map (·.1)).Nodup)
    (hpaths : ∀ path, (∃ unit ∈ (unitPaths tree folder).map unitAt, unit.path = path) ↔
      ∃ unit ∈ (unitPaths other folder).map unitAt, unit.path = path) :
    (unitPaths tree folder).map unitAt = (unitPaths other folder).map unitAt := by
  obtain ⟨hsorted, hdistinct⟩ := @unitPaths_ordered tree folder hnodup
  obtain ⟨hsortedOther, hdistinctOther⟩ := @unitPaths_ordered other folder hnodupOther
  have hmem (parts : List String) :
      parts ∈ unitPaths tree folder ↔ parts ∈ unitPaths other folder :=
    ⟨unitPaths_subset (fun unit hunit => (hpaths unit.path).mp ⟨unit, hunit, rfl⟩) parts,
      unitPaths_subset (fun unit hunit => (hpaths unit.path).mpr ⟨unit, hunit, rfl⟩) parts⟩
  have hperm : (unitPaths tree folder).Perm (unitPaths other folder) :=
    (List.perm_ext_iff_of_nodup hdistinct hdistinctOther).mpr hmem
  rw [hperm.eq_of_pairwise (fun a b _ _ hab hba => List.le_antisymm hab hba) hsorted hsortedOther]

end Order

end ServiceManifest.Project
