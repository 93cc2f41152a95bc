import ServiceManifest.Proofs.Project.Same
import ServiceManifest.Proofs.Source.Statement

/-!
# The order of occurrences

The declarations of a module come in the order of their lines, so its candidates do, and the modules of
a project come in the order of the paths of their units. The occurrences in a project are therefore in
the order of their places in the sources. In which order the files are listed on the disk plays no
part: paths are looked up, and those of the sources are sorted before they are read.
-/

namespace ServiceManifest

/-- A place in the sources comes before another: its path does, or the paths are the same and its line
does. -/
def SourceLocation.Before (location other : SourceLocation) : Prop :=
  location.path < other.path ∨ location.path = other.path ∧ location.line < other.line

/-- A declaration does not stand behind another one. -/
def Declaration.StandsUpTo (declaration other : Declaration) : Prop :=
  ∃ first second, declaration.location = some first ∧ other.location = some second ∧
    ¬second.Before first

namespace Project

open ServiceManifest.Source

section Lines

mutual

/-- The declarations in a statement stand on its lines. -/
theorem map_line_declaredIn (scope : ClassPath) (outer : List String) (inFunction : Bool)
    (statement : Statement) :
    (declaredIn scope outer inFunction statement).map (·.line) = statement.lines := by
  cases statement with
  | classDef line name decorators bases body =>
    rw [declaredIn, List.map_cons, map_line_declaredInAll, lines_classDef]
  | functionDef line name decorators body =>
    rw [declaredIn, List.map_cons, map_line_declaredInAll, lines_functionDef]
  | compound atImport body => rw [declaredIn, map_line_declaredInAll, lines_compound]
  | importModules | importFrom | assign | annotate | other => simp [declaredIn]

/-- The declarations in statements stand on their lines. -/
theorem map_line_declaredInAll (scope : ClassPath) (outer : List String) (inFunction : Bool)
    (statements : List Statement) :
    (declaredInAll scope outer inFunction statements).map (·.line) = linesAll statements := by
  cases statements with
  | nil => simp [declaredInAll]
  | cons statement rest =>
    rw [declaredInAll, List.map_append, map_line_declaredIn, map_line_declaredInAll, linesAll_cons]

end

/-- Candidates come in the order of lines if the declarations that they are do. -/
theorem pairwise_candidatesAmong {markers : List String} {declared : List Declared}
    (h : (declared.map (·.line)).Pairwise (· ≤ ·)) (index : ModuleIndex) :
    ((candidatesAmong markers index declared).map (·.line)).Pairwise (· ≤ ·) := by
  rw [List.pairwise_map] at h ⊢
  induction declared generalizing index with
  | nil => exact .nil
  | cons first rest ih =>
    obtain ⟨hfirst, hrest⟩ := List.pairwise_cons.mp h
    rw [candidatesAmong, List.pairwise_append]
    refine ⟨?_, ih hrest _, fun candidate hcandidate other hother => ?_⟩
    · exact List.pairwise_map.mpr (List.pairwise_of_forall fun _ _ => Nat.le_refl _)
    · obtain ⟨decorator, -, rfl⟩ := List.mem_map.mp hcandidate
      obtain ⟨before, stated, after, rfl, hmem⟩ := mem_candidatesAmong.mp hother
      obtain ⟨decorator', -, rfl⟩ := List.mem_map.mp hmem
      exact hfirst stated (by simp)

/-- The candidates of a module that was read come in the order of their lines. -/
theorem pairwise_line_readModule {tree : Disk.Tree} {root : Path} {markers : List String}
    {unit : SourceUnit} {index : ModuleIndex} (h : readModule tree root markers unit = .ok index) :
    (index.candidates.map (·.line)).Pairwise (· ≤ ·) := by
  obtain ⟨bytes, statements, -, hparse, rfl⟩ := readModule_eq_ok_iff.mp h
  rw [indexModule_eq]
  refine pairwise_candidatesAmong ?_ _
  rw [declarations, map_line_declaredInAll]
  exact (parseModule_spec hparse).2

end Lines

section Occurrences

/-- Where a candidate of a module stands. -/
def placeOf (entry : ModuleIndex × Candidate) : SourceLocation :=
  ⟨entry.1.unit.path, entry.2.line⟩

/-- The candidates of modules of different units come in the order of their places if those of each
module come in the order of their lines. -/
theorem Modules.pairwise_candidates {modules : Modules}
    (hpaths : (modules.map (·.2.unit.path)).Nodup)
    (hlines : ∀ entry ∈ modules, (entry.2.candidates.map (·.line)).Pairwise (· ≤ ·)) :
    modules.candidates.Pairwise fun first second => ¬(placeOf second).Before (placeOf first) := by
  have hsorted := @Ascending.pairwise_sort _
    (fun a b : ModuleIndex => decide (a.unit.path < b.unit.path))
    (fun hab hbc => by
      simp only [decide_eq_false_iff_not, String.not_lt] at *
      exact String.le_trans hab hbc)
    (fun hab => by
      simp only [decide_eq_true_eq, decide_eq_false_iff_not] at *
      exact String.lt_asymm hab)
    (modules.map (·.2))
  have hperm := Ascending.sort_perm (fun a b : ModuleIndex => decide (a.unit.path < b.unit.path))
    (modules.map (·.2))
  rw [Modules.candidates]
  generalize Ascending.sort (fun a b : ModuleIndex => decide (a.unit.path < b.unit.path))
    (modules.map (·.2)) = indices at hsorted hperm ⊢
  have hdistinct : indices.Pairwise fun a b => a.unit.path ≠ b.unit.path := by
    rw [← List.pairwise_map, ← List.nodup_iff_pairwise_ne, (hperm.map (·.unit.path)).nodup_iff,
      List.map_map]
    exact hpaths
  rw [List.pairwise_flatMap]
  refine ⟨fun index hindex => ?_, (hsorted.and hdistinct).imp ?_⟩
  · obtain ⟨entry, hentry, rfl⟩ := List.mem_map.mp (hperm.mem_iff.mp hindex)
    rw [List.pairwise_map]
    refine (List.pairwise_map.mp (hlines entry hentry)).imp fun hle => ?_
    simp only [SourceLocation.Before, placeOf, String.lt_irrefl, true_and, false_or, not_lt]
    exact_mod_cast hle
  · rintro a b ⟨hle, hne⟩ first hfirst second hsecond
    obtain ⟨candidate, -, rfl⟩ := List.mem_map.mp hfirst
    obtain ⟨other, -, rfl⟩ := List.mem_map.mp hsecond
    simp only [decide_eq_false_iff_not] at hle
    simp [SourceLocation.Before, placeOf, hle, hne.symm]

/-- The occurrences in modules stand at the places of their candidates. -/
theorem map_location_occurrences {modules : Modules} {occurrences : List Occurrence}
    (h : modules.occurrences = .ok occurrences) :
    occurrences.map (·.declaration.location) = (modules.candidates.map placeOf).map some := by
  have hreports := reports_occurrencesFrom h
  generalize modules.candidates = candidates at hreports
  clear h
  induction hreports with
  | nil => rfl
  | cons hfirst _ ih => rw [List.map_cons, List.map_cons, List.map_cons, ih, hfirst.location]; rfl

end Occurrences

section Scan

variable {tree : Disk.Tree} {root : Path} {markers : List String} {found : Discovery}

/-- Units that are discovered are told apart by their paths. -/
theorem eq_of_path_eq (hfound : discover tree root = .ok found) {unit other : SourceUnit}
    (hunit : unit ∈ found.units) (hother : other ∈ found.units) (hpath : unit.path = other.path) :
    unit = other := by
  unfold discover at hfound
  split at hfound
  · obtain rfl := Except.ok.inj hfound
    rw [units_eq_map] at hunit hother
    obtain ⟨parts, hparts, rfl⟩ := List.mem_map.mp hunit
    obtain ⟨others, hothers, rfl⟩ := List.mem_map.mp hother
    obtain ⟨hsource, hmakes⟩ := makesUnit_of_mem hparts
    obtain ⟨hsourceOther, hmakesOther⟩ := makesUnit_of_mem hothers
    rw [parts_eq_of_path_eq hsource hsourceOther hmakes hmakesOther hpath]
  · cases hfound
  · obtain rfl := Except.ok.inj hfound
    cases hunit

/-- The candidates in what a scan comes to are in the order of their places. -/
theorem pairwise_candidates_of_scan {modules : Modules}
    (hscan : (scan tree root markers).outcome = .ok modules) :
    modules.candidates.Pairwise fun first second => ¬(placeOf second).Before (placeOf first) := by
  simp only [scan] at hscan
  split at hscan
  · cases hscan
  · rename_i found hfound
    obtain ⟨indices, hreads, rfl⟩ := readModules_eq_ok_iff.mp hscan
    have hnamed := isNamed_putAll indices
    have hindex (entry : String × ModuleIndex) (hentry : entry ∈ Keyed.putAll (named indices) []) :
        ∃ unit ∈ found.units, readModule tree (root.absolute tree.here) markers unit = .ok entry.2 := by
      obtain ⟨before, after, heq, -⟩ := Keyed.mem_putAll_nil.mp hentry
      have hmem : entry ∈ named indices := by simp [heq]
      obtain ⟨index, hindex, rfl⟩ := List.mem_map.mp hmem
      exact exists_left_of_forall₂ hreads hindex
    refine Modules.pairwise_candidates ?_ fun entry hentry => ?_
    · refine (List.nodup_map_iff_inj_on (hnamed.nodup.of_map _)).mpr
        fun entry hentry other hother hpath => hnamed.eq_of_unit_eq hentry hother ?_
      obtain ⟨unit, hunit, hread⟩ := hindex entry hentry
      obtain ⟨unit', hunit', hread'⟩ := hindex other hother
      rw [readModule_unit hread, readModule_unit hread'] at hpath ⊢
      exact eq_of_path_eq hfound hunit hunit' hpath
    · obtain ⟨unit, -, hread⟩ := hindex entry hentry
      exact pairwise_line_readModule hread

/-- The occurrences in what a scan comes to are in the order of their places. -/
theorem pairwise_occurrences_of_scan {modules : Modules} {occurrences : List Occurrence}
    (hscan : (scan tree root markers).outcome = .ok modules)
    (hoccurrences : modules.occurrences = .ok occurrences) :
    occurrences.Pairwise fun first second => first.declaration.StandsUpTo second.declaration := by
  have hsorted : (occurrences.map (·.declaration.location)).Pairwise fun first second =>
      ∃ location other, first = some location ∧ second = some other ∧ ¬other.Before location := by
    rw [map_location_occurrences hoccurrences, List.pairwise_map, List.pairwise_map]
    exact (pairwise_candidates_of_scan hscan).imp fun hbefore => ⟨_, _, rfl, rfl, hbefore⟩
  rwa [List.pairwise_map] at hsorted

/-- A scan does not hang on the order in which the disk lists its files. -/
theorem scan_eq_of_perm {entries : List (Disk.Place × Disk.Entry)}
    (hentries : entries.Perm tree.entries) (hplaces : (tree.entries.map (·.1)).Nodup) :
    scan { tree with entries := entries } root markers = scan tree root markers := by
  have hnodup : (entries.map (·.1)).Nodup := (hentries.map Prod.fst).nodup_iff.mpr hplaces
  have hfind (place : Disk.Place) :
      entries.find? (fun entry => entry.1 = place) =
        tree.entries.find? (fun entry => entry.1 = place) := by
    refine Option.ext fun entry => ?_
    rw [Keyed.find?_eq_some_iff_of_nodup hnodup, Keyed.find?_eq_some_iff_of_nodup hplaces,
      hentries.mem_iff]
  have hentry (place : Disk.Place) :
      Disk.Tree.entry? { tree with entries := entries } place = tree.entry? place := by
    simp only [Disk.Tree.entry?, hfind]
  have hdiscover (path : Path) :
      discover { tree with entries := entries } path = discover tree path := by
    simp only [discover, Disk.Tree.lookup_congr hentry rfl,
      @sourcePaths_eq_of_perm tree { tree with entries := entries } _ hentries]
  simp only [scan, hdiscover]
  split
  · rfl
  · congr 1
    exact readModules_congr (fun _ => Iff.rfl) (fun _ _ => Disk.Tree.read_congr hentry rfl _) []

end Scan

end Project

end ServiceManifest
