import Mathlib.Data.List.Forall2
import ServiceManifest.Project.Resolver
import ServiceManifest.Proofs.Keyed
import ServiceManifest.Proofs.Project.Declared

/-!
# Which units a scan keeps

A scan reads every unit that was discovered and keeps the indices under the names of their modules,
so of units with one module name only the last is kept. The occurrences of the marker are then those
of the candidates of the units that are kept, one for each candidate, and no others.
-/

namespace ServiceManifest.Project

open ServiceManifest.Source

section Related

variable {α β : Type} {R : α → β → Prop} {xs : List α} {ys : List β}

/-- Everything in the first of two related lists is related to something in the second. -/
theorem exists_right_of_forall₂ (h : List.Forall₂ R xs ys) {x : α} (hx : x ∈ xs) :
    ∃ y ∈ ys, R x y := by
  induction h with
  | nil => cases hx
  | cons hrel _ ih =>
    rcases List.mem_cons.mp hx with rfl | hx
    · exact ⟨_, List.mem_cons_self, hrel⟩
    · obtain ⟨y, hy, hrel⟩ := ih hx
      exact ⟨y, List.mem_cons_of_mem _ hy, hrel⟩

/-- Everything in the second of two related lists is related to something in the first. -/
theorem exists_left_of_forall₂ (h : List.Forall₂ R xs ys) {y : β} (hy : y ∈ ys) :
    ∃ x ∈ xs, R x y :=
  exists_right_of_forall₂ h.flip hy

end Related

/-- Indices under the names of their modules. -/
def named (indices : List ModuleIndex) : List (String × ModuleIndex) :=
  indices.map fun index => (index.name, index)

section Read

variable {tree : Disk.Tree} {root : Path} {markers : List String}

/-- Units are read to indices, each unit to the index of its module. -/
def Reads (tree : Disk.Tree) (root : Path) (markers : List String) :
    List SourceUnit → List ModuleIndex → Prop :=
  List.Forall₂ fun unit index => readModule tree root markers unit = .ok index

/-- A unit can be read if its file can and holds a module, and is read to the index of the
module. -/
theorem readModule_eq_ok_iff {unit : SourceUnit} {index : ModuleIndex} :
    readModule tree root markers unit = .ok index ↔
      ∃ bytes statements, tree.read (root.join (Path.ofString unit.path)) = .ok bytes ∧
        parseModule bytes.toList = some statements ∧
          index = indexModule markers unit
            ((root.join (Path.ofString unit.path)).name = packageFile) statements := by
  unfold readModule
  cases htree : tree.read (root.join (Path.ofString unit.path)) with
  | error fault => simp [htree]
  | ok bytes =>
    cases hparse : parseModule bytes.toList with
    | none => simp [htree, hparse]
    | some statements => simp [htree, hparse, eq_comm]

/-- The index that a unit is read to is about the unit. -/
theorem readModule_unit {unit : SourceUnit} {index : ModuleIndex}
    (hread : readModule tree root markers unit = .ok index) : index.unit = unit := by
  obtain ⟨bytes, statements, -, -, rfl⟩ := readModule_eq_ok_iff.mp hread
  exact indexModule_unit markers unit _ statements

/-- The indices that units are read to are about the units. -/
theorem Reads.map_unit {units : List SourceUnit} {indices : List ModuleIndex}
    (h : Reads tree root markers units indices) : indices.map (·.unit) = units := by
  induction h with
  | nil => rfl
  | cons hread _ ih => rw [List.map_cons, ih, readModule_unit hread]

/-- The names of the indices that units are read to are those of the modules of the units. -/
theorem Reads.keys_named {units : List SourceUnit} {indices : List ModuleIndex}
    (h : Reads tree root markers units indices) :
    Keyed.keys (named indices) = units.map (·.module) := by
  rw [← h.map_unit]
  simp [Keyed.keys, named, ModuleIndex.name]

/-- Reading units puts the index of each under the name of its module. -/
theorem readModules_eq_ok_iff {units : List SourceUnit} {modules result : Modules} :
    readModules tree root markers units modules = .ok result ↔
      ∃ indices, Reads tree root markers units indices ∧
        result = Keyed.putAll (named indices) modules := by
  induction units generalizing modules with
  | nil => simp [readModules, Reads, named, Keyed.putAll, eq_comm]
  | cons unit rest ih =>
    rw [readModules]
    constructor
    · intro h
      cases hread : readModule tree root markers unit with
      | error failure => simp [hread] at h
      | ok index =>
        rw [hread] at h
        obtain ⟨indices, hreads, rfl⟩ := ih.mp h
        refine ⟨index :: indices, .cons hread hreads, ?_⟩
        rw [← readModule_unit hread]
        rfl
    · rintro ⟨_, ⟨⟩ | ⟨hread, hreads⟩, rfl⟩
      rw [hread]
      refine ih.mpr ⟨_, hreads, ?_⟩
      rw [← readModule_unit hread]
      rfl

/-- Units of different modules are all kept. -/
theorem readModules_eq_named {units : List SourceUnit} {modules : Modules}
    (hdistinct : (units.map (·.module)).Nodup)
    (hread : readModules tree root markers units [] = .ok modules) :
    ∃ indices, Reads tree root markers units indices ∧ modules = named indices := by
  obtain ⟨indices, hreads, rfl⟩ := readModules_eq_ok_iff.mp hread
  refine ⟨indices, hreads, Keyed.putAll_of_nodup ?_⟩
  rw [List.nil_append, hreads.keys_named]
  exact hdistinct

end Read

/-- Modules are known by their names, each once. -/
structure Modules.IsNamed (modules : Modules) : Prop where
  nodup : (Keyed.keys modules).Nodup
  name : ∀ entry ∈ modules, entry.1 = entry.2.name

/-- The modules of indices that are put under their names are known by their names. -/
theorem isNamed_putAll (indices : List ModuleIndex) :
    Modules.IsNamed (Keyed.putAll (named indices) []) where
  nodup := Keyed.nodup_keys_putAll _ List.nodup_nil
  name entry hentry := by
    obtain ⟨before, after, heq, -⟩ := Keyed.mem_putAll_nil.mp hentry
    have hmem : entry ∈ named indices := by simp [heq]
    obtain ⟨index, -, rfl⟩ := List.mem_map.mp hmem
    rfl

/-- An occurrence that reports a candidate of a module. -/
structure Reports (modules : Modules) (index : ModuleIndex) (candidate : Candidate)
    (occurrence : Occurrence) : Prop where
  name : occurrence.declaration.name = ⟨index.name, candidate.path⟩
  kind : occurrence.declaration.kind = candidate.kind
  unit : occurrence.declaration.unit = index.unit
  location : occurrence.declaration.location = some ⟨index.unit.path, candidate.line⟩
  arguments : markerArguments modules index candidate.scope candidate.decorator =
    .ok occurrence.arguments

/-- The occurrence on a candidate reports it. Its supertypes are those of the class statement, if it is
one, with what is known before and after. -/
theorem occurrence_eq_ok {modules : Modules} {closures after : Closures} {index : ModuleIndex}
    {candidate : Candidate} {found : Occurrence}
    (h : occurrence modules closures index candidate = .ok (found, after)) :
    Reports modules index candidate found ∧
      (if candidate.kind = .function then .ok ([], closures)
        else supertypes modules closures index candidate.path candidate.bases) =
          .ok (found.declaration.supertypes, after) := by
  unfold occurrence at h
  generalize (if candidate.kind = .function then _ else _ :
    Except Fault (ClassSet × Closures)) = closed at h ⊢
  cases closed with
  | error fault => cases h
  | ok known =>
    cases harguments : markerArguments modules index candidate.scope candidate.decorator with
    | error fault => simp [harguments, Except.map] at h
    | ok arguments =>
      simp only [harguments, Except.map, Except.ok.injEq, Prod.mk.injEq] at h
      obtain ⟨rfl, rfl⟩ := h
      exact ⟨⟨rfl, rfl, rfl, rfl, harguments⟩, rfl⟩

/-- Occurrences on candidates are that on the first and then those on the others. -/
theorem occurrencesFrom_cons_eq_ok {modules : Modules} {entry : ModuleIndex × Candidate}
    {rest : List (ModuleIndex × Candidate)} {closures : Closures} {occurrences : List Occurrence}
    (h : occurrencesFrom modules (entry :: rest) closures = .ok occurrences) :
    ∃ first after more, occurrence modules closures entry.1 entry.2 = .ok (first, after) ∧
      occurrencesFrom modules rest after = .ok more ∧ occurrences = first :: more := by
  rw [occurrencesFrom] at h
  cases hfirst : occurrence modules closures entry.1 entry.2 with
  | error fault => simp [hfirst] at h
  | ok found =>
    cases hrest : occurrencesFrom modules rest found.2 with
    | error fault => simp [hfirst, hrest] at h
    | ok more =>
      simp only [hfirst, hrest, Except.ok.injEq] at h
      exact ⟨found.1, found.2, more, rfl, hrest, h.symm⟩

/-- The occurrences on candidates report them in order. -/
theorem reports_occurrencesFrom {modules : Modules} {entries : List (ModuleIndex × Candidate)}
    {closures : Closures} {occurrences : List Occurrence}
    (h : occurrencesFrom modules entries closures = .ok occurrences) :
    List.Forall₂ (fun entry => Reports modules entry.1 entry.2) entries occurrences := by
  induction entries generalizing closures occurrences with
  | nil =>
    cases h
    exact .nil
  | cons entry rest ih =>
    obtain ⟨first, after, more, hfirst, hrest, rfl⟩ := occurrencesFrom_cons_eq_ok h
    exact .cons (occurrence_eq_ok hfirst).1 (ih hrest)

namespace Modules

/-- The candidates of modules are those of each of them. -/
theorem mem_candidates {modules : Modules} {index : ModuleIndex} {candidate : Candidate} :
    (index, candidate) ∈ modules.candidates ↔
      (∃ name, (name, index) ∈ modules) ∧ candidate ∈ index.candidates := by
  simp [Modules.candidates, and_comm]

/-- The units of modules are those of each of them. -/
theorem mem_units {modules : Modules} {unit : SourceUnit} :
    unit ∈ modules.units ↔ ∃ entry ∈ modules, entry.2.unit = unit := by
  simp [Modules.units]

/-- Modules that are known by their names have different units. -/
theorem IsNamed.eq_of_unit_eq {modules : Modules} (h : modules.IsNamed)
    {entry other : String × ModuleIndex} (hentry : entry ∈ modules) (hother : other ∈ modules)
    (heq : entry.2.unit = other.2.unit) : entry = other := by
  have hname : entry.1 = other.1 := by
    rw [h.name entry hentry, h.name other hother, ModuleIndex.name, heq, ModuleIndex.name]
  exact List.inj_on_of_nodup_map h.nodup hentry hother hname

/-- The indices of modules that are known by their names are about different units. -/
theorem IsNamed.nodup_unit {modules : Modules} (h : modules.IsNamed) :
    (modules.map (·.2.unit)).Nodup :=
  (List.nodup_map_iff_inj_on (h.nodup.of_map _)).mpr fun _ hentry _ hother heq =>
    h.eq_of_unit_eq hentry hother heq

end Modules

/-- The candidates of a module with other modules around it. -/
def listedCandidates (indices : List ModuleIndex) : List (ModuleIndex × Candidate) :=
  indices.flatMap fun index => index.candidates.map fun candidate => (index, candidate)

/-- Without the index of a unit there is no candidate of it. -/
theorem filter_listedCandidates_of_not_mem {indices : List ModuleIndex} {unit : SourceUnit}
    (h : unit ∉ indices.map (·.unit)) :
    (listedCandidates indices).filter (fun entry => entry.1.unit = unit) = [] := by
  simp only [List.filter_eq_nil_iff, listedCandidates, List.mem_flatMap, List.mem_map,
    decide_eq_true_eq]
  rintro _ ⟨index, hindex, candidate, -, rfl⟩ hunit
  exact h (List.mem_map.mpr ⟨index, hindex, hunit⟩)

/-- Among the candidates of modules of different units, those of one unit are the candidates of its
index in the order in which they stand. -/
theorem filter_listedCandidates {indices : List ModuleIndex} {index : ModuleIndex}
    (hnodup : (indices.map (·.unit)).Nodup) (hindex : index ∈ indices) :
    (listedCandidates indices).filter (fun entry => entry.1.unit = index.unit) =
      index.candidates.map fun candidate => (index, candidate) := by
  induction indices with
  | nil => cases hindex
  | cons first rest ih =>
    have hsplit := List.nodup_cons.mp hnodup
    rw [listedCandidates, List.flatMap_cons, List.filter_append]
    rcases List.mem_cons.mp hindex with rfl | hrest
    · have hnone := filter_listedCandidates_of_not_mem hsplit.1
      rw [listedCandidates] at hnone
      rw [hnone, List.append_nil, List.filter_eq_self]
      simp
    · have hne : first.unit ≠ index.unit := fun heq =>
        hsplit.1 (List.mem_map.mpr ⟨index, hrest, heq.symm⟩)
      have hnone : (first.candidates.map fun candidate => (first, candidate)).filter
          (fun entry => entry.1.unit = index.unit) = [] := by
        simp [List.filter_eq_nil_iff, hne]
      rw [hnone, List.nil_append]
      exact ih hsplit.2 hrest

/-- The candidates of a project are those of its modules by the path of their unit. -/
theorem Modules.exists_perm_candidates (modules : Modules) :
    ∃ indices, indices.Perm (modules.map (·.2)) ∧ modules.candidates = listedCandidates indices :=
  ⟨_, Ascending.sort_perm _ _, rfl⟩

/-- The occurrences in a project that are about a unit. -/
def about (unit : SourceUnit) (occurrences : List Occurrence) : List Occurrence :=
  occurrences.filter fun occurrence => occurrence.declaration.unit = unit

/-- The occurrences about a unit report the candidates about it. -/
theorem reports_about {modules : Modules} {occurrences : List Occurrence}
    (h : modules.occurrences = .ok occurrences) (unit : SourceUnit) :
    List.Forall₂ (fun entry => Reports modules entry.1 entry.2)
      (modules.candidates.filter fun entry => entry.1.unit = unit) (about unit occurrences) := by
  refine List.rel_filter (fun entry occurrence hreports => ?_) (reports_occurrencesFrom h)
  simp [hreports.unit]

/-- The occurrences about a unit that is kept report its candidates, one each and in order. -/
theorem reports_about_of_mem {modules : Modules} (hnamed : modules.IsNamed)
    {occurrences : List Occurrence} (h : modules.occurrences = .ok occurrences)
    {entry : String × ModuleIndex} (hentry : entry ∈ modules) :
    List.Forall₂ (Reports modules entry.2) entry.2.candidates (about entry.2.unit occurrences) := by
  obtain ⟨indices, hperm, hcandidates⟩ := modules.exists_perm_candidates
  have hnodup : (indices.map (·.unit)).Nodup := by
    rw [(hperm.map _).nodup_iff, List.map_map]
    exact hnamed.nodup_unit
  have hreports := reports_about h entry.2.unit
  rw [hcandidates, filter_listedCandidates hnodup
    (hperm.mem_iff.mpr (List.mem_map_of_mem hentry)), List.forall₂_map_left_iff] at hreports
  exact hreports

/-- There is no occurrence about a unit that is not kept. -/
theorem about_eq_nil_of_not_mem {modules : Modules} {occurrences : List Occurrence}
    (h : modules.occurrences = .ok occurrences) {unit : SourceUnit}
    (hunit : unit ∉ modules.units) : about unit occurrences = [] := by
  obtain ⟨indices, hperm, hcandidates⟩ := modules.exists_perm_candidates
  have hreports := reports_about h unit
  rw [hcandidates, filter_listedCandidates_of_not_mem, List.forall₂_nil_left_iff] at hreports
  · exact hreports
  · rw [(hperm.map _).mem_iff, List.map_map]
    intro hmem
    obtain ⟨entry, hentry, heq⟩ := List.mem_map.mp hmem
    exact hunit (Modules.mem_units.mpr ⟨entry, hentry, heq⟩)

/-- The last of the units of its module. -/
def IsLast (units : List SourceUnit) (unit : SourceUnit) : Prop :=
  ∃ before after, units = before ++ unit :: after ∧ ∀ later ∈ after, later.module ≠ unit.module

/-- Among units the module of each has a last one. -/
theorem exists_isLast {units : List SourceUnit} {unit : SourceUnit} (hunit : unit ∈ units) :
    ∃ last ∈ units, IsLast units last ∧ last.module = unit.module := by
  induction units generalizing unit with
  | nil => cases hunit
  | cons first rest ih =>
    by_cases hlater : ∃ later ∈ rest, later.module = unit.module
    · obtain ⟨later, hmem, hmodule⟩ := hlater
      obtain ⟨last, hlast, ⟨before, after, rfl, hafter⟩, hsame⟩ := ih hmem
      exact ⟨last, List.mem_cons_of_mem _ hlast, ⟨first :: before, after, rfl, hafter⟩,
        hsame.trans hmodule⟩
    · rcases List.mem_cons.mp hunit with rfl | hmem
      · exact ⟨unit, hunit, ⟨[], rest, rfl, fun later hmem heq => hlater ⟨later, hmem, heq⟩⟩, rfl⟩
      · exact absurd ⟨unit, hmem, rfl⟩ hlater

/-- A unit whose file can be read and holds a module. -/
def IsReadable (tree : Disk.Tree) (root : Path) (unit : SourceUnit) : Prop :=
  ∃ bytes statements, tree.read (root.join (Path.ofString unit.path)) = .ok bytes ∧
    parseModule bytes.toList = some statements

section Kept

variable {tree : Disk.Tree} {root : Path} {markers : List String}

/-- Units that can be read are read to indices. -/
theorem exists_reads (markers : List String) {units : List SourceUnit}
    (hreadable : ∀ unit ∈ units, IsReadable tree root unit) :
    ∃ indices, Reads tree root markers units indices := by
  induction units with
  | nil => exact ⟨[], .nil⟩
  | cons unit rest ih =>
    obtain ⟨bytes, statements, htree, hparse⟩ := hreadable unit List.mem_cons_self
    obtain ⟨indices, hrest⟩ := ih fun other hother =>
      hreadable other (List.mem_cons_of_mem _ hother)
    exact ⟨_ :: indices,
      .cons (readModule_eq_ok_iff.mpr ⟨bytes, statements, htree, hparse, rfl⟩) hrest⟩

/-- The units that are kept of those that are read are the last of each module. -/
theorem Reads.mem_units_iff {units : List SourceUnit} {indices : List ModuleIndex}
    (h : Reads tree root markers units indices) (unit : SourceUnit) :
    unit ∈ Modules.units (Keyed.putAll (named indices) []) ↔ IsLast units unit := by
  rw [Modules.mem_units, ← h.map_unit]
  constructor
  · rintro ⟨entry, hentry, rfl⟩
    obtain ⟨before, after, heq, hafter⟩ := Keyed.mem_putAll_nil.mp hentry
    have hname (other : String × ModuleIndex) (hother : other ∈ named indices) :
        other.1 = other.2.name := by
      obtain ⟨index, -, rfl⟩ := List.mem_map.mp hother
      rfl
    refine ⟨before.map (·.2.unit), after.map (·.2.unit), ?_, fun later hlater hmodule => ?_⟩
    · have hunits := congrArg (List.map fun entry => entry.2.unit) heq
      simpa [named, Function.comp_def] using hunits
    · obtain ⟨other, hother, rfl⟩ := List.mem_map.mp hlater
      have hsame : other.1 = entry.1 := by
        rw [hname other (by simp [heq, hother]), hname entry (by simp [heq])]
        exact hmodule
      exact hafter (hsame ▸ List.mem_map_of_mem hother)
  · rintro ⟨before, after, heq, hafter⟩
    obtain ⟨front, back, rfl, rfl, hback⟩ := List.map_eq_append_iff.mp heq
    obtain ⟨index, rest, rfl, rfl, rfl⟩ := List.map_eq_cons_iff.mp hback
    refine ⟨(index.name, index), Keyed.mem_putAll_nil.mpr ⟨named front, named rest, ?_, ?_⟩, rfl⟩
    · simp [named]
    · intro hmem
      obtain ⟨other, hother, hname⟩ := List.mem_map.mp hmem
      obtain ⟨later, hlater, rfl⟩ := List.mem_map.mp hother
      exact hafter later.unit (List.mem_map_of_mem hlater) hname

/-- The index of a unit that is kept is the one that the unit is read to. -/
theorem Reads.exists_mem_of_isLast {units : List SourceUnit} {indices : List ModuleIndex}
    (h : Reads tree root markers units indices) {unit : SourceUnit} (hlast : IsLast units unit)
    {index : ModuleIndex} (hread : readModule tree root markers unit = .ok index) :
    ∃ name, (name, index) ∈ Keyed.putAll (named indices) [] := by
  obtain ⟨⟨name, other⟩, hmem, hunit⟩ := Modules.mem_units.mp ((h.mem_units_iff unit).mpr hlast)
  obtain ⟨before, after, heq, -⟩ := Keyed.mem_putAll_nil.mp hmem
  have hnamed : (name, other) ∈ named indices := by simp [heq]
  obtain ⟨found, hfound, hentry⟩ := List.mem_map.mp hnamed
  cases hentry
  obtain ⟨source, -, hsource⟩ := exists_left_of_forall₂ h hfound
  rw [← readModule_unit hsource, hunit, hread] at hsource
  cases hsource
  exact ⟨_, hmem⟩

/-- In a source tree without parse errors exactly the last unit of each module is kept, so all that
are discovered are kept only where no two of them are of one module. A unit that is kept has one
occurrence of the marker for each of its candidates, in the order in which they stand; a unit that is
not kept has none. -/
theorem scan_keeps_last_units {found : Discovery}
    (hfound : discover tree (root.absolute tree.here) = .ok found)
    (hreadable : ∀ unit ∈ found.units, IsReadable tree (root.absolute tree.here) unit) :
    ∃ modules, (scan tree root markers).outcome = .ok modules ∧
      (∀ unit, unit ∈ modules.units ↔ IsLast found.units unit) ∧
      ((∀ unit ∈ found.units, unit ∈ modules.units) ↔
        ∀ unit ∈ found.units, ∀ other ∈ found.units, unit.module = other.module → unit = other) ∧
      ∀ occurrences, modules.occurrences = .ok occurrences →
        ∀ unit ∈ found.units, ∀ index,
          readModule tree (root.absolute tree.here) markers unit = .ok index →
            (IsLast found.units unit →
              List.Forall₂ (Reports modules index) index.candidates (about unit occurrences)) ∧
            (¬IsLast found.units unit → about unit occurrences = []) := by
  obtain ⟨indices, hreads⟩ := exists_reads markers hreadable
  have hunits := hreads.mem_units_iff
  refine ⟨Keyed.putAll (named indices) [], ?_, hunits, ⟨?_, ?_⟩, ?_⟩
  · simp only [scan, hfound]
    exact readModules_eq_ok_iff.mpr ⟨indices, hreads, rfl⟩
  · -- Two units of one module that are both kept have one index, since it is kept under its name.
    intro hall unit hunit other hother hmodule
    obtain ⟨entry, hentry, rfl⟩ := Modules.mem_units.mp (hall unit hunit)
    obtain ⟨entry', hentry', rfl⟩ := Modules.mem_units.mp (hall other hother)
    have hnamed := isNamed_putAll indices
    have hname : entry.1 = entry'.1 := by
      rw [hnamed.name entry hentry, hnamed.name entry' hentry']
      exact hmodule
    rw [List.inj_on_of_nodup_map hnamed.nodup hentry hentry' hname]
  · intro hdistinct unit hunit
    obtain ⟨last, hlast, hkept, hmodule⟩ := exists_isLast hunit
    rw [hdistinct unit hunit last hlast hmodule.symm]
    exact (hunits last).mpr hkept
  · intro occurrences hoccurrences unit hunit index hread
    constructor
    · intro hlast
      obtain ⟨name, hmem⟩ := hreads.exists_mem_of_isLast hlast hread
      have hreports := reports_about_of_mem (isNamed_putAll indices) hoccurrences hmem
      rwa [readModule_unit hread] at hreports
    · intro hlost
      exact about_eq_nil_of_not_mem hoccurrences fun hmem => hlost ((hunits unit).mp hmem)

end Kept

/-- A module with a marked class. -/
def markedModule : ByteArray :=
  "from autoservice import auto_service\n@auto_service(int)\nclass A: pass\n".toUTF8

/-- A module beside a package of its name, each with a marked class. -/
def moduleBesidePackage : Disk.Tree :=
  ⟨[(["pkg"], .folder), (["pkg", "__init__.py"], .file markedModule),
    (["pkg.py"], .file markedModule)], []⟩

/-- The package in a folder is lost with its marked class, because the module beside it has its
name. -/
theorem scan_loses_package_beside_module :
    ∃ found, discover moduleBesidePackage ⟨"/", []⟩ = .ok found ∧
      ⟨"pkg/__init__.py", "pkg"⟩ ∈ found.units ∧
      (∃ index candidate, readModule moduleBesidePackage ⟨"/", []⟩ defaultMarkers
        ⟨"pkg/__init__.py", "pkg"⟩ = .ok index ∧ candidate ∈ index.candidates) ∧
      ∃ modules, (scan moduleBesidePackage ⟨"/", []⟩ defaultMarkers).outcome = .ok modules ∧
        ⟨"pkg/__init__.py", "pkg"⟩ ∉ modules.units ∧
        ∀ occurrences, modules.occurrences = .ok occurrences →
          about ⟨"pkg/__init__.py", "pkg"⟩ occurrences = [] := by
  have hpaths : sourcePaths moduleBesidePackage [] = [["pkg", "__init__.py"], ["pkg.py"]] := by
    decide +kernel
  have hlookup : moduleBesidePackage.lookup ⟨"/", []⟩ = .ok ([], .folder) := rfl
  have hfound : discover moduleBesidePackage ⟨"/", []⟩ =
      .ok ⟨[⟨"pkg/__init__.py", "pkg"⟩, ⟨"pkg.py", "pkg"⟩], []⟩ := by
    rw [discover, hlookup]
    simp only [hpaths]
    congr 2
  have hparse : (parseModule markedModule.toList).isSome = true := by decide +kernel
  obtain ⟨statements, hstatements⟩ := Option.isSome_iff_exists.mp hparse
  have hreadable : ∀ unit ∈ [⟨"pkg/__init__.py", "pkg"⟩, ⟨"pkg.py", "pkg"⟩],
      IsReadable moduleBesidePackage ⟨"/", []⟩ unit := by
    simp only [List.forall_mem_cons, List.not_mem_nil, false_implies, implies_true, and_true]
    exact ⟨⟨markedModule, statements, rfl, hstatements⟩,
      ⟨markedModule, statements, rfl, hstatements⟩⟩
  have hlost : ¬IsLast [⟨"pkg/__init__.py", "pkg"⟩, ⟨"pkg.py", "pkg"⟩] ⟨"pkg/__init__.py", "pkg"⟩ := by
    rintro ⟨before, after, heq, hafter⟩
    cases before with
    | nil =>
      cases heq
      exact hafter _ List.mem_cons_self rfl
    | cons first rest =>
      have hmem : (⟨"pkg/__init__.py", "pkg"⟩ : SourceUnit) ∈ [⟨"pkg.py", "pkg"⟩] := by
        rw [(List.cons.inj heq).2]
        exact List.mem_append_right _ List.mem_cons_self
      revert hmem
      decide
  have hcandidate : (match readModule moduleBesidePackage ⟨"/", []⟩ defaultMarkers
        ⟨"pkg/__init__.py", "pkg"⟩ with
      | .ok index => index.candidates.length
      | .error _ => 0) = 1 := by decide +kernel
  obtain ⟨modules, houtcome, hunits, -, hoccurrences⟩ :=
    @scan_keeps_last_units moduleBesidePackage ⟨"/", []⟩ defaultMarkers _ hfound hreadable
  split at hcandidate
  · rename_i index hread
    obtain ⟨candidate, hcandidates⟩ := List.length_eq_one_iff.mp hcandidate
    refine ⟨_, hfound, List.mem_cons_self, ⟨index, candidate, hread, by simp [hcandidates]⟩, modules,
      houtcome, fun hmem => hlost ((hunits _).mp hmem), fun occurrences hok => ?_⟩
    exact (hoccurrences occurrences hok _ List.mem_cons_self index hread).2 hlost
  · cases hcandidate

end ServiceManifest.Project
