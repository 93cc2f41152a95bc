import Mathlib.Data.List.Basic
import ServiceManifest.Proofs.Project.Fewer
import ServiceManifest.Proofs.Project.Leads
import ServiceManifest.Proofs.Project.Outside
import ServiceManifest.Proofs.Round.Verified

/-!
# Where the classes stand that references lead to

However a reference is followed, it ends at a class that the module of its package has, at a name no
front part of which is a module, or at no class at all. In particular the interfaces of manifests and
the supertypes of marked classes are never names that lead into the project to no class.
-/

namespace ServiceManifest

namespace Project

open ServiceManifest.Source

section Modules

variable {modules : Modules}

/-- A class that the module of its package has, or a name no front part of which is a module. -/
def Modules.Places (modules : Modules) (name : QualifiedName) : Prop :=
  (∃ owner, Keyed.get? name.package modules = some owner ∧
    owner.hasClass name.simpleNames = true) ∨
  ∀ front ∈ ModuleIndex.dottedPrefixes name.dotted, Keyed.get? front modules = none

/-- Wherever an absolute name leads, the class that it ends at is placed. -/
theorem Modules.AreFronted.places_of_qualified (h : modules.AreFronted) {index : ModuleIndex}
    {absolute : String} {open_ : List Link} {ref : TypeRef} {name : QualifiedName}
    (hfront : HasFront absolute) (hqualified : qualified modules open_ index absolute = .ok ref)
    (hclosest : ref.closestClass = some name) : modules.Places name := by
  refine (h.exists_end_of_qualified hqualified hclosest).imp_right ?_
  rintro ⟨last, final, hleaves, hname⟩
  rw [dotted_of_external (h.hasFront_of_leavesAt hfront hleaves) hname]
  exact Modules.splitOf_eq_none_iff.mp hleaves.2

/-- The class that an expression stands for is placed. -/
theorem Modules.AreFronted.places_of_standsFor (h : modules.AreFronted) {index : ModuleIndex}
    (hindex : index.IsFronted) {scope : ClassPath} {expr : Expr} {name : QualifiedName}
    (hstands : StandsFor modules index scope expr name) : modules.Places name := by
  obtain ⟨ref, hresolve, hclosest⟩ := hstands
  rcases typeRefBy_eq_ok hresolve with
    ⟨-, hnone⟩ | ⟨absolute, target, found, hreference, htarget, hfound, hsame⟩
  · cases hnone
  · obtain rfl := Option.some.inj hfound
    exact h.places_of_qualified (hasFront_of_reference? hindex hreference) htarget
      (hsame.symm.trans hclosest)

end Modules

section Scan

variable {tree : Disk.Tree} {root : Path} {markers : List String} {sources : List Source}

/-- Every unit that is discovered is of a module that can be imported. -/
theorem isImportable_of_discover {found : Discovery} (h : discover tree root = .ok found)
    {unit : SourceUnit} (hunit : unit ∈ found.units) : isImportable unit.module = true := by
  unfold discover at h
  split at h
  · obtain rfl := Except.ok.inj h
    obtain ⟨_, hmade, hunit⟩ := List.mem_flatMap.mp hunit
    obtain ⟨parts, -, rfl⟩ := List.mem_map.mp hmade
    unfold discoverPath at hunit
    split at hunit
    · cases hunit
    · dsimp only at hunit
      split at hunit
      · rename_i himportable
        obtain rfl := List.mem_singleton.mp hunit
        exact himportable
      · cases hunit
  · cases h
  · obtain rfl := Except.ok.inj h
    cases hunit

/-- The module of a source that is kept is found under its name. -/
theorem Keeps.get?_index {units : List SourceUnit} (hkeeps : Keeps tree root units sources)
    {source : Source} (hsource : source ∈ sources) :
    Keyed.get? (source.index markers).name (modulesOf markers sources) =
      some (source.index markers) :=
  (get?_modulesOf hkeeps.nodup).mpr ⟨source, hsource, source.name_index.symm, rfl⟩

/-- The modules of the sources that a scan keeps have names that start with a name. -/
theorem Keeps.isFronted {found : Discovery} (hkeeps : Keeps tree root found.units sources)
    (hfound : discover tree root = .ok found) {source : Source} (hsource : source ∈ sources) :
    (source.index markers).IsFronted :=
  source.isFronted (hkeeps.isIn source hsource)
    (isImportable_of_discover hfound (hkeeps.mem_units hsource))

/-- The modules that a scan keeps are known by their names, which start with a name. -/
theorem Keeps.areFronted {found : Discovery} (hkeeps : Keeps tree root found.units sources)
    (hfound : discover tree root = .ok found) : (modulesOf markers sources).AreFronted where
  name name index hindex := by
    obtain ⟨source, -, rfl, rfl⟩ := (get?_modulesOf hkeeps.nodup).mp hindex
    exact source.name_index
  fronted name index hindex := by
    obtain ⟨source, hsource, -, rfl⟩ := (get?_modulesOf hkeeps.nodup).mp hindex
    exact hkeeps.isFronted hfound hsource

/-- A class that is declared outside of functions in the source of its package, or a name no front
part of which is the module of a source. -/
def IsPlaced (sources : List Source) (name : QualifiedName) : Prop :=
  (∃ source ∈ sources, source.unit.module = name.package ∧
    ∃ declared ∈ declarations source.statements, declared.kind = .topClass ∧
      declared.path = name.simpleNames) ∨
  ∀ front ∈ ModuleIndex.dottedPrefixes name.dotted, front ∉ sources.map (·.unit.module)

/-- A class that is placed among the modules of sources is placed among the sources. -/
theorem isPlaced_of_places (hnodup : (sources.map (·.unit.module)).Nodup) {name : QualifiedName}
    (h : (modulesOf markers sources).Places name) : IsPlaced sources name := by
  refine h.imp ?_ fun houtside front hfront => ?_
  · rintro ⟨owner, howner, hclass⟩
    obtain ⟨source, hsource, hmodule, rfl⟩ := (get?_modulesOf hnodup).mp howner
    exact ⟨source, hsource, hmodule, hasClass_index_iff.mp hclass⟩
  · rw [← keys_modulesOf markers]
    exact Keyed.get?_eq_none_iff.mp (houtside front hfront)

/-- The last step to a class above a name is a base edge to it, unless it is the object class. -/
theorem IsAbove.eq_object_or_hasBase {name base : QualifiedName}
    (h : IsAbove (HasBase markers sources) name base) :
    base = .object ∨ ∃ below, HasBase markers sources below base := by
  refine h.imp_right fun hreached => ?_
  obtain ⟨below, -, hedge⟩ := Relation.TransGen.tail'_iff.mp hreached
  exact ⟨below, hedge⟩

end Scan

end Project

open Project

/-- In the modules that a scan comes to, whatever expression is written in whatever scope, the class
that it stands for is declared outside of functions in the module of its package, or no front part of
its name is a module. So are the supertypes of every marked class, apart from the object class that
each has without a reference, and the interface of every manifest that a successful round over the
scan makes. -/
theorem references_lead_to_placed_classes {tree : Disk.Tree} {root : Path} {markers : List String}
    {modules : Modules} (hscan : (scan tree root markers).outcome = .ok modules) :
    ∃ found sources, discover tree (root.absolute tree.here) = .ok found ∧
      modules = modulesOf markers sources ∧
      Keeps tree (root.absolute tree.here) found.units sources ∧
      (∀ source ∈ sources, ∀ scope expr name,
        StandsFor modules (source.index markers) scope expr name → IsPlaced sources name) ∧
      (∀ occurrences, modules.occurrences = .ok occurrences → ∀ occurrence ∈ occurrences,
        ∀ base ∈ occurrence.declaration.supertypes, base = .object ∨ IsPlaced sources base) ∧
      ∀ (σ : Type) (processor : Processor σ) (artifacts : List Artifact),
        (processor.process (scan tree root markers).resolution).outcome = .ok artifacts →
          ∀ artifact ∈ artifacts, ∃ name : QualifiedName,
            name.binary = artifact.interface ∧ IsPlaced sources name := by
  obtain ⟨found, sources, hfound, rfl, hkeeps⟩ := exists_keeps_of_scan hscan
  have hplaced (source : Source) (hsource : source ∈ sources) (scope : ClassPath) (expr : Source.Expr)
      (name : QualifiedName)
      (hstands : StandsFor (modulesOf markers sources) (source.index markers) scope expr name) :
      IsPlaced sources name :=
    isPlaced_of_places hkeeps.nodup
      ((hkeeps.areFronted hfound).places_of_standsFor (hkeeps.isFronted hfound hsource) hstands)
  refine ⟨found, sources, hfound, rfl, hkeeps, hplaced, ?_, ?_⟩
  · intro occurrences hoccurrences occurrence hmem base hbase
    refine (isAbove_of_mem_occurrences hoccurrences hmem hbase).eq_object_or_hasBase.imp_right ?_
    rintro ⟨below, source, hsource, -, declared, -, -, -, expr, -, hstands⟩
    exact hplaced source hsource _ expr base hstands
  · intro σ processor artifacts hround artifact hartifact
    obtain ⟨-, occurrences, hresolution, hsound, hmanifests⟩ :=
      Processor.exists_occurrences_of_process hround
    obtain ⟨_, hsame, hoccurrences⟩ := resolution_eq_ok hresolution
    obtain rfl := Except.ok.inj (hsame.symm.trans hscan)
    obtain ⟨-, -, hne, hproviders⟩ := hmanifests artifact hartifact
    obtain ⟨provider, hprovider⟩ := List.exists_mem_of_ne_nil _ hne
    obtain ⟨unit, occurrence, hmem, hcontributes⟩ := hproviders provider hprovider
    obtain ⟨source, hsource, declared, decorator, -, hreports⟩ :=
      exists_marks_of_mem hoccurrences hmem
    obtain ⟨-, -, expr, -, name, hstands, hname⟩ :=
      (hreports.contributes_iff (hsound occurrence hmem) _ _).mp hcontributes
    exact ⟨name, hname, hplaced source hsource _ expr name hstands⟩

/-- A package that hands on, under another name, the class that one of its modules has, and a provider
marked with that name. -/
def handedOn : Disk.Tree :=
  ⟨[(["api"], .folder),
    (["api", "__init__.py"], .file "from .base import Codec as Plugin\n".toUTF8),
    (["api", "base.py"], .file "class Codec: pass\n".toUTF8),
    (["m.py"], .file
      "from autoservice import auto_service\nimport api\n@auto_service(api.Plugin)\nclass A: pass\n".toUTF8)],
    []⟩

/-- A round over the package and the provider. -/
def handedOnRound : Answer MemoryStore (List Artifact) :=
  (Processor.start ⟨false, false⟩ MemoryStore.artifactStore .empty).process
    (scan handedOn ⟨"/", []⟩ defaultMarkers).resolution

/-- The manifest is that of the class itself, which stands in the module of its package. -/
theorem handedOnRound_interface_is_placed :
    (match handedOnRound.outcome with
      | .ok artifacts => artifacts.map (·.interface)
      | .error _ => []) = ["api.base.Codec"] ∧
    ∃ sources, (scan handedOn ⟨"/", []⟩ defaultMarkers).outcome =
        .ok (modulesOf defaultMarkers sources) ∧
      ∃ name : QualifiedName, name.binary = "api.base.Codec" ∧ IsPlaced sources name := by
  have hround : (match handedOnRound.outcome with
      | .ok artifacts => artifacts.map (·.interface)
      | .error _ => []) = ["api.base.Codec"] := by decide +kernel
  refine ⟨hround, ?_⟩
  have hok : (scan handedOn ⟨"/", []⟩ defaultMarkers).outcome.isOk = true := by decide +kernel
  cases hscan : (scan handedOn ⟨"/", []⟩ defaultMarkers).outcome with
  | error failure =>
    rw [hscan] at hok
    cases hok
  | ok modules =>
    obtain ⟨found, sources, -, rfl, -, -, -, hmanifests⟩ := references_lead_to_placed_classes hscan
    split at hround
    · rename_i artifacts houtcome
      obtain ⟨artifact, rfl, hinterface⟩ := List.map_eq_singleton_iff.mp hround
      obtain ⟨name, hname, hplaced⟩ := hmanifests _ _ _ houtcome artifact List.mem_cons_self
      exact ⟨sources, rfl, name, hname.trans hinterface, hplaced⟩
    · cases hround

end ServiceManifest
