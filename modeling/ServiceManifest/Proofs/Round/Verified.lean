import ServiceManifest.Proofs.Project.Ancestors
import ServiceManifest.Proofs.Round.Exact

/-!
# What verification is worth

A verifying round takes the supertypes of an occurrence at their word, and these are computed with
closures that are shared and may be provisional. Whatever the bases are, cyclic ones included, a
round that succeeds lists a class under an interface only if it is the interface, the interface is
the object class, or base edges lead from the class to the interface.
-/

namespace ServiceManifest

open Ascending Grouping Project

namespace Processor

variable {σ : Type}

/-- A round that succeeds has created the manifests of what the occurrences contribute, each under
the path of its interface and with its providers as lines. -/
theorem exists_occurrences_of_process {processor : Processor σ} {resolution : Resolution}
    {artifacts : List Artifact} (h : (processor.process resolution).outcome = .ok artifacts) :
    Creates processor.store processor.state artifacts
        (processor.process resolution).processor.state ∧
      ∃ occurrences, resolution.outcome = .ok occurrences ∧
        (∀ occurrence ∈ occurrences, occurrence.IsSound processor.options.verify) ∧
        ∀ artifact ∈ artifacts, artifact.path = Manifest.path artifact.interface ∧
          artifact.content = Manifest.render artifact.implementers ∧ artifact.implementers ≠ [] ∧
            ∀ provider ∈ artifact.implementers, ∃ unit, ∃ occurrence ∈ occurrences,
              occurrence.Contributes artifact.interface (provider, unit) := by
  obtain ⟨hcreates, occurrences, grouping, hresolution, rfl, hordered, hsound, hentries⟩ :=
    exists_grouping_of_process h
  refine ⟨hcreates, occurrences, hresolution, hsound, fun artifact hartifact => ?_⟩
  obtain ⟨interface, hkey, rfl⟩ := List.mem_map.mp hartifact
  have hprovider (provider : String) :
      provider ∈ texts ((grouping.entries interface).map (·.1)) ↔
        ∃ unit, ∃ occurrence ∈ occurrences, occurrence.Contributes interface (provider, unit) := by
    simp only [texts, mem_ofList textBefore_isOrder, List.mem_map, Prod.exists, exists_and_right,
      exists_eq_right, hentries]
  refine ⟨rfl, rfl, ?_, fun provider hmem => (hprovider provider).mp hmem⟩
  obtain ⟨entry, hentry⟩ := (mem_keys_iff hordered interface).mp hkey
  exact List.ne_nil_of_mem
    ((hprovider entry.1).mpr ⟨entry.2, (hentries interface entry).mp hentry⟩)

end Processor

section Verified

variable {markers : List String} {sources : List Source} {occurrences : List Occurrence}

/-- What a sound occurrence contributes to an interface under verification is the class of a
declaration that is the interface or is below it. -/
theorem isAbove_of_contributes (h : (modulesOf markers sources).occurrences = .ok occurrences)
    {occurrence : Occurrence} (hmem : occurrence ∈ occurrences) (hsound : occurrence.IsSound true)
    {interface provider : String} {unit : SourceUnit}
    (hcontributes : occurrence.Contributes interface (provider, unit)) :
    ∃ name base : QualifiedName, name.binary = provider ∧ base.binary = interface ∧
      (base = name ∨ IsAbove (HasBase markers sources) name base) := by
  obtain ⟨hclass, hentry, refs, hlisted, ref, href, base, hclosest, rfl⟩ := hcontributes
  obtain ⟨rfl, rfl⟩ := Prod.mk.inj hentry
  obtain ⟨-, refs', hlisted', -, hall⟩ := hsound hclass
  obtain rfl : refs = refs' := Option.some.inj (hlisted.symm.trans hlisted')
  obtain ⟨base', hclosest', hmay⟩ := hall ref href
  obtain rfl : base = base' := Option.some.inj (hclosest.symm.trans hclosest')
  refine ⟨occurrence.declaration.name, base, rfl, rfl, ?_⟩
  simp only [Declaration.mayProvide, Declaration.implements, Bool.not_true, Bool.false_or,
    Bool.or_eq_true, decide_eq_true_eq, List.contains_iff_mem] at hmay
  rcases hmay with (hself | hobject) | hsuper
  · exact Or.inl hself
  · exact Or.inr (Or.inl hobject)
  · exact Or.inr (isAbove_of_mem_occurrences h hmem hsuper)

end Verified

/-- A verifying round that succeeds, whatever its store, has scanned the last units of the modules of
a project and has created manifests with nothing but sound lines: of every class listed under an
interface there are qualified names of both such that the interface is the class itself, the object
class, or reached from the class by base edges. -/
theorem verified_round_lists_only_descendants {σ : Type} {processor : Processor σ}
    {tree : Disk.Tree} {root : Path} {markers : List String} {artifacts : List Artifact}
    (hverify : processor.options.verify = true)
    (hround : (processor.process (scan tree root markers).resolution).outcome = .ok artifacts) :
    ∃ found sources, discover tree (root.absolute tree.here) = .ok found ∧
      (scan tree root markers).outcome = .ok (modulesOf markers sources) ∧
      Keeps tree (root.absolute tree.here) found.units sources ∧
      Creates processor.store processor.state artifacts
        (processor.process (scan tree root markers).resolution).processor.state ∧
      ∀ artifact ∈ artifacts, artifact.path = Manifest.path artifact.interface ∧
        artifact.content = Manifest.render artifact.implementers ∧
          ∀ provider ∈ artifact.implementers, ∃ name base : QualifiedName,
            name.binary = provider ∧ base.binary = artifact.interface ∧
              (base = name ∨ base = .object ∨
                Relation.TransGen (HasBase markers sources) name base) := by
  obtain ⟨hcreates, occurrences, hresolution, hsound, hmanifests⟩ :=
    Processor.exists_occurrences_of_process hround
  obtain ⟨modules, hscan, hoccurrences⟩ := resolution_eq_ok hresolution
  obtain ⟨found, sources, hfound, rfl, hkeeps⟩ := exists_keeps_of_scan hscan
  refine ⟨found, sources, hfound, hscan, hkeeps, hcreates, fun artifact hartifact => ?_⟩
  obtain ⟨hpath, hcontent, -, hproviders⟩ := hmanifests artifact hartifact
  refine ⟨hpath, hcontent, fun provider hprovider => ?_⟩
  obtain ⟨unit, occurrence, hmem, hcontributes⟩ := hproviders provider hprovider
  exact isAbove_of_contributes hoccurrences hmem (hverify ▸ hsound occurrence hmem) hcontributes

/-- A module in which two classes are bases of each other, with a provider below them. -/
def cyclicBases : Disk.Tree :=
  ⟨[(["a.py"], .file
    "from autoservice import auto_service\nclass J(K): pass\nclass K(J): pass\n@auto_service(J)\nclass A(K): pass\n".toUTF8)],
    []⟩

/-- A verifying round over the cycle. -/
def cyclicRound : Answer MemoryStore (List Artifact) :=
  (Processor.start ⟨true, false⟩ MemoryStore.artifactStore .empty).process
    (scan cyclicBases ⟨"/", []⟩ defaultMarkers).resolution

/-- The round lists the provider under the interface that it reaches through the cycle, and rightly
so. -/
theorem cyclicRound_lists_descendant :
    (match cyclicRound.outcome with
      | .ok artifacts => artifacts.map fun artifact => (artifact.interface, artifact.implementers)
      | .error _ => []) = [("a.J", ["a.A"])] ∧
    ∃ sources, (scan cyclicBases ⟨"/", []⟩ defaultMarkers).outcome =
        .ok (modulesOf defaultMarkers sources) ∧
      ∃ name base : QualifiedName, name.binary = "a.A" ∧ base.binary = "a.J" ∧
        (base = name ∨ base = .object ∨
          Relation.TransGen (HasBase defaultMarkers sources) name base) := by
  have hround : (match cyclicRound.outcome with
      | .ok artifacts => artifacts.map fun artifact => (artifact.interface, artifact.implementers)
      | .error _ => []) = [("a.J", ["a.A"])] := by decide +kernel
  refine ⟨hround, ?_⟩
  split at hround
  · rename_i artifacts houtcome
    obtain ⟨artifact, rfl, hartifact⟩ := List.map_eq_singleton_iff.mp hround
    obtain ⟨hinterface, himplementers⟩ := Prod.mk.inj hartifact
    obtain ⟨-, sources, -, hscan, -, -, hlisted⟩ :=
      verified_round_lists_only_descendants rfl houtcome
    obtain ⟨-, -, hproviders⟩ := hlisted artifact List.mem_cons_self
    obtain ⟨name, base, hname, hbase, habove⟩ := hproviders "a.A" (by simp [himplementers])
    exact ⟨sources, hscan, name, base, hname, hbase.trans hinterface, habove⟩
  · cases hround

end ServiceManifest
