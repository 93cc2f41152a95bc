import ServiceManifest.Proofs.Project.Kept
import ServiceManifest.Proofs.Project.Same
import ServiceManifest.Proofs.Project.Walk

/-!
# A project with fewer sources

Some sources of a project may be gone while the others are what they were. A scan then keeps sources
that were kept before, unless a unit that had been passed over is now the last one of its module; and
it keeps every source that was kept before and is still there.
-/

namespace ServiceManifest.Project

open ServiceManifest.Source

/-- Of the sources of a project some remain. -/
structure Remain (sources remaining : List Source) : Prop where
  mem : ∀ source ∈ remaining, source ∈ sources
  nodup : (sources.map (·.unit.module)).Nodup
  nodupRemaining : (remaining.map (·.unit.module)).Nodup

section Remain

variable {markers : List String} {sources remaining : List Source}

/-- The module of a source under its name. -/
theorem get?_modulesOf (hnodup : (sources.map (·.unit.module)).Nodup) {name : String}
    {index : ModuleIndex} :
    Keyed.get? name (modulesOf markers sources) = some index ↔
      ∃ source ∈ sources, source.unit.module = name ∧ source.index markers = index := by
  rw [Keyed.get?_eq_some_iff (by rwa [keys_modulesOf])]
  simp only [modulesOf, named, List.map_map, List.mem_map, Function.comp_apply, Prod.mk.injEq,
    Source.name_index]

/-- The modules of the sources that remain are within those of all sources. -/
theorem Remain.isWithin (h : Remain sources remaining) (markers : List String) :
    (modulesOf markers remaining).IsWithin (modulesOf markers sources) where
  named name index hindex := by
    obtain ⟨source, -, rfl, rfl⟩ := (get?_modulesOf h.nodup).mp hindex
    exact source.name_index
  kept name index hindex := by
    obtain ⟨source, hsource, hname, hsame⟩ := (get?_modulesOf h.nodupRemaining).mp hindex
    exact (get?_modulesOf h.nodup).mpr ⟨source, h.mem source hsource, hname, hsame⟩
  nodup := by rw [keys_modulesOf]; exact h.nodupRemaining
  nodupOthers := by rw [keys_modulesOf]; exact h.nodup

end Remain

section Scans

variable {tree other : Disk.Tree} {root otherRoot : Path} {digests known : Keyed String}
  {contents : Set ByteArray} {markers : List String} {modules others : Modules}

/-- The units of the sources that a scan keeps are among those below its root. -/
theorem Sources.exists_kept (h : Sources tree root digests contents) (hsound : tree.IsSound)
    (hscan : (scan tree root markers).outcome = .ok modules) :
    ∃ sources, modules = modulesOf markers sources ∧
      Keeps tree (root.absolute tree.here)
        ((unitPaths tree (root.absolute tree.here).parts).map unitAt) sources := by
  obtain ⟨found, sources, hfound, hmodules, hkeeps⟩ := exists_keeps_of_scan hscan
  have hlookup := hsound.lookup_absolute (h.lookup hsound)
  rw [if_pos (h.read_of_scan hsound hscan).1] at hlookup
  obtain ⟨same, hsame, hunits⟩ := discover_of_lookup hlookup
  obtain rfl := Except.ok.inj (hsame.symm.trans hfound)
  exact ⟨sources, hmodules, hunits ▸ hkeeps⟩

/-- The unit of a source that is kept is one of the units. -/
theorem Keeps.mem_units {units : List SourceUnit} {sources : List Source}
    (h : Keeps tree root units sources) {source : Source} (hsource : source ∈ sources) :
    source.unit ∈ units := by
  obtain ⟨before, after, rfl, -⟩ := (h.units source.unit).mp (List.mem_map_of_mem hsource)
  simp

/-- Two sources of one unit are the same if its files hold the same. -/
theorem Source.eq_of_isIn {source past : Source} (hsource : source.IsIn tree root)
    (hpast : past.IsIn other root) (hunit : source.unit = past.unit)
    (hread : tree.read (root.join (Path.ofString source.unit.path)) =
      other.read (root.join (Path.ofString source.unit.path))) : source = past := by
  obtain ⟨bytes, hbytes, hstatements, hpackage⟩ := hsource
  obtain ⟨old, hold, hstatementsOld, hpackageOld⟩ := hpast
  rw [hread, hunit, hold] at hbytes
  obtain rfl := Except.ok.inj hbytes
  obtain ⟨unit, isPackage, statements⟩ := source
  obtain ⟨pastUnit, pastPackage, pastStatements⟩ := past
  obtain rfl : unit = pastUnit := hunit
  obtain rfl : statements = pastStatements := Option.some.inj (hstatements.symm.trans hstatementsOld)
  obtain rfl : isPackage = pastPackage := Bool.eq_iff_iff.mpr (by rw [hpackage, hpackageOld])
  rfl

/-- A scan of fewer sources, of which none is new or changed, keeps sources that a scan of all of them
keeps, unless it keeps a unit that was passed over then. -/
theorem exists_remain (hsound : tree.IsSound) (hother : other.IsSound)
    (hsources : Sources tree root digests contents)
    (hknown : Sources other otherRoot known contents)
    (hroot : root.absolute tree.here = otherRoot.absolute other.here)
    (hcontents : Set.InjOn (fun bytes : ByteArray => Digest.sha256 bytes.toList) contents)
    (hless : ∀ path digest, Keyed.get? path digests = some digest →
      Keyed.get? path known = some digest)
    (hscan : (scan tree root markers).outcome = .ok modules)
    (hscanOther : (scan other otherRoot markers).outcome = .ok others)
    (hunits : ∀ unit ∈ modules.units, unit ∈ others.units) :
    ∃ sources remaining, others = modulesOf markers sources ∧ modules = modulesOf markers remaining ∧
      Remain sources remaining ∧ ∀ source ∈ sources, source.unit.path ∈ Keyed.keys known ∧
        (source.unit.path ∈ Keyed.keys digests → source ∈ remaining) := by
  obtain ⟨remaining, rfl, hkeeps⟩ := hsources.exists_kept hsound hscan
  obtain ⟨sources, rfl, hkept⟩ := hknown.exists_kept hother hscanOther
  obtain ⟨hshort, -, -⟩ := hsources.read_of_scan hsound hscan
  obtain ⟨-, -, hreads⟩ := hknown.read_of_scan hother hscanOther
  have hdigests := hsources.digestsOf hsound
  have hmem : ∀ source ∈ remaining, source ∈ sources := by
    intro source hsource
    have hunit : source.unit ∈ (modulesOf markers remaining).units :=
      mem_units_modulesOf.mpr (List.mem_map_of_mem (f := (·.unit)) hsource)
    obtain ⟨past, hpast, heq⟩ := List.mem_map.mp (mem_units_modulesOf.mp (hunits _ hunit))
    have hnow := hkeeps.mem_units hsource
    have hthen := hkept.mem_units hpast
    obtain ⟨digest, hdigest⟩ := Option.isSome_iff_exists.mp
      (Keyed.get?_isSome_iff.mpr ((hdigests.paths _).mpr ⟨_, hnow, rfl⟩))
    have hread := read_eq_of_digest hsound hother hsources hknown hroot hcontents hshort hnow
      (heq ▸ hthen) (hdigest.trans (hless _ _ hdigest).symm) (hreads _ (heq ▸ hthen))
    rw [← hroot] at hread hkept
    rwa [Source.eq_of_isIn (hkeeps.isIn source hsource) (hkept.isIn past hpast) heq.symm hread]
  refine ⟨sources, remaining, rfl, rfl, ⟨hmem, hkept.nodup, hkeeps.nodup⟩, fun source hsource =>
    ⟨((hknown.digestsOf hother).paths _).mpr ⟨_, hkept.mem_units hsource, rfl⟩, fun hpath => ?_⟩⟩
  -- its unit is still there, and no other unit of its module is kept
  obtain ⟨unit, hunit, hsame⟩ := (hdigests.paths _).mp hpath
  obtain ⟨parts, hparts, rfl⟩ := List.mem_map.mp hunit
  obtain ⟨past, hpast, hunitPast⟩ := List.mem_map.mp (hkept.mem_units hsource)
  rw [← hunitPast] at hsame
  obtain ⟨hends, hmakes⟩ := makesUnit_of_mem hparts
  obtain ⟨hendsPast, hmakesPast⟩ := makesUnit_of_mem hpast
  obtain rfl := parts_eq_of_path_eq hends hendsPast hmakes hmakesPast hsame
  obtain ⟨last, -, hlast, hmodule⟩ := exists_isLast hunit
  obtain ⟨kept, hmemKept, rfl⟩ := List.mem_map.mp ((hkeeps.units last).mpr hlast)
  rw [hunitPast] at hmodule
  rwa [← List.inj_on_of_nodup_map hkept.nodup (hmem kept hmemKept) hsource hmodule]

end Scans

end ServiceManifest.Project
