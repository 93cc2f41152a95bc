import Mathlib.Data.Set.Function
import ServiceManifest.Proofs.Digest.Snapshot
import ServiceManifest.Proofs.Disk.Sound
import ServiceManifest.Proofs.Project.Scan
import ServiceManifest.Proofs.Project.Units

/-!
# What a scan hangs on

A scan hangs on its markers only by which names are among them, and on the files only by the units
that it discovers and by their contents. Both can be told from the digests of the sources, if digests
tell the contents apart.
-/

namespace ServiceManifest.Project

/-- Markers with the same names mark the same declarations. -/
theorem isMarker_congr {markers others : List String} (h : ∀ name, name ∈ markers ↔ name ∈ others)
    (index : ModuleIndex) (scope : ClassPath) (decorator : Source.Expr) :
    index.isMarker markers scope decorator = index.isMarker others scope decorator := by
  have hcontains (name : String) : markers.contains name = others.contains name := by
    rw [Bool.eq_iff_iff, List.contains_iff_mem, List.contains_iff_mem, h]
  unfold ModuleIndex.isMarker
  simp only [hcontains]

/-- Markers with the same names make the same index of a module. -/
theorem indexModule_congr {markers others : List String} (h : ∀ name, name ∈ markers ↔ name ∈ others)
    (unit : SourceUnit) (isPackage : Bool) (statements : List Source.Statement) :
    indexModule markers unit isPackage statements = indexModule others unit isPackage statements := by
  have hvisit : Declared.visitIn markers = Declared.visitIn others := by
    funext index declared
    simp only [Declared.visitIn, ModuleIndex.addCandidates, funext (isMarker_congr h _ _)]
  unfold indexModule
  simp only [visitAll_eq_foldl, hvisit]

section Read

variable {tree other : Disk.Tree} {root : Path} {markers others : List String}

/-- Units with the same contents are read to the same indices. -/
theorem readModules_congr (hmarkers : ∀ name, name ∈ markers ↔ name ∈ others)
    {units : List SourceUnit}
    (hread : ∀ unit ∈ units, tree.read (root.join (Path.ofString unit.path)) =
      other.read (root.join (Path.ofString unit.path))) (modules : Modules) :
    readModules tree root markers units modules = readModules other root others units modules := by
  induction units generalizing modules with
  | nil => rfl
  | cons unit rest ih =>
    have hunit : readModule tree root markers unit = readModule other root others unit := by
      unfold readModule
      simp only [hread unit List.mem_cons_self, indexModule_congr hmarkers]
    rw [readModules, readModules, hunit]
    cases readModule other root others unit with
    | error failure => rfl
    | ok index => exact ih (fun next hnext => hread next (List.mem_cons_of_mem unit hnext)) _

/-- A scan comes to the same with markers of the same names. -/
theorem scan_outcome_congr (hmarkers : ∀ name, name ∈ markers ↔ name ∈ others) :
    (scan tree root markers).outcome = (scan tree root others).outcome := by
  simp only [scan]
  split
  · rfl
  · exact readModules_congr hmarkers (fun _ _ => rfl) []

end Read

/-- What is discovered below a folder are the units at the paths that make units. -/
theorem discover_of_lookup {tree : Disk.Tree} {root : Path} {folder : Disk.Place}
    (h : tree.lookup root = .ok (folder, .folder)) :
    ∃ found, discover tree root = .ok found ∧ found.units = (unitPaths tree folder).map unitAt := by
  unfold discover
  rw [h]
  exact ⟨_, rfl, units_eq_map tree folder⟩

/-- Sources below a root whose digests are known and whose contents are among some. -/
structure Sources (tree : Disk.Tree) (root : Path) (digests : Keyed String)
    (contents : Set ByteArray) : Prop where
  folder : tree.isFolder? root = .ok true
  snapshot : ∃ found, discover tree root = .ok found ∧
    Digest.snapshot tree root found.units = .ok digests
  contents : ∀ path ∈ Keyed.keys digests, ∀ bytes,
    tree.read (root.join (Path.ofString path)) = .ok bytes → bytes ∈ contents

section Sources

variable {tree : Disk.Tree} {root : Path} {digests : Keyed String} {contents : Set ByteArray}

/-- The root of sources is the folder at the place of its absolute form. -/
theorem Sources.lookup (h : Sources tree root digests contents) (hsound : tree.IsSound) :
    tree.lookup root = .ok ((root.absolute tree.here).parts, .folder) := by
  have hfolder := h.folder
  unfold Disk.Tree.isFolder? at hfolder
  split at hfolder
  · rename_i place hlookup
    rw [hlookup, (hsound.locate_spec (Disk.Tree.lookup_eq_ok_iff.mp hlookup).1).1]
  all_goals cases hfolder

/-- The digests of sources are those of the units below the root. -/
theorem Sources.digestsOf (h : Sources tree root digests contents) (hsound : tree.IsSound) :
    Digest.DigestsOf tree root
      ((unitPaths tree (root.absolute tree.here).parts).map unitAt) digests := by
  obtain ⟨found, hfound, hdigests⟩ := h.snapshot
  obtain ⟨same, hsame, hunits⟩ := discover_of_lookup (h.lookup hsound)
  rw [hfound] at hsame
  cases hsame
  exact hunits ▸ Digest.digestsOf_snapshot hdigests

/-- If a scan comes to modules, its root is not too long, and it has read every unit. -/
theorem Sources.read_of_scan (h : Sources tree root digests contents) (hsound : tree.IsSound)
    {markers : List String} {modules : Modules}
    (hscan : (scan tree root markers).outcome = .ok modules) :
    Disk.Tree.IsShort (root.absolute tree.here) ∧
      readModules tree (root.absolute tree.here) markers
          ((unitPaths tree (root.absolute tree.here).parts).map unitAt) [] = .ok modules ∧
        ∀ unit ∈ (unitPaths tree (root.absolute tree.here).parts).map unitAt,
          ∃ bytes, tree.read ((root.absolute tree.here).join (Path.ofString unit.path)) =
            .ok bytes := by
  have hlookup := hsound.lookup_absolute (h.lookup hsound)
  simp only [scan] at hscan
  by_cases hshort : Disk.Tree.IsShort (root.absolute tree.here)
  · rw [if_pos hshort] at hlookup
    obtain ⟨found, hfound, hunits⟩ := discover_of_lookup hlookup
    simp only [hfound, hunits] at hscan
    refine ⟨hshort, hscan, fun unit hunit => ?_⟩
    obtain ⟨indices, hreads, -⟩ := readModules_eq_ok_iff.mp hscan
    obtain ⟨index, -, hindex⟩ := exists_right_of_forall₂ hreads hunit
    obtain ⟨bytes, -, hread, -⟩ := readModule_eq_ok_iff.mp hindex
    exact ⟨bytes, hread⟩
  · rw [if_neg hshort] at hlookup
    simp [discover, hlookup] at hscan

/-- A unit is read below the absolute form of its root as it is below the root. -/
theorem Sources.read_absolute (h : Sources tree root digests contents) (hsound : tree.IsSound)
    (hshort : Disk.Tree.IsShort (root.absolute tree.here)) {path : Path} {bytes : ByteArray}
    (hread : tree.read (root.join path) = .ok bytes)
    (hlength : ((root.absolute tree.here).join path).toString.utf8ByteSize ≤ Disk.pathLimit) :
    tree.read ((root.absolute tree.here).join path) = .ok bytes := by
  unfold Disk.Tree.read at hread
  split at hread
  · rename_i place found hlookup
    have hjoined := hsound.lookup_join (h.lookup hsound) hshort hlookup hlength
    rw [Disk.Tree.read, hjoined, ← hread]
  · cases hread
  · cases hread

end Sources

section Same

variable {tree other : Disk.Tree} {root otherRoot : Path} {digests known : Keyed String}
  {contents : Set ByteArray}

/-- Sources with the same digests are the same units. -/
theorem units_eq_of_digests (hsound : tree.IsSound) (hother : other.IsSound)
    (hsources : Sources tree root digests contents)
    (hknown : Sources other otherRoot known contents)
    (hroot : root.absolute tree.here = otherRoot.absolute other.here)
    (hsame : ∀ path, Keyed.get? path digests = Keyed.get? path known) :
    (unitPaths tree (root.absolute tree.here).parts).map unitAt =
      (unitPaths other (otherRoot.absolute other.here).parts).map unitAt := by
  have hdigests := hsources.digestsOf hsound
  have hothers := hknown.digestsOf hother
  rw [← hroot] at hothers ⊢
  refine units_eq_of_paths hsound.nodup hother.nodup fun path => ?_
  rw [← hdigests.paths, ← hothers.paths, ← Keyed.get?_isSome_iff, ← Keyed.get?_isSome_iff, hsame]

/-- A unit of two sources that has the same digest in both has the same content, if digests tell the
contents of the sources apart. -/
theorem read_eq_of_digest (hsound : tree.IsSound) (hother : other.IsSound)
    (hsources : Sources tree root digests contents)
    (hknown : Sources other otherRoot known contents)
    (hroot : root.absolute tree.here = otherRoot.absolute other.here)
    (hcontents : Set.InjOn (fun bytes : ByteArray => Digest.sha256 bytes.toList) contents)
    (hshort : Disk.Tree.IsShort (root.absolute tree.here)) {unit : SourceUnit}
    (hunit : unit ∈ (unitPaths tree (root.absolute tree.here).parts).map unitAt)
    (hunitOther : unit ∈ (unitPaths other (otherRoot.absolute other.here).parts).map unitAt)
    (hdigest : Keyed.get? unit.path digests = Keyed.get? unit.path known)
    (hread : ∃ bytes, other.read ((otherRoot.absolute other.here).join (Path.ofString unit.path)) =
      .ok bytes) :
    tree.read ((root.absolute tree.here).join (Path.ofString unit.path)) =
      other.read ((otherRoot.absolute other.here).join (Path.ofString unit.path)) := by
  have hdigests := hsources.digestsOf hsound
  have hothers := hknown.digestsOf hother
  -- Both trees have a file for the unit, and these have the same digest.
  obtain ⟨bytes, hbytes, hnow⟩ := hdigests.exists_read hunit
  obtain ⟨old, hold, hpast⟩ := hothers.exists_read hunitOther
  have hpath := (hdigests.paths unit.path).mpr ⟨unit, hunit, rfl⟩
  have hpathOther := (hothers.paths unit.path).mpr ⟨unit, hunitOther, rfl⟩
  have hequal : bytes = old := by
    refine hcontents (hsources.contents _ hpath _ hbytes) (hknown.contents _ hpathOther _ hold) ?_
    rw [hdigest, hpast] at hnow
    exact (Option.some.inj hnow).symm
  obtain ⟨read, hread⟩ := hread
  have hlength : ((root.absolute tree.here).join (Path.ofString unit.path)).toString.utf8ByteSize ≤
      Disk.pathLimit := by
    rw [hroot]
    unfold Disk.Tree.read at hread
    split at hread
    · rename_i hlookup
      exact (Disk.Tree.locate_eq_ok_iff.mp (Disk.Tree.lookup_eq_ok_iff.mp hlookup).1).2.1
    · cases hread
    · cases hread
  rw [hsources.read_absolute hsound hshort hbytes hlength,
    hknown.read_absolute hother (hroot ▸ hshort) hold (hroot ▸ hlength), hequal]

/-- Scans of sources with the same digests come to the same modules, if digests tell the contents of
the sources apart and the markers have the same names. -/
theorem scan_outcome_of_digests (hsound : tree.IsSound) (hother : other.IsSound)
    (hsources : Sources tree root digests contents)
    (hknown : Sources other otherRoot known contents)
    (hroot : root.absolute tree.here = otherRoot.absolute other.here)
    (hcontents : Set.InjOn (fun bytes : ByteArray => Digest.sha256 bytes.toList) contents)
    (hsame : ∀ path, Keyed.get? path digests = Keyed.get? path known)
    {markers others : List String} (hmarkers : ∀ name, name ∈ markers ↔ name ∈ others)
    {modules : Modules} (hscan : (scan other otherRoot others).outcome = .ok modules) :
    (scan tree root markers).outcome = .ok modules := by
  obtain ⟨hshort, hmodules, hreads⟩ := hknown.read_of_scan hother hscan
  have hunits := units_eq_of_digests hsound hother hsources hknown hroot hsame
  have hlookup := hsound.lookup_absolute (hsources.lookup hsound)
  rw [hroot, if_pos hshort, ← hroot] at hlookup
  obtain ⟨found, hfound, hfoundUnits⟩ := discover_of_lookup hlookup
  simp only [scan, hfound, hfoundUnits, hunits]
  rw [← hmodules, hroot]
  refine readModules_congr hmarkers (fun unit hunit => ?_) []
  have hread := read_eq_of_digest hsound hother hsources hknown hroot hcontents (hroot ▸ hshort)
    (hunits ▸ hunit) hunit (hsame unit.path) (hreads unit hunit)
  rwa [hroot] at hread

end Same

end ServiceManifest.Project
