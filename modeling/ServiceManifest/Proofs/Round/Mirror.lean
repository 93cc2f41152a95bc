import ServiceManifest.Proofs.Round.Agree
import ServiceManifest.Proofs.Round.Exact
import ServiceManifest.Proofs.Store.Manifests

/-!
# A folder beside a store in memory

The manifests that a round makes in memory are manifests by ascending interface. A folder that holds
them has the same texts as the store in memory, each in a file of its own.
-/

namespace ServiceManifest

open Disk

/-- A folder of manifests has what a store in memory has: under the name of each interface the text
of its manifest, and no other files. -/
structure MemoryStore.IsMirrored (store : MemoryStore) (files : Files) (folder : Place) : Prop where
  paths : ∀ path ∈ Keyed.keys store.files, ∃ interface, path = Manifest.path interface
  files : ∀ rest, files (folder ++ rest) = flatFiles (fun interface =>
    (Keyed.get? (Manifest.path interface) store.files).map String.toUTF8) rest

/-- The manifests of a grouping in order are manifests. -/
theorem Grouping.areManifests {grouping : Grouping} (h : Grouping.IsOrdered grouping.groups) :
    AreManifests grouping.artifacts where
  ascending := by
    have hinterfaces : grouping.artifacts.map (·.interface) = grouping.keys := by
      simp [Grouping.artifacts, Artifact.ofEntries, Function.comp_def]
    rw [hinterfaces]
    exact h.interfaces.imp fun hlt => by simpa [Ascending.textBefore] using hlt
  path artifact hartifact := by
    obtain ⟨interface, -, rfl⟩ := List.mem_map.mp hartifact
    rfl

/-- The contents of a manifest among those of a grouping. -/
theorem Grouping.contentOf_artifacts (grouping : Grouping) (interface : String) :
    contentOf grouping.artifacts interface =
      ((grouping.artifacts.find? (·.path = Manifest.path interface)).map (·.content)).map
        String.toUTF8 := by
  rw [MemoryStore.find?_artifacts, contentOf, Grouping.artifacts]
  induction grouping.keys with
  | nil => rfl
  | cons key rest ih =>
    rw [List.map_cons, List.find?_cons]
    by_cases hkey : key = interface
    · simp [hkey, Artifact.ofEntries]
    · have hne : (Artifact.ofEntries key (grouping.entries key)).interface ≠ interface := hkey
      simp only [decide_eq_false hne, ih, List.mem_cons, Ne.symm hkey, false_or]

namespace Processor

variable {options : ProcessorOptions} {resolution : Resolution} {artifacts : List Artifact}

/-- A round in memory that succeeds makes manifests, and a folder that holds these mirrors its
store. -/
theorem areManifests_of_planned (h : planned options resolution = .ok artifacts) :
    AreManifests artifacts ∧ ∀ files folder, HoldsManifests files folder artifacts →
      ((start options MemoryStore.artifactStore .empty).process
        resolution).processor.state.IsMirrored files folder := by
  obtain ⟨occurrences, -, herror, -, hartifacts, hstate⟩ := process_eq_ok h
  have hordered : Grouping.IsOrdered (collect options.verify occurrences .empty).grouping.groups :=
    (collect_of_error_eq_none herror).1
  obtain ⟨-, hemitted, hkept⟩ := MemoryStore.emit_eq
    (collect options.verify occurrences .empty).grouping .empty
  obtain rfl := hemitted.symm.trans hartifacts
  refine ⟨Grouping.areManifests hordered, fun files folder hfiles => ?_⟩
  have hstore := hstate.trans hkept
  rw [hstore]
  refine ⟨(MemoryStore.holdsExactly_insertAll hordered).paths, fun rest => ?_⟩
  rw [hfiles rest]
  congr 1
  funext interface
  rw [Grouping.contentOf_artifacts]
  exact congrArg _ (MemoryStore.get?_insertAll_artifacts hordered _).1.symm

end Processor

end ServiceManifest
