import ServiceManifest.Proofs.Round.Mirror
import ServiceManifest.Proofs.Store.Ready

/-!
# A dry run and a build

Emitting a grouping below a root with nothing in it fails only if the disk refuses a manifest. Else
it leaves what emitting to memory keeps, each text in a file of its own and nothing beside them, with
the same artifacts and the same index. A manifest may even have the name of the draft of another: that
draft is gone before the manifest is written, because the other comes first.
-/

namespace ServiceManifest

open Disk

/-- The grouping of contributions to interfaces that were filed one after the other. -/
def Grouping.filed (contributions : List (String × Contribution)) : Grouping :=
  contributions.foldl (fun grouping entry => grouping.put entry.1 entry.2.1 entry.2.2) .empty

/-- A grouping of filed contributions is in order. -/
theorem Grouping.isOrdered_filed (contributions : List (String × Contribution)) :
    IsOrdered (filed contributions).groups :=
  List.foldlRecOn (motive := fun grouping : Grouping => IsOrdered grouping.groups) contributions _
    isOrdered_nil fun _ hordered entry _ => hordered.putGroup entry.1 entry.2

/-- A grouping after contributions were filed into it one after the other. -/
def Grouping.withAll (grouping : Grouping) (contributions : List (String × Contribution)) : Grouping :=
  contributions.foldl (fun grouping entry => grouping.put entry.1 entry.2.1 entry.2.2) grouping

/-- Filing contributions behind others files them into the grouping of these. -/
theorem Grouping.filed_append (contributions more : List (String × Contribution)) :
    filed (contributions ++ more) = (filed contributions).withAll more :=
  List.foldl_append

/-- A grouping of filed contributions has these and no others. -/
theorem Grouping.mem_entries_filed {contributions : List (String × Contribution)} {interface : String}
    {entry : Contribution} :
    entry ∈ (filed contributions).entries interface ↔ (interface, entry) ∈ contributions := by
  induction contributions using List.reverseRec with
  | nil => simp [filed, empty, entries]
  | append_singleton contributions last ih =>
    rw [filed_append, withAll, List.foldl_cons, List.foldl_nil,
      mem_entries_put (isOrdered_filed contributions), ih, List.mem_append, List.mem_singleton,
      or_comm]
    exact or_congr_right (by simp [Prod.ext_iff])

/-- The interfaces of the manifests of a grouping are its keys. -/
theorem Grouping.forall_mem_artifacts {grouping : Grouping} {p : String → Prop} :
    (∀ artifact ∈ grouping.artifacts, p artifact.interface) ↔ ∀ key ∈ grouping.keys, p key := by
  simp [Grouping.artifacts, Artifact.ofEntries]

namespace MemoryStore

/-- Keeping manifests at different paths appends them. -/
theorem insertAll_empty {artifacts : List Artifact} (hnodup : (artifacts.map (·.path)).Nodup) :
    (empty.insertAll artifacts).files =
        artifacts.map (fun artifact => (artifact.path, String.join artifact.pieces)) ∧
      (empty.insertAll artifacts).dependencies =
        artifacts.map fun artifact => (artifact.path, artifact.dependencies) := by
  have hputs (store : MemoryStore) : store.insertAll artifacts =
      ⟨Keyed.putAll (artifacts.map fun artifact => (artifact.path, String.join artifact.pieces))
          store.files,
        Keyed.putAll (artifacts.map fun artifact => (artifact.path, artifact.dependencies))
          store.dependencies⟩ := by
    clear hnodup
    induction artifacts generalizing store with
    | nil => rfl
    | cons artifact rest ih => exact ih (store.insert artifact.dependencies artifact.path artifact.pieces)
  rw [hputs]
  refine ⟨Keyed.putAll_of_nodup ?_, Keyed.putAll_of_nodup ?_⟩
  · simpa [Keyed.keys, Function.comp_def, empty] using hnodup
  · simpa [Keyed.keys, Function.comp_def, empty] using hnodup

end MemoryStore

/-- An emission to a folder is the replica of one to memory: it made the same artifacts with the same
index, and the folder of manifests has a file for each key, with the text that memory keeps for its
path, and nothing else. -/
structure Emission.IsReplica (built : Emission FolderStore) (kept : Emission MemoryStore)
    (keys : List String) (folder : Place) : Prop where
  artifacts : built.artifacts = kept.artifacts
  index : built.state.index = kept.state.index
  keys : Keyed.keys kept.state.files = keys.map Manifest.path
  entries : ∀ rest ≠ [], built.state.tree.entry? (folder ++ rest) =
    (flatFiles (fun key => (Keyed.get? (Manifest.path key) kept.state.files).map String.toUTF8)
      rest).map .file

section Emit

variable {root : Path} {tree : Tree} {store : FolderStore}

/-- A store that was opened has an absolute root. -/
theorem FolderStore.isRooted_of_openAt (hsound : tree.IsSound) (hopen : openAt root tree = .ok store) :
    store.IsRooted ∧ store = ofRoot root tree := by
  unfold openAt at hopen
  split at hopen
  · cases hopen
  · rename_i hnul
    obtain rfl := Except.ok.inj hopen
    exact ⟨⟨Path.anchor_absolute_ne root tree.here, Path.not_mem_parts_absolute root tree.here,
      hsound.hasNul_absolute (Bool.eq_false_iff.mpr hnul)⟩, rfl⟩

/-- A store that was opened below a root with nothing in it. -/
theorem FolderStore.isEmpty_of_openAt (hsound : tree.IsSound) (hopen : openAt root tree = .ok store)
    (hbelow : ∀ rest ≠ [], tree.entry? (store.root.parts ++ rest) = none) :
    store.IsEmpty ∧ store.root = root.absolute tree.here ∧ store.entries = [] := by
  obtain ⟨hrooted, rfl⟩ := isRooted_of_openAt hsound hopen
  exact ⟨⟨hrooted, hbelow⟩, rfl, rfl⟩

/-- Manifests that are created below a root with nothing in it are all that there is in their
folder. -/
theorem FolderStore.IsEmpty.entry?_of_creates (h : store.IsEmpty) (here : Place)
    (hroot : store.root = root.absolute here) (hentries : store.entries = [])
    {artifacts : List Artifact} (hmanifests : AreManifests artifacts)
    (hnames : ∀ artifact ∈ artifacts, Path.IsFileName artifact.interface) {last : FolderStore}
    (hcreates : Creates artifactStore store artifacts last) (rest : List String) (hrest : rest ≠ []) :
    last.tree.entry? (Manifest.place store.root ++ rest) =
      (flatFiles (contentOf artifacts) rest).map .file := by
  have hflat := (h.creates_iff hmanifests.path hnames).2 last hcreates rest hrest
  have hbefore (rest : List String) (bytes : ByteArray)
      (hbytes : store.tree.file? (Manifest.place (root.absolute here) ++ rest) = some bytes) :
      ∃ interface, rest = [interface] ∧ Manifest.path interface ∈ ([] : List String) := by
    have hnone := h.below (["META-INF", "services"] ++ rest) (by simp)
    rw [hroot, ← List.append_assoc, ← Manifest.place, Tree.entry?_of_file? hbytes] at hnone
    cases hnone
  -- Nothing has to be removed, so what was written is what is left.
  have hleft : Cleared last [] last := ⟨rfl, .refl, List.forall_mem_nil _, fun _ _ => rfl⟩
  have hholds := holdsManifests_of_cleared hroot hentries hmanifests
    (fun artifact hartifact => (hnames artifact hartifact).isName) (wrote_of_creates hcreates) hleft
    (List.forall_mem_nil _) hbefore
  rw [Tree.entry?_eq_map_file hflat, hroot, hholds rest]

/-- Emitting a grouping whose keys are names of files below a root with nothing in it fails only if
the disk refuses a manifest, and makes a replica of what emitting to memory makes otherwise. -/
theorem emission_below_empty_root_is_replica (contributions : List (String × Contribution))
    (hnames : ∀ key ∈ (Grouping.filed contributions).keys, Path.IsFileName key)
    (hsound : tree.IsSound) (hopen : FolderStore.openAt root tree = .ok store)
    (hbelow : ∀ rest ≠ [], tree.entry? (store.root.parts ++ rest) = none) :
    (emit MemoryStore.artifactStore (Grouping.filed contributions) .empty).failure = none ∧
      ((emit FolderStore.artifactStore (Grouping.filed contributions) store).failure = none ↔
        ∀ key ∈ (Grouping.filed contributions).keys, store.Takes key) ∧
      ((emit FolderStore.artifactStore (Grouping.filed contributions) store).failure = none →
        (emit FolderStore.artifactStore (Grouping.filed contributions) store).IsReplica
          (emit MemoryStore.artifactStore (Grouping.filed contributions) .empty)
          (Grouping.filed contributions).keys (Manifest.place store.root)) := by
  obtain ⟨hempty, hroot, hentries⟩ := FolderStore.isEmpty_of_openAt hsound hopen hbelow
  have hordered := Grouping.isOrdered_filed contributions
  have hmanifests := Grouping.areManifests hordered
  have hinterfaces := Grouping.forall_mem_artifacts.mpr hnames
  obtain ⟨hfailure, hartifacts, hstate⟩ :=
    MemoryStore.emit_eq (Grouping.filed contributions) .empty
  have hiff := (hempty.creates_iff hmanifests.path hinterfaces).1
  refine ⟨hfailure, ?_, fun hnone => ?_⟩
  · rw [emit_failure_eq_none_iff, hiff]
    exact Grouping.forall_mem_artifacts
  · rcases emit_outcome FolderStore.artifactStore (Grouping.filed contributions) store with
      ⟨⟨hcreates, -⟩, hbuilt⟩ | hstop
    · have hnodup := Grouping.nodup_path_artifacts hordered
      obtain ⟨hfiles, hdependencies⟩ := MemoryStore.insertAll_empty hnodup
      refine ⟨hbuilt.trans hartifacts.symm, ?_, ?_, fun rest hrest => ?_⟩
      · rw [hstate, FolderStore.index, MemoryStore.index, (FolderStore.wrote_of_creates hcreates).entries,
          hentries, FolderStore.registered_of_nodup hnodup, hdependencies, List.map_map]
        rfl
      · rw [hstate, hfiles, ← Grouping.map_path_artifacts, Keyed.keys, List.map_map]
        rfl
      · rw [hempty.entry?_of_creates tree.here hroot hentries hmanifests hinterfaces hcreates rest hrest,
          hstate]
        congr 2
        funext key
        rw [(MemoryStore.get?_insertAll_artifacts hordered _).1, Grouping.contentOf_artifacts]
    · obtain ⟨before, artifact, rest, -, last, fault, -, -, -, hstopped⟩ := hstop
      cases hnone.symm.trans hstopped

end Emit

/-- Two interfaces, of which one has the name of the draft of the other. -/
def draftNamed : List (String × Contribution) :=
  [("m.I.tmp", "m.B", ⟨"m.py", "m"⟩), ("m.I", "m.A", ⟨"m.py", "m"⟩)]

/-- A store below a root that is not there yet. -/
def freshStore : FolderStore := .ofRoot ⟨"", ["out"]⟩ ⟨[], []⟩

/-- The manifest with the name of a draft is there in the end, beside the one that was prepared under
that name. -/
theorem draftNamed_is_replicated :
    (emit FolderStore.artifactStore (Grouping.filed draftNamed) freshStore).failure = none ∧
      (emit FolderStore.artifactStore (Grouping.filed draftNamed) freshStore).state.tree.file?
        ["out", "META-INF", "services", "m.I.tmp"] = some "m.B\n".toUTF8 ∧
      (emit FolderStore.artifactStore (Grouping.filed draftNamed) freshStore).IsReplica
        (emit MemoryStore.artifactStore (Grouping.filed draftNamed) .empty) ["m.I", "m.I.tmp"]
        ["out", "META-INF", "services"] := by
  have hnames : ∀ key ∈ (Grouping.filed draftNamed).keys, Path.IsFileName key := by
    decide +kernel
  have hbelow : ∀ rest ≠ [], Tree.entry? ⟨[], []⟩ (freshStore.root.parts ++ rest) = none := by
    intro rest _
    rfl
  obtain ⟨-, htakes, hreplica⟩ := @emission_below_empty_root_is_replica ⟨"", ["out"]⟩ ⟨[], []⟩
    freshStore draftNamed hnames (by decide) rfl hbelow
  have hdone := htakes.mpr (by decide +kernel)
  exact ⟨hdone, by decide +kernel, hreplica hdone⟩

end ServiceManifest
