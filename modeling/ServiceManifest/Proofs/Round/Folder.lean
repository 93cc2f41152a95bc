import ServiceManifest.Proofs.Round.Agree
import ServiceManifest.Proofs.Store.Folder

/-!
# What a round leaves in a folder

A round that writes to a folder makes the changes of one creation after the other. When it stops at
a manifest, what was written before it stays, and of the manifest itself at most a draft is gone.
-/

namespace ServiceManifest.FolderStore

open Disk Processor

/-- The changes that the creation of artifacts makes below a root. -/
def creationsAt (root : Path) (here : Place) (artifacts : List Artifact) : List Change :=
  artifacts.flatMap fun artifact =>
    createdAt (placeIn root here artifact.path) (Manifest.render artifact.implementers)

/-- The index entries after artifacts were written. -/
def registered (entries : Keyed IndexEntry) (artifacts : List Artifact) : Keyed IndexEntry :=
  artifacts.foldl (fun entries artifact =>
    Keyed.put artifact.path artifact.dependencies.toIndexEntry entries) entries

/-- Artifacts at different paths that are written to an empty index are its entries. -/
theorem registered_of_nodup {artifacts : List Artifact} (h : (artifacts.map (·.path)).Nodup) :
    registered [] artifacts =
      artifacts.map fun artifact => (artifact.path, artifact.dependencies.toIndexEntry) := by
  have hput : registered [] artifacts = Keyed.putAll
      (artifacts.map fun artifact => (artifact.path, artifact.dependencies.toIndexEntry)) [] := by
    rw [Keyed.putAll, List.foldl_map]
    rfl
  rw [hput, Keyed.putAll_of_nodup (by simpa [Keyed.keys, Function.comp_def] using h), List.nil_append]

/-- A store after the creation of artifacts. -/
structure Wrote (store : FolderStore) (artifacts : List Artifact) (last : FolderStore) : Prop where
  root : last.root = store.root
  reaches : store.tree.Reaches last.tree
  files : last.tree.file? = Files.after store.tree.file?
    (creationsAt store.root store.tree.here artifacts)
  entries : last.entries = registered store.entries artifacts
  usable : ∀ artifact ∈ artifacts, Tree.IsUsable
    ((store.root.join (Path.ofString artifact.path)).absolute store.tree.here)

/-- Artifacts that are created are written one after the other. -/
theorem wrote_of_creates {store last : FolderStore} {artifacts : List Artifact}
    (h : Creates artifactStore store artifacts last) : Wrote store artifacts last := by
  induction h with
  | nil => exact ⟨rfl, .refl, rfl, rfl, nofun⟩
  | @cons state last artifact rest hcreate _ ih =>
    have hroot : (state.create artifact.dependencies artifact.path artifact.pieces none).state.root =
      state.root := create_root state _ _ _ none
    have hreaches := reaches_create state artifact.dependencies artifact.path artifact.pieces none
    rcases create_spec state artifact.dependencies artifact.path artifact.pieces with
      ⟨-, husable, hfiles, hentries⟩ | ⟨fault, hfault, -⟩
    · refine ⟨ih.root.trans hroot, hreaches.trans ih.reaches, ?_, ?_,
        List.forall_mem_cons.mpr ⟨husable, fun other hother => ?_⟩⟩
      · rw [ih.files]
        change Files.after (state.create _ _ _ none).state.tree.file?
          (creationsAt (state.create _ _ _ none).state.root
            (state.create _ _ _ none).state.tree.here rest) = _
        rw [hroot, hreaches.here_eq, hfiles, ← Files.after_append, Artifact.join_pieces]
        rfl
      · rw [ih.entries]
        change registered (state.create _ _ _ none).state.entries rest = _
        rw [hentries]
        rfl
      · have hother := ih.usable other hother
        change Tree.IsUsable (((state.create _ _ _ none).state.root.join _).absolute
          (state.create _ _ _ none).state.tree.here) at hother
        rwa [hroot, hreaches.here_eq] at hother
    · cases hfault.symm.trans hcreate

/-- The changes that a round makes which stops at an artifact. -/
def brokenAt (root : Path) (here : Place) (before : List Artifact) (artifact : Artifact)
    (cause : Disk.Fault) : List Change :=
  creationsAt root here before ++ abandonedAt (placeIn root here artifact.path) cause

/-- A round that stops at an artifact has written those before it, and of the artifact itself it has
cleared a draft away at most. -/
theorem files_of_breaksAt {store last : FolderStore} {before : List Artifact} {artifact : Artifact}
    {fault : Fault} {answer : Answer FolderStore (List Artifact)}
    (h : BreaksAt artifactStore store before artifact last fault answer) :
    ∃ cause, fault = .disk cause ∧ answer.processor.state.tree.file? =
      Files.after store.tree.file? (brokenAt store.root store.tree.here before artifact cause) := by
  have hbefore := wrote_of_creates h.creates
  have hfault : (last.create artifact.dependencies artifact.path artifact.pieces none).fault =
    some fault := h.fault
  rcases create_spec last artifact.dependencies artifact.path artifact.pieces with
    ⟨hnone, -⟩ | ⟨cause, hcause, hfiles, -⟩
  · cases hnone.symm.trans hfault
  · refine ⟨cause, Option.some.inj (hfault.symm.trans hcause), ?_⟩
    rw [h.state]
    change (last.create artifact.dependencies artifact.path artifact.pieces none).state.tree.file? = _
    rw [hfiles, hbefore.files, hbefore.root, hbefore.reaches.here_eq, ← Files.after_append]
    rfl

end ServiceManifest.FolderStore
