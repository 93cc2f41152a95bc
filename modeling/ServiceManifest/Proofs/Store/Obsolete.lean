import ServiceManifest.Proofs.Ascending
import ServiceManifest.Proofs.Disk.Sound
import ServiceManifest.Proofs.Keyed
import ServiceManifest.Proofs.Store.Folder

/-!
# What is left after obsolete artifacts are removed

Removing goes through the paths of an earlier run. If nothing stops it, there is no file any more at
the place of any path that was not written again, and every other file is as it was.
-/

namespace ServiceManifest.FolderStore

open Disk

/-- A store after the artifacts at some paths were removed, except those that were written. -/
structure Cleared (store : FolderStore) (paths : List String) (last : FolderStore) : Prop where
  entries : last.entries = store.entries
  reaches : store.tree.Reaches last.tree
  gone : ∀ path ∈ paths, path ∉ Keyed.keys store.entries →
    last.tree.file? (placeIn store.root store.tree.here path) = none
  kept : ∀ place, (∀ path ∈ paths, path ∉ Keyed.keys store.entries →
    place ≠ placeIn store.root store.tree.here path) → last.tree.file? place = store.tree.file? place

/-- A store in which there is no file at the place of an artifact any more, and nothing else has
changed. -/
structure Removes (store : FolderStore) (path : String) (last : FolderStore) : Prop where
  root : last.root = store.root
  entries : last.entries = store.entries
  reaches : store.tree.Reaches last.tree
  gone : last.tree.file? (placeIn store.root store.tree.here path) = none
  kept : ∀ place, place ≠ placeIn store.root store.tree.here path →
    last.tree.file? place = store.tree.file? place

variable {store : FolderStore} {path : String} {target : Path}

/-- Where nothing exists at a target there is no file. -/
theorem removes_of_exists?_eq_false (hsound : store.tree.IsSound)
    (htarget : store.target path = .ok target) (hexists : store.tree.exists? target = .ok false) :
    Removes store path store := by
  obtain ⟨rfl, hnul⟩ := target_eq_ok htarget
  refine ⟨rfl, rfl, .refl, ?_, fun _ _ => rfl⟩
  rw [placeIn]
  unfold Tree.file?
  split
  · rename_i bytes hentry
    have hlookup := hsound.lookup_of_entry? (Path.anchor_absolute_ne _ _)
      (Path.not_mem_parts_absolute _ _) (hsound.hasNul_absolute hnul) hentry
    unfold Tree.exists? at hexists
    rw [hlookup] at hexists
    split_ifs at hexists
    cases hexists
  · rfl

/-- A target that can be removed is no file any more. -/
theorem removes_of_unlink {tree : Tree} (htarget : store.target path = .ok target)
    (hunlink : store.tree.unlink target = .ok tree) :
    Removes store path { store with tree := tree } := by
  obtain ⟨rfl, -⟩ := target_eq_ok htarget
  obtain ⟨place, bytes, hlookup, rfl⟩ := Tree.unlink_eq_ok hunlink
  obtain ⟨hlocate, hentry⟩ := Tree.lookup_eq_ok_iff.mp hlookup
  obtain rfl := Tree.eq_parts_of_locate (Path.anchor_absolute_ne _ _)
    (Path.not_mem_parts_absolute _ _) hlocate
  have hfiles : (store.tree.remove _).file? = _ :=
    Tree.file?_remove (Tree.ne_nil_of_entry?_file hentry)
  refine ⟨rfl, rfl, .unlink .refl hunlink, ?_, fun place hplace => ?_⟩
  · rw [hfiles]
    exact Function.update_self _ _ _
  · rw [hfiles]
    exact Function.update_of_ne hplace _ _

/-- An artifact that was written is passed over. -/
theorem Cleared.cons_written {last : FolderStore} {rest : List String}
    (hwritten : path ∈ Keyed.keys store.entries) (hrest : Cleared store rest last) :
    Cleared store (path :: rest) last := by
  refine ⟨hrest.entries, hrest.reaches, fun other hother hnew => ?_, fun place hplace =>
    hrest.kept place fun other hother => hplace other (List.mem_cons_of_mem path hother)⟩
  rcases List.mem_cons.mp hother with rfl | hother
  · exact absurd hwritten hnew
  · exact hrest.gone other hother hnew

/-- An artifact that was not written is removed, and what follows brings no file back. -/
theorem Cleared.cons_removed {middle last : FolderStore} {rest : List String}
    (hobsolete : path ∉ Keyed.keys store.entries) (hfirst : Removes store path middle)
    (hrest : Cleared middle rest last) : Cleared store (path :: rest) last := by
  have hplaces (other : String) : placeIn middle.root middle.tree.here other =
      placeIn store.root store.tree.here other := by rw [hfirst.root, hfirst.reaches.here_eq]
  have hgone := hrest.gone
  have hkept := hrest.kept
  simp only [hplaces, hfirst.entries] at hgone hkept
  refine ⟨hrest.entries.trans hfirst.entries, hfirst.reaches.trans hrest.reaches,
    fun next hnext hnew => ?_, fun place hplace => ?_⟩
  · rcases List.mem_cons.mp hnext with rfl | hnext
    · by_cases hagain : ∃ more ∈ rest, more ∉ Keyed.keys store.entries ∧
          placeIn store.root store.tree.here next = placeIn store.root store.tree.here more
      · obtain ⟨more, hmore, hmoreNew, heq⟩ := hagain
        rw [heq]
        exact hgone more hmore hmoreNew
      · rw [hkept _ fun more hmore hmoreNew heq => hagain ⟨more, hmore, hmoreNew, heq⟩, hfirst.gone]
    · exact hgone next hnext hnew
  · rw [hkept place fun more hmore => hplace more (List.mem_cons_of_mem path hmore)]
    exact hfirst.kept place (hplace path List.mem_cons_self hobsolete)

/-- Removing that nothing stops leaves none of the artifacts that were not written. -/
theorem cleared_of_removeEach {paths : List String} {done : Removal}
    (hsound : done.store.tree.IsSound) (h : (removeEach done paths).fault = none) :
    Cleared done.store paths (removeEach done paths).store := by
  induction paths generalizing done with
  | nil => exact ⟨rfl, .refl, nofun, fun _ _ => rfl⟩
  | cons path rest ih =>
    rw [removeEach] at h ⊢
    split at h
    · rename_i hwritten
      rw [if_pos hwritten]
      exact .cons_written (Keyed.has_iff.mp hwritten) (ih hsound h)
    · rename_i hobsolete
      rw [if_neg hobsolete]
      rw [Keyed.has_iff] at hobsolete
      split at h
      · cases h
      · rename_i target htarget
        split at h
        · cases h
        · rename_i hexists
          exact .cons_removed hobsolete (removes_of_exists?_eq_false hsound htarget hexists)
            (ih hsound h)
        · rename_i hexists
          split at h
          · cases h
          · rename_i tree hunlink
            have htree : done.store.tree.Reaches tree := .unlink .refl hunlink
            exact .cons_removed hobsolete (removes_of_unlink htarget hunlink)
              (ih (htree.isSound hsound) h)

/-- A removal that nothing stops leaves none of the artifacts that were not written. -/
theorem cleared_of_removeObsolete {paths : List String} (hsound : store.tree.IsSound)
    (h : (store.removeObsolete paths).fault = none) :
    Cleared store paths (store.removeObsolete paths).store := by
  have hmem (path : String) : path ∈ Ascending.texts paths ↔ path ∈ paths :=
    Ascending.mem_ofList Ascending.textBefore_isOrder
  have hcleared : Cleared store (Ascending.texts paths) (store.removeObsolete paths).store :=
    @cleared_of_removeEach _ ⟨store, [], [], none⟩ hsound h
  exact ⟨hcleared.entries, hcleared.reaches, by simpa only [hmem] using hcleared.gone,
    by simpa only [hmem] using hcleared.kept⟩

end ServiceManifest.FolderStore
