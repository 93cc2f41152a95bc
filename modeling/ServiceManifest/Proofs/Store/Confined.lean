import ServiceManifest.Proofs.Store.Drafts

/-!
# What lies outside of the output root

A path that leads out of the output root is refused before anything is touched. A path that leads below
the root has its draft below the root as well, so at no moment of a call is a file outside changed. But
the root itself passes for a place within it, and its draft is a sibling of the root: a call for such a
path opens that sibling, over a file that is there, and leaves none behind, however it ends. A tree has
no links, so a path leads where its parts say.
-/

namespace ServiceManifest.FolderStore

open Disk

/-- Where a path leads, seen from the root of a store. -/
def aim (store : FolderStore) (path : String) : Path :=
  (store.root.join (Path.ofString path)).absolute store.tree.here

/-- The trees that come up while the folders of a path are made, some of them or all. -/
inductive Raises (tree : Tree) (path : Path) : Tree → Prop
  | start : Raises tree path tree
  | make {found after : Tree} {front : List String} (hfound : Raises tree path found)
      (hfront : front <+: path.parts) (hmake : found.makeFolder ⟨path.anchor, front⟩ = .ok after) :
      Raises tree path after

/-- The trees at the moments of a call: before it, while folders are made above the target, while the
draft holds some front part of the text, and after it. -/
inductive IsMoment (store : FolderStore) (call : Call) : Tree → Prop
  | before : IsMoment store call store.tree
  | raising {target : Path} {tree : Tree} (htarget : store.target call.path = .ok target)
      (hraises : Raises store.tree target.parent tree) : IsMoment store call tree
  | writing {target : Path} {raised tree : Tree} {bytes : ByteArray}
      (htarget : store.target call.path = .ok target)
      (hraised : store.tree.raiseFolders target.parent = (raised, none))
      (hbytes : bytes.data.toList <+: (String.join call.pieces).toUTF8.data.toList)
      (hwrite : raised.write (draft target) bytes = .ok tree) : IsMoment store call tree
  | after : IsMoment store call (store.answer call).state.tree

section Moments

variable {store : FolderStore} {call : Call} {target : Path} {moment : Tree} {place : Place}

/-- Making folders changes no file. -/
theorem Raises.file?_eq {tree found : Tree} {path : Path} (h : Raises tree path found) :
    found.file? = tree.file? := by
  induction h with
  | start => rfl
  | make _ _ hmake ih => exact (Tree.file?_of_makeFolder hmake).trans ih

/-- The trees that come up are those of making folders one after the other. -/
theorem raises_raiseFolders (tree : Tree) (path : Path) :
    Raises tree path (tree.raiseFolders path).1 := by
  refine (Tree.raiseFoldersAt_spec path.anchor path.parts.reverse (fun rest hrest _ _ hraises hmake =>
    .make hraises ?_ hmake) .start).1
  rw [← List.reverse_suffix, List.reverse_reverse]
  exact hrest

/-- A path with a target leads to it, and the target is the root or lies below it. -/
theorem target_spec (h : store.target call.path = .ok target) :
    target = store.aim call.path ∧
      target.anchor = store.root.anchor ∧ ∃ rest, target.parts = store.root.parts ++ rest := by
  refine ⟨(target_eq_ok h).1, ?_⟩
  unfold FolderStore.target at h
  simp only at h
  split at h
  · cases h
  · split at h
    · rename_i hwithin
      obtain rfl := Except.ok.inj h
      simp only [Path.isWithin, Bool.and_eq_true, decide_eq_true_eq, List.isPrefixOf_iff_prefix] at hwithin
      exact ⟨hwithin.1, hwithin.2.imp fun rest hrest => hrest.symm⟩
    · cases h

/-- A draft of a target that is written changes the file at its place. -/
theorem file?_of_write_draft (h : store.target call.path = .ok target) {tree written : Tree}
    {bytes : ByteArray} (hwrite : tree.write (draft target) bytes = .ok written) :
    written.file? = Function.update tree.file? (Path.draftOf target.parts) (some bytes) := by
  obtain ⟨rfl, -⟩ := target_spec h
  obtain ⟨rfl, hne, -⟩ := written_draft (Path.anchor_absolute_ne _ _)
    (Path.not_mem_parts_absolute _ _) hwrite
  exact Tree.file?_set_file hne bytes

/-- A call for a path that is refused changes nothing. -/
theorem answer_of_refused {fault : Disk.Fault} (h : store.target call.path = .error fault) :
    store.answer call = ⟨store, [], some (.disk fault)⟩ := by
  rw [answer, create, h]

/-- At no moment of a call is a file changed that is neither at the target nor at its draft. -/
theorem IsMoment.file?_eq (htarget : store.target call.path = .ok target)
    (hmoment : store.IsMoment call moment) (hplace : place ≠ target.parts)
    (hdraft : place ≠ Path.draftOf target.parts) : moment.file? place = store.tree.file? place := by
  cases hmoment with
  | before => rfl
  | raising _ hraises => rw [hraises.file?_eq]
  | @writing found raised tree bytes hfound hraised _ hwrite =>
    obtain rfl := Except.ok.inj (hfound.symm.trans htarget)
    have hfiles := (raises_raiseFolders store.tree found.parent).file?_eq
    rw [hraised] at hfiles
    rw [file?_of_write_draft htarget hwrite, Function.update_of_ne hdraft, hfiles]
  | after =>
    obtain ⟨rfl, -⟩ := target_spec htarget
    refine file?_of_not (fun hmakes => hplace hmakes.2.symm) (fun hdrafts => hdraft hdrafts.2.symm)

end Moments

end ServiceManifest.FolderStore
