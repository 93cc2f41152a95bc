import ServiceManifest.Proofs.Disk.Raised
import ServiceManifest.Proofs.Store.Confined

/-!
# The replacement of one artifact

A call takes steps: the path has a target, the folders above it are made, its draft is opened and written,
the block that supplies the pieces ends, and the draft is moved to the target. Any of them may fail, for
whatever reason, and so may the clearing away of the draft. However a call ends, the target holds all of
the new text or what was there before, and no file is there that was not.
-/

namespace ServiceManifest.FolderStore

open Disk

/-- Every step of a call passes. -/
inductive Passes (store : FolderStore) (call : Call) : Prop
  | intro {target : Path} {raised written after : Tree} (htarget : store.target call.path = .ok target)
    (hraised : store.tree.raiseFolders target.parent = (raised, none))
    (hwrite : raised.write (draft target) (String.join call.pieces).toUTF8 = .ok written)
    (hfailing : call.failing = none) (hrename : written.rename (draft target) target = .ok after)

/-- The ends that a call may have if the disk may refuse every step, for any reason: no target, some of
the folders, no draft, a draft that holds anything and is abandoned, or one that is moved to the target.
A draft is cleared away as far as it can be. -/
inductive Ends (store : FolderStore) (call : Call) : FolderStore → Option Fault → Prop
  | refused {fault : Disk.Fault} (htarget : store.target call.path = .error fault) :
    Ends store call store (some (.disk fault))
  | unmade {target : Path} {raised : Tree} (fault : Fault)
    (htarget : store.target call.path = .ok target)
    (hraises : Raises store.tree target.parent raised) :
    Ends store call { store with tree := raised } (some fault)
  | unopened {target : Path} {raised : Tree} (fault : Fault)
    (htarget : store.target call.path = .ok target)
    (hraises : Raises store.tree target.parent raised) :
    Ends store call { store with tree := (discard raised (draft target) fault).1 }
      (some (discard raised (draft target) fault).2)
  | abandoned {target : Path} {raised written : Tree} {bytes : ByteArray} (fault : Fault)
    (htarget : store.target call.path = .ok target)
    (hraises : Raises store.tree target.parent raised)
    (hwrite : raised.write (draft target) bytes = .ok written) :
    Ends store call { store with tree := (discard written (draft target) fault).1 }
      (some (discard written (draft target) fault).2)
  | moved {target : Path} {raised written after : Tree}
    (htarget : store.target call.path = .ok target)
    (hraises : Raises store.tree target.parent raised)
    (hwrite : raised.write (draft target) (String.join call.pieces).toUTF8 = .ok written)
    (hrename : written.rename (draft target) target = .ok after) :
    Ends store call
      { store with
        tree := after
        entries := Keyed.put call.path call.dependencies.toIndexEntry store.entries } none

/-- A store that a call has left as it was: at the target there is what was there, the index is the
same, and every file was there before. -/
structure IsUntouched (store : FolderStore) (call : Call) (after : FolderStore) : Prop where
  target : after.tree.entry? (store.placeOf call.path) = store.tree.entry? (store.placeOf call.path)
  index : after.index = store.index
  files : ∀ place bytes, after.tree.file? place = some bytes → store.tree.file? place = some bytes

/-- A store in which a call has replaced its target: the target holds the text of all pieces, the draft
is gone, the index has the dependencies under the path and else what it had, and every other file was
there before. -/
structure IsReplaced (store : FolderStore) (call : Call) (after : FolderStore) : Prop where
  target : after.tree.entry? (store.placeOf call.path) =
    some (.file (String.join call.pieces).toUTF8)
  draft : after.tree.entry? (Path.draftOf (store.placeOf call.path)) = none
  entry : Keyed.get? call.path after.index = some call.dependencies.toIndexEntry
  index : ∀ path ≠ call.path, Keyed.get? path after.index = Keyed.get? path store.index
  files : ∀ place ≠ store.placeOf call.path, ∀ bytes,
    after.tree.file? place = some bytes → store.tree.file? place = some bytes

section Steps

variable {store : FolderStore} {call : Call} {target : Path} {raised written : Tree}

/-- What is at a target while folders are made above it. -/
theorem Raises.entry?_eq {tree : Tree} {path : Path} (hanchor : path.anchor ≠ "")
    (hup : ".." ∉ path.parts) (h : Raises tree path.parent raised) :
    raised.entry? path.parts = tree.entry? path.parts := by
  induction h with
  | start => rfl
  | @make found after front _ hfront hmake ih =>
    by_cases hparts : path.parts = []
    · rw [hparts, Tree.entry?_nil, Tree.entry?_nil]
    · have hshort : path.parts ≠ front := by
        rintro rfl
        have hlength := hfront.length_le
        rw [Path.parent, List.length_dropLast] at hlength
        have := List.length_pos_of_ne_nil hparts
        omega
      have hupFront : ".." ∉ front := fun hmem =>
        hup (List.dropLast_subset _ (hfront.subset hmem))
      exact (@Tree.entry?_of_makeFolder found after ⟨path.parent.anchor, front⟩ hanchor hupFront hmake
        _ hshort).trans ih

/-- The parts of a target are the place of its artifact. -/
theorem parts_eq_placeOf (htarget : store.target call.path = .ok target) :
    target.parts = store.placeOf call.path ∧ target.anchor ≠ "" ∧ ".." ∉ target.parts := by
  obtain ⟨rfl, -⟩ := target_eq_ok htarget
  exact ⟨rfl, Path.anchor_absolute_ne _ _, Path.not_mem_parts_absolute _ _⟩

/-- Clearing a draft away removes the file at its place, if anything. -/
theorem discard_eq {tree : Tree} (hanchor : target.anchor ≠ "") (hup : ".." ∉ target.parts)
    (fault : Fault) : (discard tree (draft target) fault).1 = tree ∨
      Path.draftOf target.parts ≠ [] ∧
        (discard tree (draft target) fault).1 = tree.remove (Path.draftOf target.parts) := by
  unfold discard
  split
  · exact Or.inl rfl
  · exact Or.inl rfl
  · split
    · exact Or.inl rfl
    · rename_i hunlink
      obtain ⟨place, bytes, hlookup, rfl⟩ := Tree.unlink_eq_ok hunlink
      obtain ⟨hlocate, hentry⟩ := Tree.lookup_eq_ok_iff.mp hlookup
      obtain rfl : place = Path.draftOf target.parts :=
        Tree.eq_parts_of_locate (show (draft target).anchor ≠ "" from hanchor)
          (Path.not_mem_draftOf hup) hlocate
      exact Or.inr ⟨Tree.ne_nil_of_entry?_file hentry, rfl⟩

/-- Making folders above the target leaves a store as it was. -/
theorem isUntouched_of_raises (htarget : store.target call.path = .ok target)
    (hraises : Raises store.tree target.parent raised) :
    store.IsUntouched call { store with tree := raised } := by
  obtain ⟨hplace, hanchor, hup⟩ := parts_eq_placeOf htarget
  refine ⟨?_, rfl, fun place bytes hfile => ?_⟩
  · rw [← hplace]
    exact hraises.entry?_eq hanchor hup
  · rwa [← hraises.file?_eq]

/-- Clearing the draft away leaves a store as it was. -/
theorem IsUntouched.cleared {after : FolderStore} (h : store.IsUntouched call after)
    (htarget : store.target call.path = .ok target) (fault : Fault) :
    store.IsUntouched call { after with tree := (discard after.tree (draft target) fault).1 } := by
  obtain ⟨hplace, hanchor, hup⟩ := parts_eq_placeOf htarget
  rcases @discard_eq target after.tree hanchor hup fault with hsame | ⟨hne, hremoved⟩
  · rw [hsame]
    exact h
  · rw [hremoved, hplace]
    rw [hplace] at hne
    refine ⟨?_, h.index, fun place bytes hfile => h.files place bytes ?_⟩
    · rw [Tree.entry?_remove hne, if_neg (Path.draftOf_ne _).symm, h.target]
    · rw [Tree.file?_remove hne, Function.update_apply] at hfile
      split at hfile
      · cases hfile
      · exact hfile

/-- A draft that is written and cleared away leaves a store as it was. -/
theorem isUntouched_of_write {bytes : ByteArray} (htarget : store.target call.path = .ok target)
    (hraises : Raises store.tree target.parent raised)
    (hwrite : raised.write (draft target) bytes = .ok written) (fault : Fault) :
    store.IsUntouched call { store with tree := (discard written (draft target) fault).1 } := by
  obtain ⟨hplace, hanchor, hup⟩ := parts_eq_placeOf htarget
  obtain ⟨rfl, hne, hlookup⟩ := written_draft hanchor hup hwrite
  have huntouched := isUntouched_of_raises htarget hraises
  rw [discard_of_lookup fault hlookup, hplace]
  rw [hplace] at hne
  refine ⟨?_, rfl, fun place found hfile => huntouched.files place found ?_⟩
  · rw [Tree.entry?_remove hne, if_neg (Path.draftOf_ne _).symm, Tree.entry?_set hne,
      if_neg (Path.draftOf_ne _).symm]
    exact huntouched.target
  · rw [Tree.file?_remove hne, Function.update_apply] at hfile
    split at hfile
    · cases hfile
    · rename_i hother
      rwa [Tree.file?_set_file hne, Function.update_of_ne hother] at hfile

/-- A draft that is moved to the target replaces it. -/
theorem isReplaced_of_rename {after : Tree} (htarget : store.target call.path = .ok target)
    (hraises : Raises store.tree target.parent raised)
    (hwrite : raised.write (draft target) (String.join call.pieces).toUTF8 = .ok written)
    (hrename : written.rename (draft target) target = .ok after) :
    store.IsReplaced call
      { store with
        tree := after
        entries := Keyed.put call.path call.dependencies.toIndexEntry store.entries } := by
  obtain ⟨hplace, hanchor, hup⟩ := parts_eq_placeOf htarget
  obtain ⟨rfl, hne, hlookup⟩ := written_draft hanchor hup hwrite
  obtain ⟨source, bytes, place, hsource, hlocate, hfolder, rfl⟩ := Tree.rename_eq_ok hrename
  cases hlookup.symm.trans hsource
  obtain rfl := Tree.eq_parts_of_locate hanchor hup hlocate
  have hroot := Tree.ne_nil_of_isFolderAt hfolder
  rw [hplace] at hne hroot ⊢
  refine ⟨?_, ?_, ?_, fun path hpath => ?_, fun place hother found hfile => ?_⟩
  · rw [Tree.entry?_set hroot, if_pos rfl]
  · rw [Tree.entry?_set hroot, if_neg (Path.draftOf_ne _), Tree.entry?_remove hne, if_pos rfl]
  · rw [index, Keyed.get?_ascending_eq, Keyed.get?_put_self]
  · rw [index, index, Keyed.get?_ascending_eq, Keyed.get?_ascending_eq, Keyed.get?_put_of_ne hpath]
  · rw [Tree.file?_set_file hroot, Function.update_of_ne hother, Tree.file?_remove hne,
      Function.update_apply] at hfile
    split at hfile
    · cases hfile
    · rename_i hdraft
      rw [Tree.file?_set_file hne, Function.update_of_ne hdraft] at hfile
      exact (isUntouched_of_raises htarget hraises).files place found hfile

end Steps

/-- A call that ends with a fault leaves the store as it was. -/
theorem Ends.isUntouched {store after : FolderStore} {call : Call} {fault : Fault}
    (h : store.Ends call after (some fault)) : store.IsUntouched call after := by
  cases h with
  | refused => exact ⟨rfl, rfl, fun _ _ hfile => hfile⟩
  | unmade _ htarget hraises => exact isUntouched_of_raises htarget hraises
  | unopened fault htarget hraises => exact (isUntouched_of_raises htarget hraises).cleared htarget fault
  | abandoned fault htarget hraises hwrite => exact isUntouched_of_write htarget hraises hwrite fault

/-- A call that ends without a fault replaces its target. -/
theorem Ends.isReplaced {store after : FolderStore} {call : Call}
    (h : store.Ends call after none) :
    store.IsReplaced call after := by
  cases h with
  | moved htarget hraises hwrite hrename => exact isReplaced_of_rename htarget hraises hwrite hrename

/-- The answer to a call is one of its ends, and it is without a fault exactly if every step passes. -/
theorem ends_answer (store : FolderStore) (call : Call) :
    store.Ends call (store.answer call).state (store.answer call).fault ∧
      ((store.answer call).fault = none ↔ store.Passes call) := by
  have hstops {fault : Fault} (h : ¬store.Passes call) : some fault = none ↔ store.Passes call :=
    iff_of_false (Option.some_ne_none fault) h
  cases htarget : store.target call.path with
  | error fault =>
    rw [answer_of_refused htarget]
    refine ⟨.refused htarget, hstops fun hpasses => ?_⟩
    obtain ⟨hother, -⟩ := hpasses
    cases htarget.symm.trans hother
  | ok target =>
    have hraises := raises_raiseFolders store.tree target.parent
    rcases hraise : store.tree.raiseFolders target.parent with ⟨raised, _ | fault⟩
    · rw [hraise] at hraises
      have hsteps : store.Passes call → ∃ written after,
          raised.write (draft target) (String.join call.pieces).toUTF8 = .ok written ∧
            call.failing = none ∧ written.rename (draft target) target = .ok after := by
        rintro ⟨hother, hmade, hwrite, hfailing, hrename⟩
        cases htarget.symm.trans hother
        cases hraise.symm.trans hmade
        exact ⟨_, _, hwrite, hfailing, hrename⟩
      simp only [answer, create, htarget, hraise, replace]
      cases hwrite : raised.write (draft target) (String.join call.pieces).toUTF8 with
      | error fault =>
        refine ⟨.unopened (.disk fault) htarget hraises, hstops fun hpasses => ?_⟩
        obtain ⟨_, _, hother, -⟩ := hsteps hpasses
        cases hwrite.symm.trans hother
      | ok written =>
        cases hfailing : call.failing with
        | some fault =>
          refine ⟨.abandoned fault htarget hraises hwrite, hstops fun hpasses => ?_⟩
          obtain ⟨_, _, -, hother, -⟩ := hsteps hpasses
          cases hfailing.symm.trans hother
        | none =>
          cases hrename : written.rename (draft target) target with
          | error fault =>
            simp only [hrename]
            refine ⟨.abandoned (.disk fault) htarget hraises hwrite, hstops fun hpasses => ?_⟩
            obtain ⟨_, _, hother, -, hmoved⟩ := hsteps hpasses
            cases hwrite.symm.trans hother
            cases hrename.symm.trans hmoved
          | ok after =>
            simp only [hrename]
            exact ⟨.moved htarget hraises hwrite hrename,
              iff_of_true trivial ⟨htarget, hraise, hwrite, hfailing, hrename⟩⟩
    · rw [hraise] at hraises
      simp only [answer, create, htarget, hraise]
      refine ⟨.unmade (.disk fault) htarget hraises, hstops fun hpasses => ?_⟩
      obtain ⟨hother, hmade, -⟩ := hpasses
      cases htarget.symm.trans hother
      cases hraise.symm.trans hmade

/-- However a call ends, and whatever the disk refuses, with a fault the store is as it was, and without
one the target is replaced. The answer is such an end, without a fault exactly if every step passes. -/
theorem calls_replace_target_or_leave_it (store : FolderStore) (call : Call) :
    store.Ends call (store.answer call).state (store.answer call).fault ∧
      ((store.answer call).fault = none ↔ store.Passes call) ∧
      ∀ after ended, store.Ends call after ended →
        (∀ fault, ended = some fault → store.IsUntouched call after) ∧
          (ended = none → store.IsReplaced call after) := by
  obtain ⟨hends, hpasses⟩ := ends_answer store call
  refine ⟨hends, hpasses, fun after ended hended => ⟨?_, ?_⟩⟩
  · rintro fault rfl
    exact hended.isUntouched
  · rintro rfl
    exact hended.isReplaced

/-- A store with an artifact and a folder in the place of its draft. -/
def hindered : FolderStore :=
  .ofRoot ⟨"", ["out"]⟩ ⟨[(["out"], .folder), (["out", "a"], .file "old".toUTF8),
    (["out", "a.tmp"], .folder)], []⟩

/-- A draft that is a folder can be neither opened nor cleared away, and the artifact is left as it was.
The one beside it is written. -/
theorem hindered_call_leaves_artifact :
    let failing : Call := ⟨⟨true, []⟩, "a", ["new"], none⟩
    let passing : Call := ⟨⟨true, []⟩, "b", ["n", "ew"], none⟩
    (hindered.answer failing).fault ≠ none ∧
      hindered.IsUntouched failing (hindered.answer failing).state ∧
      (hindered.answer passing).fault = none ∧
      hindered.IsReplaced passing (hindered.answer passing).state := by
  intro failing passing
  have hpassing : (hindered.answer passing).fault = none := by decide +kernel
  cases hfailing : (hindered.answer failing).fault with
  | none => exact absurd hfailing (by decide +kernel)
  | some fault =>
    obtain ⟨hfailed, -, huntouched⟩ := calls_replace_target_or_leave_it hindered failing
    obtain ⟨hpassed, -, hreplaced⟩ := calls_replace_target_or_leave_it hindered passing
    exact ⟨nofun, (huntouched _ _ hfailed).1 fault hfailing, hpassing,
      (hreplaced _ _ hpassed).2 hpassing⟩

end ServiceManifest.FolderStore
