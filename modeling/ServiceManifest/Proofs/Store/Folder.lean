import ServiceManifest.Proofs.Disk.Sound
import ServiceManifest.Proofs.Path
import ServiceManifest.Store.Folder

/-!
# What a folder store writes

Creating an artifact writes its draft and moves it over its target: the target then holds the text,
and there is no file at the draft. A creation that fails changes no file unless its draft could be opened:
then the draft is cleared away, and with it a file that stood there before.
-/

namespace ServiceManifest

open Disk

/-- The files at places. -/
abbrev Files := Place → Option ByteArray

/-- A change of what is at a place: a file with some contents, or none. -/
abbrev Change := Place × Option ByteArray

/-- Files after changes in order. -/
def Files.after (files : Files) (changes : List Change) : Files :=
  changes.foldl (fun files change => Function.update files change.1 change.2) files

/-- Changes one after the other. -/
theorem Files.after_append (files : Files) (changes more : List Change) :
    files.after (changes ++ more) = (files.after changes).after more :=
  List.foldl_append

/-- What is at a place that is not changed. -/
theorem Files.after_of_not_mem {place : Place} {changes : List Change} (files : Files)
    (h : place ∉ changes.map (·.1)) : files.after changes place = files place := by
  induction changes generalizing files with
  | nil => rfl
  | cons change rest ih =>
    rw [List.map_cons, List.mem_cons, not_or] at h
    refine (ih _ h.2).trans ?_
    exact Function.update_of_ne h.1 _ _

/-- What is at a place where files are only removed is gone or as it was. -/
theorem Files.after_of_removals {place : Place} {changes : List Change} (files : Files)
    (h : ∀ change ∈ changes, change.1 = place → change.2 = none) :
    files.after changes place = none ∨ files.after changes place = files place := by
  induction changes generalizing files with
  | nil => exact Or.inr rfl
  | cons change rest ih =>
    have hrest := ih (Function.update files change.1 change.2)
      fun other hother => h other (List.mem_cons_of_mem change hother)
    by_cases hplace : change.1 = place
    · have hchange : Function.update files change.1 change.2 place = none := by
        rw [← hplace, Function.update_self, h change List.mem_cons_self hplace]
      exact Or.inl (hrest.elim id fun hsame => hsame.trans hchange)
    · exact hrest.imp_right fun hsame => hsame.trans (Function.update_of_ne (Ne.symm hplace) _ _)

/-- What is at a place is what the last change there made it. -/
theorem Files.after_of_last {place : Place} {content : Option ByteArray} {after : List Change}
    (files : Files) (before : List Change) (h : place ∉ after.map (·.1)) :
    files.after (before ++ (place, content) :: after) place = content := by
  rw [Files.after_append]
  refine (Files.after_of_not_mem _ h).trans ?_
  exact Function.update_self _ _ _

/-- A place that is changed has a last change. -/
theorem exists_last_change {place : Place} {changes : List Change}
    (h : place ∈ changes.map (·.1)) :
    ∃ before content after, changes = before ++ (place, content) :: after ∧
      place ∉ after.map (·.1) := by
  induction changes with
  | nil => cases h
  | cons change rest ih =>
    by_cases hrest : place ∈ rest.map (·.1)
    · obtain ⟨before, content, after, rfl, hlast⟩ := ih hrest
      exact ⟨change :: before, content, after, rfl, hlast⟩
    · rcases List.mem_cons.mp h with rfl | h
      · exact ⟨[], change.2, rest, rfl, hrest⟩
      · exact absurd h hrest

/-- Changes leave every file as it was exactly if the last change at each place is to what was
there. -/
theorem Files.after_eq_self_iff {files : Files} {changes : List Change} :
    files.after changes = files ↔
      ∀ before place content after, changes = before ++ (place, content) :: after →
        place ∉ after.map (·.1) → files place = content := by
  constructor
  · rintro h before place content after rfl hlast
    rw [← @Files.after_of_last place content after files before hlast, h]
  · intro h
    funext place
    by_cases hplace : place ∈ changes.map (·.1)
    · obtain ⟨before, content, after, rfl, hlast⟩ := exists_last_change hplace
      rw [Files.after_of_last files before hlast, h before place content after rfl hlast]
    · exact Files.after_of_not_mem files hplace

namespace FolderStore

/-- Where the artifact of a path lies below a root, for a store that starts relative paths
somewhere. -/
def placeIn (root : Path) (here : Place) (path : String) : Place :=
  ((root.join (Path.ofString path)).absolute here).parts

/-- The changes that the creation of an artifact makes at its place. -/
def createdAt (place : Place) (text : String) : List Change :=
  [(Path.draftOf place, none), (place, some text.toUTF8)]

/-- The changes that a creation makes before it fails: only a failed move leaves any. -/
def abandonedAt (place : Place) : Disk.Fault → List Change
  | .refused _ _ (some _) => [(Path.draftOf place, none)]
  | _ => []

section Replace

variable {tree : Tree} {target : Path} {text : String}

/-- A draft that can be written is set at its place, where it is found and can be removed again. -/
theorem written_draft {written : Tree} {bytes : ByteArray} (hanchor : target.anchor ≠ "")
    (hparts : ".." ∉ target.parts) (h : tree.write (draft target) bytes = .ok written) :
    written = tree.set (Path.draftOf target.parts) (.file bytes) ∧
      Path.draftOf target.parts ≠ [] ∧
        written.lookup (draft target) = .ok (Path.draftOf target.parts, .file bytes) := by
  obtain ⟨place, hopen, hplace, rfl⟩ := Tree.write_eq_ok h
  obtain rfl : place = Path.draftOf target.parts :=
    Tree.eq_parts_of_locate (show (draft target).anchor ≠ "" from hanchor)
      (Path.not_mem_draftOf hparts) (Tree.openPlace_eq_ok hopen).1
  exact ⟨rfl, Tree.ne_nil_of_isFolderAt hplace, Tree.lookup_of_write hopen hplace⟩

/-- A draft that could not be written leaves nothing to clear away. -/
theorem discard_of_write_eq_error {bytes : ByteArray} {fault : Disk.Fault}
    (h : tree.write (draft target) bytes = .error fault) :
    ∃ path reason, discard tree (draft target) (.disk fault) =
      (tree, .disk (Tree.refuse path reason)) := by
  obtain ⟨reason, rfl⟩ := Tree.write_eq_error h
  unfold discard
  split
  · rename_i hexists
    exact ⟨_, _, by rw [Tree.exists?_eq_error hexists]⟩
  · exact ⟨_, _, rfl⟩
  · rename_i hexists
    split
    · rename_i hunlink
      obtain ⟨other, rfl⟩ := Tree.unlink_eq_error hunlink
      exact ⟨_, _, rfl⟩
    · rename_i hunlink
      obtain ⟨place, old, hlookup, -⟩ := Tree.unlink_eq_ok hunlink
      rw [Tree.write_of_lookup hlookup] at h
      cases h

/-- A draft that was written is cleared away. -/
theorem discard_of_lookup {place : Place} {bytes : ByteArray} (fault : Fault)
    (h : tree.lookup (draft target) = .ok (place, .file bytes)) :
    discard tree (draft target) fault = (tree.remove place, fault) := by
  have hexists : tree.exists? (draft target) = .ok true :=
    Tree.exists?_eq_true_iff.mpr ⟨_, _, h⟩
  simp [discard, hexists, Tree.unlink, h]

/-- A fault that ends the replacing of a target after its draft was opened: the block that supplies
the text has failed, or the move was refused. -/
def EndsBlock (failing : Option Fault) (fault : Fault) : Prop :=
  failing = some fault ∨
    failing = none ∧ ∃ reason path other, fault = .disk (.refused reason path (some other))

/-- A target whose draft cannot be opened is not replaced, and nothing changes. -/
theorem replace_of_write_eq_error {fault : Disk.Fault} (failing : Option Fault)
    (h : tree.write (draft target) text.toUTF8 = .error fault) :
    ∃ path reason, replace tree target text failing =
      (tree, some (.disk (Tree.refuse path reason))) := by
  obtain ⟨path, reason, hdiscard⟩ := discard_of_write_eq_error h
  exact ⟨path, reason, by simp only [replace, h, hdiscard]⟩

/-- A target whose draft can be opened is replaced by the text, or the draft is gone and no other file
is changed. -/
theorem replace_of_write_eq_ok {written : Tree} (failing : Option Fault) (hanchor : target.anchor ≠ "")
    (hparts : ".." ∉ target.parts) (h : tree.write (draft target) text.toUTF8 = .ok written) :
    (∃ after, replace tree target text failing = (after, none) ∧ failing = none ∧
        Tree.IsUsable target ∧
          after.file? = Files.after tree.file? (createdAt target.parts text)) ∨
      ∃ after fault, replace tree target text failing = (after, some fault) ∧
        EndsBlock failing fault ∧
          after.file? = Files.after tree.file? [(Path.draftOf target.parts, none)] := by
  obtain ⟨rfl, hplace, hlookup⟩ := written_draft hanchor hparts h
  have hwritten : (tree.set (Path.draftOf target.parts) (.file text.toUTF8)).file? = _ :=
    Tree.file?_set_file hplace text.toUTF8
  have hcleared : ((tree.set (Path.draftOf target.parts) (.file text.toUTF8)).remove
      (Path.draftOf target.parts)).file? =
        Files.after tree.file? [(Path.draftOf target.parts, none)] := by
    rw [Tree.file?_remove hplace, hwritten]
    simp [Files.after]
  simp only [replace, h]
  cases failing with
  | some fault =>
    exact Or.inr ⟨_, fault, by simp only [discard_of_lookup _ hlookup], Or.inl rfl, hcleared⟩
  | none =>
    simp only
    split
    · rename_i fault hrename
      obtain ⟨reason, rfl⟩ := Tree.rename_eq_error hrename
      exact Or.inr ⟨_, _, by rw [discard_of_lookup _ hlookup], Or.inr ⟨rfl, _, _, _, rfl⟩, hcleared⟩
    · rename_i after hrename
      obtain ⟨source, bytes, place, hsource, htarget, hfolder, rfl⟩ := Tree.rename_eq_ok hrename
      rw [hlookup] at hsource
      cases hsource
      obtain rfl := Tree.eq_parts_of_locate hanchor hparts htarget
      refine Or.inl ⟨_, rfl, trivial, Tree.isUsable_of_locate hparts htarget, ?_⟩
      rw [Tree.file?_set_file (Tree.ne_nil_of_isFolderAt hfolder), Tree.file?_remove hplace,
        hwritten]
      simp [createdAt, Files.after]

/-- Clearing a draft away is a call, if any. -/
theorem reaches_discard (fault : Fault) : tree.Reaches (discard tree (draft target) fault).1 := by
  unfold discard
  split
  · exact .refl
  · exact .refl
  · split
    · exact .refl
    · rename_i hunlink
      exact .unlink .refl hunlink

/-- Replacing a target is done by calls. -/
theorem reaches_replace (failing : Option Fault) :
    tree.Reaches (replace tree target text failing).1 := by
  unfold replace
  simp only
  split
  · exact reaches_discard _
  · rename_i written hwrite
    have hwritten : tree.Reaches written := .write .refl hwrite
    split
    · exact hwritten.trans (reaches_discard _)
    · split
      · exact hwritten.trans (reaches_discard _)
      · rename_i hrename
        exact .rename hwritten hrename

end Replace

section Create

variable (store : FolderStore) (dependencies : Dependencies) (path : String) (pieces : List String)

/-- The target of a path is where the path leads from the root of the store. -/
theorem target_eq_ok {store : FolderStore} {path : String} {target : Path}
    (h : store.target path = .ok target) :
    target = (store.root.join (Path.ofString path)).absolute store.tree.here ∧
      (store.root.join (Path.ofString path)).hasNul = false := by
  unfold FolderStore.target at h
  simp only at h
  split at h
  · cases h
  · rename_i hnul
    split at h
    · cases h
      exact ⟨rfl, by simpa using hnul⟩
    · cases h

/-- A path that has no target is refused by itself. -/
theorem target_eq_error {store : FolderStore} {path : String} {fault : Disk.Fault}
    (h : store.target path = .error fault) (place : Place) : abandonedAt place fault = [] := by
  unfold FolderStore.target at h
  simp only at h
  split at h
  · cases h
    rfl
  · split at h <;> cases h
    rfl

/-- Whether the block of a creation is entered: the path has a target, the folders above it can be
made, and its draft can be opened there. -/
def enters (store : FolderStore) (path : String) : Bool :=
  match store.target path with
  | .error _ => false
  | .ok target =>
    match store.tree.raiseFolders target.parent with
    | (_, some _) => false
    | (raised, none) => (raised.openPlace (draft target)).isOk

/-- A creation whose block is not entered fails and changes no file. -/
theorem create_of_not_enters (failing : Option Fault) (h : store.enters path = false) :
    ∃ fault, (store.create dependencies path pieces failing).fault = some (.disk fault) ∧
      (∀ place, abandonedAt place fault = []) ∧
      (store.create dependencies path pieces failing).state.tree.file? = store.tree.file? ∧
      (store.create dependencies path pieces failing).state.entries = store.entries := by
  unfold create
  unfold enters at h
  cases htarget : store.target path with
  | error fault => exact ⟨fault, rfl, target_eq_error htarget, rfl, rfl⟩
  | ok target =>
    have hfiles : (store.tree.raiseFolders target.parent).1.file? = _ := Tree.file?_raiseFolders _
    simp only [htarget] at h ⊢
    split
    · rename_i raised fault hraise
      rw [hraise] at hfiles
      obtain ⟨refused, reason, rfl⟩ := Tree.refuse_of_raiseFolders (congrArg Prod.snd hraise)
      exact ⟨_, rfl, fun _ => rfl, hfiles, rfl⟩
    · rename_i raised hraise
      rw [hraise] at hfiles
      simp only [hraise] at h
      cases hopen : raised.openPlace (draft target) with
      | ok place =>
        rw [hopen] at h
        cases h
      | error fault =>
        obtain ⟨refused, reason, hreplace⟩ := @replace_of_write_eq_error raised target
          (String.join pieces) fault failing (by rw [Tree.write, hopen]; rfl)
        rw [hreplace]
        exact ⟨_, rfl, fun _ => rfl, hfiles, rfl⟩

/-- A creation whose block is entered makes its changes and records the dependencies, or it fails and
its draft is gone. -/
theorem create_of_enters (failing : Option Fault) (h : store.enters path = true) :
    ((store.create dependencies path pieces failing).fault = none ∧ failing = none ∧
        Tree.IsUsable ((store.root.join (Path.ofString path)).absolute store.tree.here) ∧
        (store.create dependencies path pieces failing).state.tree.file? =
          Files.after store.tree.file?
            (createdAt (placeIn store.root store.tree.here path) (String.join pieces)) ∧
        (store.create dependencies path pieces failing).state.entries =
          Keyed.put path dependencies.toIndexEntry store.entries) ∨
      ∃ fault, (store.create dependencies path pieces failing).fault = some fault ∧
        EndsBlock failing fault ∧
        (store.create dependencies path pieces failing).state.tree.file? =
          Files.after store.tree.file?
            [(Path.draftOf (placeIn store.root store.tree.here path), none)] ∧
        (store.create dependencies path pieces failing).state.entries = store.entries := by
  unfold create
  unfold enters at h
  cases htarget : store.target path with
  | error fault => simp [htarget] at h
  | ok target =>
    obtain ⟨rfl, -⟩ := target_eq_ok htarget
    have hfiles : (store.tree.raiseFolders
        ((store.root.join (Path.ofString path)).absolute store.tree.here).parent).1.file? = _ :=
      Tree.file?_raiseFolders _
    simp only [htarget] at h ⊢
    split
    · rename_i hraise
      simp [hraise] at h
    · rename_i raised hraise
      rw [hraise] at hfiles
      simp only [hraise] at h
      cases hopen : raised.openPlace
          (draft ((store.root.join (Path.ofString path)).absolute store.tree.here)) with
      | error fault =>
        rw [hopen] at h
        cases h
      | ok place =>
        rcases @replace_of_write_eq_ok raised _ (String.join pieces) _ failing
            (Path.anchor_absolute_ne (store.root.join (Path.ofString path)) store.tree.here)
            (Path.not_mem_parts_absolute _ _) (by rw [Tree.write, hopen]; rfl) with
          ⟨after, hreplace, hnone, husable, hafter⟩ | ⟨after, fault, hreplace, hends, hafter⟩
        · rw [hreplace]
          exact Or.inl ⟨rfl, hnone, husable, hafter.trans (by rw [hfiles]; rfl), rfl⟩
        · rw [hreplace]
          exact Or.inr ⟨fault, rfl, hends, hafter.trans (by rw [hfiles]; rfl), rfl⟩

/-- Creating an artifact either makes the changes of a creation at its place and records its
dependencies, or fails with the changes that an abandoned creation makes and records nothing. -/
theorem create_spec :
    ((store.create dependencies path pieces none).fault = none ∧
        Tree.IsUsable ((store.root.join (Path.ofString path)).absolute store.tree.here) ∧
        (store.create dependencies path pieces none).state.tree.file? =
          Files.after store.tree.file?
            (createdAt (placeIn store.root store.tree.here path) (String.join pieces)) ∧
        (store.create dependencies path pieces none).state.entries =
          Keyed.put path dependencies.toIndexEntry store.entries) ∨
      ∃ fault, (store.create dependencies path pieces none).fault = some (.disk fault) ∧
        (store.create dependencies path pieces none).state.tree.file? =
          Files.after store.tree.file?
            (abandonedAt (placeIn store.root store.tree.here path) fault) ∧
        (store.create dependencies path pieces none).state.entries = store.entries := by
  cases henters : store.enters path with
  | false =>
    obtain ⟨fault, hfault, habandoned, hfiles, hentries⟩ :=
      create_of_not_enters store dependencies path pieces none henters
    exact Or.inr ⟨fault, hfault, by rw [habandoned]; exact hfiles, hentries⟩
  | true =>
    rcases create_of_enters store dependencies path pieces none henters with
      ⟨hfault, -, hcreated⟩ | ⟨fault, hfault, hends, hstate⟩
    · exact Or.inl ⟨hfault, hcreated⟩
    · obtain hends | ⟨-, reason, refused, other, rfl⟩ := hends
      · cases hends
      · exact Or.inr ⟨_, hfault, hstate⟩

variable (failing : Option Fault)

/-- A creation leaves the root of the store as it is. -/
@[simp] theorem create_root :
    (store.create dependencies path pieces failing).state.root = store.root := by
  unfold create
  split
  · rfl
  · split
    · rfl
    · split <;> rfl

/-- A creation is done by calls. -/
theorem reaches_create :
    store.tree.Reaches (store.create dependencies path pieces failing).state.tree := by
  unfold create
  split
  · exact .refl
  · rename_i target htarget
    have hraise : store.tree.Reaches (store.tree.raiseFolders target.parent).1 :=
      .raiseFolders target.parent
    split
    · rename_i hraised
      rwa [hraised] at hraise
    · rename_i raised hraised
      rw [hraised] at hraise
      have hreplace : raised.Reaches (replace raised target (String.join pieces) failing).1 :=
        reaches_replace failing
      split
      · rename_i hreplaced
        rw [hreplaced] at hreplace
        exact hraise.trans hreplace
      · rename_i hreplaced
        rw [hreplaced] at hreplace
        exact hraise.trans hreplace

end Create

end FolderStore

end ServiceManifest
