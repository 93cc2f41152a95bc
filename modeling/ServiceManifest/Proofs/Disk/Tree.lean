import Mathlib.Data.List.Basic
import Mathlib.Logic.Function.Basic
import ServiceManifest.Disk.Tree

/-!
# The files of a tree

What the calls on a tree do is said in terms of the files at its places. Making folders changes no
file; a path without `..` leads to the place that its parts spell; writing and moving change the
files at the places that they name and no others.
-/

namespace ServiceManifest.Disk.Tree

/-- The contents of the file at a place. -/
def file? (tree : Tree) (place : Place) : Option ByteArray :=
  match tree.entry? place with
  | some (.file bytes) => some bytes
  | _ => none

/-- A file is what is at its place. -/
theorem entry?_of_file? {tree : Tree} {place : Place} {bytes : ByteArray}
    (h : tree.file? place = some bytes) : tree.entry? place = some (.file bytes) := by
  unfold file? at h
  split at h
  · rename_i found hentry
    rw [hentry, Option.some.inj h]
  · cases h

/-- The root is a folder. -/
@[simp] theorem entry?_nil (tree : Tree) : tree.entry? [] = some .folder := rfl

/-- Without the entries of a place, what is found first at another is what was found there. -/
theorem find?_filter_ne (entries : List (Place × Entry)) (place other : Place) :
    (entries.filter fun found => found.1 ≠ place).find? (fun found => found.1 = other) =
      if other = place then none else entries.find? fun found => found.1 = other := by
  rw [List.find?_filter]
  split
  · rename_i heq
    subst heq
    simp
  · rename_i hne
    congr 1
    funext found
    by_cases hfound : found.1 = other <;> simp [hfound, hne]

/-- What is at the places after one was set. -/
theorem entry?_set {tree : Tree} {place : Place} (hplace : place ≠ []) (entry : Entry)
    (other : Place) :
    entry? (tree.set place entry) other = if other = place then some entry else tree.entry? other := by
  cases other with
  | nil => simp [Ne.symm hplace]
  | cons first rest =>
    simp only [ entry?, set, List.isEmpty_cons, List.find?_append, find?_filter_ne]
    by_cases heq : first :: rest = place
    · simp [heq]
    · simp [heq, Ne.symm heq]

/-- What is at the places after one was removed. -/
theorem entry?_remove {tree : Tree} {place : Place} (hplace : place ≠ []) (other : Place) :
    entry? (tree.remove place) other = if other = place then none else tree.entry? other := by
  cases other with
  | nil => simp [Ne.symm hplace]
  | cons first rest =>
    simp only [ entry?, remove, List.isEmpty_cons, find?_filter_ne]
    by_cases heq : first :: rest = place
    · simp [heq]
    · simp [heq]

/-- The files after a file was set. -/
theorem file?_set_file {tree : Tree} {place : Place} (hplace : place ≠ []) (bytes : ByteArray) :
    (tree.set place (.file bytes)).file? = Function.update tree.file? place (some bytes) := by
  funext other
  rw [file?, entry?_set hplace, Function.update_apply]
  by_cases heq : other = place
  · simp [heq]
  · simp [heq, file?]

/-- The files after a folder was set where there was nothing. -/
theorem file?_set_folder {tree : Tree} {place : Place} (hnone : tree.entry? place = none) :
    (tree.set place .folder).file? = tree.file? := by
  have hplace : place ≠ [] := by
    rintro rfl
    cases hnone
  funext other
  rw [file?, entry?_set hplace, file?]
  by_cases heq : other = place
  · simp [heq, hnone]
  · simp [heq]

/-- The files after something was removed. -/
theorem file?_remove {tree : Tree} {place : Place} (hplace : place ≠ []) :
    (tree.remove place).file? = Function.update tree.file? place none := by
  funext other
  rw [file?, entry?_remove hplace, Function.update_apply]
  by_cases heq : other = place
  · simp [heq]
  · simp [heq, file?]

/-- A place with a file is not the root. -/
theorem ne_nil_of_entry?_file {tree : Tree} {place : Place} {bytes : ByteArray}
    (h : tree.entry? place = some (.file bytes)) : place ≠ [] := by
  rintro rfl
  cases h

/-- A place that is no folder is not the root. -/
theorem ne_nil_of_isFolderAt {tree : Tree} {place : Place} (h : tree.isFolderAt place = false) :
    place ≠ [] := by
  rintro rfl
  cases h

section Follow

/-- Parts without `..` lead to the place that they spell. -/
theorem eq_append_of_follow {tree : Tree} {place found : Place} {parts : List String}
    (hparts : ".." ∉ parts) (h : tree.follow place parts = .ok found) : found = place ++ parts := by
  induction parts generalizing place with
  | nil =>
    cases h
    exact (List.append_nil _).symm
  | cons part rest ih =>
    rw [List.mem_cons, not_or] at hparts
    rw [follow] at h
    cases hentry : tree.entry? place with
    | none => simp [hentry] at h
    | some entry =>
      cases entry with
      | file bytes => simp [hentry] at h
      | folder =>
        simp only [hentry, if_neg (Ne.symm hparts.1)] at h
        split at h
        · cases h
        · rw [ih hparts.2 h, List.append_assoc]
          rfl

/-- A path leads where its parts lead, unless there is a NUL in it or it is too long. -/
theorem locate_eq_ok_iff {tree : Tree} {path : Path} {place : Place} :
    tree.locate path = .ok place ↔
      path.hasNul = false ∧ path.toString.utf8ByteSize ≤ pathLimit ∧
        tree.follow (if path.anchor = "" then tree.here else []) path.parts = .ok place := by
  unfold locate
  split
  · rename_i hnul
    simp [hnul]
  · split
    · rename_i hlong
      simp [Nat.not_le.mpr hlong]
    · rename_i hnul hlong
      simp [Bool.eq_false_iff.mpr hnul, Nat.not_lt.mp hlong]

/-- An anchored path without `..` leads to the place that its parts spell. -/
theorem eq_parts_of_locate {tree : Tree} {path : Path} {place : Place}
    (hanchor : path.anchor ≠ "") (hparts : ".." ∉ path.parts)
    (h : tree.locate path = .ok place) : place = path.parts := by
  obtain ⟨-, -, hfollow⟩ := locate_eq_ok_iff.mp h
  rw [if_neg hanchor] at hfollow
  exact eq_append_of_follow hparts hfollow

/-- Where parts lead hangs on the folders of the tree only, and more folders do not change it. -/
theorem follow_mono {tree other : Tree}
    (hfolders : ∀ place, tree.entry? place = some .folder → other.entry? place = some .folder)
    {place found : Place} {parts : List String} (h : tree.follow place parts = .ok found) :
    other.follow place parts = .ok found := by
  induction parts generalizing place with
  | nil => exact h
  | cons part rest ih =>
    rw [follow] at h ⊢
    cases hentry : tree.entry? place with
    | none => simp [hentry] at h
    | some entry =>
      cases entry with
      | file bytes => simp [hentry] at h
      | folder =>
        rw [hfolders place hentry]
        simp only [hentry] at h ⊢
        split
        · rename_i hpart
          rw [if_pos hpart] at h
          exact ih h
        · rename_i hpart
          rw [if_neg hpart] at h
          split
          · rename_i hlong
            rw [if_pos hlong] at h
            cases h
          · rename_i hshort
            rw [if_neg hshort] at h
            exact ih h

/-- Where a path leads hangs on the folders of the tree only, and more folders do not change it. -/
theorem locate_mono {tree other : Tree} (hhere : other.here = tree.here)
    (hfolders : ∀ place, tree.entry? place = some .folder → other.entry? place = some .folder)
    {path : Path} {place : Place} (h : tree.locate path = .ok place) :
    other.locate path = .ok place := by
  obtain ⟨hnul, hshort, hfollow⟩ := locate_eq_ok_iff.mp h
  rw [← hhere] at hfollow
  exact locate_eq_ok_iff.mpr ⟨hnul, hshort, follow_mono hfolders hfollow⟩

section Same

variable {tree other : Tree} (hentry : ∀ place, other.entry? place = tree.entry? place)

include hentry

/-- Parts lead to the same place where the same is at every place. -/
theorem follow_congr (place : Place) (parts : List String) :
    other.follow place parts = tree.follow place parts := by
  induction parts generalizing place with
  | nil => rfl
  | cons part rest ih => simp only [follow, hentry, ih]

/-- A path leads to the same where the same is at every place and relative paths start in the same
folder. -/
theorem lookup_congr (hhere : other.here = tree.here) (path : Path) :
    other.lookup path = tree.lookup path := by
  simp only [lookup, locate, hhere, follow_congr hentry, hentry]

/-- A file has the same contents where the same is at every place and relative paths start in the same
folder. -/
theorem read_congr (hhere : other.here = tree.here) (path : Path) :
    other.read path = tree.read path := by
  simp only [read, lookup_congr hentry hhere]

end Same

/-- Setting a file where there is no folder keeps the folders. -/
theorem folder_of_set {tree : Tree} {place : Place} (hplace : tree.isFolderAt place = false)
    (bytes : ByteArray) {other : Place} (h : tree.entry? other = some .folder) :
    entry? (tree.set place (.file bytes)) other = some .folder := by
  have hne : other ≠ place := by
    rintro rfl
    simp [isFolderAt, h] at hplace
  rw [entry?_set (ne_nil_of_isFolderAt hplace), if_neg hne, h]

end Follow

section Calls

variable {tree after : Tree} {path : Path}

/-- Making a folder changes no file. -/
theorem file?_of_makeFolder (h : tree.makeFolder path = .ok after) : after.file? = tree.file? := by
  unfold makeFolder at h
  split at h
  · cases h
  · split at h
    · cases h
    · rename_i hnone
      cases h
      exact file?_set_folder (by simpa using hnone)

/-- A refusal that is settled leaves the tree as it is, and stays a refusal of a single path. -/
theorem settle_spec (path : Path) (reason : Refusal) :
    (tree.settle path reason).1 = tree ∧ ∀ fault, (tree.settle path reason).2 = some fault →
      ∃ path reason, fault = refuse path reason := by
  unfold settle
  split
  · exact ⟨rfl, nofun⟩
  · exact ⟨rfl, fun fault h => ⟨path, reason, (Option.some.inj h).symm⟩⟩
  · rename_i fault hfolder
    refine ⟨rfl, fun other h => ?_⟩
    cases h
    unfold isFolder? at hfolder
    split at hfolder <;> cases hfolder
    exact ⟨path, .nameTooLong, rfl⟩

/-- What the making of each folder keeps is kept while folders are made, whether that succeeds or
not, and a fault is the refusal of a single path. -/
theorem raiseFoldersAt_spec {motive : Tree → Prop} (anchor : String) (reversed : List String)
    (hmake : ∀ rest, rest <:+ reversed → ∀ tree after, motive tree →
      tree.makeFolder ⟨anchor, rest.reverse⟩ = .ok after → motive after)
    (htree : motive tree) :
    motive (tree.raiseFoldersAt anchor reversed).1 ∧
      ∀ fault, (tree.raiseFoldersAt anchor reversed).2 = some fault →
        ∃ path reason, fault = refuse path reason := by
  have hsettle {tree : Tree} (path : Path) (reason : Refusal) (htree : motive tree) :
      motive (tree.settle path reason).1 ∧ ∀ fault, (tree.settle path reason).2 = some fault →
        ∃ path reason, fault = refuse path reason := by
    have hsame : (tree.settle path reason).1 = tree := (settle_spec path reason).1
    exact ⟨hsame.symm ▸ htree, (settle_spec path reason).2⟩
  have hrefuse (path : Path) (reason : Refusal) : ∀ fault, some (refuse path reason) = some fault →
      ∃ path reason, fault = refuse path reason :=
    fun fault h => ⟨path, reason, (Option.some.inj h).symm⟩
  induction reversed generalizing tree with
  | nil => exact ⟨htree, nofun⟩
  | cons last above ih =>
    have hlast := hmake (last :: above) (List.suffix_refl _)
    simp only [raiseFoldersAt]
    split
    · exact ⟨hlast _ _ htree ‹_›, nofun⟩
    · exact ⟨htree, hrefuse _ _⟩
    · split
      · exact ⟨htree, hrefuse _ _⟩
      · have habove := ih
          (fun rest hrest => hmake rest (hrest.trans (List.suffix_cons last above))) htree
        split
        · rename_i hraise
          rwa [hraise] at habove
        · rename_i hraise
          rw [hraise] at habove
          split
          · exact ⟨hlast _ _ habove.1 ‹_›, nofun⟩
          · exact ⟨habove.1, hrefuse _ _⟩
          · exact hsettle _ _ habove.1
    · exact hsettle _ _ htree

/-- Making a folder and those above it changes no file, whether it succeeds or not. -/
theorem file?_raiseFolders (path : Path) : (tree.raiseFolders path).1.file? = tree.file? :=
  (raiseFoldersAt_spec (motive := fun found => found.file? = tree.file?) path.anchor
    path.parts.reverse (fun _ _ _ _ htree hmake => (file?_of_makeFolder hmake).trans htree) rfl).1

/-- A fault in making folders is the refusal of a single path. -/
theorem refuse_of_raiseFolders {fault : Fault} (h : (tree.raiseFolders path).2 = some fault) :
    ∃ path reason, fault = refuse path reason :=
  (raiseFoldersAt_spec (motive := fun _ => True) path.anchor path.parts.reverse
    (fun _ _ _ _ _ _ => trivial) trivial).2 fault h

/-- A lookup finds what is at the place that the path leads to. -/
theorem lookup_eq_ok_iff {place : Place} {entry : Entry} :
    tree.lookup path = .ok (place, entry) ↔
      tree.locate path = .ok place ∧ tree.entry? place = some entry := by
  unfold lookup
  cases hlocate : tree.locate path with
  | error reason => simp
  | ok found =>
    cases hentry : tree.entry? found with
    | none =>
      simp only [hentry, reduceCtorEq, Except.ok.injEq, false_iff, not_and]
      rintro rfl
      simp [hentry]
    | some other =>
      simp only [hentry, Except.ok.injEq, Prod.mk.injEq]
      constructor
      · rintro ⟨rfl, rfl⟩
        exact ⟨rfl, hentry⟩
      · rintro ⟨rfl, hother⟩
        rw [hentry, Option.some.injEq] at hother
        exact ⟨rfl, hother⟩

/-- A place can be opened for writing if a file is there, or nothing inside of a folder. -/
theorem openPlace_eq_ok {place : Place} (h : tree.openPlace path = .ok place) :
    tree.locate path = .ok place ∧
      ((∃ bytes, tree.entry? place = some (.file bytes)) ∨
        tree.entry? place = none ∧ tree.entry? place.dropLast = some .folder) := by
  unfold openPlace at h
  cases hlocate : tree.locate path with
  | error reason => simp [hlocate] at h
  | ok found =>
    cases hentry : tree.entry? found with
    | none =>
      simp only [hlocate, hentry] at h
      split at h
      · cases h
        exact ⟨rfl, Or.inr ⟨hentry, ‹_›⟩⟩
      · cases h
    | some entry =>
      cases entry with
      | folder => simp [hlocate, hentry] at h
      | file bytes =>
        simp only [hlocate, hentry, Except.ok.injEq] at h
        subst h
        exact ⟨rfl, Or.inl ⟨bytes, hentry⟩⟩

/-- Writing sets the file at the place that is opened, which is no folder. -/
theorem write_eq_ok {bytes : ByteArray} (h : tree.write path bytes = .ok after) :
    ∃ place, tree.openPlace path = .ok place ∧ tree.isFolderAt place = false ∧
      after = tree.set place (.file bytes) := by
  unfold write at h
  cases hopen : tree.openPlace path with
  | error fault => simp [hopen, Except.map] at h
  | ok place =>
    simp only [hopen, Except.map, Except.ok.injEq] at h
    refine ⟨place, rfl, ?_, h.symm⟩
    rcases (openPlace_eq_ok hopen).2 with ⟨_, hentry⟩ | ⟨hentry, -⟩ <;> simp [isFolderAt, hentry]

/-- What was written is found under the path. -/
theorem lookup_of_write {bytes : ByteArray} {place : Place} (hopen : tree.openPlace path = .ok place)
    (hplace : tree.isFolderAt place = false) :
    (tree.set place (.file bytes)).lookup path = .ok (place, .file bytes) := by
  have hlocate : (tree.set place (.file bytes)).locate path = .ok place :=
    locate_mono (show (tree.set place (.file bytes)).here = tree.here from rfl)
      (fun _ => folder_of_set hplace bytes) (openPlace_eq_ok hopen).1
  refine lookup_eq_ok_iff.mpr ⟨hlocate, ?_⟩
  rw [entry?_set (ne_nil_of_isFolderAt hplace), if_pos rfl]

/-- A path that leads to a file can be written. -/
theorem write_of_lookup {place : Place} {old bytes : ByteArray}
    (h : tree.lookup path = .ok (place, .file old)) :
    tree.write path bytes = .ok (tree.set place (.file bytes)) := by
  obtain ⟨hlocate, hentry⟩ := lookup_eq_ok_iff.mp h
  simp [write, openPlace, hlocate, hentry, Except.map]

/-- A path exists if it leads to something. -/
theorem exists?_eq_true_iff :
    tree.exists? path = .ok true ↔ ∃ place entry, tree.lookup path = .ok (place, entry) := by
  unfold exists?
  split
  · rename_i found hfound
    exact ⟨fun _ => ⟨found.1, found.2, hfound⟩, fun _ => rfl⟩
  · simp [*]
  · simp [*]

/-- A fault in removing is the refusal of the path. -/
theorem unlink_eq_error {fault : Fault} (h : tree.unlink path = .error fault) :
    ∃ reason, fault = refuse path reason := by
  unfold unlink at h
  split at h
  · cases h
  · exact ⟨_, (Except.error.inj h).symm⟩
  · exact ⟨_, (Except.error.inj h).symm⟩

/-- Removing a file removes what is at the place that the path leads to. -/
theorem unlink_eq_ok (h : tree.unlink path = .ok after) :
    ∃ place bytes, tree.lookup path = .ok (place, .file bytes) ∧ after = tree.remove place := by
  unfold unlink at h
  split at h
  · cases h
    exact ⟨_, _, ‹_›, rfl⟩
  · cases h
  · cases h

/-- A file moves to the place that the other path leads to, which is no folder. -/
theorem rename_eq_ok {target : Path} (h : tree.rename path target = .ok after) :
    ∃ source bytes place, tree.lookup path = .ok (source, .file bytes) ∧
      tree.locate target = .ok place ∧ tree.isFolderAt place = false ∧
        after = (tree.remove source).set place (.file bytes) := by
  unfold rename at h
  simp only at h
  split at h
  · cases h
  · cases h
  · cases h
  · split at h
    · cases h
    · rename_i hfolder
      cases h
      exact ⟨_, _, _, ‹_›, ‹_›, by simpa using hfolder, rfl⟩

/-- A fault in writing is the refusal of the path. -/
theorem write_eq_error {bytes : ByteArray} {fault : Fault} (h : tree.write path bytes = .error fault) :
    ∃ reason, fault = refuse path reason := by
  unfold write openPlace at h
  cases hlocate : tree.locate path with
  | error reason =>
    simp only [hlocate, Except.map, Except.error.injEq] at h
    exact ⟨reason, h.symm⟩
  | ok place =>
    simp only [hlocate] at h
    split at h
    · exact ⟨_, (Except.error.inj h).symm⟩
    · cases h
    · split at h
      · cases h
      · exact ⟨_, (Except.error.inj h).symm⟩

/-- A fault in asking for a path is a refusal of it. -/
theorem exists?_eq_error {fault : Fault} (h : tree.exists? path = .error fault) :
    fault = refuse path .nameTooLong := by
  unfold exists? at h
  split at h <;> cases h
  rfl

/-- A failed move names both paths. -/
theorem rename_eq_error {target : Path} {fault : Fault} (h : tree.rename path target = .error fault) :
    ∃ reason, fault = .refused reason path.toString (some target.toString) := by
  unfold rename at h
  simp only at h
  split at h
  · exact ⟨_, (Except.error.inj h).symm⟩
  · exact ⟨_, (Except.error.inj h).symm⟩
  · exact ⟨_, (Except.error.inj h).symm⟩
  · split at h
    · exact ⟨_, (Except.error.inj h).symm⟩
    · cases h

end Calls

/-- The trees that successful calls lead to. -/
inductive Reaches (tree : Tree) : Tree → Prop
  | refl : Reaches tree tree
  | makeFolder {found after : Tree} {path : Path} (hfound : Reaches tree found)
      (hmake : found.makeFolder path = .ok after) : Reaches tree after
  | write {found after : Tree} {path : Path} {bytes : ByteArray} (hfound : Reaches tree found)
      (hwrite : found.write path bytes = .ok after) : Reaches tree after
  | unlink {found after : Tree} {path : Path} (hfound : Reaches tree found)
      (hunlink : found.unlink path = .ok after) : Reaches tree after
  | rename {found after : Tree} {path target : Path} (hfound : Reaches tree found)
      (hrename : found.rename path target = .ok after) : Reaches tree after

namespace Reaches

variable {tree found after : Tree}

/-- Calls may follow other calls. -/
theorem trans (hfound : Reaches tree found) (hafter : Reaches found after) : Reaches tree after := by
  induction hafter with
  | refl => exact hfound
  | makeFolder _ hmake ih => exact .makeFolder ih hmake
  | write _ hwrite ih => exact .write ih hwrite
  | unlink _ hunlink ih => exact .unlink ih hunlink
  | rename _ hrename ih => exact .rename ih hrename

/-- Calls do not change where relative paths start. -/
theorem here_eq (h : Reaches tree after) : after.here = tree.here := by
  induction h with
  | refl => rfl
  | makeFolder _ hmake ih =>
    unfold Tree.makeFolder at hmake
    split at hmake
    · cases hmake
    · split at hmake <;> cases hmake
      exact ih
  | write _ hwrite ih =>
    obtain ⟨place, -, -, rfl⟩ := write_eq_ok hwrite
    exact ih
  | unlink _ hunlink ih =>
    obtain ⟨place, bytes, -, rfl⟩ := unlink_eq_ok hunlink
    exact ih
  | rename _ hrename ih =>
    obtain ⟨source, bytes, place, -, -, -, rfl⟩ := rename_eq_ok hrename
    exact ih

/-- Folders are made by making each. -/
theorem raiseFolders (path : Path) : Reaches tree (tree.raiseFolders path).1 :=
  (raiseFoldersAt_spec path.anchor path.parts.reverse
    (fun _ _ _ _ hreaches hmake => .makeFolder hreaches hmake) .refl).1

end Reaches

end ServiceManifest.Disk.Tree
