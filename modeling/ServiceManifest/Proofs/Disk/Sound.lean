import Mathlib.Data.List.Induction
import ServiceManifest.Proofs.Disk.Tree
import ServiceManifest.Proofs.Path

/-!
# Sound trees

In a tree as a disk has it, everything lies in a folder, no place has two entries, and relative paths
start in a folder. Calls keep a tree sound. In a sound tree a path that leads somewhere leads where
its absolute form does, and what is there can be found unless its path is too long.
-/

namespace ServiceManifest.Disk.Tree

/-- A tree as a disk has it: everything lies in a folder, no place has two entries, and relative
paths start in a folder. -/
structure IsSound (tree : Tree) : Prop where
  inFolder : ∀ place name, tree.entry? (place ++ [name]) ≠ none → tree.entry? place = some .folder
  nodup : (tree.entries.map (·.1)).Nodup
  here : tree.entry? tree.here = some .folder
  plain : ∀ name ∈ tree.here, name ≠ ".." ∧ '\x00' ∉ name.toList

/-- Whether a tree is sound is seen from its entries. -/
theorem isSound_iff {tree : Tree} :
    tree.IsSound ↔ (∀ found ∈ tree.entries, found.1 ≠ [] →
        tree.entry? found.1.dropLast = some .folder) ∧ (tree.entries.map (·.1)).Nodup ∧
      tree.entry? tree.here = some .folder ∧
        ∀ name ∈ tree.here, name ≠ ".." ∧ '\x00' ∉ name.toList := by
  have hentry (place : Place) (name : String) :
      tree.entry? (place ++ [name]) ≠ none ↔ ∃ found ∈ tree.entries, found.1 = place ++ [name] := by
    simp [ entry?, List.find?_eq_none]
  constructor
  · rintro ⟨hfolder, hnodup, hhere, hplain⟩
    refine ⟨fun found hfound hne => ?_, hnodup, hhere, hplain⟩
    have hsplit := List.dropLast_append_getLast hne
    exact hfolder _ _ ((hentry _ (found.1.getLast hne)).mpr ⟨found, hfound, hsplit.symm⟩)
  · rintro ⟨hfolder, hnodup, hhere, hplain⟩
    refine ⟨fun place name h => ?_, hnodup, hhere, hplain⟩
    obtain ⟨found, hfound, heq⟩ := (hentry place name).mp h
    have habove := hfolder found hfound (by simp [heq])
    rwa [heq, List.dropLast_concat] at habove

instance (tree : Tree) : Decidable tree.IsSound := decidable_of_iff _ isSound_iff.symm

/-- A place at which there may be something: a folder, or directly inside of one. -/
def IsOpen (tree : Tree) (place : Place) : Prop :=
  tree.entry? place = some .folder ∨ tree.entry? place.dropLast = some .folder

/-- A place with folders above it is found from any of them, unless a name on the way is too
long. -/
theorem follow_of_folders {tree : Tree} {front rest : Place} (hup : ".." ∉ rest)
    (hfolders : ∀ before after, before ++ after = rest → after ≠ [] →
      tree.entry? (front ++ before) = some .folder) :
    tree.follow front rest =
      if ∀ name ∈ rest, name.utf8ByteSize ≤ nameLimit then .ok (front ++ rest)
      else .error .nameTooLong := by
  induction rest generalizing front with
  | nil => rw [follow, if_pos (by simp), List.append_nil]
  | cons name rest ih =>
    rw [List.mem_cons, not_or] at hup
    have hfront : tree.entry? front = some .folder := by
      simpa using hfolders [] (name :: rest) rfl (List.cons_ne_nil _ _)
    have hrest : tree.follow (front ++ [name]) rest =
        if ∀ name ∈ rest, name.utf8ByteSize ≤ nameLimit then .ok (front ++ [name] ++ rest)
        else .error .nameTooLong := by
      refine ih hup.2 ?_
      rintro before after rfl hafter
      simpa using hfolders (name :: before) after rfl hafter
    rw [follow, hfront]
    simp only
    rw [if_neg (Ne.symm hup.1), hrest]
    simp only [List.forall_mem_cons, List.append_assoc, List.singleton_append]
    by_cases hlong : nameLimit < name.utf8ByteSize
    · rw [if_pos hlong, if_neg fun h => absurd h.1 (Nat.not_le.mpr hlong)]
    · simp only [if_neg hlong, Nat.not_lt.mp hlong, true_and]

/-- A place that is open but no folder lies in a folder. -/
theorem IsOpen.inFolder {tree : Tree} {place : Place} (h : tree.IsOpen place)
    (hplace : tree.isFolderAt place = false) : tree.entry? place.dropLast = some .folder := by
  rcases h with h | h
  · simp [isFolderAt, h] at hplace
  · exact h

section Sound

variable {tree : Tree} (hsound : tree.IsSound)
include hsound

/-- Everything above a place with something is a folder. -/
theorem IsSound.folder_above {place rest : Place} (hrest : rest ≠ [])
    (h : tree.entry? (place ++ rest) ≠ none) : tree.entry? place = some .folder := by
  induction rest using List.reverseRecOn with
  | nil => exact absurd rfl hrest
  | append_singleton front name ih =>
    have hfront : tree.entry? (place ++ front) = some .folder :=
      hsound.inFolder (place ++ front) name (by rwa [List.append_assoc])
    by_cases hempty : front = []
    · rwa [hempty, List.append_nil] at hfront
    · exact ih hempty (by rw [hfront]; nofun)

/-- The folder above a folder. -/
theorem IsSound.folder_dropLast {place : Place} (h : tree.entry? place = some .folder) :
    tree.entry? place.dropLast = some .folder := by
  rcases List.eq_nil_or_concat' place with rfl | ⟨front, last, rfl⟩
  · rfl
  · rw [List.dropLast_concat]
    exact hsound.inFolder front last (by rw [h]; nofun)

/-- From a folder, parts lead where they lead when each `..` takes back the part before it, and
there something may be. -/
theorem IsSound.follow_spec {place found : Place} {parts : List String}
    (hplace : tree.entry? place = some .folder) (h : tree.follow place parts = .ok found) :
    found = parts.foldl (fun done part => if part = ".." then done.dropLast else done ++ [part])
      place ∧ tree.IsOpen found := by
  have hgeneral : ∀ place, tree.IsOpen place → tree.follow place parts = .ok found →
      found = parts.foldl (fun done part => if part = ".." then done.dropLast else done ++ [part])
        place ∧ tree.IsOpen found := by
    clear hplace h
    intro place hopen h
    induction parts generalizing place with
    | nil =>
      cases h
      exact ⟨rfl, hopen⟩
    | cons part rest ih =>
      rw [follow] at h
      cases hentry : tree.entry? place with
      | none => simp [hentry] at h
      | some entry =>
        cases entry with
        | file bytes => simp [hentry] at h
        | folder =>
          simp only [hentry] at h
          rw [List.foldl_cons]
          split
          · rename_i hpart
            rw [if_pos hpart] at h
            exact ih _ (Or.inl (hsound.folder_dropLast hentry)) h
          · rename_i hpart
            rw [if_neg hpart] at h
            split at h
            · cases h
            · exact ih _ (Or.inr (by rwa [List.dropLast_concat])) h
  exact hgeneral place (Or.inl hplace) h

/-- A path that leads somewhere leads to the place of its absolute form, where something may be. -/
theorem IsSound.locate_spec {path : Path} {place : Place} (h : tree.locate path = .ok place) :
    place = (path.absolute tree.here).parts ∧ tree.IsOpen place := by
  have hup : ".." ∉ tree.here := fun hmem => (hsound.plain ".." hmem).1 rfl
  obtain ⟨-, -, hfollow⟩ := locate_eq_ok_iff.mp h
  unfold Path.absolute
  split at hfollow
  · rename_i hanchor
    obtain ⟨hfound, hopen⟩ := hsound.follow_spec hsound.here hfollow
    rw [if_pos hanchor, Path.collapse_append, Path.collapse_eq_self hup]
    exact ⟨hfound, hopen⟩
  · rename_i hanchor
    obtain ⟨hfound, hopen⟩ := hsound.follow_spec (show tree.entry? [] = some .folder from rfl) hfollow
    rw [if_neg hanchor]
    exact ⟨hfound, hopen⟩

/-- A tree stays sound when something is set in a folder where there is no folder. -/
theorem IsSound.set {place : Place} (entry : Entry) (hplace : tree.isFolderAt place = false)
    (hfolder : tree.entry? place.dropLast = some .folder) : (tree.set place entry).IsSound := by
  have hroot := ne_nil_of_isFolderAt hplace
  have hother {other : Place} (h : tree.entry? other = some .folder) : other ≠ place := by
    rintro rfl
    simp [isFolderAt, h] at hplace
  refine ⟨fun front name h => ?_, ?_, ?_, hsound.plain⟩
  · have hfront : tree.entry? front = some .folder := by
      rw [entry?_set hroot] at h
      split at h
      · rename_i heq
        rwa [← heq, List.dropLast_concat] at hfolder
      · exact hsound.inFolder front name h
    rw [entry?_set hroot, if_neg (hother hfront), hfront]
  · have hkept := hsound.nodup.sublist ((List.filter_sublist
      (p := fun found : Place × Entry => decide (found.1 ≠ place)) (l := tree.entries)).map (·.1))
    rw [Tree.set, List.map_append, List.nodup_append]
    refine ⟨hkept, by simp, ?_⟩
    rintro front hfront _ hmem rfl
    obtain ⟨found, hfound, rfl⟩ := List.mem_map.mp hfront
    simp at hfound hmem
    exact hfound.2 hmem
  · rw [entry?_set hroot]
    exact (if_neg (hother hsound.here)).trans hsound.here

/-- A tree stays sound when a file is removed. -/
theorem IsSound.remove {place : Place} {bytes : ByteArray}
    (hplace : tree.entry? place = some (.file bytes)) : (tree.remove place).IsSound := by
  have hroot := ne_nil_of_entry?_file hplace
  have hother {other : Place} (h : tree.entry? other = some .folder) : other ≠ place := by
    rintro rfl
    rw [h] at hplace
    cases hplace
  refine ⟨fun front name h => ?_, ?_, ?_, hsound.plain⟩
  · rw [entry?_remove hroot] at h
    split at h
    · exact absurd rfl h
    · have hfront := hsound.inFolder front name h
      rw [entry?_remove hroot, if_neg (hother hfront), hfront]
  · exact hsound.nodup.sublist ((List.filter_sublist
      (p := fun found : Place × Entry => decide (found.1 ≠ place)) (l := tree.entries)).map (·.1))
  · rw [entry?_remove hroot]
    exact (if_neg (hother hsound.here)).trans hsound.here

end Sound

/-- Calls keep a tree sound. -/
theorem Reaches.isSound {tree after : Tree} (h : Reaches tree after) (hsound : tree.IsSound) :
    after.IsSound := by
  induction h with
  | refl => exact hsound
  | @makeFolder found after path _ hmake ih =>
    unfold Tree.makeFolder at hmake
    split at hmake
    · cases hmake
    · rename_i place hlocate
      split at hmake
      · cases hmake
      · rename_i hnone
        cases hmake
        have hplace : found.isFolderAt place = false := by
          simp [isFolderAt, Option.not_isSome_iff_eq_none.mp hnone]
        exact ih.set .folder hplace ((ih.locate_spec hlocate).2.inFolder hplace)
  | write _ hwrite ih =>
    obtain ⟨place, hopen, hplace, rfl⟩ := write_eq_ok hwrite
    exact ih.set _ hplace ((ih.locate_spec (openPlace_eq_ok hopen).1).2.inFolder hplace)
  | unlink _ hunlink ih =>
    obtain ⟨place, bytes, hlookup, rfl⟩ := unlink_eq_ok hunlink
    exact ih.remove (lookup_eq_ok_iff.mp hlookup).2
  | rename _ hrename ih =>
    obtain ⟨source, bytes, place, hlookup, htarget, hplace, rfl⟩ := rename_eq_ok hrename
    have hsource := (lookup_eq_ok_iff.mp hlookup).2
    have hroot := ne_nil_of_entry?_file hsource
    have hfolder := (ih.locate_spec htarget).2.inFolder hplace
    refine (ih.remove hsource).set _ ?_ ?_
    · unfold isFolderAt at hplace ⊢
      rw [entry?_remove hroot]
      by_cases heq : place = source
      · rw [if_pos heq]
      · rwa [if_neg heq]
    · rw [entry?_remove hroot, if_neg ?_, hfolder]
      rintro heq
      rw [heq, hsource] at hfolder
      cases hfolder

section Absolute

/-- A path that is not too long, and has no name that is. -/
def IsShort (path : Path) : Prop :=
  path.toString.utf8ByteSize ≤ pathLimit ∧ ∀ name ∈ path.parts, name.utf8ByteSize ≤ nameLimit

instance (path : Path) : Decidable (IsShort path) := inferInstanceAs (Decidable (_ ∧ _))

/-- A path that calls take: without a NUL, and not too long. -/
def IsUsable (path : Path) : Prop := path.hasNul = false ∧ IsShort path

variable {tree : Tree}

/-- Parts may be followed one after the other. -/
theorem follow_append (place : Place) (parts more : List String) :
    tree.follow place (parts ++ more) =
      (tree.follow place parts).bind fun found => tree.follow found more := by
  induction parts generalizing place with
  | nil => rfl
  | cons part rest ih =>
    rw [List.cons_append, follow, follow]
    cases tree.entry? place with
    | none => rfl
    | some entry =>
      cases entry with
      | file bytes => rfl
      | folder =>
        simp only
        split
        · exact ih _
        · split
          · rfl
          · exact ih _

/-- Names that were followed are not too long. -/
theorem short_of_follow {place found : Place} {parts : List String} (hup : ".." ∉ parts)
    (h : tree.follow place parts = .ok found) : ∀ name ∈ parts, name.utf8ByteSize ≤ nameLimit := by
  induction parts generalizing place with
  | nil => exact fun name hname => absurd hname List.not_mem_nil
  | cons part rest ih =>
    rw [List.mem_cons, not_or] at hup
    rw [follow] at h
    split at h
    · cases h
    · cases h
    · rw [if_neg (Ne.symm hup.1)] at h
      split at h
      · cases h
      · rename_i hshort
        exact List.forall_mem_cons.mpr ⟨Nat.not_lt.mp hshort, ih hup.2 h⟩

/-- What lies below a folder is reached from it, unless a name on the way is too long. -/
theorem IsSound.follow_of_entry? (hsound : tree.IsSound) {place : Place} {parts : List String}
    {entry : Entry} (hup : ".." ∉ parts)
    (hnames : ∀ name ∈ parts, name.utf8ByteSize ≤ nameLimit)
    (h : tree.entry? (place ++ parts) = some entry) :
    tree.follow place parts = .ok (place ++ parts) := by
  rw [follow_of_folders hup fun before after hsplit hafter => ?_, if_pos hnames]
  refine hsound.folder_above hafter ?_
  rw [List.append_assoc, hsplit, h]
  nofun

/-- Calls take a path without `..` that leads somewhere. -/
theorem isUsable_of_locate {path : Path} {place : Place} (hup : ".." ∉ path.parts)
    (h : tree.locate path = .ok place) : IsUsable path := by
  obtain ⟨hnul, hlength, hfollow⟩ := locate_eq_ok_iff.mp h
  exact ⟨hnul, hlength, short_of_follow hup hfollow⟩

/-- What is at the place of an absolute path is found under the path, unless that is too long. -/
theorem IsSound.lookup_of_entry? (hsound : tree.IsSound) {path : Path} {entry : Entry}
    (hanchor : path.anchor ≠ "") (hup : ".." ∉ path.parts) (hnul : path.hasNul = false)
    (h : tree.entry? path.parts = some entry) :
    tree.lookup path = if IsShort path then .ok (path.parts, entry) else .error .nameTooLong := by
  have hfollow : tree.follow [] path.parts =
      if ∀ name ∈ path.parts, name.utf8ByteSize ≤ nameLimit then .ok ([] ++ path.parts)
      else .error .nameTooLong := by
    refine follow_of_folders hup fun before after hsplit hafter => ?_
    rw [List.nil_append]
    exact hsound.folder_above hafter (by rw [hsplit, h]; nofun)
  have hlocate : tree.locate path =
      if IsShort path then .ok path.parts else .error .nameTooLong := by
    unfold locate
    rw [hnul, if_neg (by simp), if_neg hanchor, hfollow, List.nil_append]
    by_cases hlong : pathLimit < path.toString.utf8ByteSize
    · have hnot : ¬IsShort path := fun hshort => absurd hshort.1 (Nat.not_le.mpr hlong)
      rw [if_pos hlong, if_neg hnot]
    · have hiff : IsShort path ↔ ∀ name ∈ path.parts, name.utf8ByteSize ≤ nameLimit :=
        and_iff_right (Nat.not_lt.mp hlong)
      simp only [if_neg hlong, hiff]
  unfold lookup
  rw [hlocate]
  split_ifs
  · simp only [h]
  · rfl

/-- The absolute form of a path has no NUL if the path has none. -/
theorem IsSound.hasNul_absolute (hsound : tree.IsSound) {path : Path} (h : path.hasNul = false) :
    (path.absolute tree.here).hasNul = false := by
  simp only [Path.hasNul, List.any_eq_false, List.contains_iff_mem] at h ⊢
  intro name hname
  unfold Path.absolute at hname
  split at hname
  · rcases List.mem_append.mp (Path.collapse_subset _ _ hname) with hname | hname
    · exact (hsound.plain name hname).2
    · exact h name hname
  · exact h name (Path.collapse_subset _ _ hname)

/-- What a path leads to is found under its absolute form, unless that is too long. -/
theorem IsSound.lookup_absolute (hsound : tree.IsSound) {path : Path} {place : Place} {entry : Entry}
    (h : tree.lookup path = .ok (place, entry)) :
    tree.lookup (path.absolute tree.here) =
      if IsShort (path.absolute tree.here) then .ok (place, entry) else .error .nameTooLong := by
  obtain ⟨hlocate, hentry⟩ := lookup_eq_ok_iff.mp h
  obtain ⟨hnul, -, -⟩ := locate_eq_ok_iff.mp hlocate
  obtain ⟨rfl, -⟩ := hsound.locate_spec hlocate
  exact hsound.lookup_of_entry? (Path.anchor_absolute_ne path tree.here)
    (Path.not_mem_parts_absolute path tree.here) (hsound.hasNul_absolute hnul) hentry

/-- What is found below a folder is found below the absolute form of its path, unless that is too
long. -/
theorem IsSound.lookup_join (hsound : tree.IsSound) {root path : Path} {folder : Place}
    {found : Place × Entry} (hroot : tree.lookup root = .ok (folder, .folder))
    (hshort : IsShort (root.absolute tree.here)) (hfound : tree.lookup (root.join path) = .ok found)
    (hlength : ((root.absolute tree.here).join path).toString.utf8ByteSize ≤ pathLimit) :
    tree.lookup ((root.absolute tree.here).join path) = .ok found := by
  unfold Path.join at hfound hlength ⊢
  split at hfound
  · rename_i hrelative
    rw [if_pos hrelative] at hlength ⊢
    have hfolder := hsound.lookup_absolute hroot
    rw [if_pos hshort] at hfolder
    obtain ⟨hlocate, hentry⟩ := lookup_eq_ok_iff.mp hfound
    obtain ⟨hnul, -, hfollow⟩ := locate_eq_ok_iff.mp hlocate
    obtain ⟨-, -, hstart⟩ := locate_eq_ok_iff.mp (lookup_eq_ok_iff.mp hroot).1
    obtain ⟨hnulRoot, -, habsolute⟩ := locate_eq_ok_iff.mp (lookup_eq_ok_iff.mp hfolder).1
    refine lookup_eq_ok_iff.mpr ⟨locate_eq_ok_iff.mpr ⟨?_, hlength, ?_⟩, hentry⟩
    · simp only [Path.hasNul, List.any_append, Bool.or_eq_false_iff] at hnul hnulRoot ⊢
      exact ⟨hnulRoot, hnul.2⟩
    · simp only [follow_append, hstart, habsolute, Except.bind] at hfollow ⊢
      exact hfollow
  · rename_i hanchored
    rw [if_neg hanchored] at hlength ⊢
    exact hfound

/-- A file is found under a path without `..` if calls take the absolute form of the path. -/
theorem IsSound.lookup_of_file? (hsound : tree.IsSound) {path : Path} {bytes : ByteArray}
    (hup : ".." ∉ path.parts) (husable : IsUsable (path.absolute tree.here))
    (h : tree.file? (path.absolute tree.here).parts = some bytes) :
    tree.lookup path = .ok ((path.absolute tree.here).parts, .file bytes) := by
  have hhere : ".." ∉ tree.here := fun hmem => (hsound.plain ".." hmem).1 rfl
  have hentry := entry?_of_file? h
  obtain ⟨hnul, hlength, hnames⟩ := husable
  by_cases hanchor : path.anchor = ""
  · rw [Path.absolute_of_relative hanchor hhere hup] at hnul hlength hnames hentry ⊢
    have hfollow : tree.follow tree.here path.parts = .ok (tree.here ++ path.parts) :=
      hsound.follow_of_entry? hup (fun name hname => hnames name (List.mem_append_right _ hname)) hentry
    have hself : path = ⟨"", path.parts⟩ := by rw [← hanchor]
    refine lookup_eq_ok_iff.mpr ⟨locate_eq_ok_iff.mpr ⟨?_, ?_, ?_⟩, hentry⟩
    · simp only [Path.hasNul, List.any_append, Bool.or_eq_false_iff] at hnul
      exact hnul.2
    · rw [hself]
      exact Nat.le_trans (Path.utf8ByteSize_toString_le tree.here path.parts) hlength
    · rw [if_pos hanchor, hfollow]
  · rw [Path.absolute_of_anchored hanchor hup] at hnul hlength hnames hentry ⊢
    rw [hsound.lookup_of_entry? hanchor hup hnul hentry, if_pos ⟨hlength, hnames⟩]

/-- A file below a folder is found under a path of the folder with the way to the file behind it,
unless that is too long. -/
theorem IsSound.lookup_join_of_file? (hsound : tree.IsSound) {root path : Path} {folder : Place}
    {bytes : ByteArray} (hroot : tree.lookup root = .ok (folder, .folder))
    (hanchor : path.anchor = "") (hup : ".." ∉ path.parts) (hnul : path.hasNul = false)
    (hnames : ∀ name ∈ path.parts, name.utf8ByteSize ≤ nameLimit)
    (hlength : (root.join path).toString.utf8ByteSize ≤ pathLimit)
    (h : tree.file? (folder ++ path.parts) = some bytes) :
    tree.lookup (root.join path) = .ok (folder ++ path.parts, .file bytes) := by
  have hentry := entry?_of_file? h
  obtain ⟨hnulRoot, -, hstart⟩ := locate_eq_ok_iff.mp (lookup_eq_ok_iff.mp hroot).1
  refine lookup_eq_ok_iff.mpr ⟨locate_eq_ok_iff.mpr ⟨?_, hlength, ?_⟩, hentry⟩
  · rw [Path.join, if_pos hanchor]
    simp only [Path.hasNul, List.any_append, Bool.or_eq_false_iff] at hnul hnulRoot ⊢
    exact ⟨hnulRoot, hnul⟩
  · rw [Path.join, if_pos hanchor]
    simp only [follow_append, hstart, Except.bind]
    exact hsound.follow_of_entry? hup hnames hentry

/-- There is something under a path without `..` if calls take its absolute form and a file is there. -/
theorem IsSound.exists?_of_file? (hsound : tree.IsSound) {path : Path} {bytes : ByteArray}
    (hup : ".." ∉ path.parts) (husable : IsUsable (path.absolute tree.here))
    (h : tree.file? (path.absolute tree.here).parts = some bytes) : tree.exists? path = .ok true :=
  exists?_eq_true_iff.mpr ⟨_, _, hsound.lookup_of_file? hup husable h⟩

/-- A path that can be read leads to a file at the place of its absolute form. -/
theorem IsSound.file?_of_read (hsound : tree.IsSound) {path : Path} {bytes : ByteArray}
    (h : tree.read path = .ok bytes) : tree.file? (path.absolute tree.here).parts = some bytes := by
  unfold read at h
  split at h
  · rename_i place found hlookup
    cases h
    obtain ⟨hlocate, hentry⟩ := lookup_eq_ok_iff.mp hlookup
    rw [← (hsound.locate_spec hlocate).1, file?, hentry]
  · cases h
  · cases h

end Absolute

end ServiceManifest.Disk.Tree
