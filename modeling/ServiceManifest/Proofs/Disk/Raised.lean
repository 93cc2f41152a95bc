import ServiceManifest.Proofs.Disk.Sound

/-!
# Folders that were made

Making a folder and those above it either ends at the first fault or leaves the folder there. Only
the folder and those above it can be new, and a folder that is there already is not made again. In a
folder a name that is not too long can be opened for writing.
-/

namespace ServiceManifest.Disk.Tree

variable {tree after : Tree}

/-- A place is a folder if a folder is there. -/
theorem isFolderAt_iff {place : Place} :
    tree.isFolderAt place = true ↔ tree.entry? place = some .folder := by
  unfold isFolderAt
  split <;> simp_all

/-- Where no folder is, there is a file or nothing. -/
theorem entry?_eq_map_file {place : Place} (h : tree.isFolderAt place = false) :
    tree.entry? place = (tree.file? place).map .file := by
  unfold isFolderAt at h
  unfold file?
  cases hentry : tree.entry? place with
  | none => rfl
  | some entry =>
    cases entry with
    | folder => simp [hentry] at h
    | file bytes => rfl

section Raise

variable {anchor : String} {last : String} {above : List String}

/-- A folder is made at the place that its path leads to. -/
theorem makeFolder_eq_ok {path : Path} (hmake : tree.makeFolder path = .ok after) :
    ∃ place, tree.locate path = .ok place ∧ tree.entry? place = none ∧
      after = tree.set place .folder := by
  unfold makeFolder at hmake
  split at hmake
  · cases hmake
  · rename_i place hlocate
    split at hmake
    · cases hmake
    · rename_i hnone
      exact ⟨place, hlocate, Option.not_isSome_iff_eq_none.mp hnone, (Except.ok.inj hmake).symm⟩

/-- A folder that was made is found. -/
theorem lookup_of_makeFolder {path : Path} (hmake : tree.makeFolder path = .ok after) :
    ∃ place, after.lookup path = .ok (place, .folder) := by
  obtain ⟨place, hlocate, hnone, rfl⟩ := makeFolder_eq_ok hmake
  have hplace : place ≠ [] := by
    rintro rfl
    cases hnone
  have hkept (other : Place) (hother : tree.entry? other = some .folder) :
      entry? (tree.set place .folder) other = some .folder := by
    rw [entry?_set hplace]
    split
    · rfl
    · exact hother
  refine ⟨place, lookup_eq_ok_iff.mpr ⟨?_, by rw [entry?_set hplace, if_pos rfl]⟩⟩
  exact locate_mono (show (tree.set place .folder).here = tree.here from rfl) hkept hlocate

/-- A refusal that is settled without a fault is that of a folder that is there. -/
theorem lookup_of_settle {path : Path} {reason : Refusal}
    (h : tree.settle path reason = (after, none)) :
    ∃ place, after.lookup path = .ok (place, .folder) := by
  unfold settle at h
  split at h
  · rename_i hfolder
    obtain rfl := (Prod.mk.inj h).1
    unfold isFolder? at hfolder
    split at hfolder
    · exact ⟨_, ‹_›⟩
    · cases hfolder
    · cases hfolder
    · cases hfolder
  · cases (Prod.mk.inj h).2
  · cases (Prod.mk.inj h).2

/-- After folders were made without a fault, the lowest of them is found. -/
theorem lookup_of_raiseFoldersAt (h : tree.raiseFoldersAt anchor (last :: above) = (after, none)) :
    ∃ place, after.lookup ⟨anchor, (last :: above).reverse⟩ = .ok (place, .folder) := by
  simp only [raiseFoldersAt] at h
  split at h
  · rename_i hmake
    obtain rfl := (Prod.mk.inj h).1
    exact lookup_of_makeFolder hmake
  · cases (Prod.mk.inj h).2
  · split at h
    · cases (Prod.mk.inj h).2
    · split at h
      · cases (Prod.mk.inj h).2
      · split at h
        · rename_i hmake
          obtain rfl := (Prod.mk.inj h).1
          exact lookup_of_makeFolder hmake
        · cases (Prod.mk.inj h).2
        · exact lookup_of_settle h
  · exact lookup_of_settle h

/-- After a folder with an anchored path was made without a fault, it is found at its parts. -/
theorem lookup_of_raiseFolders {path : Path} (hanchor : path.anchor ≠ "") (hup : ".." ∉ path.parts)
    (hparts : path.parts ≠ []) (h : tree.raiseFolders path = (after, none)) :
    after.lookup path = .ok (path.parts, .folder) := by
  obtain ⟨front, last, hsplit⟩ := (List.eq_nil_or_concat' path.parts).resolve_left hparts
  have hreverse : path.parts.reverse = last :: front.reverse := by
    rw [hsplit, List.reverse_concat]
  rw [raiseFolders, hreverse] at h
  obtain ⟨place, hlookup⟩ := lookup_of_raiseFoldersAt h
  rw [← hreverse, List.reverse_reverse] at hlookup
  obtain rfl := eq_parts_of_locate hanchor hup (lookup_eq_ok_iff.mp hlookup).1
  exact hlookup

/-- Making a folder that is there leaves the tree as it is. -/
theorem raiseFolders_of_lookup {path : Path} (hparts : path.parts ≠ []) {place : Place}
    (h : tree.lookup path = .ok (place, .folder)) : tree.raiseFolders path = (tree, none) := by
  obtain ⟨front, last, hsplit⟩ := (List.eq_nil_or_concat' path.parts).resolve_left hparts
  have hself : (⟨path.anchor, (last :: front.reverse).reverse⟩ : Path) = path := by
    rw [List.reverse_cons, List.reverse_reverse, ← hsplit]
  obtain ⟨hlocate, hentry⟩ := lookup_eq_ok_iff.mp h
  have hthere : tree.makeFolder path = .error .alreadyExists := by
    simp [makeFolder, hlocate, hentry]
  have hsettle : tree.settle path .alreadyExists = (tree, none) := by
    simp [settle, isFolder?, h]
  rw [raiseFolders, hsplit, List.reverse_concat]
  simp only [raiseFoldersAt, hself, hthere, hsettle]

/-- A folder that was made is there in every later tree that keeps the folders. -/
theorem raiseFolders_of_kept {other : Tree} {path : Path} (h : tree.raiseFolders path = (after, none))
    (hhere : other.here = after.here)
    (hfolders : ∀ place, after.entry? place = some .folder → other.entry? place = some .folder) :
    other.raiseFolders path = (other, none) := by
  rcases List.eq_nil_or_concat' path.parts with hparts | ⟨front, last, hsplit⟩
  · simp [raiseFolders, hparts, raiseFoldersAt]
  · have hself : (⟨path.anchor, (last :: front.reverse).reverse⟩ : Path) = path := by
      rw [List.reverse_cons, List.reverse_reverse, ← hsplit]
    rw [raiseFolders, hsplit, List.reverse_concat] at h
    obtain ⟨place, hlookup⟩ := lookup_of_raiseFoldersAt h
    rw [hself] at hlookup
    obtain ⟨hlocate, hentry⟩ := lookup_eq_ok_iff.mp hlookup
    exact raiseFolders_of_lookup (by simp [hsplit])
      (lookup_eq_ok_iff.mpr ⟨locate_mono hhere hfolders hlocate, hfolders place hentry⟩)

/-- Making a folder at an anchored path changes that place only. -/
theorem entry?_of_makeFolder {path : Path} (hanchor : path.anchor ≠ "") (hup : ".." ∉ path.parts)
    (hmake : tree.makeFolder path = .ok after) {place : Place} (hplace : place ≠ path.parts) :
    after.entry? place = tree.entry? place := by
  obtain ⟨made, hlocate, hnone, rfl⟩ := makeFolder_eq_ok hmake
  obtain rfl := eq_parts_of_locate hanchor hup hlocate
  have hmade : path.parts ≠ [] := by
    rintro heq
    rw [heq] at hnone
    cases hnone
  rw [entry?_set hmade, if_neg hplace]

/-- Making a folder with an anchored path leaves every place as it was that is neither the folder nor
above it. -/
theorem entry?_raiseFolders {path : Path} (hanchor : path.anchor ≠ "") (hup : ".." ∉ path.parts)
    {place : Place} (hplace : ¬place <+: path.parts) :
    entry? (tree.raiseFolders path).1 place = tree.entry? place := by
  refine (raiseFoldersAt_spec (motive := fun found => found.entry? place = tree.entry? place)
    path.anchor path.parts.reverse (fun rest hrest found next hfound hmake => ?_) rfl).1
  have hprefix : rest.reverse <+: path.parts := by
    rw [← List.reverse_suffix, List.reverse_reverse]
    exact hrest
  have hupRest : ".." ∉ rest.reverse := fun hmem => hup (List.IsPrefix.subset hprefix hmem)
  have hne : place ≠ rest.reverse := by
    rintro rfl
    exact hplace hprefix
  have hkept : next.entry? place = found.entry? place :=
    @entry?_of_makeFolder found next ⟨path.anchor, rest.reverse⟩ hanchor hupRest hmake place hne
  exact hkept.trans hfound

end Raise

section Inside

variable {anchor : String} {folder : Place} {name : String}

/-- A name in a folder is found there unless it, or its path, is too long. -/
theorem locate_inside (hanchor : anchor ≠ "")
    (hfolder : tree.lookup ⟨anchor, folder⟩ = .ok (folder, .folder)) (hname : name ≠ "..")
    (hnul : '\x00' ∉ name.toList) (hshort : name.utf8ByteSize ≤ nameLimit) :
    tree.locate ⟨anchor, folder ++ [name]⟩ =
      if (Path.mk anchor (folder ++ [name])).toString.utf8ByteSize ≤ pathLimit
        then .ok (folder ++ [name]) else .error .nameTooLong := by
  obtain ⟨hlocate, hentry⟩ := lookup_eq_ok_iff.mp hfolder
  obtain ⟨hnulFolder, -, hfollow⟩ := locate_eq_ok_iff.mp hlocate
  have hstart : tree.follow [] (folder ++ [name]) = .ok (folder ++ [name]) := by
    rw [if_neg hanchor] at hfollow
    rw [follow_append, hfollow]
    simp only [Except.bind, follow, hentry, if_neg hname, if_neg (Nat.not_lt.mpr hshort)]
  have hplain : (Path.mk anchor (folder ++ [name])).hasNul = false := by
    simp only [Path.hasNul, List.any_append, List.any_cons, List.any_nil, Bool.or_false,
      Bool.or_eq_false_iff] at hnulFolder ⊢
    exact ⟨hnulFolder, by simpa using hnul⟩
  unfold locate
  rw [hplain, if_neg (by simp), if_neg hanchor, hstart]
  simp only [← Nat.not_le, ite_not]

/-- A name in a folder that is no folder itself can be opened for writing. -/
theorem openPlace_inside {path : Path} (hlocate : tree.locate path = .ok (folder ++ [name]))
    (hfolder : tree.entry? folder = some .folder)
    (hplace : tree.isFolderAt (folder ++ [name]) = false) :
    tree.openPlace path = .ok (folder ++ [name]) := by
  unfold openPlace
  rw [hlocate]
  unfold isFolderAt at hplace
  cases hentry : tree.entry? (folder ++ [name]) with
  | none => simp [hentry, hfolder]
  | some entry =>
    cases entry with
    | folder => simp [hentry] at hplace
    | file old => simp [hentry]

end Inside

end ServiceManifest.Disk.Tree
