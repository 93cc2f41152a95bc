import ServiceManifest.Digest.Content
import ServiceManifest.Proofs.Keyed

/-!
# What a snapshot knows of the sources

A snapshot has the digest of the file of every unit, each under the path of its unit. So two
snapshots tell of every file with digests that tell contents apart whether it was changed.
-/

namespace ServiceManifest.Digest

/-- Digests of the files of units: one for each path of a unit, and no path twice. -/
structure DigestsOf (tree : Disk.Tree) (root : Path) (units : List SourceUnit)
    (digests : Keyed String) : Prop where
  nodup : (Keyed.keys digests).Nodup
  paths : ∀ path, path ∈ Keyed.keys digests ↔ ∃ unit ∈ units, unit.path = path
  files : ∀ path digest, Keyed.get? path digests = some digest →
    ofFile tree (root.join (Path.ofString path)) = .ok digest

variable {tree : Disk.Tree} {root : Path} {digests : Keyed String}

/-- Adding the digests of more units to those of some leads to the digests of all. -/
theorem digestsOf_snapshotFrom {units : List SourceUnit} {before : List SourceUnit}
    {known : Keyed String} (hknown : DigestsOf tree root before known)
    (h : snapshotFrom tree root units known = .ok digests) :
    DigestsOf tree root (before ++ units) digests := by
  induction units generalizing before known with
  | nil =>
    cases h
    rwa [List.append_nil]
  | cons unit rest ih =>
    rw [snapshotFrom] at h
    split at h
    · cases h
    · rename_i digest hdigest
      rw [List.append_cons]
      refine ih ⟨Keyed.nodup_keys_put _ _ hknown.nodup, fun path => ?_, fun path found hfound => ?_⟩ h
      · rw [Keyed.mem_keys_put, hknown.paths, or_comm]
        simp only [List.mem_append, List.mem_singleton, or_and_right, exists_or, exists_eq_left,
          eq_comm (a := path)]
      · rw [Keyed.get?_put] at hfound
        split at hfound
        · rename_i hpath
          rw [hpath, hdigest, Option.some.inj hfound]
        · exact hknown.files path found hfound

/-- A snapshot has the digests of the units. -/
theorem digestsOf_snapshot {units : List SourceUnit} (h : snapshot tree root units = .ok digests) :
    DigestsOf tree root units digests := by
  have hstart : DigestsOf tree root [] [] := ⟨List.nodup_nil, by simp [Keyed.keys], nofun⟩
  obtain ⟨hnodup, hpaths, hfiles⟩ := digestsOf_snapshotFrom hstart h
  refine ⟨hnodup, fun path => ?_, hfiles⟩
  rw [hpaths, List.nil_append]
  simp only [(Ascending.sort_perm _ _).mem_iff]

/-- Every unit of a snapshot has a file, whose digest is in the snapshot. -/
theorem DigestsOf.exists_read {units : List SourceUnit} (h : DigestsOf tree root units digests)
    {unit : SourceUnit} (hunit : unit ∈ units) :
    ∃ bytes, tree.read (root.join (Path.ofString unit.path)) = .ok bytes ∧
      Keyed.get? unit.path digests = some (sha256 bytes.toList) := by
  obtain ⟨digest, hdigest⟩ :=
    Option.isSome_iff_exists.mp (Keyed.get?_isSome_iff.mpr ((h.paths _).mpr ⟨unit, hunit, rfl⟩))
  have hfile := h.files _ _ hdigest
  unfold ofFile at hfile
  cases hread : tree.read (root.join (Path.ofString unit.path)) with
  | error fault =>
    rw [hread] at hfile
    cases hfile
  | ok bytes =>
    rw [hread] at hfile
    exact ⟨bytes, rfl, hdigest.trans (congrArg some (Except.ok.inj hfile).symm)⟩

end ServiceManifest.Digest
