import ServiceManifest.Proofs.Build.Plan
import ServiceManifest.Proofs.Disk.Raised

/-!
# Saving what was loaded

Nothing is lost when a state is saved and loaded: the sections come back with the same entries, now by
ascending name, and nothing is logged. Saving them once more writes the same text, because the text of
a document has the entries by ascending name already.
-/

namespace ServiceManifest

/-- A file that was saved is found, and can be saved again. -/
theorem lookup_of_saveText {tree after : Disk.Tree} {path : Path} {text : String}
    (h : saveText tree path text = .ok after) :
    ∃ place, after.lookup path = .ok (place, .file text.toUTF8) ∧
      ∀ other, saveText after path other = .ok (after.set place (.file other.toUTF8)) := by
  unfold saveText Disk.Tree.makeFolders at h
  rcases hraised : tree.raiseFolders path.parent with ⟨raised, _ | fault⟩
  · rw [hraised] at h
    obtain ⟨place, hopen, hplace, rfl⟩ := Disk.Tree.write_eq_ok h
    have hlookup := @Disk.Tree.lookup_of_write _ _ text.toUTF8 _ hopen hplace
    have hkept : (raised.set place (.file text.toUTF8)).raiseFolders path.parent =
        (raised.set place (.file text.toUTF8), none) :=
      Disk.Tree.raiseFolders_of_kept hraised rfl fun _ => Disk.Tree.folder_of_set hplace text.toUTF8
    refine ⟨place, hlookup, fun other => ?_⟩
    simp only [saveText, Disk.Tree.makeFolders, hkept]
    exact Disk.Tree.write_of_lookup hlookup
  · rw [hraised] at h
    cases h

/-- A file that is set where a path leads to a file is found under the path. -/
theorem Disk.Tree.lookup_set {tree : Disk.Tree} {path : Path} {place : Disk.Place}
    {old bytes : ByteArray} (h : tree.lookup path = .ok (place, .file old)) :
    (tree.set place (.file bytes)).lookup path = .ok (place, .file bytes) := by
  obtain ⟨hlocate, hentry⟩ := lookup_eq_ok_iff.mp h
  have hplace : tree.isFolderAt place = false := by
    simp [isFolderAt, hentry]
  have hkept : (tree.set place (.file bytes)).locate path = .ok place :=
    locate_mono (show (tree.set place (.file bytes)).here = tree.here from rfl)
      (fun _ => folder_of_set hplace bytes) hlocate
  refine lookup_eq_ok_iff.mpr ⟨hkept, ?_⟩
  rw [entry?_set (ne_nil_of_entry?_file hentry), if_pos rfl]

/-- Setting a file to what is in it changes no file. -/
theorem Disk.Tree.file?_set_self {tree : Disk.Tree} {place : Disk.Place} {bytes : ByteArray}
    (h : tree.entry? place = some (.file bytes)) :
    file? (tree.set place (.file bytes)) = tree.file? := by
  rw [file?_set_file (ne_nil_of_entry?_file h)]
  exact Function.update_eq_self_iff.mpr (by simp [file?, h])

namespace Build

open Json

variable {artifacts sources options : Keyed Value}

/-- Ordered sections have the text of the sections. -/
theorem stateText_ordered :
    stateText (.object (State.orderedSections artifacts sources options).artifacts)
        (.object (State.orderedSections artifacts sources options).sources)
        (.object (State.orderedSections artifacts sources options).options) =
      stateText (.object artifacts) (.object sources) (.object options) := by
  rw [stateText_eq, stateText_eq]
  change renderBlock 0 (.object (orderedEntries [("artifacts", .object artifacts),
    ("sources", .object sources), ("options", .object options)])) ++ "\n" = _
  rw [renderBlock, renderBlockEntries_ordered, ← renderBlock, State.document]

/-- The section of artifacts has nothing to order inside of its entries. -/
theorem orderedEntries_artifacts (index : Keyed IndexEntry) :
    orderedEntries (artifactEntries index) = artifactEntries index := by
  have hfields (entry : IndexEntry) : Keyed.ascending [("aggregating", Value.bool entry.aggregating),
      ("sources", .array (entry.sources.map .string))] =
        [("aggregating", .bool entry.aggregating), ("sources", .array (entry.sources.map .string))] :=
    Ascending.sort_eq_self <| List.pairwise_pair.mpr <|
      show decide ("sources" < "aggregating") = false by decide
  simp [orderedEntries_eq_map, orderedItems_eq_map, artifactEntries, Value.ordered,
    Function.comp_def, hfields]

/-- The section of sources has nothing to order inside of its entries. -/
theorem orderedEntries_sources (digests : Keyed String) :
    orderedEntries (sourceSection digests) = sourceSection digests := by
  simp [orderedEntries_eq_map, sourceSection, Value.ordered]

variable {tree after : Disk.Tree} {path : Path}

/-- What is saved can be read. -/
theorem read_of_saved (h : saveState tree path (.object artifacts) (.object sources)
    (.object options) = .ok after) :
    after.read path =
      .ok (stateText (.object artifacts) (.object sources) (.object options)).toUTF8 := by
  obtain ⟨place, hlookup, -⟩ := lookup_of_saveText h
  rw [Disk.Tree.read, hlookup]

/-- Saving ordered sections over the sections changes no file. -/
theorem exists_saved_again (h : saveState tree path (.object artifacts) (.object sources)
    (.object options) = .ok after) :
    ∃ again, saveState after path (.object (State.orderedSections artifacts sources options).artifacts)
        (.object (State.orderedSections artifacts sources options).sources)
        (.object (State.orderedSections artifacts sources options).options) = .ok again ∧
      again.read path = after.read path ∧ again.file? = after.file? := by
  obtain ⟨place, hlookup, hsave⟩ := lookup_of_saveText h
  obtain ⟨-, hentry⟩ := Disk.Tree.lookup_eq_ok_iff.mp hlookup
  refine ⟨_, hsave _, ?_, ?_⟩ <;> rw [stateText_ordered]
  · rw [Disk.Tree.read, Disk.Tree.read, Disk.Tree.lookup_set hlookup, hlookup]
  · exact Disk.Tree.file?_set_self hentry

/-- A state that was saved is loaded with exactly the entries of its three sections and nothing is
logged, and saving what was loaded writes the same text again. -/
theorem saved_state_is_loaded {index : Keyed IndexEntry} {digests : Keyed String} {verify : Bool}
    {markers : List String} (hindex : (Keyed.keys index).Nodup)
    (hdigests : (Keyed.keys digests).Nodup)
    (h : saveState tree path (artifactSection index) (.object (sourceSection digests))
      (.object (fingerprintEntries verify markers)) = .ok after) :
    ∃ loaded, State.load after path = ⟨[], .ok loaded⟩ ∧
      loaded.artifacts.Perm (artifactEntries index) ∧
      loaded.sources.Perm (sourceSection digests) ∧
      loaded.options.Perm (fingerprintEntries verify markers) ∧
      ∃ again, saveState after path (.object loaded.artifacts) (.object loaded.sources)
          (.object loaded.options) = .ok again ∧
        again.read path = after.read path ∧ again.file? = after.file? := by
  refine ⟨State.orderedSections (artifactEntries index) (sourceSection digests)
    (fingerprintEntries verify markers), ?_, ?_, ?_, ?_, exists_saved_again h⟩
  -- The sections are nested three deep at most, far below the depth that a reader gives up at.
  · exact load_of_read (readable_artifactSection hindex 986) (readable_sourceSection hdigests 988)
      (readable_fingerprint verify markers 987) (read_of_saved h)
  · rw [State.orderedSections, orderedEntries_artifacts]
    exact Keyed.ascending_perm _
  · rw [State.orderedSections, orderedEntries_sources]
    exact Keyed.ascending_perm _
  · rw [State.orderedSections, orderedEntries_fingerprint]
    exact Keyed.ascending_perm _

/-- A state with one manifest and two units, given in descending order, survives being saved. -/
theorem state_of_two_units_is_loaded :
    ∃ after loaded, saveState ⟨[], []⟩ ⟨"", ["state.json"]⟩
        (artifactSection [("META-INF/services/p.I", ⟨true, ["b.py", "a.py"]⟩)])
        (.object (sourceSection [("b.py", "\"\\"), ("a.py", "𝄞")]))
        (.object (fingerprintEntries true ["mark"])) = .ok after ∧
      State.load after ⟨"", ["state.json"]⟩ = ⟨[], .ok loaded⟩ ∧
      loaded.sources.Perm (sourceSection [("b.py", "\"\\"), ("a.py", "𝄞")]) := by
  have hsave : saveState ⟨[], []⟩ ⟨"", ["state.json"]⟩
      (artifactSection [("META-INF/services/p.I", ⟨true, ["b.py", "a.py"]⟩)])
      (.object (sourceSection [("b.py", "\"\\"), ("a.py", "𝄞")]))
      (.object (fingerprintEntries true ["mark"])) = .ok _ := rfl
  obtain ⟨loaded, hload, -, hsources, -⟩ :=
    saved_state_is_loaded (by simp [Keyed.keys]) (by simp [Keyed.keys]) hsave
  exact ⟨_, loaded, hsave, hload, hsources⟩

end Build

end ServiceManifest
