import ServiceManifest.Build.State
import ServiceManifest.Proofs.Disk.Sound
import ServiceManifest.Proofs.Json.File

/-!
# A state that is saved and loaded again

Loading a state that was saved gives back its three sections, with their entries by ascending name.
-/

namespace ServiceManifest.Build

open Json

/-- The document of a state. -/
def State.document (artifacts sources options : Keyed Value) : Value :=
  .object [("artifacts", .object artifacts), ("sources", .object sources),
    ("options", .object options)]

/-- Sections with the entries of every object in them by ascending name. -/
def State.orderedSections (artifacts sources options : Keyed Value) : State :=
  ⟨Keyed.ascending (orderedEntries artifacts), Keyed.ascending (orderedEntries sources),
    Keyed.ascending (orderedEntries options)⟩

variable {artifacts sources options : Keyed Value}

/-- The text of a state is that of its document. -/
theorem stateText_eq :
    stateText (.object artifacts) (.object sources) (.object options) =
      renderBlock 0 (State.document artifacts sources options) ++ "\n" := by
  have hoptions : (if (Value.object options).isTruthy then Value.object options else .object []) =
      .object options := by
    cases options <;> rfl
  rw [stateText, hoptions]
  rfl

/-- The document of a state is read as it was written if its sections are. -/
theorem readable_document {depth : Nat} (hartifacts : (Value.object artifacts).Readable depth)
    (hsources : (Value.object sources).Readable depth)
    (hoptions : (Value.object options).Readable depth) :
    (State.document artifacts sources options).Readable (depth + 1) := by
  refine .object (by simp [Keyed.keys]) fun entry hentry => ?_
  simp only [List.mem_cons, List.not_mem_nil, or_false] at hentry
  rcases hentry with rfl | rfl | rfl
  · exact hartifacts
  · exact hsources
  · exact hoptions

/-- The sections of the document that is read. -/
theorem ofEntries_document :
    ∃ entries, (State.document artifacts sources options).ordered = .object entries ∧
      State.ofEntries entries = State.orderedSections artifacts sources options := by
  have hnodup : (Keyed.keys (orderedEntries [("artifacts", Value.object artifacts),
      ("sources", .object sources), ("options", .object options)])).Nodup := by
    simp [orderedEntries_eq_map, Keyed.keys]
  refine ⟨_, rfl, ?_⟩
  simp only [State.ofEntries, State.sectionOf, Keyed.get?_ascending _ hnodup]
  rfl

/-- A state that was saved is loaded with its entries by ascending name, and nothing is logged. -/
theorem load_of_read {tree : Disk.Tree} {path : Path}
    (hartifacts : (Value.object artifacts).Readable 989)
    (hsources : (Value.object sources).Readable 989)
    (hoptions : (Value.object options).Readable 989)
    (hread : tree.read path =
      .ok (stateText (.object artifacts) (.object sources) (.object options)).toUTF8) :
    State.load tree path = ⟨[], .ok (State.orderedSections artifacts sources options)⟩ := by
  have hexists : tree.exists? path = .ok true := by
    unfold Disk.Tree.read at hread
    split at hread
    · rename_i place bytes hlookup
      exact Disk.Tree.exists?_eq_true_iff.mpr ⟨_, _, hlookup⟩
    · cases hread
    · cases hread
  rw [stateText_eq] at hread
  have hdocument := readDocument_of_read (readable_document hartifacts hsources hoptions) hread
  obtain ⟨entries, hentries, hsections⟩ := @ofEntries_document artifacts sources options
  rw [hentries] at hdocument
  unfold State.load
  simp only [hexists, loadDocument, hdocument, hsections]

/-- A state that is saved is the only file that changes, and can be read. -/
theorem read_of_saveState {tree after : Disk.Tree} (hsound : tree.IsSound) {path : Path}
    {artifacts sources options : Value}
    (h : saveState tree path artifacts sources options = .ok after) :
    tree.Reaches after ∧
      after.read path = .ok (stateText artifacts sources options).toUTF8 ∧
        after.file? = Function.update tree.file? (path.absolute tree.here).parts
          (some (stateText artifacts sources options).toUTF8) := by
  unfold saveState saveText Disk.Tree.makeFolders at h
  have hraise : tree.Reaches (tree.raiseFolders path.parent).1 := .raiseFolders path.parent
  have hfiles : (tree.raiseFolders path.parent).1.file? = tree.file? :=
    Disk.Tree.file?_raiseFolders path.parent
  rcases hraised : tree.raiseFolders path.parent with ⟨raised, _ | fault⟩
  · rw [hraised] at h hraise hfiles
    obtain ⟨place, hopen, hplace, rfl⟩ := Disk.Tree.write_eq_ok h
    refine ⟨.write hraise h, ?_, ?_⟩
    · rw [Disk.Tree.read, Disk.Tree.lookup_of_write hopen hplace]
    · rw [Disk.Tree.file?_set_file (Disk.Tree.ne_nil_of_isFolderAt hplace), hfiles,
        ((hraise.isSound hsound).locate_spec (Disk.Tree.openPlace_eq_ok hopen).1).1, hraise.here_eq]
  · rw [hraised] at h
    cases h

/-- A state file that cannot be read stands for a project that was never built, if it can be asked
for at all. -/
theorem load_of_unreadable {tree : Disk.Tree} {path : Path} {fault : Disk.Fault} {state : State}
    (hread : tree.read path = .error fault) (hload : (State.load tree path).outcome = .ok state) :
    state = .empty := by
  have hdocument : loadDocument tree path = ⟨[], .error (.disk fault)⟩ := by
    rw [loadDocument, readDocument, readText, hread]
    rfl
  unfold State.load at hload
  split at hload
  · cases hload
  · cases hload
    rfl
  · simp only [hdocument, State.isIgnored, if_true] at hload
    cases hload
    rfl

/-- The section of artifacts is read as it was written if no path comes twice. -/
theorem readable_artifactSection {index : Keyed IndexEntry} (hnodup : (Keyed.keys index).Nodup)
    (depth : Nat) : (artifactSection index).Readable (depth + 3) := by
  refine .object (by simpa [Keyed.keys, Function.comp_def] using hnodup) fun entry hentry => ?_
  obtain ⟨given, -, rfl⟩ := List.mem_map.mp hentry
  refine .object (by simp [Keyed.keys]) fun field hfield => ?_
  simp only [List.mem_cons, List.not_mem_nil, or_false] at hfield
  rcases hfield with rfl | rfl
  · exact .bool _ _
  · refine .array fun item hitem => ?_
    obtain ⟨source, -, rfl⟩ := List.mem_map.mp hitem
    exact .string _ _

/-- The section of sources is read as it was written if no path comes twice. -/
theorem readable_sourceSection {digests : Keyed String} (hnodup : (Keyed.keys digests).Nodup)
    (depth : Nat) : (Value.object (sourceSection digests)).Readable (depth + 1) := by
  refine .object (by simpa [Keyed.keys, sourceSection, Function.comp_def] using hnodup) fun entry hentry => ?_
  obtain ⟨given, -, rfl⟩ := List.mem_map.mp hentry
  exact .string _ _

end ServiceManifest.Build
