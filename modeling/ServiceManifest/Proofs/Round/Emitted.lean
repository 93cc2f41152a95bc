import ServiceManifest.Proofs.Round.DryRun

/-!
# What a grouping is emitted as

Every interface of a grouping becomes a manifest. Its names and its units are those of the
contributions to the interface, each once and in ascending order, and what is written to the store
name by name is the text that the manifest says it has. In memory nothing but the manifests is
touched, and nothing of the grouping is left for another emission.
-/

namespace ServiceManifest

open Ascending Grouping

/-- A manifest presents contributions: it lists the providers of its interface and depends on their
units, each once and in ascending order, the units by path and then by module. Its text has a line for
each provider, and is the same when it is written piece by piece. -/
structure Artifact.Presents (artifact : Artifact) (contributions : List (String × Contribution)) :
    Prop where
  path : artifact.path = "META-INF/services/" ++ artifact.interface
  providers : ∀ provider, provider ∈ artifact.implementers ↔
    ∃ unit, (artifact.interface, provider, unit) ∈ contributions
  ascending : artifact.implementers.Pairwise (· < ·)
  units : ∀ unit, unit ∈ artifact.dependencies.sources ↔
    ∃ provider, (artifact.interface, provider, unit) ∈ contributions
  sorted : artifact.dependencies.sources.Pairwise fun unit other =>
    unit.path < other.path ∨ unit.path = other.path ∧ unit.module < other.module
  aggregating : artifact.dependencies.aggregating = true
  content : artifact.content = String.join (artifact.implementers.map (· ++ "\n"))
  written : String.join artifact.pieces = artifact.content

/-- A store holds a manifest: its text, its dependencies and the entry of the index. -/
structure MemoryStore.Holds (store : MemoryStore) (artifact : Artifact) : Prop where
  text : Keyed.get? artifact.path store.files = some artifact.content
  dependencies : Keyed.get? artifact.path store.dependencies = some artifact.dependencies
  entry : Keyed.get? artifact.path store.index = some artifact.dependencies.toIndexEntry

/-- Two stores that differ at the paths of manifests at most. -/
structure MemoryStore.AgreesBeside (store other : MemoryStore) (artifacts : List Artifact) : Prop where
  files : ∀ path, (∀ artifact ∈ artifacts, artifact.path ≠ path) →
    Keyed.get? path store.files = Keyed.get? path other.files
  dependencies : ∀ path, (∀ artifact ∈ artifacts, artifact.path ≠ path) →
    Keyed.get? path store.dependencies = Keyed.get? path other.dependencies
  index : ∀ path, (∀ artifact ∈ artifacts, artifact.path ≠ path) →
    Keyed.get? path store.index = Keyed.get? path other.index

/-- A unit that comes before another does so by path, or by module if they have one path. -/
theorem SourceUnit.before_iff {unit other : SourceUnit} : unit.before other = true ↔
    unit.path < other.path ∨ unit.path = other.path ∧ unit.module < other.module := by
  simp [before]

/-- The manifest of the contributions to an interface presents them. -/
theorem Artifact.presents_ofEntries {interface : String} {entries : List Contribution}
    {contributions : List (String × Contribution)}
    (hentries : ∀ entry, entry ∈ entries ↔ (interface, entry) ∈ contributions) :
    (ofEntries interface entries).Presents contributions where
  path := rfl
  providers provider := by
    simp [ofEntries, texts, mem_ofList textBefore_isOrder, hentries]
  ascending := (pairwise_ofList textBefore_isOrder _).imp fun hlt => by
    simpa [textBefore] using hlt
  units unit := by
    simp [ofEntries, mem_ofList unitBefore_isOrder, hentries]
  sorted := (pairwise_ofList unitBefore_isOrder _).imp SourceUnit.before_iff.mp
  aggregating := rfl
  content := rfl
  written := (content_ofEntries interface entries).symm

/-- Writing manifests leaves the grouping of the emission alone. -/
theorem emitEach_grouping {σ : Type} (store : ArtifactStore σ) (artifacts : List Artifact)
    (done : Emission σ) : (emitEach store artifacts done).grouping = done.grouping := by
  induction artifacts generalizing done with
  | nil => rfl
  | cons artifact rest ih =>
    rw [emitEach]
    split
    · rfl
    · exact ih _

/-- The interfaces of a grouping of contributions are those that something was contributed to. -/
theorem Grouping.mem_keys_filed {contributions : List (String × Contribution)} {interface : String} :
    interface ∈ (filed contributions).keys ↔ ∃ entry, (interface, entry) ∈ contributions := by
  rw [mem_keys_iff (isOrdered_filed contributions)]
  simp only [mem_entries_filed]

namespace MemoryStore

/-- The index has an entry for every path with dependencies. -/
theorem get?_index (store : MemoryStore) (path : String) :
    Keyed.get? path store.index = (Keyed.get? path store.dependencies).map (·.toIndexEntry) := by
  rw [index, Keyed.get?_ascending_eq, Keyed.get?_map]

section InsertAll

variable {artifacts : List Artifact} (hnodup : (artifacts.map (·.path)).Nodup) (store : MemoryStore)

include hnodup

/-- After manifests at different paths were kept the store holds each of them. -/
theorem holds_insertAll {artifact : Artifact} (hartifact : artifact ∈ artifacts)
    (hwritten : String.join artifact.pieces = artifact.content) :
    (store.insertAll artifacts).Holds artifact := by
  obtain ⟨hfiles, hdependencies⟩ := get?_insertAll hnodup store artifact.path
  rw [(Keyed.find?_eq_some_iff_of_nodup hnodup).mpr ⟨hartifact, rfl⟩] at hfiles hdependencies
  have hfound : Keyed.get? artifact.path (store.insertAll artifacts).dependencies =
      some artifact.dependencies := hdependencies
  exact ⟨hfiles.trans (congrArg some hwritten), hfound, by rw [get?_index, hfound]; rfl⟩

/-- Keeping manifests changes nothing at other paths. -/
theorem agreesBeside_insertAll : (store.insertAll artifacts).AgreesBeside store artifacts := by
  have hbeside (path : String) (hpath : ∀ artifact ∈ artifacts, artifact.path ≠ path) :
      Keyed.get? path (store.insertAll artifacts).files = Keyed.get? path store.files ∧
        Keyed.get? path (store.insertAll artifacts).dependencies =
          Keyed.get? path store.dependencies := by
    have hfind : artifacts.find? (·.path = path) = none := by simpa using hpath
    obtain ⟨hfiles, hdependencies⟩ := get?_insertAll hnodup store path
    rw [hfiles, hdependencies, hfind]
    exact ⟨rfl, rfl⟩
  refine ⟨fun path hpath => (hbeside path hpath).1, fun path hpath => (hbeside path hpath).2,
    fun path hpath => ?_⟩
  rw [get?_index, get?_index, (hbeside path hpath).2]

end InsertAll

/-- Emitting contributions to memory never fails. It makes one manifest for each interface, in ascending
order, which presents the contributions and is held by the store afterwards, and it changes nothing at
other paths. The grouping is empty in the end, and emitting that writes nothing. -/
theorem emission_presents_contributions (contributions : List (String × Contribution))
    (store : MemoryStore) :
    let emission := emit artifactStore (filed contributions) store
    let again := emit artifactStore emission.grouping emission.state
    emission.failure = none ∧
      (emission.artifacts.map (·.interface)).Pairwise (· < ·) ∧
      (∀ interface, interface ∈ emission.artifacts.map (·.interface) ↔
        ∃ entry, (interface, entry) ∈ contributions) ∧
      (∀ artifact ∈ emission.artifacts,
        artifact.Presents contributions ∧ emission.state.Holds artifact) ∧
      emission.state.AgreesBeside store emission.artifacts ∧
      emission.grouping = .empty ∧
      again.failure = none ∧ again.artifacts = [] ∧ again.state = emission.state := by
  intro emission again
  have hordered := isOrdered_filed contributions
  obtain ⟨hfailure, hartifacts, hstate⟩ := emit_eq (filed contributions) store
  have hinterfaces : emission.artifacts.map (·.interface) = (filed contributions).keys := by
    rw [hartifacts]
    simp [Grouping.artifacts, Artifact.ofEntries, Function.comp_def]
  have hnodup := nodup_path_artifacts hordered
  have hgrouping : emission.grouping = .empty := emitEach_grouping _ _ _
  refine ⟨hfailure, ?_, fun interface => ?_, fun artifact hartifact => ?_, ?_, hgrouping, ?_⟩
  · rw [hinterfaces]
    exact hordered.interfaces.imp fun hlt => by simpa [textBefore] using hlt
  · rw [hinterfaces, mem_keys_filed]
  · rw [hartifacts] at hartifact
    obtain ⟨interface, -, rfl⟩ := List.mem_map.mp hartifact
    have hpresents : (Artifact.ofEntries interface ((filed contributions).entries interface)).Presents
        contributions := Artifact.presents_ofEntries fun _ => mem_entries_filed
    exact ⟨hpresents, hstate ▸ holds_insertAll hnodup store hartifact hpresents.written⟩
  · rw [hstate, hartifacts]
    exact agreesBeside_insertAll hnodup store
  · have hagain : again = emit artifactStore .empty emission.state := by rw [← hgrouping]
    rw [hagain]
    exact ⟨rfl, rfl, rfl⟩

end MemoryStore

end ServiceManifest
