import ServiceManifest.Proofs.Grouping
import ServiceManifest.Proofs.Keyed
import ServiceManifest.Round.Emit
import ServiceManifest.Store.Memory

/-!
# Emitting manifests in order

An emission either writes every manifest or stops at the first that its store cannot create, with
all before it written. Its grouping is empty in the end. In memory nothing can go wrong, and the
store holds the text and the dependencies of exactly the manifests that were emitted.
-/

namespace ServiceManifest

open Ascending Grouping

/-- The text of a manifest is that of its pieces. -/
theorem Artifact.join_pieces (artifact : Artifact) :
    String.join artifact.pieces = Manifest.render artifact.implementers := by
  rw [Artifact.pieces, Manifest.render]
  induction artifact.implementers with
  | nil => rfl
  | cons name rest ih =>
    rw [List.flatMap_cons, List.map_cons, String.join_cons, String.join_append, ih]
    simp [String.join_cons]

/-- A manifest made of contributions holds the rendered names of its providers. -/
theorem Artifact.content_ofEntries (interface : String) (entries : List Contribution) :
    (Artifact.ofEntries interface entries).content =
      String.join (Artifact.ofEntries interface entries).pieces := by
  rw [Artifact.join_pieces]
  rfl

/-- Manifests of different interfaces lie at different paths. -/
theorem Manifest.path_injective {interface other : String}
    (h : Manifest.path interface = Manifest.path other) : interface = other :=
  (String.append_right_inj _).mp h

/-- The manifests of a grouping lie at the paths of its interfaces. -/
theorem Grouping.map_path_artifacts (grouping : Grouping) :
    grouping.artifacts.map (·.path) = grouping.keys.map Manifest.path := by
  simp [Grouping.artifacts, Artifact.ofEntries]

/-- No two manifests of a grouping in order have one path. -/
theorem Grouping.nodup_path_artifacts {grouping : Grouping} (h : IsOrdered grouping.groups) :
    (grouping.artifacts.map (·.path)).Nodup := by
  rw [Grouping.map_path_artifacts]
  exact (nodup_of_pairwise textBefore_isOrder h.interfaces).map
    fun _ _ heq => Manifest.path_injective heq

section Store

variable {σ : Type} (store : ArtifactStore σ)

/-- A store creates manifests one after the other, none with a fault. -/
inductive Creates : σ → List Artifact → σ → Prop
  | nil (state : σ) : Creates state [] state
  | cons {state last : σ} {artifact : Artifact} {rest : List Artifact}
      (hcreate : (store.create state artifact.dependencies artifact.path artifact.pieces).fault = none)
      (hrest : Creates
        (store.create state artifact.dependencies artifact.path artifact.pieces).state rest last) :
      Creates state (artifact :: rest) last

/-- Manifests are created by creating the first and then the others. -/
theorem creates_cons_iff {state last : σ} {artifact : Artifact} {rest : List Artifact} :
    Creates store state (artifact :: rest) last ↔
      (store.create state artifact.dependencies artifact.path artifact.pieces).fault = none ∧
        Creates store (store.create state artifact.dependencies artifact.path artifact.pieces).state
          rest last := by
  constructor
  · rintro (_ | ⟨hcreate, hrest⟩)
    exact ⟨hcreate, hrest⟩
  · rintro ⟨hcreate, hrest⟩
    exact .cons hcreate hrest

/-- An emission that writes every manifest. -/
structure Completes (state : σ) (artifacts : List Artifact) (emission : Emission σ) : Prop where
  creates : Creates store state artifacts emission.state
  failure : emission.failure = none

/-- An emission that stops at a manifest, with those before it written. -/
def StopsAt (state : σ) (before : List Artifact) (artifact : Artifact) (emission : Emission σ) :
    Prop :=
  ∃ last fault, Creates store state before last ∧
    (store.create last artifact.dependencies artifact.path artifact.pieces).fault = some fault ∧
    emission.state = (store.create last artifact.dependencies artifact.path artifact.pieces).state ∧
    emission.failure = some (writeFailure artifact.path fault)

/-- Emitting manifests either completes or stops at one of them. -/
theorem emitEach_outcome (artifacts : List Artifact) (done : Emission σ)
    (hdone : done.failure = none) :
    Completes store done.state artifacts (emitEach store artifacts done) ∧
        (emitEach store artifacts done).artifacts = done.artifacts ++ artifacts ∨
      ∃ before artifact rest, artifacts = before ++ artifact :: rest ∧
        StopsAt store done.state before artifact (emitEach store artifacts done) := by
  induction artifacts generalizing done with
  | nil => exact Or.inl ⟨⟨.nil _, hdone⟩, by simp [emitEach]⟩
  | cons artifact rest ih =>
    rw [emitEach]
    cases hfault : (store.create done.state artifact.dependencies artifact.path artifact.pieces).fault with
    | some fault =>
      exact Or.inr ⟨[], artifact, rest, rfl, done.state, fault, .nil _, hfault, rfl, rfl⟩
    | none =>
      let next : Emission σ := { done with
        artifacts := done.artifacts ++ [artifact]
        notes := done.notes ++ artifact.announcement ++
          (store.create done.state artifact.dependencies artifact.path artifact.pieces).records.map
            .record ++ [.progress ("Wrote to: " ++ artifact.path)]
        state := (store.create done.state artifact.dependencies artifact.path artifact.pieces).state }
      change Completes store done.state (artifact :: rest) (emitEach store rest next) ∧
          (emitEach store rest next).artifacts = done.artifacts ++ artifact :: rest ∨
        ∃ before stop after, artifact :: rest = before ++ stop :: after ∧
          StopsAt store done.state before stop (emitEach store rest next)
      rcases ih next hdone with
        ⟨⟨hcreates, hfailure⟩, hartifacts⟩ | ⟨before, stop, after, rfl, last, fault, hcreates, hstop⟩
      · refine Or.inl ⟨⟨.cons hfault hcreates, hfailure⟩, ?_⟩
        rw [hartifacts]
        simp [next]
      · exact Or.inr ⟨artifact :: before, stop, after, rfl, last, fault, .cons hfault hcreates, hstop⟩

/-- An emission whose manifests can all be created has no failure. -/
theorem emitEach_failure_of_creates {last : σ} {artifacts : List Artifact} {done : Emission σ}
    (hdone : done.failure = none) (h : Creates store done.state artifacts last) :
    (emitEach store artifacts done).failure = none := by
  induction artifacts generalizing done with
  | nil => exact hdone
  | cons artifact rest ih =>
    obtain ⟨hcreate, hrest⟩ := (creates_cons_iff store).mp h
    rw [emitEach]
    simp only [hcreate]
    exact ih hdone hrest

/-- Emitting a grouping either writes all its manifests or stops at one of them. -/
theorem emit_outcome (grouping : Grouping) (state : σ) :
    Completes store state grouping.artifacts (emit store grouping state) ∧
        (emit store grouping state).artifacts = grouping.artifacts ∨
      ∃ before artifact rest, grouping.artifacts = before ++ artifact :: rest ∧
        StopsAt store state before artifact (emit store grouping state) :=
  emitEach_outcome store grouping.artifacts ⟨[], [], state, .empty, none⟩ rfl

/-- An emission has no failure exactly if its manifests can all be created. -/
theorem emit_failure_eq_none_iff {grouping : Grouping} {state : σ} :
    (emit store grouping state).failure = none ↔ ∃ last, Creates store state grouping.artifacts last := by
  constructor
  · intro hnone
    rcases emit_outcome store grouping state with ⟨⟨hcreates, -⟩, -⟩ | hstop
    · exact ⟨_, hcreates⟩
    · obtain ⟨before, artifact, rest, -, last, fault, -, -, -, hfailure⟩ := hstop
      cases hnone.symm.trans hfailure
  · rintro ⟨last, hcreates⟩
    exact emitEach_failure_of_creates store rfl hcreates

end Store

namespace MemoryStore

/-- The store after keeping manifests one after the other. -/
def insertAll (store : MemoryStore) (artifacts : List Artifact) : MemoryStore :=
  artifacts.foldl (fun store artifact =>
    store.insert artifact.dependencies artifact.path artifact.pieces) store

/-- In memory manifests are created by keeping them. -/
theorem eq_insertAll_of_creates {store last : MemoryStore} {artifacts : List Artifact}
    (h : Creates artifactStore store artifacts last) : last = store.insertAll artifacts := by
  induction h with
  | nil => rfl
  | cons _ _ ih => exact ih

/-- In memory every emission writes all manifests. -/
theorem emit_eq (grouping : Grouping) (store : MemoryStore) :
    (emit artifactStore grouping store).failure = none ∧
      (emit artifactStore grouping store).artifacts = grouping.artifacts ∧
        (emit artifactStore grouping store).state = store.insertAll grouping.artifacts := by
  rcases emit_outcome artifactStore grouping store with ⟨⟨hcreates, hfailure⟩, hartifacts⟩ | hstop
  · exact ⟨hfailure, hartifacts, eq_insertAll_of_creates hcreates⟩
  · obtain ⟨before, artifact, rest, -, last, fault, -, hfault, -⟩ := hstop
    cases hfault

/-- What is kept under a path after manifests at different paths were kept. -/
theorem get?_insertAll {artifacts : List Artifact} (hnodup : (artifacts.map (·.path)).Nodup)
    (store : MemoryStore) (path : String) :
    Keyed.get? path (store.insertAll artifacts).files =
        ((artifacts.find? (·.path = path)).map fun artifact => String.join artifact.pieces).or
          (Keyed.get? path store.files) ∧
      Keyed.get? path (store.insertAll artifacts).dependencies =
        ((artifacts.find? (·.path = path)).map (·.dependencies)).or
          (Keyed.get? path store.dependencies) := by
  induction artifacts generalizing store with
  | nil => simp [insertAll]
  | cons artifact rest ih =>
    have hsplit := List.nodup_cons.mp hnodup
    have hrest := ih hsplit.2 (store.insert artifact.dependencies artifact.path artifact.pieces)
    rw [insertAll, List.foldl_cons]
    rw [insertAll] at hrest
    rw [hrest.1, hrest.2]
    simp only [insert, Keyed.get?_put, List.find?_cons]
    by_cases hpath : artifact.path = path
    · have hnone : rest.find? (·.path = path) = none := by
        simp only [List.find?_eq_none, decide_eq_true_eq]
        intro other hother hother'
        exact hsplit.1 (List.mem_map.mpr ⟨other, hother, hother'.trans hpath.symm⟩)
      simp [hpath, hnone]
    · simp [hpath, Ne.symm hpath]

/-- What the manifests of a grouping are in memory: under the path of an interface the text and the
dependencies that its contributions make, and nothing under any other path. -/
theorem get?_insertAll_artifacts {grouping : Grouping} (h : IsOrdered grouping.groups)
    (path : String) :
    Keyed.get? path (empty.insertAll grouping.artifacts).files =
        (grouping.artifacts.find? (·.path = path)).map (·.content) ∧
      Keyed.get? path (empty.insertAll grouping.artifacts).dependencies =
        (grouping.artifacts.find? (·.path = path)).map (·.dependencies) := by
  obtain ⟨hfiles, hdependencies⟩ := get?_insertAll (nodup_path_artifacts h) empty path
  rw [hfiles, hdependencies]
  simp only [empty, Keyed.get?, List.find?_nil, Option.map_none, Option.or_none, and_true]
  cases hfind : grouping.artifacts.find? (·.path = path) with
  | none => rfl
  | some artifact =>
    obtain ⟨interface, -, rfl⟩ := List.mem_map.mp (List.mem_of_find?_eq_some hfind)
    simp only [Option.map_some, Artifact.content_ofEntries]

end MemoryStore

end ServiceManifest
