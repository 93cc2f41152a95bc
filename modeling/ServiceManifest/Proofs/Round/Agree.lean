import ServiceManifest.Project.Resolver
import ServiceManifest.Proofs.Round.Emit
import ServiceManifest.Round.Processor

/-!
# Rounds over different stores

What a round collects has nothing to do with its store. So a round over any store does what the
round in memory does: it fails as that one fails and has not touched its store then, or it writes
the same manifests in the same order, up to the first that its store cannot create. Only then is
there an error about writing a manifest.
-/

namespace ServiceManifest

open Project

/-- Whether an error is about the writing of a manifest. -/
def RoundError.isWrite : RoundError → Bool
  | .artifactWrite _ _ => true
  | _ => false

/-- Whether a failure is about the writing of a manifest. -/
def Failure.isWrite : Failure → Bool
  | .round error => error.isWrite
  | .fault _ => false

section Collect

variable {verify : Bool} {error : RoundError}

/-- A declaration without a binary name is an error, but not about writing. -/
theorem isWrite_of_binaryName {declaration : Declaration}
    (h : declaration.binaryName = .error error) : error.isWrite = false := by
  unfold Declaration.binaryName at h
  split at h <;> cases h <;> rfl

/-- A registration that is refused is an error, but not about writing. -/
theorem isWrite_of_registration {declaration : Declaration} {ref : TypeRef}
    (h : registration verify declaration ref = .error error) : error.isWrite = false := by
  unfold registration at h
  split at h
  · cases h
    rfl
  · split at h
    · cases hname : declaration.binaryName with
      | error other =>
        rw [hname] at h
        cases h
        exact isWrite_of_binaryName hname
      | ok provider =>
        rw [hname] at h
        cases h
    · cases h
      rfl

/-- An occurrence without interfaces is an error, but not about writing. -/
theorem isWrite_of_interfaces {occurrence : Occurrence} (h : occurrence.interfaces = .error error) :
    error.isWrite = false := by
  unfold Occurrence.interfaces at h
  split at h <;> cases h <;> rfl

namespace Collection

/-- A collection that has not failed in writing. -/
def NoWrite (done : Collection) : Prop := ∀ error, done.error = some error → error.isWrite = false

/-- Filing types does not fail in writing. -/
theorem noWrite_fileRefs {declaration : Declaration} (refs : List TypeRef) {done : Collection}
    (hdone : done.NoWrite) : (fileRefs verify declaration refs done).NoWrite := by
  induction refs generalizing done with
  | nil => exact hdone
  | cons ref rest ih =>
    rw [fileRefs]
    split
    · rename_i error hregistration
      rintro other ⟨⟩
      exact isWrite_of_registration hregistration
    · exact ih hdone

/-- Filing an occurrence does not fail in writing. -/
theorem noWrite_fileOccurrence (occurrence : Occurrence) {done : Collection} (hdone : done.NoWrite) :
    (fileOccurrence verify occurrence done).NoWrite := by
  unfold fileOccurrence
  simp only
  split
  · split
    · rename_i error hinterfaces
      rintro other ⟨⟩
      exact isWrite_of_interfaces hinterfaces
    · exact noWrite_fileRefs _ hdone
  · exact hdone

/-- Filing occurrences does not fail in writing. -/
theorem noWrite_fileAll (occurrences : List Occurrence) {done : Collection} (hdone : done.NoWrite) :
    (fileAll verify occurrences done).NoWrite := by
  induction occurrences generalizing done with
  | nil => exact hdone
  | cons occurrence rest ih =>
    have hafter : (fileOccurrence verify occurrence done).NoWrite :=
      noWrite_fileOccurrence occurrence hdone
    simp only [fileAll]
    split
    · exact hafter
    · exact ih hafter

end Collection

/-- Collecting does not fail in writing. -/
theorem isWrite_of_collect {occurrences : List Occurrence}
    (h : (collect verify occurrences .empty).error = some error) : error.isWrite = false := by
  have hstart : (Collection.start .empty).NoWrite := nofun
  exact Collection.noWrite_fileAll occurrences hstart error h

end Collect

/-- Reading modules does not fail in writing. -/
theorem isWrite_of_readModules {tree : Disk.Tree} {root : Path} {markers : List String}
    {units : List SourceUnit} {modules : Modules} {failure : Failure}
    (h : readModules tree root markers units modules = .error failure) : failure.isWrite = false := by
  induction units generalizing modules with
  | nil => cases h
  | cons unit rest ih =>
    rw [readModules] at h
    split at h
    · rename_i other hread
      obtain rfl := Except.error.inj h
      unfold readModule at hread
      simp only at hread
      split at hread
      · cases hread
        rfl
      · split at hread <;> cases hread
        rfl
    · exact ih h

/-- Resolving a scan does not fail in writing. -/
theorem isWrite_of_resolution {tree : Disk.Tree} {root : Path} {markers : List String}
    {failure : Failure} (h : (scan tree root markers).resolution.outcome = .error failure) :
    failure.isWrite = false := by
  unfold Scan.resolution at h
  split at h
  · rename_i other hscan
    obtain rfl := Except.error.inj h
    unfold scan at hscan
    simp only at hscan
    split at hscan
    · cases hscan
      rfl
    · exact isWrite_of_readModules hscan
  · split at h <;> cases h
    rfl

namespace Processor

/-- The outcome of the round in memory over what a resolver answered. -/
def planned (options : ProcessorOptions) (resolution : Resolution) : Except Failure (List Artifact) :=
  ((start options MemoryStore.artifactStore .empty).process resolution).outcome

variable {σ : Type} (options : ProcessorOptions) (store : ArtifactStore σ) (state : σ)
  (resolution : Resolution)

/-- A round that writes every manifest that the round in memory writes. -/
structure WritesAll (artifacts : List Artifact) (answer : Answer σ (List Artifact)) : Prop where
  creates : Creates store state artifacts answer.processor.state
  outcome : answer.outcome = .ok artifacts

/-- A round whose store cannot create one of the manifests, with those before it written. -/
structure BreaksAt (before : List Artifact) (artifact : Artifact) (last : σ) (cause : Fault)
    (answer : Answer σ (List Artifact)) : Prop where
  creates : Creates store state before last
  fault : (store.create last artifact.dependencies artifact.path artifact.pieces).fault = some cause
  state : answer.processor.state =
    (store.create last artifact.dependencies artifact.path artifact.pieces).state
  outcome : answer.outcome = .error (writeFailure artifact.path cause)

/-- A round over any store fails as the round in memory fails, with its store untouched, or it writes
the same manifests up to the first that its store cannot create. -/
theorem process_start :
    (∃ failure, planned options resolution = .error failure ∧
        ((start options store state).process resolution).outcome = .error failure ∧
          ((start options store state).process resolution).processor.state = state) ∨
      ∃ artifacts, planned options resolution = .ok artifacts ∧
        (WritesAll store state artifacts ((start options store state).process resolution) ∨
          ∃ before artifact rest last fault, artifacts = before ++ artifact :: rest ∧
            BreaksAt store state before artifact last fault
              ((start options store state).process resolution)) := by
  unfold planned process
  simp only [start, Bool.false_eq_true, if_false]
  cases resolution.outcome with
  | error failure => exact Or.inl ⟨failure, rfl, rfl, rfl⟩
  | ok occurrences =>
    cases herror : (collect options.verify occurrences .empty).error with
    | some error =>
      simp only [herror]
      exact Or.inl ⟨.round error, rfl, rfl, rfl⟩
    | none =>
      have hmemory := MemoryStore.emit_eq
        (collect options.verify occurrences .empty).grouping .empty
      simp only [herror, hmemory.1, hmemory.2.1]
      refine Or.inr ⟨_, rfl, ?_⟩
      rcases emit_outcome store (collect options.verify occurrences .empty).grouping state with
        ⟨⟨hcreates, hfailure⟩, hartifacts⟩ |
          ⟨before, artifact, rest, hsplit, last, fault, hcreates, hfault, hstate, hfailure⟩
      · simp only [hfailure, hartifacts]
        exact Or.inl ⟨hcreates, rfl⟩
      · simp only [hfailure]
        exact Or.inr ⟨before, artifact, rest, last, fault, hsplit, hcreates, hfault, hstate, rfl⟩

/-- The round in memory does not fail in writing. -/
theorem isWrite_of_planned {tree : Disk.Tree} {root : Path} {markers : List String}
    {failure : Failure} (h : planned options (scan tree root markers).resolution = .error failure) :
    failure.isWrite = false := by
  unfold planned process at h
  simp only [start, Bool.false_eq_true, if_false] at h
  cases hresolution : (scan tree root markers).resolution.outcome with
  | error other =>
    simp only [hresolution, fail, Except.error.injEq] at h
    exact h ▸ isWrite_of_resolution hresolution
  | ok occurrences =>
    cases herror : (collect options.verify occurrences .empty).error with
    | some error =>
      simp only [hresolution, herror, fail, Except.error.injEq] at h
      subst h
      exact isWrite_of_collect herror
    | none =>
      simp [hresolution, herror,
        (MemoryStore.emit_eq (collect options.verify occurrences .empty).grouping .empty).1] at h

end Processor

end ServiceManifest
