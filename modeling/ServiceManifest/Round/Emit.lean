import ServiceManifest.Grouping
import ServiceManifest.Manifest
import ServiceManifest.Store.Artifact

/-!
# Emitting a round

A complete grouping is written to a store, one manifest for each interface in ascending order. Every
provider is listed once and every unit with a provider becomes a dependency; manifests aggregate,
since any new unit may hold another provider. Writing stops at the first fault. The grouping is
empty afterwards in every case, so that nothing reaches the next round.
-/

namespace ServiceManifest

/-- Something to report while emitting: the progress of the round itself, or a record of the
store. -/
inductive Note
  | progress (message : String)
  | record (record : Log.Record)

/-- What emitting has come to: the manifests written, the notes, the state of the store, the
grouping that is left and what ended it early. -/
structure Emission (σ : Type) where
  artifacts : List Artifact
  notes : List Note
  state : σ
  grouping : Grouping
  failure : Option Failure

/-- The manifest that contributions to an interface make. -/
def Artifact.ofEntries (interface : String) (entries : List Contribution) : Artifact :=
  let implementers := Ascending.texts (entries.map (·.1))
  let sources := Ascending.ofList SourceUnit.before (entries.map (·.2))
  ⟨Manifest.path interface, interface, implementers, ⟨true, sources⟩, Manifest.render implementers⟩

/-- The manifests of a grouping by ascending interface. -/
def Grouping.artifacts (grouping : Grouping) : List Artifact :=
  grouping.keys.map fun interface => .ofEntries interface (grouping.entries interface)

namespace Artifact

/-- The pieces in which a manifest is written: each name, then the end of its line. -/
def pieces (artifact : Artifact) : List String :=
  artifact.implementers.flatMap fun name => [name, Manifest.lineEnd]

/-- What is reported before a manifest is written. -/
def announcement (artifact : Artifact) : List Note :=
  [.progress ("Working on resource file: " ++ artifact.path),
    .progress ("New service file contents: " ++ Text.quotedList artifact.implementers),
    .progress ("Originating files: " ++
      Text.quotedList (artifact.dependencies.sources.map (·.fileName)))]

end Artifact

/-- What a fault of the store means for the round: a failed access is the failure to write the
manifest, anything else stays what it is. -/
def writeFailure (path : String) : Fault → Failure
  | .disk fault =>
    if fault.isFailedAccess then .round (.artifactWrite path fault) else .fault (.disk fault)
  | fault => .fault fault

/-- Write manifests in order, up to the first fault. -/
def emitEach {σ : Type} (store : ArtifactStore σ) : List Artifact → Emission σ → Emission σ
  | [], done => done
  | artifact :: rest, done =>
    let created := store.create done.state artifact.dependencies artifact.path artifact.pieces
    let notes := done.notes ++ artifact.announcement ++ created.records.map .record
    match created.fault with
    | some fault =>
      { done with
        notes := notes
        state := created.state
        failure := some (writeFailure artifact.path fault) }
    | none =>
      emitEach store rest
        { done with
          artifacts := done.artifacts ++ [artifact]
          notes := notes ++ [.progress ("Wrote to: " ++ artifact.path)]
          state := created.state }

/-- Write every manifest of a grouping. -/
def emit {σ : Type} (store : ArtifactStore σ) (grouping : Grouping) (state : σ) : Emission σ :=
  emitEach store grouping.artifacts ⟨[], [], state, .empty, none⟩

end ServiceManifest
