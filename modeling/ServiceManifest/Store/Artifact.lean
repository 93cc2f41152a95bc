import ServiceManifest.Fault
import ServiceManifest.Log.Record

/-!
# Artifacts and their stores

An artifact is a manifest that was written, with the units it depends on. A store takes the pieces
of an artifact one after the other and keeps the artifact once all are written; anything that goes
wrong on the way is its fault. An aggregating artifact has to be made again whenever any unit is new
or changed.
-/

namespace ServiceManifest

/-- The units that an artifact depends on. -/
structure Dependencies where
  aggregating : Bool
  sources : List SourceUnit
  deriving DecidableEq, Repr

/-- A manifest that was written. -/
structure Artifact where
  path : String
  interface : String
  implementers : List String
  dependencies : Dependencies
  content : String
  deriving DecidableEq, Repr

/-- What is remembered of the dependencies of an artifact. -/
structure IndexEntry where
  aggregating : Bool
  sources : List String
  deriving DecidableEq, Repr

/-- The dependencies with the units reduced to their paths. -/
def Dependencies.toIndexEntry (dependencies : Dependencies) : IndexEntry :=
  ⟨dependencies.aggregating, dependencies.sources.map (·.path)⟩

/-- How the writing of one artifact ended: the state of the store after it, what was logged, and the
fault that stopped it, if any. -/
structure Creation (σ : Type) where
  state : σ
  records : List Log.Record
  fault : Option Fault

/-- A store with states `σ`: how it writes the pieces of an artifact to a path. -/
structure ArtifactStore (σ : Type) where
  create : σ → Dependencies → String → List String → Creation σ

end ServiceManifest
