import ServiceManifest.Store.Artifact

/-!
# Artifacts in memory

A store that keeps the text of every artifact under its path. It never fails.
-/

namespace ServiceManifest

/-- The artifacts written so far, by path: their texts and their dependencies. -/
structure MemoryStore where
  files : Keyed String
  dependencies : Keyed Dependencies

namespace MemoryStore

/-- The store without artifacts. -/
def empty : MemoryStore := ⟨[], []⟩

/-- Keep an artifact. -/
def insert (store : MemoryStore) (dependencies : Dependencies) (path : String)
    (pieces : List String) : MemoryStore :=
  ⟨Keyed.put path (String.join pieces) store.files, Keyed.put path dependencies store.dependencies⟩

/-- The store as one that a round writes to. -/
def artifactStore : ArtifactStore MemoryStore where
  create store dependencies path pieces := ⟨store.insert dependencies path pieces, [], none⟩

/-- The dependencies of every artifact, by ascending path. -/
def index (store : MemoryStore) : Keyed IndexEntry :=
  Keyed.ascending (store.dependencies.map fun entry => (entry.1, entry.2.toIndexEntry))

end MemoryStore

end ServiceManifest
