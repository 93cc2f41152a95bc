import ServiceManifest.Disk.Tree
import ServiceManifest.Store.Artifact

/-!
# Artifacts in a folder

A store that writes below an output root. An artifact is first written to a sibling whose name ends
in `.tmp` and takes the place of its target only when all of it is there, so a target never holds
half an artifact. A path that leads out of the root is refused.
-/

namespace ServiceManifest

/-- The artifacts written below a root: what was written, and the files as they are now. -/
structure FolderStore where
  root : Path
  entries : Keyed IndexEntry
  tree : Disk.Tree

namespace FolderStore

/-- The store for an output root as it is given. -/
def ofRoot (root : Path) (tree : Disk.Tree) : FolderStore := ⟨root.absolute tree.here, [], tree⟩

/-- The store for an output root that can be a path on a disk. -/
def openAt (root : Path) (tree : Disk.Tree) : Except Disk.Fault FolderStore :=
  if root.hasNul then .error (Disk.Tree.refuse root .invalidArgument) else .ok (ofRoot root tree)

/-- Where the artifact of a path lies. -/
def target (store : FolderStore) (path : String) : Except Disk.Fault Path :=
  let written := store.root.join (Path.ofString path)
  let target := written.absolute store.tree.here
  if written.hasNul then .error (Disk.Tree.refuse written .invalidArgument)
  else if target.isWithin store.root then .ok target
  else .error (.notServed (path ++ " escapes output root " ++ store.root.toString))

/-- The sibling in which an artifact is prepared. -/
def draft (target : Path) : Path := target.withName (target.name ++ ".tmp")

/-- Clear a draft away after a fault; a fault in doing so takes its place. -/
def discard (tree : Disk.Tree) (draft : Path) (fault : Fault) : Disk.Tree × Fault :=
  match tree.exists? draft with
  | .error other => (tree, .disk other)
  | .ok false => (tree, fault)
  | .ok true =>
    match tree.unlink draft with
    | .error other => (tree, .disk other)
    | .ok tree => (tree, fault)

/-- Write a draft and move it over its target. The block that supplies the text may fail at its
end. -/
def replace (tree : Disk.Tree) (target : Path) (text : String) (failing : Option Fault) :
    Disk.Tree × Option Fault :=
  let abandon (tree : Disk.Tree) (fault : Fault) : Disk.Tree × Option Fault :=
    let (tree, fault) := discard tree (draft target) fault
    (tree, some fault)
  match tree.write (draft target) text.toUTF8 with
  | .error fault => abandon tree (.disk fault)
  | .ok written =>
    match failing with
    | some fault => abandon written fault
    | none =>
      match written.rename (draft target) target with
      | .error fault => abandon written (.disk fault)
      | .ok tree => (tree, none)

/-- Write an artifact from its pieces. The block that supplies them may fail at its end. -/
def create (store : FolderStore) (dependencies : Dependencies) (path : String)
    (pieces : List String) (failing : Option Fault) : Creation FolderStore :=
  match store.target path with
  | .error fault => ⟨store, [], some (.disk fault)⟩
  | .ok target =>
    match store.tree.raiseFolders target.parent with
    | (tree, some fault) => ⟨{ store with tree := tree }, [], some (.disk fault)⟩
    | (tree, none) =>
      match replace tree target (String.join pieces) failing with
      | (tree, some fault) => ⟨{ store with tree := tree }, [], some fault⟩
      | (tree, none) =>
        ⟨{ store with
            tree := tree
            entries := Keyed.put path dependencies.toIndexEntry store.entries },
          [Log.plain .debug ("Registered " ++ path ++ " with " ++
            toString dependencies.sources.length ++ " source(s)")],
          none⟩

/-- The store as one that a round writes to. -/
def artifactStore : ArtifactStore FolderStore where
  create store dependencies path pieces := store.create dependencies path pieces none

/-- The dependencies of every artifact that was written, by ascending path. -/
def index (store : FolderStore) : Keyed IndexEntry := Keyed.ascending store.entries

/-- What came of removing artifacts: the paths removed, what was logged and the fault that stopped
it. -/
structure Removal where
  store : FolderStore
  removed : List String
  records : List Log.Record
  fault : Option Fault

/-- Remove the artifacts at ascending paths, except those that were written. -/
def removeEach (done : Removal) : List String → Removal
  | [] => done
  | path :: rest =>
    if Keyed.has path done.store.entries then removeEach done rest
    else
      match done.store.target path with
      | .error fault => { done with fault := some (.disk fault) }
      | .ok target =>
        match done.store.tree.exists? target with
        | .error fault => { done with fault := some (.disk fault) }
        | .ok false => removeEach done rest
        | .ok true =>
          match done.store.tree.unlink target with
          | .error fault => { done with fault := some (.disk fault) }
          | .ok tree =>
            removeEach
              ⟨{ done.store with tree := tree }, done.removed ++ [path],
                done.records ++ [Log.plain .info ("Removed obsolete manifest " ++ path)], none⟩ rest

/-- Remove the artifacts of an earlier run that were not written again. -/
def removeObsolete (store : FolderStore) (paths : List String) : Removal :=
  removeEach ⟨store, [], [], none⟩ (Ascending.texts paths)

end FolderStore

end ServiceManifest
