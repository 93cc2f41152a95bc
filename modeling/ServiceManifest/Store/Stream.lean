import ServiceManifest.Store.Folder
import ServiceManifest.Store.Memory

/-!
# Stores that hand out streams

A store may be given by what happens to each artifact. The block of the artifact is entered, which opens
a stream; the pieces are written to the stream one after the other; and the block is left, and only then
is the artifact kept. A fault ends the block early: in entering there is no block yet, and in writing
the block is abandoned. Both stores of the library are of that kind.
-/

namespace ServiceManifest

/-- A store whose states are `σ` between artifacts and `Block` inside the block of one. A block is
entered for the dependencies and the path of an artifact. It is over when it is left or, after a fault in
writing, abandoned, which always ends with a fault: that one or another. -/
structure StreamStore (σ : Type) where
  Block : Type
  enter : σ → Dependencies → String → Except (σ × Fault) Block
  write : Block → String → Block × Option Fault
  leave : Block → Creation σ
  abandon : Block → Fault → σ × Fault

namespace StreamStore

variable {σ : Type} (store : StreamStore σ)

/-- Write pieces in order, up to the first fault. -/
def writeEach (block : store.Block) : List String → store.Block × Option Fault
  | [] => (block, none)
  | piece :: rest =>
    match store.write block piece with
    | (block, some fault) => (block, some fault)
    | (block, none) => writeEach block rest

/-- Write an artifact in a block of its own. -/
def create (state : σ) (dependencies : Dependencies) (path : String) (pieces : List String) :
    Creation σ :=
  match store.enter state dependencies path with
  | .error (state, fault) => ⟨state, [], some fault⟩
  | .ok block =>
    match store.writeEach block pieces with
    | (block, none) => store.leave block
    | (block, some fault) =>
      let (state, raised) := store.abandon block fault
      ⟨state, [], some raised⟩

/-- The store as one that a round writes to. -/
def artifactStore : ArtifactStore σ where
  create := store.create

end StreamStore

namespace MemoryStore

/-- The block of an artifact that is kept in memory: the store, and the text that was written so
far. -/
structure Block where
  store : MemoryStore
  dependencies : Dependencies
  path : String
  text : String

/-- The store as one that hands out streams. -/
def streams : StreamStore MemoryStore where
  Block := Block
  enter store dependencies path := .ok ⟨store, dependencies, path, ""⟩
  write block piece := ({ block with text := block.text ++ piece }, none)
  leave block := ⟨block.store.insert block.dependencies block.path [block.text], [], none⟩
  abandon block fault := (block.store, fault)

end MemoryStore

namespace FolderStore

/-- The block of an artifact in a folder: the store with the folders above the target, the place at
which the draft is open, and the text that was written to it so far. -/
structure Block where
  store : FolderStore
  dependencies : Dependencies
  path : String
  target : Path
  place : Disk.Place
  text : String
  isOpen : store.tree.openPlace (draft target) = .ok place

/-- The files while a draft is written. -/
def Block.tree (block : Block) : Disk.Tree :=
  block.store.tree.set block.place (.file block.text.toUTF8)

/-- The store as one that hands out streams. -/
def streams : StreamStore FolderStore where
  Block := Block
  enter store dependencies path :=
    match store.target path with
    | .error fault => .error (store, .disk fault)
    | .ok target =>
      match store.tree.raiseFolders target.parent with
      | (tree, some fault) => .error ({ store with tree := tree }, .disk fault)
      | (tree, none) =>
        match hopen : tree.openPlace (draft target) with
        | .error fault =>
          let (tree, fault) := discard tree (draft target) (.disk fault)
          .error ({ store with tree := tree }, fault)
        | .ok place =>
          .ok ⟨{ store with tree := tree }, dependencies, path, target, place, "", hopen⟩
  write block piece := ({ block with text := block.text ++ piece }, none)
  leave block :=
    match block.tree.rename (draft block.target) block.target with
    | .error fault =>
      let (tree, fault) := discard block.tree (draft block.target) (.disk fault)
      ⟨{ block.store with tree := tree }, [], some fault⟩
    | .ok tree =>
      ⟨{ block.store with
          tree := tree
          entries :=
            Keyed.put block.path block.dependencies.toIndexEntry block.store.entries },
        [Log.plain .debug ("Registered " ++ block.path ++ " with " ++
          toString block.dependencies.sources.length ++ " source(s)")],
        none⟩
  abandon block fault :=
    let (tree, fault) := discard block.tree (draft block.target) fault
    ({ block.store with tree := tree }, fault)

end FolderStore

end ServiceManifest
