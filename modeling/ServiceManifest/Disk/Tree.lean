import ServiceManifest.Path
import ServiceManifest.Text.Quoted

/-!
# What can go wrong on a disk

The system refuses a call for one of a few reasons. A store may refuse a path by itself, and a
stream that a caller supplies may fail with a text of its own. A path with a NUL in it never reaches
the system: using it is a mistake of the caller and no failed access.
-/

namespace ServiceManifest.Disk

/-- Why the system refuses a call. -/
inductive Refusal
  | noSuchEntry
  | alreadyExists
  | notFolder
  | isFolder
  | invalidArgument
  | nameTooLong
  | folderNotEmpty
  deriving DecidableEq, Repr

namespace Refusal

/-- The number of a refusal. -/
def number : Refusal → Nat
  | .noSuchEntry => 2
  | .alreadyExists => 17
  | .notFolder => 20
  | .isFolder => 21
  | .invalidArgument => 22
  | .nameTooLong => 36
  | .folderNotEmpty => 39

/-- The description of a refusal. -/
def description : Refusal → String
  | .noSuchEntry => "No such file or directory"
  | .alreadyExists => "File exists"
  | .notFolder => "Not a directory"
  | .isFolder => "Is a directory"
  | .invalidArgument => "Invalid argument"
  | .nameTooLong => "File name too long"
  | .folderNotEmpty => "Directory not empty"

/-- The title under which a refusal is reported. -/
def title : Refusal → String
  | .noSuchEntry => "FileNotFoundError"
  | .alreadyExists => "FileExistsError"
  | .notFolder => "NotADirectoryError"
  | .isFolder => "IsADirectoryError"
  | .invalidArgument => "ValueError"
  | .nameTooLong | .folderNotEmpty => "OSError"

end Refusal

/-- A failed access: a refused call on a path (and the path it would have been moved to), a path
that a store does not serve, or a failure with a text of its own. -/
inductive Fault
  | refused (reason : Refusal) (path : String) (target : Option String)
  | notServed (message : String)
  | failed (message : String)
  deriving DecidableEq, Repr

namespace Fault

/-- The title under which a failed access is reported. -/
def title : Fault → String
  | .refused reason _ _ => reason.title
  | .notServed _ => "PermissionError"
  | .failed _ => "OSError"

/-- The wording of a failed access. -/
def message : Fault → String
  | .refused .invalidArgument _ _ => "embedded null byte"
  | .refused reason path target =>
    "[Errno " ++ toString reason.number ++ "] " ++ reason.description ++ ": " ++ Text.quoted path ++
      match target with
      | none => ""
      | some target => " -> " ++ Text.quoted target
  | .notServed message => message
  | .failed message => message

/-- Whether an access failed; otherwise the path could not even be used. -/
def isFailedAccess : Fault → Bool
  | .refused .invalidArgument _ _ => false
  | _ => true

end Fault

/-!
## Trees of files

A tree maps places, which are lists of names from the root, to files and folders. The root is always
a folder. A path leads to a place by its parts, one after the other: each part but the last has to
name a folder, `..` leads back to the folder above, and a name has at most 255 octets, a path 4095.
-/

/-- What is at a place. -/
inductive Entry
  | file (bytes : ByteArray)
  | folder

instance : DecidableEq Entry
  | .file a, .file b =>
    match ByteArray.instDecidableEq a b with
    | .isTrue same => .isTrue (congrArg Entry.file same)
    | .isFalse differ => .isFalse fun same => differ (Entry.file.inj same)
  | .folder, .folder => .isTrue rfl
  | .file _, .folder => .isFalse nofun
  | .folder, .file _ => .isFalse nofun

/-- A place: names from the root. -/
abbrev Place := List String

/-- A tree of files and the folder in which relative paths start. -/
structure Tree where
  entries : List (Place × Entry)
  here : Place

/-- The greatest number of octets of a name. -/
def nameLimit : Nat := 255

/-- The greatest number of octets of a path. -/
def pathLimit : Nat := 4095

namespace Tree

/-- What is at a place. -/
def entry? (tree : Tree) (place : Place) : Option Entry :=
  if place.isEmpty then some .folder
  else (tree.entries.find? fun entry => entry.1 = place).map (·.2)

/-- The place that parts lead to from a folder. The last part need not exist. -/
def follow (tree : Tree) (place : Place) : List String → Except Refusal Place
  | [] => .ok place
  | part :: rest =>
    match tree.entry? place with
    | none => .error .noSuchEntry
    | some (.file _) => .error .notFolder
    | some .folder =>
      if part = ".." then tree.follow place.dropLast rest
      else if nameLimit < part.utf8ByteSize then .error .nameTooLong
      else tree.follow (place ++ [part]) rest

/-- The place that a path leads to. -/
def locate (tree : Tree) (path : Path) : Except Refusal Place :=
  if path.hasNul then .error .invalidArgument
  else if pathLimit < path.toString.utf8ByteSize then .error .nameTooLong
  else tree.follow (if path.anchor = "" then tree.here else []) path.parts

/-- What a path leads to. -/
def lookup (tree : Tree) (path : Path) : Except Refusal (Place × Entry) :=
  match tree.locate path with
  | .error reason => .error reason
  | .ok place =>
    match tree.entry? place with
    | none => .error .noSuchEntry
    | some entry => .ok (place, entry)

/-- The refusal of a call on a path. -/
def refuse (path : Path) (reason : Refusal) : Fault := .refused reason path.toString none

/-- Whether a path leads to something. Only a name that is too long makes the question fail. -/
def exists? (tree : Tree) (path : Path) : Except Fault Bool :=
  match tree.lookup path with
  | .ok _ => .ok true
  | .error .nameTooLong => .error (refuse path .nameTooLong)
  | .error _ => .ok false

/-- Whether a path leads to a folder. -/
def isFolder? (tree : Tree) (path : Path) : Except Fault Bool :=
  match tree.lookup path with
  | .ok (_, .folder) => .ok true
  | .ok (_, .file _) => .ok false
  | .error .nameTooLong => .error (refuse path .nameTooLong)
  | .error _ => .ok false

/-- The contents of a file. -/
def read (tree : Tree) (path : Path) : Except Fault ByteArray :=
  match tree.lookup path with
  | .ok (_, .file bytes) => .ok bytes
  | .ok (_, .folder) => .error (refuse path .isFolder)
  | .error reason => .error (refuse path reason)

/-- The places below a folder, each seen from it. -/
def below (tree : Tree) (folder : Place) : List (Place × Entry) :=
  tree.entries.filterMap fun (place, entry) =>
    if folder.isPrefixOf place && folder.length < place.length
    then some (place.drop folder.length, entry) else none

/-- Set what is at a place. -/
def set (tree : Tree) (place : Place) (entry : Entry) : Tree :=
  { tree with entries := (tree.entries.filter fun other => other.1 ≠ place) ++ [(place, entry)] }

/-- Remove what is at a place. -/
def remove (tree : Tree) (place : Place) : Tree :=
  { tree with entries := tree.entries.filter fun other => other.1 ≠ place }

/-- Whether a place is a folder. -/
def isFolderAt (tree : Tree) (place : Place) : Bool :=
  match tree.entry? place with
  | some .folder => true
  | _ => false

/-- The place at which a path can be opened for writing. -/
def openPlace (tree : Tree) (path : Path) : Except Fault Place :=
  match tree.locate path with
  | .error reason => .error (refuse path reason)
  | .ok place =>
    match tree.entry? place with
    | some .folder => .error (refuse path .isFolder)
    | some (.file _) => .ok place
    | none =>
      match tree.entry? place.dropLast with
      | some .folder => .ok place
      | _ => .error (refuse path .noSuchEntry)

/-- Write a file, in place of one that is there. -/
def write (tree : Tree) (path : Path) (bytes : ByteArray) : Except Fault Tree :=
  (tree.openPlace path).map fun place => tree.set place (.file bytes)

/-- Write at the end of a file, which need not exist. -/
def append (tree : Tree) (path : Path) (bytes : ByteArray) : Except Fault Tree :=
  (tree.openPlace path).map fun place =>
    match tree.entry? place with
    | some (.file before) => tree.set place (.file (before ++ bytes))
    | _ => tree.set place (.file bytes)

/-- Make one folder in a folder that exists. -/
def makeFolder (tree : Tree) (path : Path) : Except Refusal Tree :=
  match tree.locate path with
  | .error reason => .error reason
  | .ok place =>
    if (tree.entry? place).isSome then .error .alreadyExists
    else .ok (tree.set place .folder)

/-- What a refusal to make a folder means: nothing, if the folder is there. -/
def settle (tree : Tree) (path : Path) (reason : Refusal) : Tree × Option Fault :=
  match tree.isFolder? path with
  | .ok true => (tree, none)
  | .ok false => (tree, some (refuse path reason))
  | .error fault => (tree, some fault)

/-- Make a folder, and those above it where they are missing; `path` has the given anchor and the
parts, of which the last comes first. A folder that is there already will do. What was made before
a fault stays. -/
def raiseFoldersAt (tree : Tree) (anchor : String) : List String → Tree × Option Fault
  | [] => (tree, none)
  | last :: above =>
    let path : Path := ⟨anchor, (last :: above).reverse⟩
    match tree.makeFolder path with
    | .ok tree => (tree, none)
    | .error .invalidArgument => (tree, some (refuse path .invalidArgument))
    | .error .noSuchEntry =>
      match above with
      | [] => (tree, some (refuse path .noSuchEntry))
      | _ =>
        match tree.raiseFoldersAt anchor above with
        | (tree, some fault) => (tree, some fault)
        | (tree, none) =>
          match tree.makeFolder path with
          | .ok tree => (tree, none)
          | .error .noSuchEntry => (tree, some (refuse path .noSuchEntry))
          | .error reason => settle tree path reason
    | .error reason => settle tree path reason

/-- Make a folder and the folders above it: the tree with those that could be made, and the fault
that stopped it, if any. -/
def raiseFolders (tree : Tree) (path : Path) : Tree × Option Fault :=
  tree.raiseFoldersAt path.anchor path.parts.reverse

/-- Make a folder and the folders above it, all of them. -/
def makeFolders (tree : Tree) (path : Path) : Except Fault Tree :=
  match tree.raiseFolders path with
  | (tree, none) => .ok tree
  | (_, some fault) => .error fault

/-- Remove a file. -/
def unlink (tree : Tree) (path : Path) : Except Fault Tree :=
  match tree.lookup path with
  | .ok (place, .file _) => .ok (tree.remove place)
  | .ok (_, .folder) => .error (refuse path .isFolder)
  | .error reason => .error (refuse path reason)

/-- Move a file to another path, in place of a file that is there. -/
def rename (tree : Tree) (path target : Path) : Except Fault Tree :=
  let refuse (reason : Refusal) : Except Fault Tree :=
    .error (.refused reason path.toString (some target.toString))
  match tree.lookup path, tree.locate target with
  | .error reason, _ => refuse reason
  | _, .error reason => refuse reason
  | .ok (_, .folder), _ => refuse .isFolder
  | .ok (source, .file bytes), .ok place =>
    if tree.isFolderAt place then refuse .isFolder
    else .ok ((tree.remove source).set place (.file bytes))

end Tree

end ServiceManifest.Disk
