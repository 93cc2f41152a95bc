import ServiceManifest.Declaration
import ServiceManifest.Disk.Tree
import ServiceManifest.Log.Record
import ServiceManifest.Text.Identifier

/-!
# Discovering source files

Every file below a source root whose name ends in `.py` defines a module, unless a folder on the way
is hidden or holds no sources of the project. The parts of the path spell the name of the module; a
file `__init__.py` stands for the package that it lies in. Files whose module could not be imported
by name are left out. Paths are compared part by part.
-/

namespace ServiceManifest.Project

/-- The ending of the names of source files. -/
def sourceEnding : String := ".py"

/-- The name, without its ending, of the file that stands for the package it lies in. -/
def packageStem : String := "__init__"

/-- Folders that hold no sources of a project. -/
def skippedFolders : List String :=
  ["__pycache__", "venv", "env", "node_modules", "site-packages", "build", "dist"]

/-- The parts that spell a module name: the last one loses its suffix, and the stem of a package
file does not count. -/
def moduleParts (segments : List String) : List String :=
  let stemmed := segments.dropLast ++ segments.getLast?.toList.map Path.stem
  if stemmed.getLast? = some packageStem then stemmed.dropLast else stemmed

/-- The name of the module at a path, which has to end in a name. -/
def moduleName (path : Path) : Except String String :=
  if path.name = "" then
    .error ("PurePosixPath(" ++ Text.quoted path.toString ++ ") has an empty name")
  else .ok (".".intercalate (moduleParts path.segments))

/-- Whether a folder holds sources of the project. -/
def isSourceFolder (name : String) : Bool :=
  name.toList.head? ≠ some '.' && !skippedFolders.contains name

/-- Whether a module of this name can be imported. -/
def isImportable (module : String) : Bool :=
  module ≠ "" && (nameParts '.' module).all fun part => Text.isIdentifier part.toList

/-- What discovery finds: units in the order of their paths, and what is logged about files left
out. -/
structure Discovery where
  units : List SourceUnit
  records : List Log.Record

/-- The unit of a path below the root, or the record that it is left out; nothing for a path in a
folder without sources. -/
def discoverPath (parts : List String) : Discovery :=
  if !parts.dropLast.all isSourceFolder then ⟨[], []⟩
  else
    let path := "/".intercalate parts
    let module := ".".intercalate (moduleParts parts)
    if isImportable module then ⟨[⟨path, module⟩], []⟩
    else ⟨[], [Log.plain .debug ("Skipping " ++ path ++ ": not an importable module")]⟩

/-- Whether the last part of a path ends like a source file. -/
def isSourcePath (parts : List String) : Bool :=
  sourceEnding.toList.isSuffixOf (parts.getLastD "").toList

/-- The paths below a folder that end like source files, part by part ascending. -/
def sourcePaths (tree : Disk.Tree) (folder : Disk.Place) : List (List String) :=
  Ascending.sort (fun a b => decide (a < b)) (((tree.below folder).map (·.1)).filter isSourcePath)

/-- The source files below a root; a root that is no folder has none. -/
def discover (tree : Disk.Tree) (root : Path) : Except Disk.Fault Discovery :=
  match tree.lookup root with
  | .ok (place, .folder) =>
    let found := (sourcePaths tree place).map discoverPath
    .ok ⟨found.flatMap (·.units), found.flatMap (·.records)⟩
  | .error .nameTooLong => .error (Disk.Tree.refuse root .nameTooLong)
  | _ => .ok ⟨[], []⟩

end ServiceManifest.Project
