import ServiceManifest.Disk.Tree
import ServiceManifest.Fault
import ServiceManifest.Log.Record
import ServiceManifest.Text.Lines

/-!
# Text and JSON in files

The text of a file is its octets as UTF-8 with every line end as a line feed. A JSON file holds one
document in such a text.
-/

namespace ServiceManifest

/-- The text of a file. -/
def readText (tree : Disk.Tree) (path : Path) : Except Fault String :=
  match tree.read path with
  | .error fault => .error (.disk fault)
  | .ok bytes =>
    match Text.ofUtf8 bytes with
    | .error fault => .error (.text fault)
    | .ok text => .ok (String.ofList (Text.unifyLineEnds text.toList))

/-- The document in a JSON file. -/
def readDocument (tree : Disk.Tree) (path : Path) : Except Fault Json.Value :=
  match readText tree path with
  | .error fault => .error fault
  | .ok text => (Json.read text).mapError .json

/-- What is logged when the document in a JSON file cannot be read. -/
def documentRecords (path : Path) : Fault → List Log.Record
  | .json (.malformed message) =>
    [Log.plain .error ("Invalid JSON in file " ++ path.toString ++ ": " ++ message)]
  | _ => []

/-- Something that was attempted: what was logged, and the result. -/
structure Attempt (α : Type) where
  records : List Log.Record
  outcome : Except Fault α

/-- Read the document in a JSON file; a malformed one is logged. -/
def loadDocument (tree : Disk.Tree) (path : Path) : Attempt Json.Value :=
  match readDocument tree path with
  | .ok value => ⟨[], .ok value⟩
  | .error fault => ⟨documentRecords path fault, .error fault⟩

/-- Write a text to a file, for which folders are made. -/
def saveText (tree : Disk.Tree) (path : Path) (text : String) : Except Disk.Fault Disk.Tree :=
  match tree.makeFolders path.parent with
  | .error fault => .error fault
  | .ok tree => tree.write path text.toUTF8

end ServiceManifest
