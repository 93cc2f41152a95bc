import ServiceManifest.Json.File
import ServiceManifest.Json.Writer
import ServiceManifest.Store.Artifact

/-!
# What the last build left behind

The state file of a project records the artifacts of the last build with the units they depend on,
the digests of all units, and the options that the build was made with. A file that is missing or
damaged stands for no build at all.
-/

namespace ServiceManifest.Build

/-- The three sections of a state file. -/
structure State where
  artifacts : Keyed Json.Value
  sources : Keyed Json.Value
  options : Keyed Json.Value

namespace State

/-- The state of a project that was never built. -/
def empty : State := ⟨[], [], []⟩

/-- A section of a document; one that is missing or no object is empty. -/
def sectionOf (entries : Keyed Json.Value) (name : String) : Keyed Json.Value :=
  ((Keyed.get? name entries).bind Json.Value.entries?).getD []

/-- The sections of a document. -/
def ofEntries (entries : Keyed Json.Value) : State :=
  ⟨sectionOf entries "artifacts", sectionOf entries "sources", sectionOf entries "options"⟩

/-- A state as a document. -/
def toValue (state : State) : Json.Value :=
  .object [("artifacts", .object state.artifacts), ("sources", .object state.sources),
    ("options", .object state.options)]

/-- Whether a fault only means that the file cannot be used. -/
def isIgnored : Fault → Bool
  | .json (.malformed _) | .disk _ => true
  | _ => false

/-- The state that a file holds. -/
def load (tree : Disk.Tree) (path : Path) : Attempt State :=
  match tree.exists? path with
  | .error fault => ⟨[], .error (.disk fault)⟩
  | .ok false => ⟨[], .ok empty⟩
  | .ok true =>
    let document := loadDocument tree path
    match document.outcome with
    | .error fault =>
      if isIgnored fault then
        ⟨document.records ++ [Log.plain .warning ("Ignoring unreadable state file " ++
          path.toString ++ ": " ++ fault.message)], .ok empty⟩
      else ⟨document.records, .error fault⟩
    | .ok (.object entries) => ⟨document.records, .ok (ofEntries entries)⟩
    | .ok _ =>
      ⟨document.records ++
        [Log.plain .warning ("Ignoring malformed state file " ++ path.toString)], .ok empty⟩

end State

/-- The text of a state file with these sections; options that count as nothing are an empty
object. -/
def stateText (artifacts sources options : Json.Value) : String :=
  Json.renderBlock 0 (.object [("artifacts", artifacts), ("sources", sources),
    ("options", if options.isTruthy then options else .object [])]) ++ "\n"

/-- Write a state file with these sections. -/
def saveState (tree : Disk.Tree) (path : Path) (artifacts sources options : Json.Value) :
    Except Disk.Fault Disk.Tree :=
  saveText tree path (stateText artifacts sources options)

/-- The dependencies of artifacts as a section. -/
def artifactSection (index : Keyed IndexEntry) : Json.Value :=
  .object (index.map fun (path, entry) => (path, .object [("aggregating", .bool entry.aggregating),
    ("sources", .array (entry.sources.map .string))]))

/-- Digests as a section. -/
def sourceSection (digests : Keyed String) : Keyed Json.Value :=
  digests.map fun (path, digest) => (path, .string digest)

end ServiceManifest.Build
