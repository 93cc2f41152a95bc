import ServiceManifest.Project.Discovery
import ServiceManifest.Project.Supertypes
import ServiceManifest.Round.Collect
import ServiceManifest.Round.Processor

/-!
# Finding the marked declarations of a project

The modules below a source root are read once, in the order of their paths; the first that cannot be
parsed ends the search. The occurrences of the marker are then reported by the path of their unit
and, within a unit, in the order in which they stand.
-/

namespace ServiceManifest.Project

open ServiceManifest.Source

/-- The names under which the marker is known. -/
def defaultMarkers : List String := ["autoservice.auto_service", "autoservice.marker.auto_service"]

/-- The name of a file that stands for its package. -/
def packageFile : String := packageStem ++ sourceEnding

/-- The index of the module that a unit defines. -/
def readModule (tree : Disk.Tree) (root : Path) (markers : List String) (unit : SourceUnit) :
    Except Failure ModuleIndex :=
  let path := root.join (Path.ofString unit.path)
  match tree.read path with
  | .error fault => .error (.fault (.disk fault))
  | .ok bytes =>
    match parseModule bytes.toList with
    | none => .error (.round (.sourceParse unit.path "invalid syntax"))
    | some statements => .ok (indexModule markers unit (path.name = packageFile) statements)

/-- The modules that units define. Of units with one module name the last counts. -/
def readModules (tree : Disk.Tree) (root : Path) (markers : List String) :
    List SourceUnit → Modules → Except Failure Modules
  | [], modules => .ok modules
  | unit :: rest, modules =>
    match readModule tree root markers unit with
    | .error failure => .error failure
    | .ok index => readModules tree root markers rest (Keyed.put unit.module index modules)

/-- A type, or the form of an expression that is none. -/
def interfaceArgument (modules : Modules) (index : ModuleIndex) (scope : ClassPath) (expr : Expr) :
    Except Fault Argument :=
  (resolve modules index scope expr).map fun found =>
    match found with
    | some ref => .type ref
    | none => .expression expr.form

/-- Arguments for expressions in order, up to the first that cannot be read. -/
def interfaceArguments (modules : Modules) (index : ModuleIndex) (scope : ClassPath) :
    List Expr → Except Fault (List Argument)
  | [] => .ok []
  | expr :: rest =>
    match interfaceArgument modules index scope expr with
    | .error fault => .error fault
    | .ok first =>
      match interfaceArguments modules index scope rest with
      | .error fault => .error fault
      | .ok more => .ok (first :: more)

/-- The expressions that a keyword value lists: the items of a sequence, or the value itself. -/
def listedExpressions : Expr → List Expr
  | .sequence _ items => items
  | value => [value]

/-- The values that a marker is given for its interface list by keyword. -/
def valueKeywords (keywords : List (Option String × Expr)) : List Expr :=
  (keywords.filter fun keyword => keyword.1 = some valueArgument).map (·.2)

/-- The arguments of a marker. One that is not called has none; one that is called with nothing but
other keywords has an empty list of arguments. -/
def markerArguments (modules : Modules) (index : ModuleIndex) (scope : ClassPath)
    (decorator : Expr) : Except Fault (Option (Keyed Argument)) :=
  match decorator with
  | .call _ positional keywords =>
    let values := valueKeywords keywords
    let expressions := positional ++ values.flatMap listedExpressions
    if expressions.isEmpty && values.isEmpty && !keywords.isEmpty then .ok (some [])
    else
      (interfaceArguments modules index scope expressions).map fun items =>
        some [(valueArgument, .sequence items)]
  | _ => .ok none

/-- The occurrence of the marker on a candidate, with the closures known after it. -/
def occurrence (modules : Modules) (closures : Closures) (index : ModuleIndex)
    (candidate : Candidate) : Except Fault (Occurrence × Closures) :=
  let closed : Except Fault (ClassSet × Closures) :=
    if candidate.kind = .function then .ok ([], closures)
    else supertypes modules closures index candidate.path candidate.bases
  match closed with
  | .error fault => .error fault
  | .ok (ancestors, closures) =>
    (markerArguments modules index candidate.scope candidate.decorator).map fun arguments =>
      (⟨⟨⟨index.name, candidate.path⟩, candidate.kind, index.unit,
          some ⟨index.unit.path, candidate.line⟩, ancestors⟩, arguments⟩, closures)

/-- The occurrences on candidates in order; closures are handed on from one to the next. -/
def occurrencesFrom (modules : Modules) :
    List (ModuleIndex × Candidate) → Closures → Except Fault (List Occurrence)
  | [], _ => .ok []
  | (index, candidate) :: rest, closures =>
    match occurrence modules closures index candidate with
    | .error fault => .error fault
    | .ok (first, closures) =>
      match occurrencesFrom modules rest closures with
      | .error fault => .error fault
      | .ok more => .ok (first :: more)

/-- The candidates of a project by the path of their unit. -/
def Modules.candidates (modules : Modules) : List (ModuleIndex × Candidate) :=
  let ordered := Ascending.sort (fun a b => decide (a.unit.path < b.unit.path)) (modules.map (·.2))
  ordered.flatMap fun index => index.candidates.map fun candidate => (index, candidate)

/-- The occurrences of the marker in a project. -/
def Modules.occurrences (modules : Modules) : Except Fault (List Occurrence) :=
  occurrencesFrom modules modules.candidates []

/-- The units of a project in ascending order. -/
def Modules.units (modules : Modules) : List SourceUnit :=
  Ascending.sort SourceUnit.before (modules.map fun entry => entry.2.unit)

/-- What a source root holds: its modules or a failure, and what was logged. -/
structure Scan where
  root : Path
  records : List Log.Record
  outcome : Except Failure Modules

/-- Read the modules below a source root. -/
def scan (tree : Disk.Tree) (root : Path) (markers : List String) : Scan :=
  let root := root.absolute tree.here
  match discover tree root with
  | .error fault => ⟨root, [], .error (.fault (.disk fault))⟩
  | .ok found => ⟨root, found.records, readModules tree root markers found.units []⟩

/-- The occurrences of the marker in what a source root holds. -/
def Scan.resolution (scan : Scan) : Resolution :=
  match scan.outcome with
  | .error failure => ⟨scan.records, .error failure⟩
  | .ok modules =>
    match modules.occurrences with
    | .error fault => ⟨scan.records, .error (.fault fault)⟩
    | .ok occurrences =>
      ⟨scan.records ++ [Log.plain .debug ("Found " ++ toString occurrences.length ++
          " marker occurrence(s) under " ++ scan.root.toString)],
        .ok occurrences⟩

end ServiceManifest.Project
