import ServiceManifest.Declaration
import ServiceManifest.Project.Builtin
import ServiceManifest.Source.Syntax

/-!
# The index of a module

Of every module the index holds what name resolution asks for: what its imports bind, which names it
defines at the top level, which of them are aliases of types, and where its classes stand. While
classes and functions are visited, those that carry a marker are noted together with the class scope
that their decorators are evaluated in.
-/

namespace ServiceManifest.Project

open ServiceManifest.Source

/-- The simple names that lead to a class. -/
abbrev ClassPath := List String

/-- A declaration with a decorator that is a marker. Bases are those of a class; a function has
none. -/
structure Candidate where
  path : List String
  scope : ClassPath
  kind : DeclarationKind
  bases : List Expr
  decorator : Expr
  line : Nat

/-- What is known of a module. -/
structure ModuleIndex where
  unit : SourceUnit
  isPackage : Bool
  imports : Keyed String
  importedModules : List String
  defined : List String
  aliases : Keyed Expr
  classes : List (ClassPath × List Expr)
  candidates : List Candidate

namespace ModuleIndex

/-- The name of the module. -/
def name (index : ModuleIndex) : String := index.unit.module

/-- A module of which nothing is known yet. -/
def empty (unit : SourceUnit) (isPackage : Bool) : ModuleIndex :=
  ⟨unit, isPackage, [], [], [], [], [], []⟩

/-- Whether the module has a class at a path. -/
def hasClass (index : ModuleIndex) (path : ClassPath) : Bool :=
  index.classes.any fun entry => entry.1 = path

/-- The bases of the class at a path, as its last class statement gives them. -/
def basesOf? (index : ModuleIndex) (path : ClassPath) : Option (List Expr) :=
  (index.classes.find? fun entry => entry.1 = path).map (·.2)

/-- Note a class statement at a path. -/
def putClass (index : ModuleIndex) (path : ClassPath) (bases : List Expr) : ModuleIndex :=
  { index with classes := (index.classes.filter fun entry => entry.1 ≠ path) ++ [(path, bases)] }

/-- The base package of a relative import with so many dots. A count below zero leaves out as many
parts at the end. -/
def packageForLevel (index : ModuleIndex) (level : Nat) : String :=
  let parts := nameParts '.' index.name
  let parts := if index.isPackage then parts else parts.dropLast
  let count : Int := (parts.length : Int) - ((level : Int) - 1)
  let kept : Int := if count < 0 then parts.length + count else count
  ".".intercalate (if level ≤ 1 then parts else parts.take kept.toNat)

/-- The first parts of a dotted name, of every number from one on. -/
def dottedPrefixes (dotted : String) : List String :=
  let parts := nameParts '.' dotted
  (List.range parts.length).map fun n => ".".intercalate (parts.take (n + 1))

/-- Note a module that an import statement names. -/
def importModule (index : ModuleIndex) (entry : String × Option String) : ModuleIndex :=
  let head := (nameParts '.' entry.1).headD ""
  { index with
    imports := match entry.2 with
      | some given => Keyed.put given entry.1 index.imports
      | none => Keyed.put head head index.imports
    importedModules := dottedPrefixes entry.1 ++ index.importedModules }

/-- Note a name that is imported from a module; a star binds no name that is known. -/
def importMember (module : String) (index : ModuleIndex) (entry : String × Option String) :
    ModuleIndex :=
  if entry.1 = "*" then index
  else { index with
    imports := Keyed.put (entry.2.getD entry.1) (module ++ "." ++ entry.1) index.imports }

/-- The module that a relative or absolute import is about; empty if there is none. -/
def importSource (index : ModuleIndex) (level : Nat) (module : String) : String :=
  if level = 0 then module
  else
    let base := index.packageForLevel level
    if base ≠ "" && module ≠ "" then base ++ "." ++ module
    else if base ≠ "" then base else module

/-- Note what an import statement binds. -/
def addImport (index : ModuleIndex) : Statement → ModuleIndex
  | .importModules names => names.foldl importModule index
  | .importFrom level module names =>
    let source := index.importSource level module
    if source = "" then index
    else
      names.foldl (importMember source)
        { index with importedModules := source :: index.importedModules }
  | _ => index

/-- Note a name that is defined at the top level. -/
def define (name : String) (index : ModuleIndex) : ModuleIndex :=
  { index with defined := name :: index.defined }

/-- Note that a name is an alias. -/
def addAlias (name : String) (value : Expr) (index : ModuleIndex) : ModuleIndex :=
  { index with aliases := Keyed.put name value index.aliases }

/-- Note a target of an assignment. Only an assignment to a single name makes an alias, and only of
something that may be a type. -/
def assignTarget (value : Expr) (single : Bool) (index : ModuleIndex) : Expr → ModuleIndex
  | .name id =>
    let index := index.define id
    if single && value.isTypeLike then index.addAlias id value else index
  | _ => index

/-- Whether a type hint says that the name is an alias of a type. -/
def saysAlias (hint : Expr) : Bool :=
  match hint.dottedName? with
  | some dotted => (nameParts '.' dotted).getLastD "" = "TypeAlias"
  | none => false

/-- Note what a statement defines at the top level. -/
def addDefinition (index : ModuleIndex) : Statement → ModuleIndex
  | .classDef _ name _ _ _ => index.define name
  | .functionDef _ name _ _ => index.define name
  | .assign targets value => targets.foldl (assignTarget value (targets.length = 1)) index
  | .annotate (.name id) hint value =>
    let index := index.define id
    match value with
    | some value => if saysAlias hint then index.addAlias id value else index
    | none => index
  | _ => index

/-- The absolute dotted name of a dotted name as written in the module, inside a class or at the top
level: a class of the scope comes first, then what the module defines, then its imports, then the
builtin names. -/
def absolute (index : ModuleIndex) (scope : ClassPath) (dotted : String) : String :=
  let head := (nameParts '.' dotted).headD ""
  let tail := String.ofList (dotted.toList.drop head.length)
  if !scope.isEmpty && index.hasClass (scope ++ [head]) then
    ".".intercalate (index.name :: scope ++ [head]) ++ tail
  else if index.defined.contains head then index.name ++ "." ++ dotted
  else
    match Keyed.get? head index.imports with
    | some target => target ++ tail
    | none =>
      if builtinNames.contains head then builtinModule ++ "." ++ dotted
      else index.name ++ "." ++ dotted

/-- Whether a decorator is one of the markers, called or not. -/
def isMarker (index : ModuleIndex) (markers : List String) (scope : ClassPath)
    (decorator : Expr) : Bool :=
  let target := match decorator with
    | .call function _ _ => function
    | other => other
  match target.dottedName? with
  | some dotted => markers.contains (index.absolute scope dotted)
  | none => false

/-- Note a declaration once for each decorator that is a marker. -/
def addCandidates (index : ModuleIndex) (markers : List String) (scope : ClassPath)
    (decorators : List Expr) (candidate : Expr → Candidate) : ModuleIndex :=
  let found := (decorators.filter (index.isMarker markers scope)).map candidate
  { index with candidates := index.candidates ++ found }

end ModuleIndex

/-- The part of a path that stands for the inside of a function. -/
def localsPart : String := "<locals>"

mutual

/-- The statements that run when a module is imported, those under `if` and `try` included; each
statement comes before those in it. -/
def importTime : Statement → List Statement
  | .compound true body => .compound true body :: importTimeAll body
  | statement => [statement]

/-- The statements of a list that run when a module is imported. -/
def importTimeAll : List Statement → List Statement
  | [] => []
  | statement :: rest => importTime statement ++ importTimeAll rest

end

mutual

/-- Note the classes and the marked declarations of a statement. `scope` is the class around it,
`outer` the path that names are put behind, and `inFunction` says whether a function is around
it. -/
def visit (markers : List String) (scope : ClassPath) (outer : List String) (inFunction : Bool)
    (index : ModuleIndex) : Statement → ModuleIndex
  | .classDef line name decorators bases body =>
    let path := outer ++ [name]
    let kind := if inFunction then DeclarationKind.localClass else .topClass
    let known := if inFunction then index else index.putClass path bases
    let noted := known.addCandidates markers scope decorators fun decorator =>
      ⟨path, scope, kind, bases, decorator, line⟩
    visitAll markers (if inFunction then scope else path) path inFunction noted body
  | .functionDef line name decorators body =>
    let path := outer ++ [name]
    let noted := index.addCandidates markers scope decorators fun decorator =>
      ⟨path, scope, .function, [], decorator, line⟩
    visitAll markers scope (path ++ [localsPart]) true noted body
  | .compound _ body => visitAll markers scope outer inFunction index body
  | _ => index

/-- Note the classes and the marked declarations of statements in order. -/
def visitAll (markers : List String) (scope : ClassPath) (outer : List String) (inFunction : Bool)
    (index : ModuleIndex) : List Statement → ModuleIndex
  | [] => index
  | statement :: rest =>
    visitAll markers scope outer inFunction (visit markers scope outer inFunction index statement)
      rest

end

/-- The index of a module. -/
def indexModule (markers : List String) (unit : SourceUnit) (isPackage : Bool)
    (statements : List Statement) : ModuleIndex :=
  let top := importTimeAll statements
  let imported := top.foldl ModuleIndex.addImport (.empty unit isPackage)
  let defined := top.foldl ModuleIndex.addDefinition imported
  visitAll markers [] [] false defined statements

end ServiceManifest.Project
