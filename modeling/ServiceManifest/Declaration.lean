import ServiceManifest.Json.Value
import ServiceManifest.Name
import ServiceManifest.Path
import ServiceManifest.Source.Form

/-!
# Marked declarations

A round is given the declarations that carry the marker, already resolved: their names, where they
stand, the classes they descend from, and what the marker was given as arguments.
-/

namespace ServiceManifest

/-- A file of source text and the module that it defines. -/
structure SourceUnit where
  path : String
  module : String
  deriving DecidableEq, Repr

namespace SourceUnit

/-- The name of the file without its folders. -/
def fileName (unit : SourceUnit) : String := (Path.ofString unit.path).name

/-- The order by path, then by module. -/
def before (a b : SourceUnit) : Bool :=
  decide (a.path < b.path) || (a.path = b.path && decide (a.module < b.module))

end SourceUnit

/-- A line of a file. -/
structure SourceLocation where
  path : String
  line : Int
  deriving DecidableEq, Repr

/-- The written form of a location. -/
def SourceLocation.toString (location : SourceLocation) : String :=
  location.path ++ ":" ++ ToString.toString location.line

/-- What sort of declaration carries the marker. -/
inductive DeclarationKind
  | topClass
  | localClass
  | anonymousClass
  | function
  deriving DecidableEq, Repr

namespace DeclarationKind

/-- The name of a kind. -/
def label : DeclarationKind → String
  | .topClass => "class"
  | .localClass => "local class"
  | .anonymousClass => "anonymous class"
  | .function => "function"

/-- The kinds. -/
def all : List DeclarationKind := [.topClass, .localClass, .anonymousClass, .function]

end DeclarationKind

/-- A type as written in a marker argument: what the reference resolved to, its type arguments, the
type it is an alias of, and whether it is a class rather than some other member. -/
structure TypeRef where
  name : QualifiedName
  arguments : List TypeRef
  aliasOf : Option TypeRef
  isClass : Bool

namespace TypeRef

/-- The class nearest to a reference. Aliases are followed, type arguments do not count, and a
member that is no class stands for the class around it, if there is one. -/
def closestClass : TypeRef → Option QualifiedName
  | ⟨_, _, some target, _⟩ => target.closestClass
  | ⟨name, _, none, isClass⟩ => if isClass then some name else name.enclosing?

end TypeRef

instance : Inhabited TypeRef := ⟨⟨⟨"", []⟩, [], none, true⟩⟩

/-- What a marker was given: a type, an expression that names no type, several arguments in order,
or any other value. -/
inductive Argument
  | type (ref : TypeRef)
  | expression (form : ExpressionForm)
  | sequence (items : List Argument)
  | other
  deriving Inhabited

/-- A declaration that carries the marker, with all classes it descends from. -/
structure Declaration where
  name : QualifiedName
  kind : DeclarationKind
  unit : SourceUnit
  location : Option SourceLocation
  supertypes : List QualifiedName
  deriving DecidableEq, Repr

namespace Declaration

/-- Whether the declaration is a class of some kind. -/
def isClass (declaration : Declaration) : Bool := declaration.kind ≠ .function

/-- Whether the declaration may be registered for an interface: it is the interface or descends from
it. Everything descends from the object class. -/
def implements (declaration : Declaration) (interface : QualifiedName) : Bool :=
  interface = declaration.name || interface = QualifiedName.object ||
    declaration.supertypes.contains interface

end Declaration

/-- One use of the marker. A marker without an argument list has no arguments. -/
structure Occurrence where
  declaration : Declaration
  arguments : Option (Keyed Argument)

end ServiceManifest
