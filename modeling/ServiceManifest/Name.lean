import ServiceManifest.Ascending
import ServiceManifest.Text.Quoted

/-!
# Qualified names

A class is identified by its package and the simple names that lead to it, outermost first. It has
two written forms: the dotted one of source text, and the binary one that a class loader is asked
for, in which nested names are joined by `$`.
-/

namespace ServiceManifest

/-- The parts of a written name between its separators. -/
def nameParts (separator : Char) (written : String) : List String :=
  (written.toList.splitOn separator).map String.ofList

/-- The identity of a class. -/
structure QualifiedName where
  package : String
  simpleNames : List String
  deriving DecidableEq, Repr

/-- Why parts do not make a qualified name. -/
inductive NameFault
  | noSimpleName (names : List String)
  | outsidePackage (qualified package : String)
  deriving DecidableEq, Repr

/-- The wording of a fault. -/
def NameFault.message : NameFault → String
  | .noSimpleName names =>
    "QualifiedName needs at least one simple name: " ++ Text.quotedTuple names
  | .outsidePackage qualified package => qualified ++ " is not inside package " ++ package

namespace QualifiedName

/-- Whether there is a simple name and none is empty. -/
def wellFormed (name : QualifiedName) : Bool :=
  !name.simpleNames.isEmpty && name.simpleNames.all (· ≠ "")

/-- The qualified name with these parts. -/
def ofParts (package : String) (names : List String) : Except NameFault QualifiedName :=
  let name : QualifiedName := ⟨package, names⟩
  if name.wellFormed then .ok name else .error (.noSimpleName names)

/-- Split a dotted name that lies inside a package; the empty package holds every name. -/
def ofDotted (qualified package : String) : Except NameFault QualifiedName :=
  if package = "" then ofParts "" (nameParts '.' qualified)
  else if (package ++ ".").toList.isPrefixOf qualified.toList then
    ofParts package (nameParts '.' (String.ofList (qualified.toList.drop (package.length + 1))))
  else .error (.outsidePackage qualified package)

/-- Names joined by a separator, behind the package if there is one. -/
def spelled (separator : String) (name : QualifiedName) : String :=
  let names := separator.intercalate name.simpleNames
  if name.package = "" then names else name.package ++ "." ++ names

/-- The form of source text, `pkg.Outer.Inner`. -/
def dotted (name : QualifiedName) : String := name.spelled "."

/-- The form of a class loader, `pkg.Outer$Inner`. -/
def binary (name : QualifiedName) : String := name.spelled "$"

/-- The last simple name. -/
def simpleName (name : QualifiedName) : String := name.simpleNames.getLastD ""

/-- The directly enclosing class; a class at the top level has none. -/
def enclosing? (name : QualifiedName) : Option QualifiedName :=
  match name.simpleNames with
  | [_] => none
  | names => some ⟨name.package, names.dropLast⟩

/-- The class of a name nested in this one. -/
def nested (name : QualifiedName) (simple : String) : Except NameFault QualifiedName :=
  ofParts name.package (name.simpleNames ++ [simple])

/-- The order by package, then by the simple names. -/
def before (a b : QualifiedName) : Bool :=
  decide (a.package < b.package) ||
    (a.package = b.package && decide (a.simpleNames < b.simpleNames))

/-- The class that every class descends from. -/
def object : QualifiedName := ⟨"builtins", ["object"]⟩

end QualifiedName

end ServiceManifest
