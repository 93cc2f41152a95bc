import ServiceManifest.Json.File
import ServiceManifest.Loading.Member
import ServiceManifest.Manifest

/-!
# Loading providers

At run time the manifest of an interface is read back and the classes that it lists are loaded: the
part of a binary name before its last dot names a module, and the names between the `$` of the rest
lead from the module to the class.
-/

namespace ServiceManifest.Loading

/-- The modules that can be imported, each with its classes. None of them is a package. -/
abbrev ModuleTable := List (String × List (String × ClassTree))

/-- Why a class cannot be loaded. -/
inductive LoadFault
  | noModule (name : String)
  | relative (module : String)
  | noSuchModule (module : String)
  | notPackage (module parent : String)
  | missing (cause : MissingMember)
  deriving DecidableEq, Repr

/-- The title under which a fault is reported. -/
def LoadFault.title : LoadFault → String
  | .noModule _ => "ImportError"
  | .relative _ => "TypeError"
  | .noSuchModule _ | .notPackage _ _ => "ModuleNotFoundError"
  | .missing _ => "AttributeError"

/-- The wording of a fault. -/
def LoadFault.message : LoadFault → String
  | .noModule name => name ++ " has no module part"
  | .relative module =>
    "the \x27package\x27 argument is required to perform a relative import for " ++
      Text.quoted module
  | .noSuchModule module => "No module named " ++ Text.quoted module
  | .notPackage module parent =>
    "No module named " ++ Text.quoted module ++ "; " ++ Text.quoted parent ++ " is not a package"
  | .missing cause => cause.message

/-- The part of a name before its last dot and the part after it. A name without a dot has no part
before it. -/
def splitLast (name : String) : String × String :=
  let (last, front) := name.toList.reverse.span (· ≠ '.')
  (String.ofList (front.drop 1).reverse, String.ofList last.reverse)

/-- The classes of a module, given by its parts, last part first. A module inside another one cannot
be found, because no module is a package; a module inside a missing one is missing for that
reason. -/
def findModule (modules : ModuleTable) : List String → Except LoadFault (List (String × ClassTree))
  | [] => .error (.noSuchModule "")
  | last :: above =>
    let name := ".".intercalate (last :: above).reverse
    match named? name modules with
    | some classes => .ok classes
    | none =>
      match above with
      | [] => .error (.noSuchModule name)
      | _ =>
        match findModule modules above with
        | .error fault => .error fault
        | .ok _ => .error (.notPackage name (".".intercalate above.reverse))

/-- A class of the table: its module and the names that lead to it. -/
abbrev ClassName := String × List String

/-- The class of the table that an object is. -/
def Object.className? : Object → Option ClassName
  | .loadedClass module names _ => some (module, names)
  | _ => none

/-- Follow names from member to member. -/
def follow (object : Object) : List String → Except LoadFault Object
  | [] => .ok object
  | name :: rest =>
    match object.member name with
    | .error cause => .error (.missing cause)
    | .ok found => follow found rest

/-- The class that a binary name stands for; a name that leads to something else than a class of the
table stands for none. -/
def importClass (modules : ModuleTable) (name : String) : Except LoadFault (Option ClassName) :=
  let (module, path) := splitLast name
  if module = "" then .error (.noModule name)
  else if module.toList.head? = some '.' then .error (.relative module)
  else
    match findModule modules (nameParts '.' module).reverse with
    | .error fault => .error fault
    | .ok classes =>
      (follow (.moduleObject module classes) (nameParts '$' path)).map Object.className?

/-- The providers that the manifest of an interface lists; a manifest that does not exist lists
none. -/
def services (tree : Disk.Tree) (interface root : String) : Except Fault (List String) :=
  let path := (Path.ofString root).join (Path.ofString (Manifest.path interface))
  match tree.exists? path with
  | .error fault => .error (.disk fault)
  | .ok false => .ok []
  | .ok true => (readText tree path).map Manifest.read

/-- Load classes in order, up to the first that cannot be loaded. -/
def importAll (modules : ModuleTable) : List String → Except LoadFault (List (Option ClassName))
  | [] => .ok []
  | name :: rest =>
    match importClass modules name with
    | .error fault => .error fault
    | .ok first => (importAll modules rest).map (first :: ·)

/-- Load every provider of an interface. -/
def providers (tree : Disk.Tree) (modules : ModuleTable) (interface root : String) :
    Except Fault (List (Option ClassName)) :=
  match services tree interface root with
  | .error fault => .error fault
  | .ok names =>
    (importAll modules names).mapError fun fault => .other fault.title fault.message

end ServiceManifest.Loading
