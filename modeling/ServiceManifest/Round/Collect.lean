import ServiceManifest.Grouping
import ServiceManifest.Round.Error

/-!
# Collecting a round

The occurrences of the marker are filed into a grouping one by one. The first violation of a rule
ends the collection: what was filed before it stays, and nothing after it is looked at. Functions
are passed over, since only classes can provide a service.
-/

namespace ServiceManifest

/-- The name of the argument that holds the interfaces. -/
def valueArgument : String := "value"

/-- The binary name of a declaration; classes inside functions and classes without a name have
none. -/
def Declaration.binaryName (declaration : Declaration) : Except RoundError String :=
  match declaration.kind with
  | .localClass | .anonymousClass =>
    .error (.unsupportedKind declaration.name.dotted declaration.kind.label declaration.location)
  | .topClass | .function => .ok declaration.name.binary

/-- Whether a declaration may be registered; without verification it is trusted as written. -/
def Declaration.mayProvide (declaration : Declaration) (interface : QualifiedName)
    (verify : Bool) : Bool :=
  !verify || declaration.implements interface

/-- The types in a list of arguments, if all of them are types. -/
def typesOf? : List Argument → Option (List TypeRef)
  | [] => some []
  | .type ref :: rest => (typesOf? rest).map (ref :: ·)
  | _ :: _ => none

namespace Occurrence

/-- The types that the marker lists, if it has such a list. -/
def listed? (occurrence : Occurrence) : Option (List TypeRef) :=
  match occurrence.arguments.bind (Keyed.get? valueArgument) with
  | some (.sequence items) => typesOf? items
  | _ => none

/-- The interfaces of an occurrence, of which there has to be one at least. -/
def interfaces (occurrence : Occurrence) : Except RoundError (List TypeRef) :=
  let declaration := occurrence.declaration
  match occurrence.listed? with
  | none => .error (.missingArgument declaration.name.dotted declaration.location)
  | some [] => .error (.emptyInterfaceSet declaration.name.dotted declaration.location)
  | some refs => .ok refs

end Occurrence

/-- The interface and the provider that a declaration and a type in its marker stand for. -/
def registration (verify : Bool) (declaration : Declaration) (ref : TypeRef) :
    Except RoundError (QualifiedName × String) :=
  match ref.closestClass with
  | none => .error (.unresolvedInterface ref.name.dotted declaration.location)
  | some interface =>
    if declaration.mayProvide interface verify then
      declaration.binaryName.map fun provider => (interface, provider)
    else
      .error (.notAnImplementer declaration.name.dotted interface.dotted declaration.location)

/-- What collecting has come to: the grouping, the messages about it, and the violation that ended
it. -/
structure Collection where
  grouping : Grouping
  messages : List String
  error : Option RoundError

namespace Collection

/-- The collection that starts from a grouping. -/
def start (grouping : Grouping) : Collection := ⟨grouping, [], none⟩

/-- File a declaration under the interfaces that its marker lists, up to the first violation. -/
def fileRefs (verify : Bool) (declaration : Declaration) :
    List TypeRef → Collection → Collection
  | [], done => done
  | ref :: rest, done =>
    match registration verify declaration ref with
    | .error error => { done with error := some error }
    | .ok (interface, provider) =>
      fileRefs verify declaration rest
        { done with
          grouping := done.grouping.put interface.binary provider declaration.unit
          messages := done.messages ++ [provider ++ " provides " ++ interface.binary ++ " (" ++
            declaration.unit.path ++ ")"] }

/-- File one occurrence. -/
def fileOccurrence (verify : Bool) (occurrence : Occurrence) (done : Collection) : Collection :=
  let declaration := occurrence.declaration
  if declaration.isClass then
    match occurrence.interfaces with
    | .error error => { done with error := some error }
    | .ok refs => fileRefs verify declaration refs done
  else
    { done with
      messages := done.messages ++ ["Skipping " ++ declaration.name.dotted ++
        ": only classes can be service providers"] }

/-- File occurrences in order, up to the first violation. -/
def fileAll (verify : Bool) : List Occurrence → Collection → Collection
  | [], done => done
  | occurrence :: rest, done =>
    let after := fileOccurrence verify occurrence done
    match after.error with
    | some _ => after
    | none => fileAll verify rest after

end Collection

/-- Collect the occurrences of a round into a grouping. -/
def collect (verify : Bool) (occurrences : List Occurrence) (grouping : Grouping) : Collection :=
  Collection.fileAll verify occurrences (.start grouping)

end ServiceManifest
