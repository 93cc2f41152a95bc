import ServiceManifest.Declaration
import ServiceManifest.Disk.Tree

/-!
# Errors that abort a round

Every error here is fatal for the round: a manifest that lacks some of its providers is worse than a
failed build. Errors about a declaration carry its location, which the wording starts with.
-/

namespace ServiceManifest

/-- An error that aborts a round. -/
inductive RoundError
  | general (message : String) (location : Option SourceLocation)
  | missingArgument (declaration : String) (location : Option SourceLocation)
  | emptyInterfaceSet (declaration : String) (location : Option SourceLocation)
  | notAnImplementer (implementer interface : String) (location : Option SourceLocation)
  | unresolvedInterface (reference : String) (location : Option SourceLocation)
  | unsupportedKind (declaration kind : String) (location : Option SourceLocation)
  | outOfOrder (message : String) (location : Option SourceLocation)
  | artifactWrite (path : String) (cause : Disk.Fault)
  | sourceParse (path : String) (detail : String)
  deriving DecidableEq, Repr

namespace RoundError

/-- The location of the declaration that the error is about. -/
def location : RoundError → Option SourceLocation
  | .general _ location | .missingArgument _ location | .emptyInterfaceSet _ location
  | .notAnImplementer _ _ location | .unresolvedInterface _ location
  | .unsupportedKind _ _ location | .outOfOrder _ location => location
  | .artifactWrite _ _ | .sourceParse _ _ => none

/-- What an error says, apart from its location. -/
def reason : RoundError → String
  | .general message _ => message
  | .missingArgument declaration _ =>
    "No \x27value\x27 member value found on marker of " ++ declaration
  | .emptyInterfaceSet declaration _ =>
    "No service interfaces provided for element! " ++ declaration
  | .notAnImplementer implementer interface _ =>
    "ServiceProviders must implement their service provider interface. " ++ implementer ++
      " does not implement " ++ interface
  | .unresolvedInterface reference _ => "Service interface " ++ reference ++ " is not a class"
  | .unsupportedKind declaration kind _ =>
    "Local/anonymous classes are not supported! " ++ declaration ++ " is a " ++ kind
  | .outOfOrder message _ => message
  | .artifactWrite path cause => "Unable to create " ++ path ++ ", " ++ cause.message
  | .sourceParse path detail => "Unable to parse " ++ path ++ ": " ++ detail

/-- The wording of an error. -/
def message (error : RoundError) : String :=
  match error.location with
  | some location => location.toString ++ ": " ++ error.reason
  | none => error.reason

end RoundError

end ServiceManifest
