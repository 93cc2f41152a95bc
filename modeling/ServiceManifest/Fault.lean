import ServiceManifest.Decimal
import ServiceManifest.Disk.Tree
import ServiceManifest.Json.Reader
import ServiceManifest.Json.Type
import ServiceManifest.Name
import ServiceManifest.Round.Error
import ServiceManifest.Text.Utf8

/-!
# Faults

What stops an operation besides the errors of a round: a disk that refuses a call, bytes that are no
text, a document that is no JSON, parts that make no name. Each has a title and a wording.
-/

namespace ServiceManifest

/-- A reason to stop that is not an error of the round. -/
inductive Fault
  | disk (fault : Disk.Fault)
  | text (fault : Text.Utf8Fault)
  | json (fault : Json.ReadFault)
  | name (fault : NameFault)
  | value (message : String)
  | type (fault : Json.TypeFault)
  | encoding (message : String)
  | other (title message : String)
  deriving DecidableEq, Repr

namespace Fault

/-- The title under which a fault is reported. -/
def title : Fault → String
  | .disk fault => fault.title
  | .text _ => "UnicodeDecodeError"
  | .json fault => fault.title
  | .name _ => "ValueError"
  | .value _ => "ValueError"
  | .type fault => fault.title
  | .encoding _ => "UnicodeEncodeError"
  | .other title _ => title

/-- The wording of a fault. -/
def message : Fault → String
  | .disk fault => fault.message
  | .text fault => fault.message
  | .json fault => fault.message
  | .name fault => fault.message
  | .value message | .encoding message => message
  | .type fault => fault.message
  | .other _ message => message

end Fault

/-- Why a round or a command ends without a result. -/
inductive Failure
  | round (error : RoundError)
  | fault (fault : Fault)
  deriving DecidableEq, Repr

/-- The wording of a failure. -/
def Failure.message : Failure → String
  | .round cause => cause.message
  | .fault cause => cause.message

end ServiceManifest
