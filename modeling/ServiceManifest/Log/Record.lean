import ServiceManifest.Json.Value

/-!
# Log records

A record has a level, a message and named values. Seven levels have names and severities.
-/

namespace ServiceManifest.Log

/-- The levels by ascending severity. -/
inductive Level
  | trace
  | debug
  | info
  | success
  | warning
  | error
  | critical
  deriving DecidableEq, Repr

namespace Level

/-- The levels by ascending severity. -/
def all : List Level := [.trace, .debug, .info, .success, .warning, .error, .critical]

/-- The name of a level. -/
def name : Level → String
  | .trace => "TRACE"
  | .debug => "DEBUG"
  | .info => "INFO"
  | .success => "SUCCESS"
  | .warning => "WARNING"
  | .error => "ERROR"
  | .critical => "CRITICAL"

/-- The level of a name. -/
def ofName? (name : String) : Option Level := all.find? fun level => level.name = name

/-- How severe a level is. -/
def severity : Level → Nat
  | .trace => 5
  | .debug => 10
  | .info => 20
  | .success => 25
  | .warning => 30
  | .error => 40
  | .critical => 50

end Level

/-- An error that a record is about: the name of its type and its wording, where known. -/
structure Cause where
  type : Option String
  message : Option String
  deriving DecidableEq, Repr

/-- A log record. -/
structure Record where
  level : Level
  message : String
  extra : Keyed Json.Value
  cause : Option Cause

/-- A record with nothing but a message. -/
def plain (level : Level) (message : String) : Record := ⟨level, message, [], none⟩

end ServiceManifest.Log
