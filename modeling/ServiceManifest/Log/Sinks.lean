import ServiceManifest.Decimal
import ServiceManifest.Environment
import ServiceManifest.Fault
import ServiceManifest.Json.Writer
import ServiceManifest.Log.Record
import ServiceManifest.Text.Case

/-!
# Written log entries

A record is written in one of two forms: for people as its level and its message, or as one line of
JSON whose fields name the level by a number, the time in milliseconds, the message, the process and
the build. Named values of the record follow; one that has the name of a field takes its place. A
time in seconds is a double, so milliseconds are cut off after the product is rounded.
-/

namespace ServiceManifest.Log

/-- When and where a record was made: seconds and microseconds of the time, the number of the
process, and the name of the build. -/
structure Stamp where
  seconds : Int
  micros : Int
  process : Int
  build : String
  deriving DecidableEq, Repr

/-- The time in milliseconds. -/
def Stamp.millis (stamp : Stamp) : Int :=
  let seconds := Decimal.nearest (stamp.seconds * 1000000 + stamp.micros) 1000000
  match Decimal.fraction? (seconds * 1000.0) with
  | some (numerator, denominator) => numerator.tdiv denominator
  | none => 0

/-- The number that stands for a level. -/
def Level.number : Level → Int
  | .trace => 10
  | .debug => 20
  | .info | .success => 30
  | .warning => 40
  | .error => 50
  | .critical => 60

/-- The number that stands for the level of a name; a name that is not known counts as
information. -/
def levelNumber (name : String) : Int := ((Level.ofName? name).map Level.number).getD 30

/-- A cause as a JSON value; one without a name is an error. -/
def Cause.toValue (cause : Cause) : Json.Value :=
  .object [("type", .string ((cause.type.filter (· ≠ "")).getD "Error")),
    ("message", .string (cause.message.getD ""))]

/-- The fields of a record with this level name. -/
def entryFields (stamp : Stamp) (level message : String) (extra : Keyed Json.Value)
    (cause : Option Cause) : Keyed Json.Value :=
  let fields : Keyed Json.Value :=
    [("level", .int (levelNumber level)), ("time", .int stamp.millis), ("msg", .string message),
      ("pid", .int stamp.process), ("request_id", .string stamp.build)]
  let fields := extra.foldl (fun fields entry => Keyed.put entry.1 entry.2 fields) fields
  match cause with
  | some cause => Keyed.put "err" cause.toValue fields
  | none => fields

/-- The microseconds of a day. -/
def dayMicros : Int := 86400000000

/-- The first and the last day of the calendar, counted from the day at which time starts. -/
def calendarDays : Int × Int := (-719162, 2932896)

/-- Why a time is no time of the calendar. -/
def Stamp.calendarFault? (stamp : Stamp) : Option String :=
  let days := (stamp.seconds * 1000000 + stamp.micros).fdiv dayMicros
  if 2147483647 < days || days < -2147483648 then some "Python int too large to convert to C int"
  else if 999999999 < days || days < -999999999 then
    some ("days=" ++ toString days ++ "; must have magnitude <= 999999999")
  else if calendarDays.2 < days || days < calendarDays.1 then some "date value out of range"
  else none

/-- The line of JSON for a record with this level name, unless its time is none of the calendar. -/
def entryLine (stamp : Stamp) (level message : String) (extra : Keyed Json.Value)
    (cause : Option Cause) : Except Fault String :=
  match stamp.calendarFault? with
  | some fault => .error (.other "OverflowError" fault)
  | none => .ok (Json.renderLine (.object (entryFields stamp level message extra cause)))

/-- A record as one line of JSON. -/
def Record.toJson (stamp : Stamp) (record : Record) : String :=
  Json.renderLine
    (.object (entryFields stamp record.level.name record.message record.extra record.cause))

/-- A level in a column of eight characters. -/
def Level.padded (level : Level) : String :=
  level.name ++ String.ofList (List.replicate (8 - level.name.length) ' ')

/-- A record for people. -/
def Record.toLine (record : Record) : String := record.level.padded ++ " | " ++ record.message

/-!
## Where log records go

Records go to the error stream from a chosen level on, for people or as JSON, and to a log file as
JSON from the level of debugging on, if there is one. What is not said by the caller is taken from
the environment. Setting the sinks up removes the old ones first, so none is left if the level is
not known.
-/

/-- What a caller says about the sinks. -/
structure SinkOptions where
  level : Option String
  json : Option Bool
  file : Option String
  deriving DecidableEq, Repr

/-- The sink on the error stream. -/
structure Console where
  level : Level
  json : Bool
  deriving DecidableEq, Repr

/-- The sinks that are set up. -/
structure Sinks where
  console : Option Console
  file : Option String
  deriving DecidableEq, Repr

namespace Sinks

/-- No sinks. -/
def none : Sinks := ⟨.none, .none⟩

/-- The sinks of a program that sets up nothing. -/
def standard : Sinks := ⟨some ⟨.info, false⟩, .none⟩

/-- A text that is given and not empty. -/
def given (text : Option String) : Option String := text.filter (· ≠ "")

/-- The name of the level that is asked for. -/
def levelName (options : SinkOptions) (environment : Environment) : String :=
  Text.upper ((given options.level).getD
    ((Keyed.get? "AUTOSERVICE_LOG_LEVEL" environment).getD "INFO"))

/-- The wording for a level that is not known. -/
def unknownLevel (name : String) : String :=
  "Level \x27" ++ name ++ "\x27 does not exist"

/-- The sinks that a caller and the environment ask for, or the wording of what is wrong. -/
def configure (options : SinkOptions) (environment : Environment) : Except String Sinks :=
  let json := options.json.getD (Keyed.get? "AUTOSERVICE_LOG_JSON" environment = some "1")
  let file := given ((given options.file).or (Keyed.get? "AUTOSERVICE_LOG_FILE" environment))
  match Level.ofName? (levelName options environment) with
  | .none => .error (unknownLevel (levelName options environment))
  | some level => .ok ⟨some ⟨level, json⟩, file⟩

/-- Whether a record is at least as severe as a level. -/
def reaches (level : Level) (record : Record) : Bool := level.severity ≤ record.level.severity

/-- The entry of a record on the error stream, if it gets there. -/
def consoleEntry (sinks : Sinks) (stamp : Stamp) (record : Record) : Option String :=
  match sinks.console with
  | some console =>
    if reaches console.level record then
      some (if console.json then record.toJson stamp else record.toLine)
    else .none
  | .none => .none

/-- The entry of a record in the log file, if it gets there. -/
def fileEntry (sinks : Sinks) (stamp : Stamp) (record : Record) : Option (String × String) :=
  match sinks.file with
  | some path => if reaches .debug record then some (path, record.toJson stamp) else .none
  | .none => .none

end Sinks

end ServiceManifest.Log
