import ServiceManifest.Config
import ServiceManifest.Console.Report
import ServiceManifest.Fault
import ServiceManifest.Log.Sinks

/-!
# Sessions

A command works on a tree of files, logs records and prints text. It may stop early: with a failure,
with a message for the user, or because manifests are stale. What was done up to then stays done.
-/

namespace ServiceManifest.Command

/-- What a command has done: the files as they are now, what was logged and what was printed. -/
structure Session where
  tree : Disk.Tree
  records : List Log.Record
  output : String

/-- Why a command stops. -/
inductive Stop
  | failed (failure : Failure)
  | refused (message : String)
  | stale
  deriving DecidableEq, Repr

/-- A step of a command. -/
abbrev Action (α : Type) := ExceptT Stop (StateM Session) α

namespace Action

/-- Stop. -/
def stop {α : Type} (reason : Stop) : Action α := throw reason

/-- Stop with a fault. -/
def fault {α : Type} (cause : Fault) : Action α := stop (.failed (.fault cause))

/-- The files as they are now. -/
def files : Action Disk.Tree := do return (← getThe Session).tree

/-- Replace the files. -/
def setFiles (tree : Disk.Tree) : Action Unit := modifyThe Session fun s => { s with tree := tree }

/-- Log records. -/
def log (records : List Log.Record) : Action Unit :=
  modifyThe Session fun s => { s with records := s.records ++ records }

/-- The value of a result, or a stop with its fault. -/
def orFault {α : Type} : Except Fault α → Action α
  | .ok value => pure value
  | .error cause => fault cause

/-- The value of an access to the disk, or a stop with its fault. -/
def orDisk {α : Type} (result : Except Disk.Fault α) : Action α := orFault (result.mapError .disk)

/-- The value of something attempted, whose records are logged. -/
def attempt {α : Type} (attempted : Attempt α) : Action α := do
  log attempted.records
  orFault attempted.outcome

/-- Print a text. -/
def printText (text : String) : Action Unit :=
  modifyThe Session fun s => { s with output := s.output ++ text }

/-- Print a piece of output; a fault in its markup stops the command. -/
def print : Console.Printed → Action Unit
  | .ok text => printText text
  | .error cause => fault (.other cause.title cause.message)

/-- Print pieces of output in order. -/
def printAll : List Console.Printed → Action Unit
  | [] => pure ()
  | first :: rest => do
    print first
    printAll rest

end Action

/-- Where a command runs: the files and the environment at its start, what stamps the records, how
the time is written in the error log, and what is known about where an unexpected fault arose. -/
structure Host where
  tree : Disk.Tree
  environment : Environment
  stamp : Log.Stamp
  moment : String
  trace : String

/-- The configuration of the project at a root. -/
def loadConfig (host : Host) (root : String) : Action Config := do
  Action.attempt (Config.load (← Action.files) host.environment root)

/-- Stop unless a source root is a folder. -/
def requireSources (source : Path) : Action Unit := do
  if ← Action.orDisk ((← Action.files).isFolder? source) then pure ()
  else Action.stop (.refused ("Source root not found: " ++ source.toString))

end ServiceManifest.Command
