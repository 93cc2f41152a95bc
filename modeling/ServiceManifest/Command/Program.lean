import ServiceManifest.Command.Actions
import ServiceManifest.Command.Help
import ServiceManifest.Command.Options
import ServiceManifest.Log.Sinks

/-!
# The program

The words of the command line name options of the program, a command and its options. A command that
fails reports one message. A failure of the round is the message by itself; any other fault is
unexpected and is described in the error log in the state folder besides.
-/

namespace ServiceManifest.Command

/-- How a run of the program ended: its exit code or a fault that nothing caught, what it printed to
either stream, the log entries on the error stream, and the files after it. -/
structure Run where
  exit : Except Fault Int
  output : String
  errors : String
  entries : List String
  tree : Disk.Tree

/-- The options of the program itself. -/
def programOptions : OptionTable :=
  [("--version", .switch .version true), ("--help", .switch .help true),
    ("-h", .switch .help true), ("--log-level", .text .logLevel),
    ("--log-json", .switch .logJson true)]

/-- The commands. -/
inductive Subcommand
  | generate
  | inspect
  | status
  deriving DecidableEq, Repr

namespace Subcommand

/-- The commands. -/
def all : List Subcommand := [.generate, .inspect, .status]

/-- The name of a command. -/
def name : Subcommand → String
  | .generate => "generate"
  | .inspect => "inspect"
  | .status => "status"

/-- The command of a name. -/
def ofName? (name : String) : Option Subcommand := all.find? fun command => command.name = name

/-- The options of a command. -/
def options : Subcommand → OptionTable
  | .generate =>
    [("--root", .text .root), ("--src", .text .src), ("--out", .text .out),
      ("--verify", .switch .verify true), ("--no-verify", .switch .verify false),
      ("--verbose", .switch .verbose true), ("--incremental", .switch .incremental true),
      ("--marker", .text .marker), ("--help", .switch .help true)]
  | .inspect =>
    [("--root", .text .root), ("--src", .text .src), ("--verify", .switch .verify true),
      ("--no-verify", .switch .verify false), ("--marker", .text .marker),
      ("--help", .switch .help true)]
  | .status =>
    [("--root", .text .root), ("--src", .text .src), ("--out", .text .out),
      ("--help", .switch .help true)]

/-- The help of a command. -/
def help : Subcommand → String
  | .generate => generateHelp
  | .inspect => inspectHelp
  | .status => statusHelp

/-- The usage of a command, with a hint at its help. -/
def usage (command : Subcommand) : String :=
  "Usage: autoservice " ++ command.name ++ " [OPTIONS]\nTry \x27autoservice " ++ command.name ++
    " --help\x27 for help.\n"

/-- The root of the project that settings name. -/
def rootOf (settings : List Setting) : String := (textFor? .root settings).getD "."

/-- What a command does with these settings. -/
def action (host : Host) (command : Subcommand) (settings : List Setting) : Action Unit :=
  let root := rootOf settings
  let src := textFor? .src settings
  let out := textFor? .out settings
  let verify := switchFor? .verify settings
  let markers := textsFor .marker settings
  match command with
  | .generate =>
    writeManifests host
      ⟨root, src, out, verify, isOn .verbose settings, isOn .incremental settings, markers⟩
  | .inspect => showManifests host ⟨root, src, verify, markers⟩
  | .status => compareSources host ⟨root, src, out⟩

end Subcommand

/-- The usage of the program. -/
def programHead : String := "Usage: autoservice [OPTIONS] COMMAND [ARGS]...\n"

/-- What is logged when a command fails. -/
def failureRecord (command : Subcommand) (message : String) (cause : Option Log.Cause) :
    Log.Record where
  level := .error
  message := "Command \x27" ++ command.name ++ "\x27 failed: " ++ message
  extra := [("cmd", .string command.name), ("err", .string message)]
  cause := cause

/-- The line that parts the entries of the error log. -/
def separatorLine : String := String.ofList (List.replicate 80 '=') ++ "\n"

/-- The entry of an unexpected fault in the error log. -/
def errorEntry (host : Host) (command : Subcommand) (cause : Fault) : String :=
  "\n" ++ separatorLine ++ "[" ++ host.moment ++ "] Error in command: " ++ command.name ++ "\n" ++
    separatorLine ++ cause.title ++ ": " ++ cause.message ++ "\n\n" ++ host.trace ++
    separatorLine ++ "\n"

/-- Describe an unexpected fault in the error log of the project at a root; the message for the user
says where. -/
def describeFault (host : Host) (command : Subcommand) (root : String) (cause : Fault) :
    Action String := do
  let root := if root = "" then "." else root
  let home := (← loadConfig host root).home root
  let path := home.join (Path.ofString "error.log")
  let (tree, fault) := (← Action.files).raiseFolders home
  Action.setFiles tree
  Action.orDisk (fault.elim (.ok ()) .error)
  Action.log [failureRecord command cause.message (some ⟨some cause.title, some cause.message⟩)]
  Action.setFiles (← Action.orDisk
    ((← Action.files).append path (errorEntry host command cause).toUTF8))
  return cause.title ++ ": " ++ cause.message ++ "\n\nFull traceback logged to: " ++ path.toString

/-- Run a command with its settings: the exit code, or the fault that even its description met with,
and what was printed to the error stream. -/
def perform (host : Host) (command : Subcommand) (settings : List Setting) (session : Session) :
    Session × Except Fault Int × String :=
  let report (message : String) : String := "Error: " ++ message ++ "\n"
  match (command.action host settings).run session with
  | (.ok (), session) => (session, .ok ExitCode.success, "")
  | (.error .stale, session) => (session, .ok ExitCode.stale, "")
  | (.error (.refused message), session) => (session, .ok ExitCode.roundFailed, report message)
  | (.error (.failed (.round error)), session) =>
    ({ session with
        records := session.records ++ [failureRecord command error.message none] },
      .ok ExitCode.roundFailed, report error.message)
  | (.error (.failed (.fault cause)), session) =>
    match (describeFault host command (Subcommand.rootOf settings) cause).run session with
    | (.ok message, session) => (session, .ok ExitCode.roundFailed, report message)
    | (.error (.failed (.fault other)), session) => (session, .error other, "")
    | (.error _, session) => (session, .ok ExitCode.roundFailed, "")

/-- A tree in whose log file the entries of records were written. -/
def writeEntries (sinks : Log.Sinks) (stamp : Log.Stamp) (tree : Disk.Tree)
    (records : List Log.Record) : Disk.Tree :=
  (records.filterMap (sinks.fileEntry stamp)).foldl (fun tree (path, entry) =>
    ((tree.append (Path.ofString path) (entry ++ "\n").toUTF8).toOption).getD tree) tree

/-- A run that touches no files. -/
def Run.speak (host : Host) (exit : Except Fault Int) (output errors : String) : Run :=
  ⟨exit, output, errors, [], host.tree⟩

/-- A run that ends with a fault in the command line. -/
def Run.misused (host : Host) (usage : String) (fault : UsageFault) : Run :=
  .speak host (.ok ExitCode.usage) "" (fault.report usage)

/-- The run of a command with the words behind it, when the sinks are set up. -/
def runCommand (host : Host) (sinks : Log.Sinks) (command : Subcommand) (words : List String) :
    Run :=
  match parseOptions command.options true words with
  | .error fault => .misused host command.usage fault
  | .ok parsed =>
    if (inquiry? parsed.settings).isSome then
      .speak host (.ok ExitCode.success) command.help ""
    else if !parsed.rest.isEmpty then
      .misused host command.usage (.extraArguments parsed.rest)
    else
      let (session, exit, errors) := perform host command parsed.settings ⟨host.tree, [], ""⟩
      ⟨exit, session.output, errors,
        session.records.filterMap (sinks.consoleEntry host.stamp),
        writeEntries sinks host.stamp session.tree session.records⟩

/-- The sinks that the settings of the program ask for; without any, those that are set up stay. -/
def chooseSinks (host : Host) (settings : List Setting) (sinks : Log.Sinks) :
    Except String Log.Sinks :=
  let level := Log.Sinks.given (textFor? .logLevel settings)
  let json := isOn .logJson settings
  if level.isNone && !json then .ok sinks
  else Log.Sinks.configure ⟨level, if json then some true else none, none⟩ host.environment

/-- The answer to an inquiry about the program. -/
def answerInquiry (host : Host) : Field → Run
  | .version => .speak host (.ok ExitCode.success) versionLine ""
  | _ => .speak host (.ok ExitCode.success) (overview ++ programUsage) ""

/-- The run for a word that names no command. If it is written like an option, it is read as one
first. -/
def runUnknown (host : Host) (name : String) (words : List String) : Run :=
  let unknown : Run :=
    .misused host programHead
      (.noSuchCommand name (Text.resembling name (Subcommand.all.map Subcommand.name)))
  if isOptionWord name then
    match parseOptions programOptions false words with
    | .error fault => .misused host programHead fault
    | .ok parsed =>
      match inquiry? parsed.settings with
      | some field => answerInquiry host field
      | none => unknown
  else unknown

/-- The run of a command line, when the sinks of the environment are set up. -/
def runWords (host : Host) (sinks : Log.Sinks) (words : List String) : Run :=
  match parseOptions programOptions false words with
  | .error fault => .misused host programHead fault
  | .ok parsed =>
    match inquiry? parsed.settings, parsed.rest with
    | some field, _ => answerInquiry host field
    | none, [] => .misused host programHead .noCommand
    | none, name :: rest =>
      match Subcommand.ofName? name with
      | none => runUnknown host name (name :: rest)
      | some command =>
        match chooseSinks host parsed.settings sinks with
        | .error message => .speak host (.error (.value message)) "" ""
        | .ok sinks => runCommand host sinks command rest

/-- Run the program. -/
def run (host : Host) (words : List String) : Run :=
  match Log.Sinks.configure ⟨none, none, none⟩ host.environment with
  | .error message => .speak host (.error (.value message)) "" ""
  | .ok sinks =>
    if words.isEmpty then .speak host (.ok ExitCode.usage) overview programUsage
    else runWords host sinks words

end ServiceManifest.Command
