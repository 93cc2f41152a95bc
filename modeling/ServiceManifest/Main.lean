import ServiceManifest.Command.Program
import Std.Time.DateTime

/-!
# The command line

The words of the command line go to the program; the names of the files it works on come from
standard input, one a line, as a listing of the working folder gives them. What the program prints,
logs and writes is carried out when it has ended.
-/

namespace ServiceManifest.Main

open Disk (Entry Place Tree)

/-- The variables that the program knows. -/
def variableNames : List String :=
  ["AUTOSERVICE_LOG_LEVEL", "AUTOSERVICE_LOG_JSON", "AUTOSERVICE_LOG_FILE",
    "AUTOSERVICE_PATHS_SOURCE_ROOT", "AUTOSERVICE_PATHS_OUTPUT_DIR", "AUTOSERVICE_PATHS_STATE_DIR",
    "AUTOSERVICE_OPTIONS_VERIFY", "AUTOSERVICE_OPTIONS_VERBOSE", "AUTOSERVICE_MARKER_NAMES"]

/-- The variables that are set. -/
def readEnvironment : IO Environment :=
  variableNames.filterMapM fun name => do return (← IO.getEnv name).map fun value => (name, value)

/-- A number in a field of a width, with zeros in front. -/
def padded (width : Nat) (number : Int) : String :=
  let digits := toString number
  String.ofList (List.replicate (width - digits.length) '0') ++ digits

/-- How the error log writes a time that is given in microseconds since the epoch. -/
def momentText (micros : Int) : String :=
  let seconds := micros / 1000000
  let date := Std.Time.PlainDate.ofEpochDay (.ofInt (seconds / 86400))
  padded 4 date.year ++ "-" ++ padded 2 date.month.val ++ "-" ++ padded 2 date.day.val ++ "T" ++
    padded 2 (seconds % 86400 / 3600) ++ ":" ++ padded 2 (seconds % 3600 / 60) ++ ":" ++
    padded 2 (seconds % 60) ++ "." ++ padded 6 (micros % 1000000)

/-- A name for a build that has none of its own. -/
def freshBuild : IO String := do
  let parts ← [8, 4, 4, 4, 12].mapM fun (width : Nat) => do
    return String.ofList (Text.hexDigits width (← IO.rand 0 (Nat.pow 16 width - 1)))
  return "-".intercalate parts

/-- The absolute path of a place. -/
def pathText (place : Place) : String := "/" ++ "/".intercalate place

/-- The lines of standard input without their ends. -/
partial def readNames (stdin : IO.FS.Stream) (names : List String) : IO (List String) := do
  let line ← stdin.getLine
  if line.isEmpty then return names.reverse
  else readNames stdin ((line.dropEndWhile (· = '\n')).toString :: names)

/-- What is on disk at a place: a file that can be read, and else a folder. -/
def readEntry (place : Place) : IO Entry :=
  try return .file (← IO.FS.readBinFile (pathText place))
  catch _ => return .folder

/-- The tree of the files of these names. -/
def readTree (here : Place) (names : List String) : IO Tree := do
  let folders := (List.range here.length).map fun i => (here.take (i + 1), Entry.folder)
  names.foldlM (fun tree name => do
    let path := (Path.ofString name).absolute here
    let tree := (tree.makeFolders path.parent).toOption.getD tree
    if (tree.entry? path.parts).isSome then return tree
    else return tree.set path.parts (← readEntry path.parts)) ⟨folders, here⟩

/-- Make the disk as it is in a tree, where that differs from the tree that was read. -/
def writeTree (before after : Tree) : IO Unit := do
  for (place, entry) in after.entries do
    if before.entry? place ≠ some entry then
      match entry with
      | .folder => IO.FS.createDirAll (pathText place)
      | .file bytes =>
        IO.FS.createDirAll (pathText place.dropLast)
        IO.FS.writeBinFile (pathText place) bytes
  for (place, _) in before.entries do
    if (after.entry? place).isNone then IO.FS.removeFile (pathText place)

end ServiceManifest.Main

open ServiceManifest in
/-- Run the program on the listed files; a fault that it did not expect ends it with 1. -/
def main (words : List String) : IO UInt32 := do
  let here := (Path.ofString (toString (← IO.currentDir))).parts
  let tree ← Main.readTree here (← Main.readNames (← IO.getStdin) [])
  let micros := (← Std.Time.Timestamp.now).toNanosecondsSinceUnixEpoch.val / 1000
  let build ← match (← IO.getEnv "AUTOSERVICE_REQUEST_ID").filter (· ≠ "") with
    | some name => pure name
    | none => Main.freshBuild
  let stamp : Log.Stamp := ⟨micros / 1000000, micros % 1000000, 0, build⟩
  let run := Command.run ⟨tree, ← Main.readEnvironment, stamp, Main.momentText micros, ""⟩ words
  run.entries.forM IO.eprintln
  IO.print run.output
  IO.eprint run.errors
  Main.writeTree tree run.tree
  match run.exit with
  | .ok code => return code.toNat.toUInt32
  | .error fault =>
    IO.eprintln (fault.title ++ ": " ++ fault.message)
    return 1
