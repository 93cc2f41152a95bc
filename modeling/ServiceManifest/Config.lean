import ServiceManifest.Environment
import ServiceManifest.Json.File
import ServiceManifest.Json.Order
import ServiceManifest.Project.Resolver

/-!
# The configuration of a project

Every setting has a default, which the configuration file of the project may override, and which a
variable of the environment overrides in turn. The file lies in the state folder, which only the
environment can move for this purpose. A setting in the file counts if it has the type of the
default.
-/

namespace ServiceManifest

/-- The settings of a project. -/
structure Config where
  sourceRoot : String
  outputDir : String
  stateDir : String
  verify : Bool
  verbose : Bool
  markers : List Json.Value

/-- The texts between separators, without white space around them; empty ones do not count. -/
def listedTexts (raw : String) : List String :=
  ((raw.toList.splitOn ',').map fun part => Text.strip (String.ofList part)).filter (· ≠ "")

/-- A text read as a value of the type of a default. -/
def coerce (raw : String) : Json.Value → Except String Json.Value
  | .bool _ => .ok (.bool (saysTrue raw))
  | .int _ => (Decimal.readInteger raw).map .int
  | .array _ => .ok (.array ((listedTexts raw).map .string))
  | _ => .ok (.string raw)

namespace Config

/-- The name of the state folder. -/
def stateFolder : String := ".autoservice"

/-- The settings of a project that configures nothing. -/
def default : Config where
  sourceRoot := "."
  outputDir := "./build/generated/resources"
  stateDir := "./" ++ stateFolder
  verify := false
  verbose := false
  markers := Project.defaultMarkers.map .string

/-- Override a text by a value that is one. -/
def textOr (old : String) : Option Json.Value → String
  | some (.string text) => text
  | _ => old

/-- Override a switch by a value that is one. -/
def switchOr (old : Bool) : Option Json.Value → Bool
  | some (.bool value) => value
  | _ => old

/-- Override a list by a value that is one. -/
def listOr (old : List Json.Value) : Option Json.Value → List Json.Value
  | some (.array items) => items
  | _ => old

/-- The settings overridden by the document of a configuration file. -/
def override (config : Config) (document : Json.Value) : Config :=
  let value (name key : String) : Option Json.Value :=
    ((document.entries?.bind (Keyed.get? name)).bind Json.Value.entries?).bind (Keyed.get? key)
  { sourceRoot := textOr config.sourceRoot (value "paths" "source_root")
    outputDir := textOr config.outputDir (value "paths" "output_dir")
    stateDir := textOr config.stateDir (value "paths" "state_dir")
    verify := switchOr config.verify (value "options" "verify")
    verbose := switchOr config.verbose (value "options" "verbose")
    markers := listOr config.markers (value "marker" "names") }

/-- The variable that moves the state folder. -/
def stateDirVariable : String := "AUTOSERVICE_PATHS_STATE_DIR"

/-- The settings overridden by the environment. -/
def adapt (config : Config) (environment : Environment) : Config :=
  let get (name : String) : Option String := Keyed.get? name environment
  { sourceRoot := (get "AUTOSERVICE_PATHS_SOURCE_ROOT").getD config.sourceRoot
    outputDir := (get "AUTOSERVICE_PATHS_OUTPUT_DIR").getD config.outputDir
    stateDir := (get stateDirVariable).getD config.stateDir
    verify := ((get "AUTOSERVICE_OPTIONS_VERIFY").map saysTrue).getD config.verify
    verbose := ((get "AUTOSERVICE_OPTIONS_VERBOSE").map saysTrue).getD config.verbose
    markers := ((get "AUTOSERVICE_MARKER_NAMES").map fun raw =>
      (listedTexts raw).map Json.Value.string).getD config.markers }

/-- Where the state folder of a project is before its configuration is known. -/
def homeOf (environment : Environment) (root : String) : Path :=
  (Path.ofString root).join
    (Path.ofString ((Keyed.get? stateDirVariable environment).getD default.stateDir))

/-- The state folder of a project. -/
def home (config : Config) (root : String) : Path :=
  (Path.ofString root).join (Path.ofString config.stateDir)

/-- The document of the configuration file, if there is one. -/
def document? (tree : Disk.Tree) (path : Path) : Except Fault (Option Json.Value) :=
  match tree.exists? path with
  | .error fault => .error (.disk fault)
  | .ok false => .ok none
  | .ok true => (readDocument tree path).map some

/-- The configuration of the project at a root. A file that cannot be read or is malformed is passed
over. -/
def load (tree : Disk.Tree) (environment : Environment) (root : String) : Attempt Config :=
  let path := (homeOf environment root).join (Path.ofString "config.json")
  match document? tree path with
  | .ok none => ⟨[], .ok (default.adapt environment)⟩
  | .ok (some document) => ⟨[], .ok ((default.override document).adapt environment)⟩
  | .error fault =>
    match fault with
    | .json (.malformed _) | .disk _ =>
      ⟨[Log.plain .warning ("Could not load config file from " ++ path.toString ++ ": " ++
            fault.message),
          Log.plain .info "Continuing with default configuration"],
        .ok (default.adapt environment)⟩
    | _ => ⟨[], .error fault⟩

/-- A switch as an option of the processor. -/
def switchText (value : Bool) : String := if value then "true" else "false"

/-- The options of the processor. -/
def hostOptions (config : Config) : Keyed (Option String) :=
  [(verifyOption, some (switchText config.verify)),
    (verboseOption, some (switchText config.verbose))]

/-- A path that may be given; otherwise the configured one below the root. -/
def pathOr (given : Option String) (root configured : String) : Path :=
  match given with
  | some text =>
    if text = "" then (Path.ofString root).join (Path.ofString configured) else Path.ofString text
  | none => (Path.ofString root).join (Path.ofString configured)

/-- The source root. -/
def sources (config : Config) (root : String) (given : Option String) : Path :=
  pathOr given root config.sourceRoot

/-- The output root. -/
def output (config : Config) (root : String) (given : Option String) : Path :=
  pathOr given root config.outputDir

/-- The state file. -/
def stateFile (config : Config) (root : String) : Path :=
  (config.home root).join (Path.ofString "state.json")

/-- The options that change what a build makes: whether providers are checked, and the names of the
marker. -/
def fingerprint (config : Config) (extra : List String) : Except Json.TypeFault Json.Value :=
  (Json.sortedMembers (config.markers ++ extra.map .string)).map fun names =>
    .object [("verify", .bool config.verify), ("markers", .array names)]

/-- The names of the marker. Members that are no texts name nothing. -/
def markerNames (config : Config) (extra : List String) : Except Json.TypeFault (List String) :=
  ((Json.Value.array config.markers).textMembers).map (· ++ extra)

end Config

end ServiceManifest
