import ServiceManifest.Command.Session
import ServiceManifest.Digest.Content
import ServiceManifest.ExitCode
import ServiceManifest.Project.Resolver
import ServiceManifest.Store.Folder
import ServiceManifest.Store.Memory

/-!
# The three commands

`generate` runs a round and writes its manifests, `inspect` runs a round and shows what it would
write, and `status` tells whether anything has changed since manifests were written.
-/

namespace ServiceManifest.Command

/-- The options of `generate`. -/
structure GenerateOptions where
  root : String
  src : Option String
  out : Option String
  verify : Option Bool
  verbose : Bool
  incremental : Bool
  markers : List String
  deriving DecidableEq, Repr

/-- The options of `inspect`. -/
structure InspectOptions where
  root : String
  src : Option String
  verify : Option Bool
  markers : List String
  deriving DecidableEq, Repr

/-- The options of `status`. -/
structure StatusOptions where
  root : String
  src : Option String
  out : Option String
  deriving DecidableEq, Repr

/-- A configuration whose switches are overridden by options. -/
def withSwitches (config : Config) (verify : Option Bool) (verbose : Bool) : Config :=
  { config with verify := verify.getD config.verify, verbose := verbose || config.verbose }

/-- The digests of the sources below a root. -/
def takeSnapshot (source : Path) : Action (Keyed String) := do
  let tree ← Action.files
  let found ← Action.orDisk (Project.discover tree source)
  Action.log found.records
  Action.orDisk (Digest.snapshot tree source found.units)

/-- Run a round over the sources below a root and end the invocation: the manifests and the
store. -/
def runRound {σ : Type} (config : Config) (source : Path) (markers : List String)
    (store : ArtifactStore σ) (state : σ) (keep : σ → Action Unit) :
    Action (List Artifact × σ) := do
  let resolution := (Project.scan (← Action.files) source markers).resolution
  let processor := Processor.start (ProcessorOptions.ofHost config.hostOptions) store state
  let answer := processor.process resolution
  Action.log answer.records
  keep answer.processor.state
  match answer.outcome with
  | .error failure => Action.stop (.failed failure)
  | .ok artifacts =>
    let done := answer.processor.finish
    Action.log done.records
    return (artifacts, done.processor.state)

/-- What is logged before manifests are made again. -/
def pendingMessage (plan : Build.Plan) : String :=
  "Regenerating: " ++ toString plan.changed.length ++ " changed, " ++
    toString plan.added.length ++ " added, " ++ toString plan.removed.length ++ " removed, " ++
    toString plan.stale.length ++ " stale manifest(s)"

/-- What is printed when nothing has changed. -/
def upToDateMessage : String := "Manifests are up to date"

/-- What is known of a project before its manifests are written: where its sources, its output and
its state lie, what the last build left behind, and what this one would record. -/
structure Preparation where
  config : Config
  source : Path
  output : Path
  stateFile : Path
  previous : Build.State
  digests : Keyed String
  fingerprint : Json.Value

/-- Find out what has to be known before manifests are written. -/
def prepare (host : Host) (options : GenerateOptions) : Action Preparation := do
  let config := withSwitches (← loadConfig host options.root) options.verify options.verbose
  let source := config.sources options.root options.src
  let stateFile := config.stateFile options.root
  requireSources source
  let previous ← Action.attempt (Build.State.load (← Action.files) stateFile)
  let digests ← takeSnapshot source
  let fingerprint ← Action.orFault ((config.fingerprint options.markers).mapError .type)
  return ⟨config, source, config.output options.root options.out, stateFile, previous, digests,
    fingerprint⟩

/-- Remove the manifests that are obsolete after a round and record the build. -/
def conclude (made : Preparation) (artifacts : List Artifact) (store : FolderStore) :
    Action Unit := do
  let removal := store.removeObsolete (Keyed.keys made.previous.artifacts)
  Action.log removal.records
  Action.setFiles removal.store.tree
  match removal.fault with
  | some cause => Action.fault cause
  | none =>
    let tree := removal.store.tree
    Action.setFiles (tree.raiseFolders made.stateFile.parent).1
    Action.setFiles (← Action.orDisk (Build.saveState tree made.stateFile
      (Build.artifactSection removal.store.index) (.object (Build.sourceSection made.digests))
      made.fingerprint))
    Action.printAll (Console.writtenLines artifacts removal.removed)
    Action.print (Console.success ("Wrote " ++ toString artifacts.length ++ " manifest(s) to " ++
      made.output.toString))

/-- Run a round, write its manifests below the output root, remove those that are obsolete and
record the build. -/
def regenerate (made : Preparation) (extra : List String) : Action Unit := do
  let markers ← Action.orFault ((made.config.markerNames extra).mapError .type)
  let store ← Action.orDisk (FolderStore.openAt made.output (← Action.files))
  let (artifacts, store) ← runRound made.config made.source markers FolderStore.artifactStore store
    fun store => Action.setFiles store.tree
  conclude made artifacts store

/-- Make manifests again, unless the build is incremental and nothing has changed. -/
def proceed (made : Preparation) (options : GenerateOptions) : Action Unit := do
  if options.incremental then
    let plan ← Action.orFault (Build.plan made.previous (Build.sourceSection made.digests)
      (some (← Action.files, made.output)) (some made.fingerprint))
    if plan.isUpToDate then Action.print (Console.success upToDateMessage)
    else
      Action.log [Log.plain .info (pendingMessage plan)]
      regenerate made options.markers
  else regenerate made options.markers

/-- Write the manifests of a project. -/
def writeManifests (host : Host) (options : GenerateOptions) : Action Unit := do
  proceed (← prepare host options) options

/-- Show the manifests of a project without writing them. -/
def showManifests (host : Host) (options : InspectOptions) : Action Unit := do
  let config := withSwitches (← loadConfig host options.root) options.verify false
  let source := config.sources options.root options.src
  requireSources source
  let markers ← Action.orFault ((config.markerNames options.markers).mapError .type)
  let (artifacts, _) ← runRound config source markers MemoryStore.artifactStore MemoryStore.empty
    fun _ => pure ()
  if artifacts.isEmpty then
    Action.print (Console.warning ("No @auto_service classes found under " ++ source.toString))
  else
    Action.printText (Console.titledRule "SERVICE MANIFESTS")
    Action.print (Console.artifactTable artifacts)

/-- Tell whether the manifests of a project are stale. -/
def compareSources (host : Host) (options : StatusOptions) : Action Unit := do
  let config ← loadConfig host options.root
  let source := config.sources options.root options.src
  let output := config.output options.root options.out
  requireSources source
  let previous ← Action.attempt (Build.State.load (← Action.files) (config.stateFile options.root))
  let digests ← takeSnapshot source
  let fingerprint ← Action.orFault ((config.fingerprint []).mapError .type)
  let plan ← Action.orFault (Build.plan previous (Build.sourceSection digests)
    (some (← Action.files, output)) (some fingerprint))
  if plan.isUpToDate then Action.print (Console.success upToDateMessage)
  else
    Action.print (Console.planTable plan)
    Action.print (Console.warning (ExitCode.describe ExitCode.stale ++
      " - run: autoservice generate"))
    Action.stop .stale

end ServiceManifest.Command
