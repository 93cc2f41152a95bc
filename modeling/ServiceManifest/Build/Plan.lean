import ServiceManifest.Ascending
import ServiceManifest.Build.State
import ServiceManifest.Json.Order

/-!
# What has to be built again

The plan of a build compares the digests of now with those of the last build. An artifact is stale
if one of its units was changed or removed, or if it is aggregating and any unit is new or changed;
when the options are others than last time, every artifact is stale. With an output root, the
artifacts that are not there are missing.
-/

namespace ServiceManifest.Build

/-- The units that moved since the last build and the artifacts that are no longer right. -/
structure Plan where
  changed : List String
  added : List String
  removed : List String
  stale : List String
  missing : List String
  optionsChanged : Bool
  deriving DecidableEq, Repr

/-- Whether there is nothing to build. -/
def Plan.isUpToDate (plan : Plan) : Bool :=
  plan.changed.isEmpty && plan.added.isEmpty && plan.removed.isEmpty && plan.missing.isEmpty &&
    !plan.optionsChanged

/-- An artifact as recorded: the units it depends on and whether it is aggregating. -/
structure Recorded where
  path : String
  sources : List String
  aggregating : Bool
  deriving DecidableEq, Repr

/-- The recorded form of an entry of the artifact section. -/
def Recorded.ofEntry (path : String) (entry : Json.Value) : Except Json.TypeFault Recorded :=
  match entry with
  | .object fields =>
    (((Keyed.get? "sources" fields).getD (.array [])).textMembers).map fun sources =>
      ⟨path, sources, ((Keyed.get? "aggregating" fields).map Json.Value.isTruthy).getD false⟩
  | other => .error (.noEntries other.type)

/-- The recorded artifacts in order, up to the first malformed one. -/
def recordedFrom : Keyed Json.Value → Except Json.TypeFault (List Recorded)
  | [] => .ok []
  | (path, entry) :: rest =>
    match Recorded.ofEntry path entry with
    | .error fault => .error fault
    | .ok first => (recordedFrom rest).map (first :: ·)

/-- The names of the first entries that the second do not have. -/
def namesOnlyIn (entries others : Keyed Json.Value) : List String :=
  Ascending.texts ((Keyed.keys entries).filter fun name => !Keyed.has name others)

/-- The names that both entries have with different values. -/
def namesChanged (before now : Keyed Json.Value) : List String :=
  Ascending.texts ((now.filter fun (name, value) =>
    match Keyed.get? name before with
    | some old => !value.same old
    | none => false).map (·.1))

/-- Whether an artifact has to be made again after units were changed, removed or added. -/
def Recorded.isStale (artifact : Recorded) (dirty : List String) (anythingNew : Bool) : Bool :=
  artifact.sources.any dirty.contains || (artifact.aggregating && anythingNew)

/-- The paths that do not exist below a folder. -/
def absent (tree : Disk.Tree) (root : Path) : List String → Except Disk.Fault (List String)
  | [] => .ok []
  | path :: rest =>
    match tree.exists? (root.join (Path.ofString path)) with
    | .error fault => .error fault
    | .ok found => (absent tree root rest).map fun more => if found then more else path :: more

/-- Whether options are given and differ from the recorded ones. -/
def optionsDiffer (recorded : Json.Value) : Option Json.Value → Bool
  | none => false
  | some options => !recorded.same options

/-- The plan of a build over the current digests, given whether the options changed and which
artifacts are outdated for some other reason. The output root is looked at if it is given. -/
def planFrom (artifacts sources : Keyed Json.Value) (optionsChanged : Bool)
    (outdated : String → Bool) (current : Keyed Json.Value) (output : Option (Disk.Tree × Path)) :
    Except Fault Plan :=
  let added := namesOnlyIn current sources
  let removed := namesOnlyIn sources current
  let changed := namesChanged sources current
  match recordedFrom (Keyed.ascending artifacts) with
  | .error fault => .error (.type fault)
  | .ok recorded =>
    let isStale (artifact : Recorded) : Bool :=
      optionsChanged || outdated artifact.path ||
        artifact.isStale (changed ++ removed) (!added.isEmpty || !changed.isEmpty)
    let stale := (recorded.filter isStale).map (·.path)
    let missing : Except Disk.Fault (List String) :=
      match output with
      | none => .ok []
      | some (tree, root) => absent tree root (recorded.map (·.path))
    match missing with
    | .error fault => .error (.disk fault)
    | .ok missing => .ok ⟨changed, added, removed, stale, missing, optionsChanged⟩

/-- The plan of a build over the current digests. The output root and the options are looked at if
they are given. -/
def plan (previous : State) (current : Keyed Json.Value) (output : Option (Disk.Tree × Path))
    (options : Option Json.Value) : Except Fault Plan :=
  planFrom previous.artifacts previous.sources (optionsDiffer (.object previous.options) options)
    (fun _ => false) current output

end ServiceManifest.Build
