import ServiceManifest.Config
import ServiceManifest.Proofs.Build.Plan
import ServiceManifest.Proofs.Round.Agree

/-!
# What the fingerprint of the options tells

If the names of the marker are texts, a fingerprint tells which names these are and whether providers
are checked. Nothing else in the options changes what a round makes.
-/

namespace ServiceManifest

namespace Config

variable {config : Config} {names : List String}

/-- The fingerprint has the switch, and the names of the marker in ascending order. -/
theorem fingerprint_of_texts (hmarkers : config.markers = names.map .string) (extra : List String) :
    config.fingerprint extra = .ok (.object
      (Build.fingerprintEntries config.verify (Ascending.texts (names ++ extra)))) := by
  rw [fingerprint, hmarkers, ← List.map_append, Json.sortedMembers_strings]
  rfl

/-- The fingerprint has the switch and the names of the marker as a set. -/
theorem exists_fingerprint (hmarkers : config.markers = names.map .string) (extra : List String) :
    ∃ sorted, config.fingerprint extra =
        .ok (.object (Build.fingerprintEntries config.verify sorted)) ∧
      ∀ name, name ∈ sorted ↔ name ∈ names ++ extra :=
  ⟨_, fingerprint_of_texts hmarkers extra, fun _ => Ascending.mem_ofList Ascending.textBefore_isOrder⟩

/-- The names of the marker are those configured and those given. -/
theorem markerNames_of_texts (hmarkers : config.markers = names.map .string) (extra : List String) :
    config.markerNames extra = .ok (names ++ extra) := by
  rw [markerNames, hmarkers, Json.textMembers_strings]
  rfl

/-- Without a configuration file, the configuration is the default one in the environment. -/
theorem load_of_absent {tree : Disk.Tree} {environment : Environment} {root : String}
    (h : tree.exists? ((homeOf environment root).join (Path.ofString "config.json")) = .ok false) :
    load tree environment root = ⟨[], .ok (default.adapt environment)⟩ := by
  simp only [load, document?, h]

/-- A processor checks providers if the configuration says so. -/
theorem verify_ofHost (config : Config) :
    (ProcessorOptions.ofHost config.hostOptions).verify = config.verify := by
  have hoption : Keyed.get? verifyOption config.hostOptions = some (some (switchText config.verify)) :=
    rfl
  simp only [ProcessorOptions.ofHost, hoption, Option.bind_some, id_eq, Option.any_some]
  cases config.verify <;> decide

end Config

/-- Of its options and of what a resolver answered, the manifests of a round hang on the switch for
checks and on the occurrences only. -/
theorem Processor.planned_congr {options others : ProcessorOptions} {resolution other : Resolution}
    (hverify : options.verify = others.verify) (houtcome : resolution.outcome = other.outcome) :
    planned options resolution = planned others other := by
  unfold planned process
  simp only [start, Bool.false_eq_true, if_false, houtcome, hverify]
  cases other.outcome with
  | error failure => rfl
  | ok occurrences =>
    simp only
    cases (collect others.verify occurrences .empty).error with
    | some error => rfl
    | none =>
      simp only
      cases (emit MemoryStore.artifactStore (collect others.verify occurrences .empty).grouping
        .empty).failure <;> rfl

/-- What is resolved hangs on the modules of a scan only. -/
theorem Project.Scan.resolution_congr {scan other : Project.Scan} (h : scan.outcome = other.outcome) :
    scan.resolution.outcome = other.resolution.outcome := by
  unfold resolution
  rw [h]
  cases other.outcome with
  | error failure => rfl
  | ok modules =>
    simp only
    cases modules.occurrences <;> rfl

end ServiceManifest
