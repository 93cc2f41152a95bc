import Mathlib.Data.Set.List
import ServiceManifest.Proofs.Command.Escape
import ServiceManifest.Proofs.Config

/-!
# Where settings come from

A setting is looked up in three places: a variable of the environment, the configuration file, and the
defaults. What comes out is what a build records and what it is made with, since the options of the
processor are written and read back, and the names of the marker are the same as a set.

Only a configuration file with a fault that no default stands in for makes loading fail; the settings
are not looked up then.
-/

namespace ServiceManifest

namespace Config

/-- The settings of a project, one by one. -/
inductive Setting
  | sourceRoot
  | outputDir
  | stateDir
  | verify
  | verbose
  | markers
  deriving DecidableEq, Repr

namespace Setting

/-- The section of a setting in the configuration file, and its key there. -/
def keys : Setting → String × String
  | sourceRoot => ("paths", "source_root")
  | outputDir => ("paths", "output_dir")
  | stateDir => ("paths", "state_dir")
  | verify => ("options", "verify")
  | verbose => ("options", "verbose")
  | markers => ("marker", "names")

/-- The variable of the environment for a setting. -/
def variableName (setting : Setting) : String :=
  let capitals (text : String) : String := String.ofList (text.toList.map Char.toUpper)
  "AUTOSERVICE_" ++ capitals setting.keys.1 ++ "_" ++ capitals setting.keys.2

/-- The value of a setting in a configuration. -/
def value (config : Config) : Setting → Json.Value
  | sourceRoot => .string config.sourceRoot
  | outputDir => .string config.outputDir
  | stateDir => .string config.stateDir
  | verify => .bool config.verify
  | verbose => .bool config.verbose
  | markers => .array config.markers

/-- The value that a document gives a setting. -/
def given? (setting : Setting) (document : Json.Value) : Option Json.Value :=
  ((document.entries?.bind (Keyed.get? setting.keys.1)).bind Json.Value.entries?).bind
    (Keyed.get? setting.keys.2)

/-- How the value of a setting is found: the variable of the environment comes first, then the
document, where the value has to be of the type of the default, and then the default. -/
structure IsMerged (setting : Setting) (environment : Environment) (document? : Option Json.Value)
    (found : Json.Value) : Prop where
  fromEnvironment : ∀ raw, Keyed.get? setting.variableName environment = some raw →
    coerce raw (setting.value default) = .ok found
  fromFile : Keyed.get? setting.variableName environment = none →
    ∀ given, document?.bind setting.given? = some given →
      given.type = (setting.value default).type → found = given
  fromDefault : Keyed.get? setting.variableName environment = none →
    (∀ given, document?.bind setting.given? = some given →
      given.type ≠ (setting.value default).type) → found = setting.value default

/-- The variables of the environment are those that adapting a configuration asks for. -/
theorem variableName_eq :
    sourceRoot.variableName = "AUTOSERVICE_PATHS_SOURCE_ROOT" ∧
      outputDir.variableName = "AUTOSERVICE_PATHS_OUTPUT_DIR" ∧
      stateDir.variableName = stateDirVariable ∧
      verify.variableName = "AUTOSERVICE_OPTIONS_VERIFY" ∧
      verbose.variableName = "AUTOSERVICE_OPTIONS_VERBOSE" ∧
      markers.variableName = "AUTOSERVICE_MARKER_NAMES" := by
  decide

/-- A text is read by the type of the default only. -/
theorem coerce_value (setting : Setting) (config : Config) (raw : String) :
    coerce raw (setting.value config) = coerce raw (setting.value default) := by
  cases setting <;> rfl

/-- A document overrides a setting by a value of its type. -/
theorem value_override (setting : Setting) (config : Config) (document : Json.Value) :
    setting.value (config.override document) = ((setting.given? document).filter fun given =>
      decide (given.type = (setting.value config).type)).getD (setting.value config) := by
  cases setting <;> simp only [value, override, given?, keys]
  all_goals
    generalize Option.bind _ _ = given
    rcases given with _ | (_ | _ | _ | _ | _ | _ | _) <;> rfl

/-- The environment overrides a setting by what its variable is read as. -/
theorem value_adapt (setting : Setting) (config : Config) (environment : Environment) :
    setting.value (config.adapt environment) =
      ((Keyed.get? setting.variableName environment).bind fun raw =>
        (coerce raw (setting.value config)).toOption).getD (setting.value config) := by
  obtain ⟨hsource, houtput, hstate, hverify, hverbose, hmarkers⟩ := variableName_eq
  cases setting <;> simp only [value, adapt, hsource, houtput, hstate, hverify, hverbose, hmarkers]
  all_goals
    generalize Keyed.get? _ environment = raw
    cases raw <;> rfl

/-- Overriding the defaults by a document and then by the environment merges every setting. -/
theorem isMerged_adapt (setting : Setting) (environment : Environment)
    (document? : Option Json.Value) :
    setting.IsMerged environment document?
      (setting.value ((document?.elim default default.override).adapt environment)) := by
  have hbase : setting.value (document?.elim default default.override) =
      ((document?.bind setting.given?).filter fun given =>
        decide (given.type = (setting.value default).type)).getD (setting.value default) := by
    cases document? with
    | none => rfl
    | some document => exact setting.value_override default document
  rw [value_adapt]
  constructor
  · intro raw hraw
    rw [hraw, Option.bind_some, coerce_value]
    cases setting <;> rfl
  · intro hnone given hgiven htype
    rw [hnone, Option.bind_none, Option.getD_none, hbase, hgiven, Option.filter_some, if_pos]
    · rfl
    · exact decide_eq_true htype
  · intro hnone hother
    rw [hnone, Option.bind_none, Option.getD_none, hbase]
    cases hgiven : document?.bind setting.given? with
    | none => rfl
    | some given =>
      rw [Option.filter_some, if_neg]
      · rfl
      · simpa using hother given hgiven

end Setting

section Load

variable {tree : Disk.Tree} {environment : Environment} {root : String} {config : Config}

/-- The document of the configuration file of the project at a root, if there is one that can be
read. -/
def given? (tree : Disk.Tree) (environment : Environment) (root : String) : Option Json.Value :=
  (document? tree (fileOf environment root)).toOption.join

/-- A configuration that is loaded is the default one, overridden by the document that there is and by
the environment. -/
theorem eq_of_load (h : (load tree environment root).outcome = .ok config) :
    config = ((given? tree environment root).elim default default.override).adapt environment := by
  unfold load at h
  unfold given? fileOf
  simp only at h
  split at h
  · rename_i hdocument
    cases h
    rw [hdocument]
    rfl
  · rename_i hdocument
    cases h
    rw [hdocument]
    rfl
  · rename_i hdocument
    rw [hdocument]
    split at h <;> cases h <;> rfl

/-- Every setting of a configuration that is loaded is merged from the three places. -/
theorem isMerged_of_load (h : (load tree environment root).outcome = .ok config) (setting : Setting) :
    setting.IsMerged environment (given? tree environment root) (setting.value config) := by
  rw [eq_of_load h]
  exact setting.isMerged_adapt environment (given? tree environment root)

/-- The names of the marker are texts if those in the configuration file are. -/
theorem exists_markers_of_load (h : (load tree environment root).outcome = .ok config)
    (hgiven : ∀ items, (given? tree environment root).bind Setting.markers.given? =
      some (.array items) → ∀ item ∈ items, ∃ name, item = .string name) :
    ∃ names : List String, config.markers = names.map .string := by
  have hmerged := isMerged_of_load h .markers
  -- The environment and the default give texts anyway, so only a list from the file needs the premise.
  cases hraw : Keyed.get? Setting.markers.variableName environment with
  | some raw =>
    have hread := hmerged.fromEnvironment raw hraw
    simp only [Setting.value, coerce, Except.ok.injEq, Json.Value.array.injEq] at hread
    exact ⟨listedTexts raw, hread.symm⟩
  | none =>
    by_cases hlist : ∃ items, (given? tree environment root).bind Setting.markers.given? =
        some (.array items)
    · obtain ⟨items, hitems⟩ := hlist
      have hfile := hmerged.fromFile hraw _ hitems rfl
      simp only [Setting.value, Json.Value.array.injEq] at hfile
      have hrange : items ∈ Set.range (List.map Json.Value.string) := by
        rw [Set.range_list_map]
        exact fun item hitem => (hgiven items hitems item hitem).imp fun _ => Eq.symm
      obtain ⟨names, rfl⟩ := hrange
      exact ⟨names, hfile⟩
    · refine ⟨Project.defaultMarkers, ?_⟩
      have hdefault := hmerged.fromDefault hraw fun given hfound htype => hlist ?_
      · exact Json.Value.array.inj hdefault
      · cases given <;> first | exact ⟨_, hfound⟩ | cases htype

end Load

end Config

namespace Command

/-- Loading fails only for a configuration file in whose octets there is a fault that no default stands
in for. Otherwise every setting is merged from the environment, the file and the defaults, and for all
switches and further names of the marker the processor checks providers exactly if the recorded
fingerprint says so, and looks for exactly the markers that are recorded. -/
theorem recorded_options_are_used (tree : Disk.Tree) (environment : Environment) (root : String) :
    (∀ fault, (Config.load tree environment root).outcome = .error fault ↔
      ∃ bytes, tree.read (Config.fileOf environment root) = .ok bytes ∧
        Config.Unsettled bytes fault) ∧
    ∀ config, (Config.load tree environment root).outcome = .ok config →
      (∀ setting : Config.Setting, setting.IsMerged environment
        (Config.given? tree environment root) (setting.value config)) ∧
      ((∀ items, (Config.given? tree environment root).bind Config.Setting.markers.given? =
          some (.array items) → ∀ item ∈ items, ∃ name, item = .string name) →
        ∀ (verify : Option Bool) (verbose : Bool) (extra : List String),
          ∃ recorded used : List String,
            (ProcessorOptions.ofHost (withSwitches config verify verbose).hostOptions).verify =
              verify.getD config.verify ∧
            (withSwitches config verify verbose).fingerprint extra = .ok (.object
              (Build.fingerprintEntries (verify.getD config.verify) recorded)) ∧
            (withSwitches config verify verbose).markerNames extra = .ok used ∧
            ∀ name, name ∈ recorded ↔ name ∈ used) := by
  refine ⟨fun fault => Config.load_eq_error_iff, fun config hload =>
    ⟨Config.isMerged_of_load hload, fun hgiven verify verbose extra => ?_⟩⟩
  obtain ⟨names, hnames⟩ := Config.exists_markers_of_load hload hgiven
  have hmarkers : (withSwitches config verify verbose).markers = names.map .string := hnames
  obtain ⟨recorded, hfingerprint, hmem⟩ := Config.exists_fingerprint hmarkers extra
  exact ⟨recorded, names ++ extra, Config.verify_ofHost _, hfingerprint,
    Config.markerNames_of_texts hmarkers extra, hmem⟩

/-- A tree with a configuration file. -/
def configured (text : String) : Disk.Tree :=
  ⟨[([".autoservice"], .folder), ([".autoservice", "config.json"], .file text.toUTF8)], []⟩

/-- A configuration file is read as its document. -/
theorem load_configured (text : String) (document : Json.Value) (environment : Environment)
    (hhome : Keyed.get? Config.stateDirVariable environment = none)
    (hread : Json.read (String.ofList (Text.unifyLineEnds text.toList)) = .ok document) :
    Config.given? (configured text) environment "." = some document ∧
      (Config.load (configured text) environment ".").outcome =
        .ok ((Config.default.override document).adapt environment) := by
  have hpath : Config.fileOf environment "." = ⟨"", [".autoservice", "config.json"]⟩ := by
    rw [Config.fileOf, Config.homeOf, hhome]
    decide
  have hfile : (configured text).exists? (Config.fileOf environment ".") = .ok true ∧
      (configured text).read (Config.fileOf environment ".") = .ok text.toUTF8 := by
    rw [hpath]
    exact ⟨rfl, rfl⟩
  have hdocument : Config.document? (configured text) (Config.fileOf environment ".") =
      .ok (some document) := by
    simp only [Config.document?, readDocument, readText, hfile.1, hfile.2, Text.ofUtf8_toUTF8, hread,
      Except.mapError, Except.map]
  refine ⟨by rw [Config.given?, hdocument]; rfl, ?_⟩
  rw [Config.fileOf] at hdocument
  simp only [Config.load, hdocument]

/-- A configuration file that asks for checks and names a marker. -/
def switchedDocument : String :=
  "\x7b\"options\": \x7b\"verify\": true\x7d, \"marker\": \x7b\"names\": [\"m\"]\x7d\x7d"

/-- A project that asks for checks in its configuration file and for none on the command line records
that there are none, and its processor makes none. -/
theorem switched_options_are_used : ∃ config recorded,
    (Config.load (configured switchedDocument)
      [("AUTOSERVICE_OPTIONS_VERBOSE", "true")] ".").outcome = .ok config ∧
    Config.Setting.verify.value config = .bool true ∧
    (ProcessorOptions.ofHost (withSwitches config (some false) false).hostOptions).verify = false ∧
    (withSwitches config (some false) false).fingerprint ["n"] =
      .ok (.object (Build.fingerprintEntries false recorded)) := by
  obtain ⟨hgiven, hload⟩ := load_configured switchedDocument
    (.object [("options", .object [("verify", .bool true)]),
      ("marker", .object [("names", .array [.string "m"])])])
    [("AUTOSERVICE_OPTIONS_VERBOSE", "true")] (by decide) (by cbv)
  obtain ⟨hmerged, hused⟩ := (recorded_options_are_used _ _ _).2 _ hload
  rw [hgiven] at hused
  obtain ⟨recorded, used, hverify, hfingerprint, -, -⟩ := hused
    (fun items hitems item hitem => by
      cases hitems
      exact ⟨"m", List.mem_singleton.mp hitem⟩)
    (some false) false ["n"]
  exact ⟨_, recorded, hload, (hmerged .verify).fromFile (by decide) _ (by rw [hgiven]; rfl) rfl,
    hverify, hfingerprint⟩

end Command

end ServiceManifest
