import ServiceManifest.Proofs.Command.Damaged
import ServiceManifest.Proofs.Round.Loaded

/-!
# The status right after a build

The status compares the sources with what was recorded, and the options that were recorded with those of
the configuration alone: no flags of a build can be given to it. So right after a build that succeeded it
says that everything is up to date if the flags of the build asked for nothing but what is configured,
whether the build made the manifests or found nothing to do. A build that was asked for other checks or
for further markers has recorded other options, and then the status says otherwise.
-/

namespace ServiceManifest.Command

open Disk Project

/-- The options of a build that settings stand for. -/
def GenerateOptions.ofSettings (settings : List Setting) : GenerateOptions :=
  ⟨Subcommand.rootOf settings, textFor? .src settings, textFor? .out settings,
    switchFor? .verify settings, isOn .verbose settings, isOn .incremental settings,
    textsFor .marker settings⟩

/-- The options of a question for the status that settings stand for. -/
def StatusOptions.ofSettings (settings : List Setting) : StatusOptions :=
  ⟨Subcommand.rootOf settings, textFor? .src settings, textFor? .out settings⟩

/-- Settings of `generate` are those of a build. -/
theorem action_generate (host : Host) (settings : List Setting) :
    Subcommand.generate.action host settings = writeManifests host (.ofSettings settings) := rfl

/-- Settings of `status` are those of a question for it. -/
theorem action_status (host : Host) (settings : List Setting) :
    Subcommand.status.action host settings = compareSources host (.ofSettings settings) := rfl

/-- The flags of a build ask for nothing but what is configured: for checks exactly if these are
configured, and for no markers but configured ones. -/
structure GenerateOptions.KeepsTo (options : GenerateOptions) (config : Config) : Prop where
  verify : options.verify.getD config.verify = config.verify
  markers : ∀ name ∈ options.markers, .string name ∈ config.markers

/-- What a build that succeeded leaves for the next question: its state file is loaded as a state whose
artifacts can be read, with the digests of its sources and with its options. -/
structure Leaves (made : Preparation) (after : Tree) (state : Build.State) : Prop where
  load : (Build.State.load after made.stateFile).outcome = .ok state
  legible : ∀ entry ∈ state.artifacts, Build.IsLegible entry.2
  sources : ∀ path, Keyed.get? path state.sources = (Keyed.get? path made.digests).map .string
  options : state.HasOptions (some made.fingerprint)

section Options

variable {host : Host} {options : GenerateOptions} {tree : Tree} {made : Preparation} {loaded : Config}
  {names : List String}

/-- Further names make the same list exactly if they are no further ones. -/
theorem texts_append_eq_iff {extra : List String} :
    Ascending.texts (names ++ extra) = Ascending.texts names ↔ ∀ name ∈ extra, name ∈ names := by
  have hmem {name : String} {all : List String} : name ∈ Ascending.texts all ↔ name ∈ all :=
    Ascending.mem_ofList Ascending.textBefore_isOrder
  constructor
  · intro heq name hname
    have hthere : name ∈ Ascending.texts (names ++ extra) :=
      hmem.mpr (List.mem_append_right names hname)
    rwa [heq, hmem] at hthere
  · intro hextra
    refine Ascending.ofList_congr Ascending.textBefore_isOrder fun name => ?_
    rw [List.mem_append]
    exact ⟨fun hname => hname.elim id (hextra name), Or.inl⟩

/-- The flags of a build keep to a configuration exactly if they come to its options. -/
theorem keepsTo_iff (hnames : loaded.markers = names.map .string) : options.KeepsTo loaded ↔
    options.verify.getD loaded.verify = loaded.verify ∧
      Ascending.texts (names ++ options.markers) = Ascending.texts names := by
  have hmem {name : String} : Json.Value.string name ∈ loaded.markers ↔ name ∈ names := by
    simp [hnames]
  rw [texts_append_eq_iff]
  simp only [← hmem]
  exact ⟨fun h => ⟨h.verify, h.markers⟩, fun h => ⟨h.1, h.2⟩⟩

/-- What was recorded for a build are the options of the configuration exactly if the flags of the build
keep to it. -/
theorem hasOptions_iff_keepsTo {state : Build.State} {fingerprint : Json.Value}
    (hnames : loaded.markers = names.map .string) (hdistinct : (Keyed.keys state.options).Nodup)
    (hbuilt : (withSwitches loaded options.verify options.verbose).fingerprint options.markers =
      .ok made.fingerprint)
    (hnow : loaded.fingerprint [] = .ok fingerprint) (h : state.HasOptions (some made.fingerprint)) :
    state.HasOptions (some fingerprint) ↔ options.KeepsTo loaded := by
  rw [Config.fingerprint_of_texts hnames, List.append_nil, Except.ok.injEq] at hnow
  have hasked : (withSwitches loaded options.verify options.verbose).markers = names.map .string := hnames
  rw [Config.fingerprint_of_texts hasked, Except.ok.injEq] at hbuilt
  have hrecorded := h _ rfl
  rw [← hbuilt] at hrecorded
  rw [keepsTo_iff hnames, ← hnow]
  constructor
  · exact fun hsame => Build.fingerprint_unique hdistinct hrecorded (hsame _ rfl)
  · rintro ⟨hverify, hmarkers⟩ now hgiven
    rw [← Option.some.inj hgiven, ← hmarkers]
    rwa [show (withSwitches loaded options.verify options.verbose).verify = loaded.verify from
      hverify] at hrecorded

end Options

section Leaves

variable {host : Host} {options : GenerateOptions} {session after : Session} {made : Preparation}
  {markers : List String}

/-- A build that found nothing to do leaves the state that it found, and something is there at the path
of each artifact. -/
theorem IsUpToDate.leaves (hprepares : Prepares host options session.tree made)
    {run : Except Stop Unit × Session} (h : IsUpToDate made options session.tree run) :
    Leaves made run.2.tree made.previous ∧
      Build.Stands (some (run.2.tree, made.output)) (Keyed.keys made.previous.artifacts) := by
  obtain ⟨plan, hplan, hdone⟩ := h.plan
  obtain ⟨found, -, hdigests⟩ := hprepares.digests
  obtain ⟨hplanned, hverdict⟩ := Build.plan_judges made.previous
    (Digest.digestsOf_snapshot hdigests).nodup (some (session.tree, made.output))
    (some made.fingerprint)
  have hmatches := (hverdict plan hplan).mp hdone
  rw [h.succeeds.2]
  exact ⟨⟨hprepares.previous, (hplanned.mp ⟨plan, hplan⟩).1, hmatches.sources, hmatches.options⟩,
    hmatches.artifacts⟩

/-- A build that ran its round leaves the state that it recorded, and something is there at the path of
each artifact if nothing but manifests was recorded before and the output root is given without `..`. -/
theorem exists_leaves_of_runsRound (hsound : session.tree.IsSound)
    (hbegins : Begins host options session.tree made markers)
    (htexts : ∀ value ∈ made.config.markers, value.text?.isSome = true)
    (hround : RunsRound made markers session.tree (.ok (), after)) :
    ∃ state, Leaves made after.tree state ∧ (made.RecordsNames → ".." ∉ made.output.parts →
      Build.Stands (some (after.tree, made.output)) (Keyed.keys state.artifacts)) := by
  obtain ⟨artifacts, -, hplanned, -⟩ := writesAll_of_runsRound hround
  obtain ⟨-, -, -, -, -, -, hrecord, -⟩ := exists_cleared_of_runsRound hsound hplanned hround
  have hfits : Base.Fits ⟨session.tree.here, made.source.absolute session.tree.here, made.stateFile⟩
      Set.univ session.tree made := ⟨rfl, rfl, htexts, fun _ _ _ _ => trivial⟩
  have hlast := LastRecord.of_records hsound rfl hbegins.prepares hfits hbegins.markers hplanned hrecord
  obtain ⟨sorted, hfingerprint, -⟩ := hlast.fingerprint
  obtain ⟨found, -, hdigests⟩ := hbegins.prepares.digests
  obtain ⟨recorded, hrecorded, -⟩ := Build.exists_recordedArtifacts (indexOf artifacts)
  refine ⟨_, ⟨hlast.load hfingerprint, fun entry hentry => ?_, fun path => ?_, fun now hnow => ?_⟩,
    fun hnames hup => ?_⟩
  · exact Build.exists_recordedFrom_iff.mp ⟨recorded, hrecorded⟩ entry
      ((Keyed.ascending_perm _).mem_iff.mpr hentry)
  · exact Build.get?_orderedSources path (Digest.digestsOf_snapshot hdigests).nodup
  · rw [← Option.some.inj hnow, hfingerprint]
    exact Build.same_fingerprint_iff.mpr ⟨rfl, rfl⟩
  · rintro _ _ ⟨⟩ path hpath
    obtain ⟨artifact, hartifact, rfl⟩ := hlast.mem_keys_recorded.mp hpath
    exact found_of_runsRound hsound hplanned
      (fun artifact hartifact => (isPlain_of_scan hplanned artifact hartifact).interface) hnames hup
      hround artifact hartifact

end Leaves

section Status

variable {host other : Host} {options : GenerateOptions} {tree : Tree} {made : Preparation}
  {loaded : Config} {state : Build.State}

/-- Where the configuration and the sources are those of a build that left a state, the status says that
everything is up to date exactly if the flags of the build keep to the configuration and something is
there at the path of each artifact. -/
theorem Leaves.compareSources_eq_ok_iff {later : Session} (h : Leaves made later.tree state)
    (hprepares : Prepares host options tree made)
    (hloaded : (Config.load tree host.environment options.root).outcome = .ok loaded)
    (htexts : ∀ value ∈ loaded.markers, value.text?.isSome = true)
    (hreads : ReadsSame host options made tree later.tree)
    (henvironment : other.environment = host.environment) :
    ((compareSources other ⟨options.root, options.src, options.out⟩).run later).1 = .ok () ↔
      options.KeepsTo loaded ∧
        Build.Stands (some (later.tree, made.output)) (Keyed.keys state.artifacts) := by
  obtain ⟨digests, ⟨found, hfound, hdigests⟩, hsame⟩ := hreads.digests
  have hnames := Json.eq_map_string htexts
  have hconfig : made.config = withSwitches loaded options.verify options.verbose := by
    obtain ⟨again, hagain, hmade⟩ := hprepares.config
    rw [hmade, Except.ok.inj (hagain.symm.trans hloaded)]
  -- what the question for the status prepares
  have hasks : Prepares other
      (StatusOptions.build ⟨options.root, options.src, options.out⟩) later.tree
      { made with
          config := withSwitches loaded none false
          previous := state
          digests := digests
          fingerprint := .object (Build.fingerprintEntries loaded.verify
            (Ascending.texts (loaded.markers.filterMap Json.Value.text? ++ []))) } := by
    refine ⟨⟨loaded, ?_, rfl⟩, ?_, ?_, ?_, hreads.folder, h.load, ⟨found, hfound, hdigests⟩, ?_⟩
    · rw [henvironment]
      exact hreads.config.trans hloaded
    · rw [hprepares.source, hconfig]
      rfl
    · rw [hprepares.output, hconfig]
      rfl
    · rw [hprepares.stateFile, hconfig]
      rfl
    · exact Config.fingerprint_of_texts hnames []
  obtain ⟨hplanned, hverdict⟩ := Build.plan_judges state (Digest.digestsOf_snapshot hdigests).nodup
    (some (later.tree, made.output)) (some (.object (Build.fingerprintEntries loaded.verify
      (Ascending.texts (loaded.markers.filterMap Json.Value.text? ++ [])))))
  have hkeeps := hasOptions_iff_keepsTo hnames (Build.nodup_of_load h.load).2.2
    (hconfig ▸ hprepares.fingerprint) (Config.fingerprint_of_texts hnames []) h.options
  rw [Command.compareSources_eq_ok_iff hasks, ← hkeeps]
  constructor
  · rintro ⟨plan, hplan, hdone⟩
    have hmatches := (hverdict plan hplan).mp hdone
    exact ⟨hmatches.options, hmatches.artifacts⟩
  · rintro ⟨hoptions, hstands⟩
    have hplannable : state.IsPlannable (some (later.tree, made.output)) :=
      ⟨h.legible, fun tree root hgiven path hpath => ⟨true, hstands tree root hgiven path hpath⟩⟩
    obtain ⟨plan, hplan⟩ := hplanned.mpr hplannable
    refine ⟨plan, hplan, (hverdict plan hplan).mpr ⟨fun path => ?_, hoptions, hstands⟩⟩
    rw [h.sources, hsame]

end Status

/-- What a build that succeeded leaves, whether it found nothing to do or ran its round. -/
theorem exists_leaves {host : Host} {options : GenerateOptions} {session after : Session}
    (hsound : session.tree.IsSound)
    (hrun : (writeManifests host options).run session = (.ok (), after)) :
    ∃ made, Prepares host options session.tree made ∧
      ((∀ value ∈ made.config.markers, value.text?.isSome = true) → ∃ state,
        Leaves made after.tree state ∧
          (IsUpToDate made options session.tree ((writeManifests host options).run session) ∨
              made.RecordsNames ∧ ".." ∉ made.output.parts →
            Build.Stands (some (after.tree, made.output)) (Keyed.keys state.artifacts))) := by
  rcases writeManifests_run host options session with
    ⟨reason, hreason, -⟩ | ⟨made, hprepares, hdone⟩ | ⟨made, markers, hbegins, hround⟩
  · rw [hrun] at hreason
    cases hreason
  · obtain ⟨hleaves, hstands⟩ := hdone.leaves hprepares
    rw [hrun] at hleaves hstands
    exact ⟨made, hprepares, fun _ => ⟨_, hleaves, fun _ => hstands⟩⟩
  · rw [hrun] at hround
    refine ⟨made, hbegins.prepares, fun htexts => ?_⟩
    obtain ⟨state, hleaves, hstands⟩ := exists_leaves_of_runsRound hsound hbegins htexts hround
    refine ⟨state, hleaves, ?_⟩
    rintro (hdone | ⟨hnames, hup⟩)
    · exact absurd hdone hbegins.not_isUpToDate
    · exact hstands hnames hup

/-- Right after a build that succeeded, with any flags, a question for the status with the same root,
source root and output root ends with the exit code of success exactly if the flags of the build asked for
nothing but what is configured, and something is found below the output root at the path of each recorded
artifact. That is so if the build found nothing to do, and if it made the manifests, unless the output root
is given with `..` in its path or something else than manifests was recorded before. The names of the
marker are texts, and the configuration and the sources are as they were. -/
theorem status_agrees_with_builds_of_configured_options {host : Host} {settings : List Setting}
    {session after : Session} {errors : String} (hsound : session.tree.IsSound)
    (hbuild : perform host .generate settings session = (after, .ok ExitCode.success, errors)) :
    let options := GenerateOptions.ofSettings settings
    ∃ made loaded, Prepares host options session.tree made ∧
      (Config.load session.tree host.environment options.root).outcome = .ok loaded ∧
      ((∀ value ∈ loaded.markers, value.text?.isSome = true) →
        ReadsSame host options made session.tree after.tree →
        ∃ state, (Build.State.load after.tree made.stateFile).outcome = .ok state ∧
          (∀ (other : Host) (asked : List Setting) (later : Session),
            other.environment = host.environment →
            StatusOptions.ofSettings asked = StatusOptions.ofSettings settings →
            later.tree = after.tree →
              ((perform other .status asked later).2.1 = .ok ExitCode.success ↔
                options.KeepsTo loaded ∧
                  Build.Stands (some (after.tree, made.output)) (Keyed.keys state.artifacts))) ∧
          (IsUpToDate made options session.tree ((writeManifests host options).run session) ∨
              made.RecordsNames ∧ ".." ∉ made.output.parts →
            Build.Stands (some (after.tree, made.output)) (Keyed.keys state.artifacts))) := by
  intro options
  have hrun := run_of_perform host .generate settings session hbuild
  rw [action_generate] at hrun
  obtain ⟨made, hprepares, hleft⟩ := exists_leaves hsound hrun
  obtain ⟨loaded, hloaded, hconfig⟩ := hprepares.config
  refine ⟨made, loaded, hprepares, hloaded, fun htexts hreads => ?_⟩
  obtain ⟨state, hleaves, hstands⟩ := hleft (by rw [hconfig]; exact htexts)
  refine ⟨state, hleaves.load, ?_, hstands⟩
  rintro other asked later henvironment hasked hlater
  have hsettings : StatusOptions.ofSettings settings = ⟨options.root, options.src, options.out⟩ := rfl
  rw [perform_eq_success_iff, action_status, hasked, hsettings, ← hlater]
  rw [← hlater] at hleaves hreads
  exact hleaves.compareSources_eq_ok_iff hprepares hloaded htexts hreads henvironment

/-- The text of a module with an interface and a class that provides it and descends from it. -/
def descendantModule : ByteArray :=
  "from autoservice import auto_service\nclass I: pass\n@auto_service(I)\nclass A(I): pass\n".toUTF8

/-- A project with this module that was never built. -/
def descendantProject : Tree :=
  ⟨[(["src"], .folder), (["src", "m.py"], .file descendantModule)], []⟩

/-- Where the project is built. -/
def descendantHost : Host := ⟨descendantProject, [], ⟨0, 0, 0, ""⟩, "", ""⟩

/-- The settings of a question for the status of the project. -/
def plainSettings : List Setting := [.text .src "src", .text .out "out"]

/-- The settings of a build of the project with all flags but one that makes it incremental: checks are
asked for or declined, and a marker is named that is configured anyway. -/
def flaggedSettings (verify : Bool) : List Setting :=
  plainSettings ++ [.switch .verify verify, .switch .verbose true,
    .text .marker "autoservice.auto_service"]

/-- The build of the project with these flags. -/
def flaggedBuild (verify : Bool) : Session × Except Fault Int × String :=
  perform descendantHost .generate (flaggedSettings verify) ⟨descendantProject, [], ""⟩

/-- The build succeeds, leaves the configuration and the sources as they are, and found nothing
recorded. -/
theorem flaggedBuild_keeps_sources (verify : Bool) : ∃ made,
    preparedIn descendantHost (.ofSettings (flaggedSettings verify)) descendantProject = .ok made ∧
      (flaggedBuild verify).2.1.toOption = some ExitCode.success ∧
      ((flaggedBuild verify).1.tree.exists? ((Config.homeOf descendantHost.environment ".").join
        (Path.ofString "config.json"))).toOption = some false ∧
      ((flaggedBuild verify).1.tree.isFolder? made.source).toOption = some true ∧
      (∃ found, discover (flaggedBuild verify).1.tree made.source = .ok found ∧
        ∃ digests, Digest.snapshot (flaggedBuild verify).1.tree made.source found.units =
          .ok digests ∧ digests = made.digests) ∧
      Keyed.keys made.previous.artifacts = [] ∧ ".." ∉ made.output.parts := by
  revert verify
  decide +kernel

/-- The configuration of the project is the default one. -/
theorem load_descendant : (Config.load descendantProject descendantHost.environment ".").outcome =
    .ok (Config.default.adapt []) :=
  congrArg Attempt.outcome (Config.load_of_absent rfl)

/-- What was prepared for the build is still read after it. -/
theorem exists_readsSame_flagged (verify : Bool) : ∃ made,
    Prepares descendantHost (.ofSettings (flaggedSettings verify)) descendantProject made ∧
      perform descendantHost .generate (flaggedSettings verify) ⟨descendantProject, [], ""⟩ =
        ((flaggedBuild verify).1, .ok ExitCode.success, (flaggedBuild verify).2.2) ∧
      ReadsSame descendantHost (.ofSettings (flaggedSettings verify)) made descendantProject
        (flaggedBuild verify).1.tree ∧
      made.RecordsNames ∧ ".." ∉ made.output.parts := by
  obtain ⟨made, hmade, hdone, hconfig, hfolder, ⟨found, hfound, digests, hdigests, rfl⟩, hrecorded,
    hup⟩ := flaggedBuild_keeps_sources verify
  refine ⟨made, preparedIn_eq_ok_iff.mp hmade, ?_,
    ⟨?_, eq_ok_of_toOption hfolder, _, ⟨found, hfound, hdigests⟩, fun _ => rfl⟩, ?_, hup⟩
  · exact Prod.ext rfl (Prod.ext (eq_ok_of_toOption hdone) rfl)
  · exact (congrArg Attempt.outcome (Config.load_of_absent (eq_ok_of_toOption hconfig))).trans
      load_descendant.symm
  · rw [Preparation.RecordsNames, hrecorded]
    exact fun _ hmem => absurd hmem List.not_mem_nil

/-- The flags keep to the default configuration exactly if they decline checks. -/
theorem keepsTo_flagged_iff {verify : Bool} :
    (GenerateOptions.ofSettings (flaggedSettings verify)).KeepsTo (Config.default.adapt []) ↔
      verify = false := by
  refine ⟨fun h => h.verify, fun heq => ⟨heq, fun name hname => ?_⟩⟩
  obtain rfl : name = "autoservice.auto_service" := List.mem_singleton.mp hname
  exact .head _

/-- Without checks, as is configured, the flags do not matter. -/
theorem flaggedBuild_is_up_to_date : ∃ after errors,
    perform descendantHost .generate (flaggedSettings false) ⟨descendantProject, [], ""⟩ =
      (after, .ok ExitCode.success, errors) ∧
    ∀ later : Session, later.tree = after.tree →
      (perform descendantHost .status plainSettings later).2.1 = .ok ExitCode.success := by
  obtain ⟨built, hbuilt, hbuild, hreads, hnames, hup⟩ := exists_readsSame_flagged false
  refine ⟨_, _, hbuild, fun later hlater => ?_⟩
  obtain ⟨made, loaded, hprepares, hloaded, hleft⟩ :=
    status_agrees_with_builds_of_configured_options (by decide +kernel) hbuild
  obtain rfl : made = built := hprepares.unique hbuilt
  obtain rfl : loaded = Config.default.adapt [] := Except.ok.inj (hloaded.symm.trans load_descendant)
  obtain ⟨state, -, hstatus, hstands⟩ := hleft (by decide) hreads
  exact (hstatus descendantHost plainSettings later rfl rfl hlater).mpr
    ⟨keepsTo_flagged_iff.mpr rfl, hstands (.inr ⟨hnames, hup⟩)⟩

/-- With checks, which are not configured, everything is stale right after the build. -/
theorem checkedBuild_is_stale : ∃ made after errors,
    Prepares descendantHost (.ofSettings (flaggedSettings true)) descendantProject made ∧
    perform descendantHost .generate (flaggedSettings true) ⟨descendantProject, [], ""⟩ =
      (after, .ok ExitCode.success, errors) ∧
    ReadsSame descendantHost (.ofSettings (flaggedSettings true)) made descendantProject
      after.tree ∧
    ∀ later : Session, later.tree = after.tree →
      (perform descendantHost .status plainSettings later).2.1 ≠ .ok ExitCode.success := by
  obtain ⟨built, hbuilt, hbuild, hreads, -⟩ := exists_readsSame_flagged true
  refine ⟨built, _, _, hbuilt, hbuild, hreads, fun later hlater hexit => ?_⟩
  obtain ⟨made, hprepares, hleft⟩ :=
    exists_leaves (by decide +kernel) (run_of_perform _ _ _ _ hbuild)
  obtain rfl : made = built := hprepares.unique hbuilt
  obtain ⟨loaded, hloaded, hconfig⟩ := hprepares.config
  obtain rfl : loaded = Config.default.adapt [] := Except.ok.inj (hloaded.symm.trans load_descendant)
  have htexts : ∀ value ∈ (Config.default.adapt []).markers, value.text?.isSome = true := by decide
  obtain ⟨state, hleaves, -⟩ := hleft (by rw [hconfig]; exact htexts)
  rw [← hlater] at hleaves hreads
  rw [perform_eq_success_iff] at hexit
  obtain ⟨hkeeps, -⟩ :=
    (hleaves.compareSources_eq_ok_iff hprepares load_descendant htexts hreads rfl).mp hexit
  exact absurd (keepsTo_flagged_iff.mp hkeeps) (by decide)

end ServiceManifest.Command
