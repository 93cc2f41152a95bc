import ServiceManifest.Proofs.Command.Conclude
import ServiceManifest.Proofs.Config
import ServiceManifest.Proofs.Project.Same

/-!
# What the last build of a project tells

A project whose source root and state file stay where they are remembers its last build in the state
file. As long as the state file is left alone, a build that finds nothing changed would make what the
last one made, wherever that wrote: its sources have the same digests, so they are the same sources,
and its options have the same fingerprint. Where the output root stays the same and the folder of
manifests is left alone too, the folder holds what the last build made.
-/

namespace ServiceManifest.Command

open Disk Project

/-- What stays the same in the builds that share a record: where relative paths start, the absolute
source root, and the path of the state file. -/
structure Base where
  here : Place
  source : Path
  stateFile : Path

/-- A preparation of a build with such a record. The names of the marker are texts, and the contents
of the sources are among some. -/
structure Base.Fits (base : Base) (contents : Set ByteArray) (tree : Tree) (made : Preparation) :
    Prop where
  source : made.source.absolute base.here = base.source
  stateFile : made.stateFile = base.stateFile
  texts : ∀ value ∈ made.config.markers, value.text?.isSome = true
  contents : ∀ path ∈ Keyed.keys made.digests, ∀ bytes,
    tree.read (made.source.join (Path.ofString path)) = .ok bytes → bytes ∈ contents

/-- What stays the same in the builds of a project that always writes to one absolute output root. -/
structure Site extends Base where
  output : Path

namespace Site

/-- The folder of manifests. -/
def folder (site : Site) : Place := Manifest.place site.output

/-- The state file does not lie in the folder of manifests. -/
def IsApart (site : Site) : Prop := ¬site.folder <+: (site.stateFile.absolute site.here).parts

instance (site : Site) : Decidable site.IsApart := inferInstanceAs (Decidable (¬_))

/-- A preparation of a build for a site. The manifests that it would make have names that files can
have. -/
structure Fits (site : Site) (contents : Set ByteArray) (extra : List String) (tree : Tree)
    (made : Preparation) : Prop extends site.toBase.Fits contents tree made where
  output : made.output.absolute site.here = site.output
  names : ∀ markers, made.config.markerNames extra = .ok markers →
    ∀ artifacts, plannedIn made markers tree = .ok artifacts →
      ∀ artifact ∈ artifacts, Path.IsName artifact.interface

/-- A run for a site: whatever it prepares fits. -/
def Admits (site : Site) (contents : Set ByteArray) (host : Host) (options : GenerateOptions)
    (tree : Tree) : Prop :=
  ∀ made, Prepares host options tree made → site.Fits contents options.markers tree made

/-- What holds of the value that a result has, if any, can be decided. -/
instance decidableOfOk {ε α : Type} (result : Except ε α) (p : α → Prop) [DecidablePred p] :
    Decidable (∀ value, result = .ok value → p value) :=
  match result with
  | .error _ => .isTrue nofun
  | .ok value =>
    decidable_of_iff (p value) ⟨fun h _ heq => Except.ok.inj heq ▸ h, fun h => h value rfl⟩

/-- Whether a result has a value of which something holds can be decided. -/
instance decidableExistsOk {ε α : Type} (result : Except ε α) (p : α → Prop) [DecidablePred p] :
    Decidable (∃ value, result = .ok value ∧ p value) :=
  match result with
  | .error _ => .isFalse nofun
  | .ok value =>
    decidable_of_iff (p value)
      ⟨fun h => ⟨value, rfl, h⟩, fun ⟨_, heq, h⟩ => Except.ok.inj heq ▸ h⟩

instance (base : Base) (contents : Set ByteArray) [DecidablePred (· ∈ contents)] (tree : Tree)
    (made : Preparation) : Decidable (base.Fits contents tree made) :=
  decidable_of_iff
    (made.source.absolute base.here = base.source ∧ made.stateFile = base.stateFile ∧
      (∀ value ∈ made.config.markers, value.text?.isSome = true) ∧
      ∀ path ∈ Keyed.keys made.digests, ∀ bytes,
        tree.read (made.source.join (Path.ofString path)) = .ok bytes → bytes ∈ contents)
    ⟨fun ⟨hsource, hstate, htexts, hcontents⟩ => ⟨hsource, hstate, htexts, hcontents⟩,
      fun h => ⟨h.source, h.stateFile, h.texts, h.contents⟩⟩

instance (site : Site) (contents : Set ByteArray) [DecidablePred (· ∈ contents)]
    (extra : List String) (tree : Tree) (made : Preparation) :
    Decidable (site.Fits contents extra tree made) :=
  decidable_of_iff
    (site.toBase.Fits contents tree made ∧ made.output.absolute site.here = site.output ∧
      ∀ markers, made.config.markerNames extra = .ok markers →
        ∀ artifacts, plannedIn made markers tree = .ok artifacts →
          ∀ artifact ∈ artifacts, Path.IsName artifact.interface)
    ⟨fun ⟨hbase, houtput, hnames⟩ => ⟨hbase, houtput, hnames⟩,
      fun h => ⟨h.toFits, h.output, h.names⟩⟩

instance (site : Site) (contents : Set ByteArray) [DecidablePred (· ∈ contents)] (host : Host)
    (options : GenerateOptions) (tree : Tree) :
    Decidable (site.Admits contents host options tree) :=
  decidable_of_iff (∀ made, preparedIn host options tree = .ok made →
      site.Fits contents options.markers tree made)
    (forall_congr' fun _ => imp_congr_left preparedIn_eq_ok_iff)

end Site

section Prepared

variable {base : Base} {contents : Set ByteArray} {host : Host} {options : GenerateOptions}
  {tree : Tree} {made : Preparation}

/-- A preparation knows its sources. -/
theorem Prepares.sources (h : Prepares host options tree made)
    (hfits : base.Fits contents tree made) : Sources tree made.source made.digests contents :=
  ⟨h.folder, h.digests, hfits.contents⟩

/-- The fingerprint of a preparation tells the names of its marker. -/
theorem Prepares.exists_markers (h : Prepares host options tree made)
    (hfits : base.Fits contents tree made) :
    ∃ markers sorted, made.config.markerNames options.markers = .ok markers ∧
      made.fingerprint = .object (Build.fingerprintEntries made.config.verify sorted) ∧
        ∀ name, name ∈ sorted ↔ name ∈ markers := by
  have hmarkers := Json.eq_map_string hfits.texts
  obtain ⟨sorted, hsorted, hmem⟩ := Config.exists_fingerprint hmarkers options.markers
  refine ⟨_, sorted, Config.markerNames_of_texts hmarkers options.markers, ?_, hmem⟩
  exact Except.ok.inj (h.fingerprint.symm.trans hsorted)

/-- Without a record of a build, no build is up to date. -/
theorem not_isUpToDate_of_never (hstate : ∃ fault, tree.read base.stateFile = .error fault)
    (hprepares : Prepares host options tree made) (hfits : base.Fits contents tree made)
    {plan : Build.Plan} (hplan : planIn made tree = .ok plan) : plan.isUpToDate = false := by
  obtain ⟨fault, hread⟩ := hstate
  rw [← hfits.stateFile] at hread
  obtain ⟨markers, sorted, -, hfingerprint, -⟩ := hprepares.exists_markers hfits
  rw [planIn, Build.load_of_unreadable hread hprepares.previous, hfingerprint] at hplan
  unfold Build.plan Build.planFrom at hplan
  simp only at hplan
  split at hplan
  · cases hplan
  · split at hplan
    · cases hplan
    · cases hplan
      simp [Build.Plan.isUpToDate, Build.optionsDiffer, Build.State.empty, Json.Value.same,
        Build.fingerprintEntries]

end Prepared

/-- What a build makes, told from the outside: the digests of its sources and its fingerprint are
those of another. -/
structure Preparation.SameInputs (made other : Preparation) : Prop where
  digests : ∀ path, Keyed.get? path made.digests = Keyed.get? path other.digests
  fingerprint : made.fingerprint = other.fingerprint

/-- A tree in which a preparation reads the same configuration and the same sources as in another. -/
structure ReadsSame (host : Host) (options : GenerateOptions) (made : Preparation)
    (tree after : Tree) : Prop where
  config : (Config.load after host.environment options.root).outcome =
    (Config.load tree host.environment options.root).outcome
  folder : after.isFolder? made.source = .ok true
  digests : ∃ digests, (∃ found, discover after made.source = .ok found ∧
      Digest.snapshot after made.source found.units = .ok digests) ∧
    ∀ path, Keyed.get? path digests = Keyed.get? path made.digests

/-- A preparation for another output root is the same one, but for its output root. -/
theorem Prepares.below {host : Host} {options : GenerateOptions} {made : Preparation} {tree : Tree}
    (h : Prepares host options tree made) (out : Option String) :
    Prepares host { options with out := out } tree
      { made with output := made.config.output options.root out } :=
  ⟨h.config, h.source, rfl, h.stateFile, h.folder, h.previous, h.digests, h.fingerprint⟩

/-- A preparation that reads the same configuration in another tree is there the same one, but for
what it finds recorded and the digests of the sources. -/
theorem Prepares.again {host : Host} {options : GenerateOptions} {made : Preparation}
    {tree after : Tree} (h : Prepares host options tree made)
    (hconfig : (Config.load after host.environment options.root).outcome =
      (Config.load tree host.environment options.root).outcome)
    (hfolder : after.isFolder? made.source = .ok true) {previous : Build.State}
    (hprevious : (Build.State.load after made.stateFile).outcome = .ok previous)
    {digests : Keyed String} (hdigests : ∃ found, discover after made.source = .ok found ∧
      Digest.snapshot after made.source found.units = .ok digests) :
    Prepares host { options with incremental := true } after
      { made with previous := previous, digests := digests } := by
  have hloaded := h.config
  rw [← hconfig] at hloaded
  exact ⟨hloaded, h.source, h.output, h.stateFile, hfolder, hprevious, hdigests, h.fingerprint⟩

/-- The last build that was recorded: what it prepared and made in some tree before, as the state file
still tells. -/
structure LastRecord (base : Base) (contents : Set ByteArray) (tree past : Tree) (made : Preparation)
    (markers : List String) (artifacts : List Artifact) : Prop where
  sound : past.IsSound
  here : past.here = base.here
  source : made.source.absolute base.here = base.source
  sources : Sources past made.source made.digests contents
  fingerprint : ∃ sorted,
    made.fingerprint = .object (Build.fingerprintEntries made.config.verify sorted) ∧
      ∀ name, name ∈ sorted ↔ name ∈ markers
  planned : plannedIn made markers past = .ok artifacts
  record : tree.read base.stateFile = .ok (recordOf made artifacts).toUTF8

namespace LastRecord

variable {base : Base} {contents : Set ByteArray} {tree past : Tree} {made : Preparation}
  {markers : List String} {artifacts : List Artifact}

/-- The state file of the last build is loaded as what was recorded. -/
theorem load (h : LastRecord base contents tree past made markers artifacts) {sorted : List String}
    (hfingerprint :
      made.fingerprint = .object (Build.fingerprintEntries made.config.verify sorted)) :
    (Build.State.load tree base.stateFile).outcome =
      .ok (Build.recordedState (indexOf artifacts) made.digests made.config.verify sorted) := by
  have hindex : (Keyed.keys (indexOf artifacts)).Nodup :=
    Keyed.nodup_keys_ascending (by
      simpa [Keyed.keys, Function.comp_def] using
        (Processor.areManifests_of_planned h.planned).1.nodup_path)
  have hdigests := (h.sources.digestsOf h.sound).nodup
  refine congrArg Attempt.outcome (Build.load_of_read (Build.readable_artifactSection hindex 986)
    (Build.readable_sourceSection hdigests 988) (Build.readable_fingerprint _ _ 987) ?_)
  rw [h.record, recordOf, hfingerprint]
  rfl

/-- The paths recorded by the last build are those of its manifests. -/
theorem mem_keys_recorded (h : LastRecord base contents tree past made markers artifacts)
    {verify : Bool} {sorted : List String} {path : String} :
    path ∈ Keyed.keys
        (Build.recordedState (indexOf artifacts) made.digests verify sorted).artifacts ↔
      ∃ artifact ∈ artifacts, path = Manifest.path artifact.interface := by
  rw [Build.recordedState, Build.State.orderedSections, Build.mem_keys_orderedArtifacts]
  exact mem_keys_indexOf (Processor.areManifests_of_planned h.planned).1

variable {host : Host} {options : GenerateOptions} {now : Preparation}

/-- A preparation finds recorded what the last build recorded. -/
theorem exists_previous (h : LastRecord base contents tree past made markers artifacts)
    (hprepares : Prepares host options tree now) (hstate : now.stateFile = base.stateFile) :
    ∃ sorted, now.previous =
        Build.recordedState (indexOf artifacts) made.digests made.config.verify sorted ∧
      made.fingerprint = .object (Build.fingerprintEntries made.config.verify sorted) ∧
        ∀ name, name ∈ sorted ↔ name ∈ markers := by
  obtain ⟨sorted, hfingerprint, hmem⟩ := h.fingerprint
  have hload := hprepares.previous
  rw [hstate, h.load hfingerprint] at hload
  exact ⟨sorted, (Except.ok.inj hload).symm, hfingerprint, hmem⟩

/-- If the manifests of the last build have names that files can have, a preparation finds such names
recorded. -/
theorem recordsNames (h : LastRecord base contents tree past made markers artifacts)
    (hnames : ∀ artifact ∈ artifacts, Path.IsName artifact.interface)
    (hprepares : Prepares host options tree now) (hstate : now.stateFile = base.stateFile) :
    now.RecordsNames := by
  obtain ⟨sorted, hprevious, -⟩ := h.exists_previous hprepares hstate
  intro path hpath
  rw [hprevious, h.mem_keys_recorded] at hpath
  obtain ⟨artifact, hartifact, rfl⟩ := hpath
  exact ⟨_, rfl, hnames artifact hartifact⟩

/-- A build stays the last one that was recorded as long as its record is left alone. -/
theorem congr (h : LastRecord base contents tree past made markers artifacts) {after : Tree}
    (hstate : (after.read base.stateFile).toOption = (tree.read base.stateFile).toOption) :
    LastRecord base contents after past made markers artifacts where
  sound := h.sound
  here := h.here
  source := h.source
  sources := h.sources
  fingerprint := h.fingerprint
  planned := h.planned
  record := by
    rw [h.record] at hstate
    cases hread : after.read base.stateFile with
    | error fault =>
      rw [hread] at hstate
      cases hstate
    | ok bytes =>
      rw [hread] at hstate
      exact congrArg Except.ok (Option.some.inj hstate)

/-- A run that comes to its round and succeeds is the last build that was recorded. -/
theorem of_records (hsound : tree.IsSound) (hhere : tree.here = base.here)
    (hprepares : Prepares host options tree now) (hfits : base.Fits contents tree now)
    (hmarkers : now.config.markerNames options.markers = .ok markers)
    (hplanned : plannedIn now markers tree = .ok artifacts) {after : Tree}
    (h : after.read now.stateFile = .ok (recordOf now artifacts).toUTF8) :
    LastRecord base contents after tree now markers artifacts := by
  obtain ⟨found, sorted, hfound, hfingerprint, hmem⟩ := hprepares.exists_markers hfits
  obtain rfl := Except.ok.inj (hfound.symm.trans hmarkers)
  exact ⟨hsound, hhere, hfits.source, hprepares.sources hfits, ⟨sorted, hfingerprint, hmem⟩,
    hplanned, hfits.stateFile ▸ h⟩

/-- If digests tell contents apart, a preparation with the inputs of the last build makes its
manifests. -/
theorem plannedIn_of_sameInputs (h : LastRecord base contents tree past made markers artifacts)
    (hcontents : Set.InjOn (fun bytes : ByteArray => Digest.sha256 bytes.toList) contents)
    {found : List String} (hsound : tree.IsSound) (hhere : tree.here = base.here)
    (hsource : now.source.absolute base.here = base.source)
    (hsources : Sources tree now.source now.digests contents)
    (hdigests : ∀ path, Keyed.get? path now.digests = Keyed.get? path made.digests)
    (hverify : now.config.verify = made.config.verify) (hmarkers : ∀ name, name ∈ found ↔ name ∈ markers) :
    plannedIn now found tree = .ok artifacts := by
  obtain ⟨occurrences, hresolution, -⟩ := Processor.process_eq_ok h.planned
  obtain ⟨modules, hscan, -⟩ := resolution_eq_ok hresolution
  have hroot : now.source.absolute tree.here = made.source.absolute past.here := by
    rw [hhere, h.here, hsource, h.source]
  have hsame := scan_outcome_of_digests hsound h.sound hsources h.sources hroot hcontents hdigests
    hmarkers hscan
  rw [← h.planned]
  refine Processor.planned_congr ?_ (Scan.resolution_congr (hsame.trans hscan.symm))
  rw [Config.verify_ofHost, Config.verify_ofHost, hverify]

/-- A build that is up to date has the inputs of the last build and would make the same manifests. -/
theorem sameInputs_of_isUpToDate (h : LastRecord base contents tree past made markers artifacts)
    (hcontents : Set.InjOn (fun bytes : ByteArray => Digest.sha256 bytes.toList) contents)
    (hsound : tree.IsSound) (hhere : tree.here = base.here)
    (hprepares : Prepares host options tree now) (hfits : base.Fits contents tree now)
    {plan : Build.Plan} (hplan : planIn now tree = .ok plan) (hdone : plan.isUpToDate = true) :
    now.SameInputs made ∧ ∃ found, now.config.markerNames options.markers = .ok found ∧
      plannedIn now found tree = .ok artifacts := by
  obtain ⟨sorted, hprevious, hfingerprint, hmem⟩ := h.exists_previous hprepares hfits.stateFile
  obtain ⟨found, names, hfound, hnow, hnames⟩ := hprepares.exists_markers hfits
  have hsources := hprepares.sources hfits
  rw [planIn, hprevious, hnow] at hplan
  obtain ⟨hdigests, hverify, rfl, -⟩ := Build.unchanged_of_isUpToDate
    (h.sources.digestsOf h.sound).nodup (hsources.digestsOf hsound).nodup hplan hdone
  refine ⟨⟨hdigests, by rw [hnow, hfingerprint, hverify]⟩, found, hfound, ?_⟩
  exact h.plannedIn_of_sameInputs hcontents hsound hhere hfits.source hsources hdigests hverify.symm
    fun name => (hnames name).symm.trans (hmem name)

/-- A build with the inputs of the last build is up to date exactly if something is found at the path
of each of its manifests below the output root. -/
theorem isUpToDate_iff_of_sameInputs (h : LastRecord base contents tree past made markers artifacts)
    (hprepares : Prepares host options tree now) (hstate : now.stateFile = base.stateFile)
    (hsame : now.SameInputs made) :
    (∃ plan, planIn now tree = .ok plan ∧ plan.isUpToDate = true) ↔ ∀ artifact ∈ artifacts,
      tree.exists? (now.output.join (Path.ofString (Manifest.path artifact.interface))) = .ok true := by
  obtain ⟨sorted, hprevious, hfingerprint, -⟩ := h.exists_previous hprepares hstate
  obtain ⟨found, -, hdigests⟩ := hprepares.digests
  rw [planIn, hprevious, hsame.fingerprint, hfingerprint, Build.isUpToDate_iff_of_unchanged
    (h.sources.digestsOf h.sound).nodup (Digest.digestsOf_snapshot hdigests).nodup hsame.digests]
  simp only [mem_keys_indexOf (Processor.areManifests_of_planned h.planned).1]
  constructor
  · exact fun hfound artifact hartifact => hfound _ ⟨artifact, hartifact, rfl⟩
  · rintro hfound path ⟨artifact, hartifact, rfl⟩
    exact hfound artifact hartifact

/-- After the last build, a preparation that reads the same configuration as in another tree finds
what was recorded: the record of the last build can be loaded. -/
theorem exists_prepares_again (h : LastRecord base contents tree past made markers artifacts)
    {other : Tree} (hprepares : Prepares host options other now)
    (hstate : now.stateFile = base.stateFile)
    (hconfig : (Config.load tree host.environment options.root).outcome =
      (Config.load other host.environment options.root).outcome)
    (hfolder : tree.isFolder? now.source = .ok true) {digests : Keyed String}
    (hdigests : ∃ found, discover tree now.source = .ok found ∧
      Digest.snapshot tree now.source found.units = .ok digests) :
    ∃ previous, Prepares host { options with incremental := true } tree
      { now with previous := previous, digests := digests } := by
  obtain ⟨sorted, hfingerprint, -⟩ := h.fingerprint
  exact ⟨_, hprepares.again hconfig hfolder (hstate ▸ h.load hfingerprint) hdigests⟩

/-- After the last build, a preparation finds what it found in another tree if it reads the same
configuration and the same sources. -/
theorem exists_prepares (h : LastRecord base contents tree past made markers artifacts)
    {other : Tree} (hprepares : Prepares host options other now)
    (hstate : now.stateFile = base.stateFile) (hreads : ReadsSame host options now other tree) :
    ∃ next, Prepares host { options with incremental := true } tree next ∧
      next.output = now.output ∧ next.stateFile = now.stateFile ∧ next.SameInputs now := by
  obtain ⟨digests, hdigests, hsame⟩ := hreads.digests
  obtain ⟨previous, hagain⟩ :=
    h.exists_prepares_again hprepares hstate hreads.config hreads.folder hdigests
  exact ⟨_, hagain, rfl, rfl, hsame, rfl⟩

end LastRecord

/-- The last build of a site: what it made is still there in the folder of manifests and in the state
file. -/
structure LastBuild (site : Site) (contents : Set ByteArray) (tree past : Tree) (made : Preparation)
    (markers : List String) (artifacts : List Artifact) : Prop
    extends LastRecord site.toBase contents tree past made markers artifacts where
  names : ∀ artifact ∈ artifacts, Path.IsName artifact.interface
  usable : ∀ artifact ∈ artifacts,
    Tree.IsUsable ⟨site.output.anchor, site.folder ++ [artifact.interface]⟩
  holds : HoldsManifests tree.file? site.folder artifacts

namespace LastBuild

variable {site : Site} {contents : Set ByteArray} {tree past : Tree} {made : Preparation}
  {markers : List String} {artifacts : List Artifact}

/-- A build stays the last one as long as its manifests and its record are left alone. -/
theorem congr (h : LastBuild site contents tree past made markers artifacts) {after : Tree}
    (hfiles : ∀ rest, after.file? (site.folder ++ rest) = tree.file? (site.folder ++ rest))
    (hstate : (after.read site.stateFile).toOption = (tree.read site.stateFile).toOption) :
    LastBuild site contents after past made markers artifacts where
  toLastRecord := h.toLastRecord.congr hstate
  names := h.names
  usable := h.usable
  holds rest := (hfiles rest).trans (h.holds rest)

variable {host : Host} {options : GenerateOptions} {now : Preparation}

/-- A run that comes to its round and succeeds is the last build, if it leaves nothing but its
manifests in the folder. -/
theorem of_delivers (hsound : tree.IsSound) (hhere : tree.here = site.here)
    (hprepares : Prepares host options tree now)
    (hfits : site.Fits contents options.markers tree now)
    (hmarkers : now.config.markerNames options.markers = .ok markers)
    (hplanned : plannedIn now markers tree = .ok artifacts) {after : Tree}
    (h : Delivers now tree artifacts after)
    (hholds : HoldsManifests after.file? (now.folderIn tree) artifacts) :
    LastBuild site contents after tree now markers artifacts := by
  have houtput : now.output.absolute tree.here = site.output := by rw [hhere, hfits.output]
  have hfolder : now.folderIn tree = site.folder := by
    rw [Preparation.folderIn, houtput, Site.folder]
  exact ⟨.of_records hsound hhere hprepares hfits.toFits hmarkers hplanned h.record,
    hfits.names markers hmarkers artifacts hplanned,
    by simpa only [houtput, hfolder] using h.usable, hfolder ▸ hholds⟩

/-- What a preparation finds recorded is the last build, and nothing else is in the folder. -/
theorem onlyRecorded (h : LastBuild site contents tree past made markers artifacts)
    (hhere : tree.here = site.here) (hprepares : Prepares host options tree now)
    (hfits : site.Fits contents options.markers tree now) : OnlyRecorded now tree := by
  obtain ⟨sorted, hprevious, -⟩ := h.exists_previous hprepares hfits.stateFile
  have hfolder : now.folderIn tree = site.folder := by
    rw [Preparation.folderIn, hhere, hfits.output, Site.folder]
  refine ⟨h.recordsNames h.names hprepares hfits.stateFile, fun rest bytes hbytes => ?_⟩
  rw [hfolder, h.holds rest] at hbytes
  unfold flatFiles at hbytes
  split at hbytes
  · rename_i interface
    refine ⟨interface, rfl, ?_⟩
    rw [hprevious, h.mem_keys_recorded]
    by_contra hnot
    have hnone : contentOf artifacts interface = none := by
      refine contentOf_eq_none_iff.mpr fun artifact hartifact heq => hnot ?_
      exact ⟨artifact, hartifact, by rw [heq]⟩
    rw [hnone] at hbytes
    cases hbytes
  · cases hbytes

/-- The manifests of the last build are found below its output root, however that is given, unless
there is a `..` in its path. -/
theorem exists?_manifest (h : LastBuild site contents tree past made markers artifacts)
    (hsound : tree.IsSound) (hhere : tree.here = site.here) {output : Path}
    (houtput : output.absolute site.here = site.output) (hup : ".." ∉ output.parts)
    {artifact : Artifact} (hartifact : artifact ∈ artifacts) :
    tree.exists? (output.join (Path.ofString (Manifest.path artifact.interface))) = .ok true := by
  have hplace : Manifest.place (output.absolute tree.here) = site.folder := by
    rw [hhere, houtput, Site.folder]
  refine exists?_of_file?_manifest hsound (h.names artifact hartifact) hup ?_
    (?_ : _ = some (Manifest.render artifact.implementers).toUTF8)
  · rw [hplace, hhere, houtput]
    exact h.usable artifact hartifact
  · rw [hplace, h.holds [artifact.interface]]
    exact contentOf_of_mem (Processor.areManifests_of_planned h.planned).1 hartifact

end LastBuild

end ServiceManifest.Command
