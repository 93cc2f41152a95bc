import ServiceManifest.Proofs.Command.Verdict
import ServiceManifest.Proofs.Round.Unaffected

/-!
# What a manifest that is not stale is worth

A plan calls a manifest stale if one of its own sources is changed or removed, or if any source is
new or changed. So when a manifest is not stale, other sources were removed at most. A round then
makes it again as it was, unless the removal reaches further: a removed source may have been on the
way from an interface expression to the interface, or it may have hidden another source of the same
module.
-/

namespace ServiceManifest.Command

open Disk Project

section Stale

variable {base : Base} {contents : Set ByteArray} {host : Host} {options : GenerateOptions}
  {tree past : Tree} {made now : Preparation} {markers : List String} {artifacts : List Artifact}

/-- The manifests of a round depend on their sources and aggregate. -/
theorem aggregating_of_planned (h : plannedIn made markers tree = .ok artifacts)
    {artifact : Artifact} (hartifact : artifact ∈ artifacts) :
    artifact.dependencies.aggregating = true := by
  obtain ⟨-, grouping, -, rfl, -⟩ := (Processor.exists_grouping_of_process h).2
  obtain ⟨interface, -, rfl⟩ := List.mem_map.mp hartifact
  rfl

/-- What a plan finds after the last build: how the sources compare, and which of its manifests are
stale if the options are the same. -/
theorem LastRecord.compares_of_plan (h : LastRecord base contents tree past made markers artifacts)
    (hsound : tree.IsSound) (hprepares : Prepares host options tree now)
    (hfits : base.Fits contents tree now) {plan : Build.Plan} (hplan : planIn now tree = .ok plan) :
    plan.Compares made.digests now.digests ∧ ∀ path, path ∈ plan.stale ↔
      ∃ artifact ∈ artifacts, artifact.path = path ∧ (now.fingerprint ≠ made.fingerprint ∨
        (∃ source ∈ artifact.dependencies.sources,
          source.path ∈ plan.changed ∨ source.path ∈ plan.removed) ∨
        plan.added ≠ [] ∨ plan.changed ≠ []) := by
  obtain ⟨sorted, hprevious, hfingerprint, -⟩ := h.exists_previous hprepares hfits.stateFile
  obtain ⟨found, names, -, hnow, -⟩ := hprepares.exists_markers hfits
  rw [planIn, hprevious, hnow] at hplan
  obtain ⟨hcompares, hstale⟩ := Build.compares_of_plan (h.sources.digestsOf h.sound).nodup
    ((hprepares.sources hfits).digestsOf hsound).nodup hplan
  refine ⟨hcompares, fun path => (hstale path).trans ?_⟩
  have hentry (entry : String × IndexEntry) : entry ∈ indexOf artifacts ↔
      ∃ artifact ∈ artifacts, entry = (artifact.path, artifact.dependencies.toIndexEntry) := by
    rw [indexOf, (Keyed.ascending_perm _).mem_iff, List.mem_map]
    simp only [eq_comm]
  have hoptions : ¬(made.config.verify = now.config.verify ∧ sorted = names) ↔
      now.fingerprint ≠ made.fingerprint := by
    rw [hnow, hfingerprint, ne_comm, Ne, Json.Value.object.injEq, Build.fingerprintEntries_inj]
  rw [hoptions]
  constructor
  · rintro ⟨entry, hmem, rfl, hwhy⟩
    obtain ⟨artifact, hartifact, rfl⟩ := (hentry entry).mp hmem
    refine ⟨artifact, hartifact, rfl, hwhy.imp_right (Or.imp ?_ And.right)⟩
    simp [Dependencies.toIndexEntry]
  · rintro ⟨artifact, hartifact, rfl, hwhy⟩
    refine ⟨_, (hentry _).mpr ⟨artifact, hartifact, rfl⟩, rfl, hwhy.imp_right (Or.imp ?_ ?_)⟩
    · simp [Dependencies.toIndexEntry]
    · exact fun hany => ⟨aggregating_of_planned h.planned hartifact, hany⟩

/-- If a manifest of the last build is not stale, the options are the same and no source is new or
changed; at most, sources that are not its own were removed. -/
theorem LastRecord.unchanged_of_not_stale
    (h : LastRecord base contents tree past made markers artifacts) (hsound : tree.IsSound)
    (hprepares : Prepares host options tree now) (hfits : base.Fits contents tree now)
    {plan : Build.Plan} (hplan : planIn now tree = .ok plan) {artifact : Artifact}
    (hartifact : artifact ∈ artifacts) (hstale : artifact.path ∉ plan.stale) :
    now.fingerprint = made.fingerprint ∧ plan.changed = [] ∧ plan.added = [] ∧
      ∀ source ∈ artifact.dependencies.sources, source.path ∉ plan.removed := by
  have hnot := (h.compares_of_plan hsound hprepares hfits hplan).2 artifact.path |>.not.mp hstale
  simp only [not_exists, not_and, not_or, not_not] at hnot
  obtain ⟨hoptions, hsources, hadded, hchanged⟩ := hnot artifact hartifact rfl
  exact ⟨hoptions, hchanged, hadded, fun source hsource => (hsources source hsource).2⟩

/-- A manifest of the last build that is not stale is made again as it was by a round that succeeds,
if no unit is kept that was passed over before and the modules that interface expressions lead
through are still there. -/
theorem LastRecord.mem_plannedIn_of_not_stale
    (h : LastRecord base contents tree past made markers artifacts)
    (hcontents : Set.InjOn (fun bytes : ByteArray => Digest.sha256 bytes.toList) contents)
    (hsound : tree.IsSound) (hhere : tree.here = base.here)
    (hprepares : Prepares host options tree now) (hfits : base.Fits contents tree now)
    {plan : Build.Plan} (hplan : planIn now tree = .ok plan) {artifact : Artifact}
    (hartifact : artifact ∈ artifacts) (hstale : artifact.path ∉ plan.stale)
    {found : List String} (hfound : now.config.markerNames options.markers = .ok found)
    {modules remaining : Modules} (hscan : (scan past made.source markers).outcome = .ok modules)
    (hscanNow : (scan tree now.source found).outcome = .ok remaining)
    (hunits : ∀ unit ∈ remaining.units, unit ∈ modules.units)
    (hwalks : modules.KeepsWalks remaining) {others : List Artifact}
    (hplanned : plannedIn now found tree = .ok others) : artifact ∈ others := by
  obtain ⟨hfingerprint, hchanged, hadded, hremoved⟩ :=
    h.unchanged_of_not_stale hsound hprepares hfits hplan hartifact hstale
  obtain ⟨hcompares, -⟩ := h.compares_of_plan hsound hprepares hfits hplan
  -- the options are the same
  obtain ⟨sorted, hmade, hmem⟩ := h.fingerprint
  obtain ⟨same, names, hsame, hnow, hmemNow⟩ := hprepares.exists_markers hfits
  obtain rfl := Except.ok.inj (hsame.symm.trans hfound)
  rw [hmade, hnow, Json.Value.object.injEq, Build.fingerprintEntries_inj] at hfingerprint
  obtain ⟨hverify, rfl⟩ := hfingerprint
  have hmarkers : ∀ name, name ∈ same ↔ name ∈ markers := fun name =>
    (hmemNow name).symm.trans (hmem name)
  -- no source is new or changed
  have hless : ∀ path digest, Keyed.get? path now.digests = some digest →
      Keyed.get? path made.digests = some digest := by
    intro path digest hdigest
    have hkey : path ∈ Keyed.keys now.digests :=
      Keyed.get?_isSome_iff.mp (by rw [hdigest]; rfl)
    have hknown : path ∈ Keyed.keys made.digests := by
      by_contra hnot
      exact List.not_mem_nil (hadded ▸ (hcompares.added path).mpr ⟨hkey, hnot⟩)
    obtain ⟨old, hold⟩ := Option.isSome_iff_exists.mp (Keyed.get?_isSome_iff.mpr hknown)
    rw [hold]
    by_contra hne
    exact List.not_mem_nil (hchanged ▸ (hcompares.changed path).mpr ⟨digest, old, hdigest, hold,
      fun heq => hne (congrArg some heq.symm)⟩)
  have hroot : now.source.absolute tree.here = made.source.absolute past.here := by
    rw [hhere, h.here, hfits.source, h.source]
  rw [scan_outcome_congr hmarkers] at hscanNow
  obtain ⟨sources, kept, rfl, rfl, hremain, hstill⟩ := exists_remain hsound h.sound
    (hprepares.sources hfits) h.sources hroot hcontents hless hscanNow hscan hunits
  refine mem_planned_of_remain hremain hwalks hscan hscanNow h.planned ?_ hartifact
    fun source hsource hunit => ?_
  · rw [← hplanned]
    refine Processor.planned_congr ?_ (Scan.resolution_congr (scan_outcome_congr hmarkers).symm)
    rw [Config.verify_ofHost, Config.verify_ofHost, hverify]
  · obtain ⟨hknown, hremains⟩ := hstill source hsource
    refine hremains ?_
    by_contra hnot
    exact hremoved source.unit hunit ((hcompares.removed _).mpr ⟨hknown, hnot⟩)

/-- After sources were removed that no manifest of the last build has, and none was changed, a plan
finds nothing stale; and where the manifests are, it finds none missing. -/
theorem LastRecord.exists_plan_of_removed
    (h : LastRecord base contents tree past made markers artifacts) (hsound : tree.IsSound)
    (hprepares : Prepares host options tree now) (hfits : base.Fits contents tree now)
    (hfingerprint : now.fingerprint = made.fingerprint)
    (hless : ∀ path ∈ Keyed.keys now.digests,
      Keyed.get? path now.digests = Keyed.get? path made.digests)
    (hstill : ∀ artifact ∈ artifacts, ∀ source ∈ artifact.dependencies.sources,
      source.path ∈ Keyed.keys now.digests)
    (hfound : ∀ artifact ∈ artifacts,
      tree.exists? (now.output.join (Path.ofString (Manifest.path artifact.interface))) = .ok true) :
    ∃ plan, planIn now tree = .ok plan ∧ plan.stale = [] ∧ plan.missing = [] := by
  obtain ⟨sorted, hprevious, hmade, -⟩ := h.exists_previous hprepares hfits.stateFile
  have hplan : ∃ plan, planIn now tree = .ok plan ∧ plan.missing = [] := by
    rw [planIn, hprevious, hfingerprint, hmade]
    refine Build.exists_plan fun path hpath => ?_
    obtain ⟨artifact, hartifact, rfl⟩ :=
      (mem_keys_indexOf (Processor.areManifests_of_planned h.planned).1).mp hpath
    exact hfound artifact hartifact
  obtain ⟨plan, hplan, hmissing⟩ := hplan
  obtain ⟨hcompares, hstale⟩ := h.compares_of_plan hsound hprepares hfits hplan
  have hchanged (path : String) : path ∉ plan.changed := by
    rw [hcompares.changed]
    rintro ⟨digest, old, hdigest, hold, hne⟩
    have hsame := hless path (Keyed.get?_isSome_iff.mp (by rw [hdigest]; rfl))
    rw [hdigest, hold] at hsame
    exact hne (Option.some.inj hsame)
  have hadded (path : String) : path ∉ plan.added := by
    rw [hcompares.added]
    rintro ⟨hkey, hnew⟩
    have hsame := hless path hkey
    rw [← Keyed.get?_isSome_iff, hsame, Keyed.get?_isSome_iff] at hkey
    exact hnew hkey
  refine ⟨plan, hplan, List.eq_nil_iff_forall_not_mem.mpr fun path hpath => ?_, hmissing⟩
  obtain ⟨artifact, hartifact, -, hwhy⟩ := (hstale path).mp hpath
  rcases hwhy with hoptions | ⟨source, hsource, hmoved⟩ | hany
  · exact hoptions hfingerprint
  · rcases hmoved with hmoved | hmoved
    · exact hchanged _ hmoved
    · exact ((hcompares.removed _).mp hmoved).2 (hstill artifact hartifact source hsource)
  · rcases hany with hany | hany
    · exact hany (List.eq_nil_iff_forall_not_mem.mpr hadded)
    · exact hany (List.eq_nil_iff_forall_not_mem.mpr hchanged)

/-- A run that comes to its round and succeeds is recorded as the last build. -/
theorem LastRecord.of_begins {session built : Session} (hsound : session.tree.IsSound)
    (hhere : session.tree.here = base.here)
    (hbegins : Begins host options session.tree made markers)
    (hfits : base.Fits contents session.tree made)
    (hrun : (writeManifests host options).run session = (.ok (), built)) :
    ∃ artifacts, LastRecord base contents built.tree session.tree made markers artifacts := by
  have hround := runsRound_of_begins hbegins hrun
  obtain ⟨artifacts, -, hplanned, -⟩ := writesAll_of_runsRound hround
  obtain ⟨-, -, -, -, -, -, hrecord, -⟩ := exists_cleared_of_runsRound hsound hplanned hround
  exact ⟨artifacts, .of_records hsound hhere hbegins.prepares hfits hbegins.markers hplanned hrecord⟩

end Stale

/-- After a build that made its manifests and recorded them, a manifest that a plan does not call
stale, missing or not, has all its sources unchanged, and no source is new or changed. A round that
succeeds then makes the same manifest again, if it keeps no unit that the build had passed over and
if the modules that the interface expressions of the remaining marked classes led through in the
build are all still there. -/
theorem unstale_manifest_is_made_again {base : Base} {contents : Set ByteArray}
    (hcontents : Set.InjOn (fun bytes : ByteArray => Digest.sha256 bytes.toList) contents)
    {host : Host} {options : GenerateOptions} {session built : Session} {made : Preparation}
    {markers : List String} (hsound : session.tree.IsSound) (hhere : session.tree.here = base.here)
    (hbegins : Begins host options session.tree made markers)
    (hfits : base.Fits contents session.tree made)
    (hrun : (writeManifests host options).run session = (.ok (), built))
    {hostNow : Host} {optionsNow : GenerateOptions} {tree : Tree} {now : Preparation}
    (hsoundNow : tree.IsSound) (hhereNow : tree.here = base.here)
    (hstate : (tree.read base.stateFile).toOption = (built.tree.read base.stateFile).toOption)
    (hprepares : Prepares hostNow optionsNow tree now) (hfitsNow : base.Fits contents tree now)
    {plan : Build.Plan} (hplan : planIn now tree = .ok plan) :
    ∃ artifacts, plannedIn made markers session.tree = .ok artifacts ∧
      (∀ path, path ∈ Keyed.keys now.previous.artifacts ↔
        ∃ artifact ∈ artifacts, artifact.path = path) ∧
      ∀ artifact ∈ artifacts, artifact.path ∉ plan.stale →
        (now.fingerprint = made.fingerprint ∧ plan.changed = [] ∧ plan.added = [] ∧
          ∀ source ∈ artifact.dependencies.sources, source.path ∉ plan.removed) ∧
        ∀ names modules remaining others, now.config.markerNames optionsNow.markers = .ok names →
          (scan session.tree made.source markers).outcome = .ok modules →
          (scan tree now.source names).outcome = .ok remaining →
          (∀ unit ∈ remaining.units, unit ∈ modules.units) → modules.KeepsWalks remaining →
          plannedIn now names tree = .ok others → artifact ∈ others := by
  obtain ⟨artifacts, hlast⟩ := LastRecord.of_begins hsound hhere hbegins hfits hrun
  have hlater := hlast.congr hstate
  refine ⟨artifacts, hlater.planned, fun path => ?_, fun artifact hartifact hstale =>
    ⟨hlater.unchanged_of_not_stale hsoundNow hprepares hfitsNow hplan hartifact hstale, ?_⟩⟩
  · obtain ⟨sorted, hprevious, -⟩ := hlater.exists_previous hprepares hfitsNow.stateFile
    rw [hprevious, hlater.mem_keys_recorded]
    have hpath := (Processor.areManifests_of_planned hlater.planned).1.path
    exact exists_congr fun artifact => and_congr_right fun hartifact => by
      rw [hpath artifact hartifact, eq_comm]
  · intro names modules remaining others hnames hscan hscanNow hunits hwalks hplanned
    exact hlater.mem_plannedIn_of_not_stale hcontents hsoundNow hhereNow hprepares hfitsNow hplan
      hartifact hstale hnames hscan hscanNow hunits hwalks hplanned

/-- The sources of a project in which an interface is imported from a module that has imported it
itself, each with its content. -/
def passedOn : List (String × ByteArray) :=
  [("base.py", "class I: pass\n".toUTF8), ("api.py", "from base import I\n".toUTF8),
    ("a.py", "from autoservice import auto_service\nfrom api import I\n@auto_service(I)\nclass A: pass\n".toUTF8),
    ("extra.py", "class E: pass\n".toUTF8)]

/-- The contents of its sources. -/
def passedOnContents : Set ByteArray := {bytes | ∃ source ∈ passedOn, source.2 = bytes}

instance : DecidablePred (· ∈ passedOnContents) := fun bytes =>
  decidable_of_iff (∃ source ∈ passedOn, source.2.data = bytes.data)
    (by simp [passedOnContents, ByteArray.ext_iff])

/-- The project. -/
def passedOnProject : Tree :=
  ⟨(["src"], .folder) :: passedOn.map fun source => (["src", source.1], .file source.2), []⟩

/-- Where the project is built. -/
def passedOnHost : Host := ⟨passedOnProject, [], ⟨0, 0, 0, ""⟩, "", ""⟩

/-- The build of the project. -/
def passedOnBuild : Except Stop Unit × Session :=
  (writeManifests passedOnHost freshOptions).run ⟨passedOnProject, [], ""⟩

/-- What the build of the project records. -/
def passedOnRecord : ByteArray := (passedOnBuild.2.tree.read freshSite.stateFile).toOption.getD .empty

/-- The project with a manifest and a record, and without one of its sources. -/
def passedOnWithout (name : String) (record : ByteArray) : Tree where
  entries := (["src"], .folder) :: (passedOn.filter (·.1 ≠ name)).map (fun source =>
      (["src", source.1], .file source.2)) ++
    [(["out"], .folder), (["out", "META-INF"], .folder), (["out", "META-INF", "services"], .folder),
      (["out", "META-INF", "services", "base.I"], .file "a.A\n".toUTF8), ([".autoservice"], .folder),
      ([".autoservice", "state.json"], .file record)]
  here := []

/-- The project after its build and after a source was removed. -/
def withoutSource (name : String) : Tree := passedOnWithout name passedOnRecord

/-- The build of the project succeeds and makes one manifest, with one source. -/
theorem exists_passedOn : ∃ made, preparedIn passedOnHost freshOptions passedOnProject = .ok made ∧
    passedOnBuild.1.toOption = some () ∧
    (passedOnBuild.2.tree.read freshSite.stateFile).toOption.isSome ∧
    freshSite.toBase.Fits passedOnContents passedOnProject made ∧ made.output.hasNul = false ∧
    made.config.markerNames [] = .ok defaultMarkers ∧
      ∃ artifacts, plannedIn made defaultMarkers passedOnProject = .ok artifacts ∧
        artifacts.map (fun artifact => (artifact.interface, artifact.implementers,
          artifact.dependencies.sources.map (·.path))) = [("base.I", ["a.A"], ["a.py"])] := by
  decide +kernel

/-- After its build and the removal of a source that is not that of its manifest, the project has
everything else as it was. -/
theorem withoutSource_keeps (made : Preparation)
    (h : preparedIn passedOnHost freshOptions passedOnProject = .ok made) :
    ∀ name ∈ ["api.py", "extra.py"], (withoutSource name).IsSound ∧
      ((withoutSource name).exists? ((Config.homeOf passedOnHost.environment ".").join
        (Path.ofString "config.json"))).toOption = some false ∧
      ((withoutSource name).exists? (made.output.join
        (Path.ofString (Manifest.path "base.I")))).toOption = some true ∧
      ((withoutSource name).isFolder? made.source).toOption = some true ∧
      ∃ found, discover (withoutSource name) made.source = .ok found ∧
        ∃ digests, Digest.snapshot (withoutSource name) made.source found.units = .ok digests ∧
          "a.py" ∈ Keyed.keys digests ∧ ∀ path ∈ Keyed.keys digests,
            Keyed.get? path digests = Keyed.get? path made.digests ∧ ∀ bytes,
              (withoutSource name).read (made.source.join (Path.ofString path)) = .ok bytes →
                bytes ∈ passedOnContents := by
  revert made
  decide +kernel

/-- The build of the project, and what a preparation finds after one of the sources was removed: the
manifest is neither stale nor missing. -/
theorem exists_plan_withoutSource (name : String) (hname : name ∈ ["api.py", "extra.py"]) :
    ∃ made artifact now plan,
      preparedIn passedOnHost freshOptions passedOnProject = .ok made ∧
      Begins passedOnHost freshOptions passedOnProject made defaultMarkers ∧
      freshSite.toBase.Fits passedOnContents passedOnProject made ∧
      passedOnBuild.1 = .ok () ∧
      plannedIn made defaultMarkers passedOnProject = .ok [artifact] ∧
      artifact.interface = "base.I" ∧
      (withoutSource name).IsSound ∧
      (withoutSource name).read freshSite.stateFile = passedOnBuild.2.tree.read freshSite.stateFile ∧
      Prepares passedOnHost { freshOptions with incremental := true } (withoutSource name) now ∧
      freshSite.toBase.Fits passedOnContents (withoutSource name) now ∧
      now.config = made.config ∧ now.source = made.source ∧
      planIn now (withoutSource name) = .ok plan ∧ plan.stale = [] ∧ plan.missing = [] := by
  obtain ⟨made, hmade, hdone, hrecord, hfits, hnul, hmarkers, artifacts, hplanned, hartifacts⟩ :=
    exists_passedOn
  obtain ⟨artifact, rfl, hartifact⟩ := List.map_eq_singleton_iff.mp hartifacts
  simp only [Prod.mk.injEq] at hartifact
  obtain ⟨hinterface, -, hpaths⟩ := hartifact
  obtain ⟨hsound, hconfig, hfound, hfolder, found, hdiscovered, digests, hdigests, hown, hsame⟩ :=
    withoutSource_keeps made hmade name hname
  have hprepares := preparedIn_eq_ok_iff.mp hmade
  have hbegins : Begins passedOnHost freshOptions passedOnProject made defaultMarkers :=
    ⟨hprepares, nofun, hmarkers, hnul⟩
  have hrun : (writeManifests passedOnHost freshOptions).run ⟨passedOnProject, [], ""⟩ =
      (.ok (), passedOnBuild.2) := eq_mk_of_fst passedOnBuild (eq_ok_of_toOption hdone)
  have hread : (withoutSource name).read freshSite.stateFile =
      passedOnBuild.2.tree.read freshSite.stateFile := by
    obtain ⟨record, hrecord⟩ := Option.isSome_iff_exists.mp hrecord
    have hkept (record : ByteArray) : ∀ name ∈ ["api.py", "extra.py"],
        (passedOnWithout name record).read freshSite.stateFile = .ok record := by
      simp only [List.forall_mem_cons, List.not_mem_nil, false_implies, implies_true, and_true]
      exact ⟨rfl, rfl⟩
    rw [withoutSource, hkept passedOnRecord name hname, passedOnRecord, hrecord,
      eq_ok_of_toOption hrecord]
    rfl
  have hstart : (Session.mk passedOnProject [] "").tree.IsSound := by decide +kernel
  obtain ⟨others, hlast⟩ := LastRecord.of_begins hstart rfl hbegins hfits hrun
  obtain rfl := Except.ok.inj (hlast.planned.symm.trans hplanned)
  have hlater := hlast.congr (congrArg Except.toOption hread)
  have hreads : (Config.load (withoutSource name) passedOnHost.environment ".").outcome =
      (Config.load passedOnProject passedOnHost.environment ".").outcome := by
    rw [Config.load_of_absent (eq_ok_of_toOption hconfig), Config.load_of_absent rfl]
  obtain ⟨previous, hnow⟩ := hlater.exists_prepares_again hprepares hfits.stateFile hreads
    (eq_ok_of_toOption hfolder) ⟨found, hdiscovered, hdigests⟩
  have hnowFits : freshSite.toBase.Fits passedOnContents (withoutSource name)
      { made with previous := previous, digests := digests } :=
    ⟨hfits.source, hfits.stateFile, hfits.texts, fun path hpath => (hsame path hpath).2⟩
  obtain ⟨plan, hplan, hstale, hmissing⟩ := hlater.exists_plan_of_removed hsound hnow hnowFits rfl
    (fun path hpath => (hsame path hpath).1)
    (by
      simp only [List.forall_mem_singleton]
      intro source hsource
      have hpath := List.mem_map_of_mem (f := (·.path)) hsource
      rw [hpaths, List.mem_singleton] at hpath
      rwa [hpath])
    (by
      simp only [List.forall_mem_singleton, hinterface]
      exact eq_ok_of_toOption hfound)
  exact ⟨made, artifact, _, plan, hmade, hbegins, hfits, eq_ok_of_toOption hdone, hplanned,
    hinterface, hsound, hread, hnow, hnowFits, rfl, rfl, hplan, hstale, hmissing⟩

/-- Without the module that the interface is imported from, nothing is stale or missing, but a round
makes no manifest at the path of the recorded one: the provider now provides a name in the module
that is gone. -/
theorem removal_renames_interface : ∃ made artifact now plan others,
    Prepares passedOnHost freshOptions passedOnProject made ∧ passedOnBuild.1 = .ok () ∧
      plannedIn made defaultMarkers passedOnProject = .ok [artifact] ∧
      (withoutSource "api.py").read freshSite.stateFile =
        passedOnBuild.2.tree.read freshSite.stateFile ∧
      Prepares passedOnHost { freshOptions with incremental := true } (withoutSource "api.py") now ∧
      planIn now (withoutSource "api.py") = .ok plan ∧
      artifact.path ∉ plan.stale ∧ artifact.path ∉ plan.missing ∧
      plannedIn now defaultMarkers (withoutSource "api.py") = .ok others ∧
      others.map (fun other => (other.interface, other.implementers)) = [("api.I", ["a.A"])] ∧
      artifact ∉ others := by
  obtain ⟨made, artifact, now, plan, hmade, hbegins, -, hdone, hplanned, hinterface, -, hread, hnow, -,
    hconfig, hsource, hplan, hstale, hmissing⟩ := exists_plan_withoutSource "api.py" (by simp)
  have hround : ∀ made, preparedIn passedOnHost freshOptions passedOnProject = .ok made →
      ∃ others, plannedIn made defaultMarkers (withoutSource "api.py") = .ok others ∧
        others.map (fun other => (other.interface, other.implementers)) = [("api.I", ["a.A"])] := by
    decide +kernel
  obtain ⟨others, hothers, hnames⟩ := hround made hmade
  have hsame : plannedIn now defaultMarkers (withoutSource "api.py") =
      plannedIn made defaultMarkers (withoutSource "api.py") := by
    rw [plannedIn, plannedIn, hconfig, hsource]
  refine ⟨made, artifact, now, plan, others, hbegins.prepares, hdone, hplanned, hread, hnow, hplan,
    by simp [hstale], by simp [hmissing], hsame.trans hothers, hnames, fun hmem => ?_⟩
  have hpair := List.mem_map_of_mem (f := fun other : Artifact =>
    (other.interface, other.implementers)) hmem
  rw [hnames, List.mem_singleton, hinterface, Prod.mk.injEq] at hpair
  exact absurd hpair.1 (by decide)

/-- Without a module that nothing leads through, the manifest is not stale, and a round makes it
again. -/
theorem removal_keeps_manifest : ∃ made artifact now plan modules remaining others,
    plannedIn made defaultMarkers passedOnProject = .ok [artifact] ∧
      (scan passedOnProject made.source defaultMarkers).outcome = .ok modules ∧
      "extra" ∈ Keyed.keys modules ∧
      Prepares passedOnHost { freshOptions with incremental := true } (withoutSource "extra.py") now ∧
      planIn now (withoutSource "extra.py") = .ok plan ∧ artifact.path ∉ plan.stale ∧
      (scan (withoutSource "extra.py") now.source defaultMarkers).outcome = .ok remaining ∧
      "extra" ∉ Keyed.keys remaining ∧
      plannedIn now defaultMarkers (withoutSource "extra.py") = .ok others ∧ artifact ∈ others := by
  obtain ⟨made, artifact, now, plan, hmade, hbegins, hfits, hdone, hplanned, -, hsound, hread, hnow,
    hnowFits, hconfig, hsource, hplan, hstale, -⟩ :=
    exists_plan_withoutSource "extra.py" (by simp)
  have hround : ∀ made, preparedIn passedOnHost freshOptions passedOnProject = .ok made →
      ∃ modules, (scan passedOnProject made.source defaultMarkers).outcome = .ok modules ∧
        "extra" ∈ Keyed.keys modules ∧
        ∃ remaining, (scan (withoutSource "extra.py") made.source defaultMarkers).outcome =
            .ok remaining ∧ "extra" ∉ Keyed.keys remaining ∧
          (∀ unit ∈ remaining.units, unit ∈ modules.units) ∧ modules.KeepsWalks remaining ∧
            (plannedIn made defaultMarkers (withoutSource "extra.py")).toOption.isSome := by
    decide +kernel
  obtain ⟨modules, hmodules, hextra, remaining, hremaining, hgone, hunits, hwalks, hothers⟩ :=
    hround made hmade
  obtain ⟨others, hothers⟩ := Option.isSome_iff_exists.mp hothers
  have hround : plannedIn now defaultMarkers (withoutSource "extra.py") = .ok others := by
    rw [← eq_ok_of_toOption hothers, plannedIn, plannedIn, hconfig, hsource]
  have hcontents : Set.InjOn (fun bytes : ByteArray => Digest.sha256 bytes.toList)
      passedOnContents := by
    have hdistinct : ∀ source ∈ passedOn, ∀ other ∈ passedOn,
        Digest.sha256 source.2.toList = Digest.sha256 other.2.toList → source.2 = other.2 := by
      decide +kernel
    intro bytes hbytes other hother hdigest
    obtain ⟨source, hsource, rfl⟩ : ∃ source ∈ passedOn, source.2 = bytes := by
      simpa [passedOnContents] using hbytes
    obtain ⟨next, hnext, rfl⟩ : ∃ source ∈ passedOn, source.2 = other := by
      simpa [passedOnContents] using hother
    exact hdistinct source hsource next hnext hdigest
  have hmarkers : now.config.markerNames [] = .ok defaultMarkers := hconfig ▸ hbegins.markers
  have hscan : (scan (withoutSource "extra.py") now.source defaultMarkers).outcome = .ok remaining :=
    hsource ▸ hremaining
  have hrun : (writeManifests passedOnHost freshOptions).run ⟨passedOnProject, [], ""⟩ =
      (.ok (), passedOnBuild.2) := eq_mk_of_fst passedOnBuild hdone
  have hstart : (Session.mk passedOnProject [] "").tree.IsSound := by decide +kernel
  obtain ⟨artifacts, hmadeAgain, -, hmanifests⟩ := unstale_manifest_is_made_again hcontents hstart rfl
    hbegins hfits hrun hsound rfl (congrArg Except.toOption hread) hnow hnowFits hplan
  obtain rfl := Except.ok.inj (hmadeAgain.symm.trans hplanned)
  obtain ⟨-, hagain⟩ := hmanifests artifact List.mem_cons_self (by simp [hstale])
  exact ⟨made, artifact, now, plan, modules, remaining, others, hplanned, hmodules, hextra, hnow, hplan,
    by simp [hstale], hscan, hgone, hround,
    hagain _ _ _ _ hmarkers hmodules hscan hunits hwalks hround⟩

end ServiceManifest.Command
