import ServiceManifest.Proofs.Command.LastBuild
import ServiceManifest.Proofs.Result

/-!
# Incremental builds make what full builds make

A project is edited and built in any order, with any options, incrementally or not. Nobody but the
builds touches the folder of manifests and the state file, and a build that fails does so before it
writes anything. Then either there was no build yet or the last one is known from the state file, and
after every build that succeeds, be it only because it finds nothing to do, the folder holds exactly
what a round in memory over the sources of now makes.
-/

namespace ServiceManifest.Command

open Disk Project

/-- A run that comes to writing manifests: the round in memory succeeds. -/
def Emits (host : Host) (options : GenerateOptions) (tree : Tree) : Prop :=
  ∃ made markers artifacts, Begins host options tree made markers ∧
    plannedIn made markers tree = .ok artifacts

/-- A run that does not come to writing manifests leaves everything as it was. -/
theorem tree_eq_of_not_emits {host : Host} {options : GenerateOptions} {session : Session}
    (h : ¬Emits host options session.tree) :
    ((writeManifests host options).run session).2.tree = session.tree := by
  rcases writeManifests_run host options session with
    ⟨_, -, htree, -⟩ | ⟨made, -, hdone⟩ | ⟨made, markers, hbegins, last, hlast, hrun⟩
  · exact htree
  · exact hdone.succeeds.2
  · rcases Processor.process_start (ProcessorOptions.ofHost made.config.hostOptions)
        FolderStore.artifactStore (.ofRoot made.output session.tree)
        (scan session.tree made.source markers).resolution with
      ⟨failure, -, houtcome, hstate⟩ | ⟨artifacts, hplanned, -⟩
    · rw [roundInto, houtcome] at hrun
      rw [hrun, hlast, roundInto, hstate]
      rfl
    · exact absurd ⟨made, markers, artifacts, hbegins, hplanned⟩ h

/-- The trees that a project comes to. It starts without manifests and without a state file. Edits
may change anything but the files in the folder of manifests and what the state file holds. Runs may
have any options that fit the site, and a run that fails must not have come to writing manifests. -/
inductive History (site : Site) (contents : Set ByteArray) : Tree → Prop
  | start {tree : Tree} (hsound : tree.IsSound) (hhere : tree.here = site.here)
      (hfiles : ∀ rest, tree.file? (site.folder ++ rest) = none)
      (hstate : ∃ fault, tree.read site.stateFile = .error fault) : History site contents tree
  | edit {tree after : Tree} (hbefore : History site contents tree) (hsound : after.IsSound)
      (hhere : after.here = site.here)
      (hfiles : ∀ rest, after.file? (site.folder ++ rest) = tree.file? (site.folder ++ rest))
      (hstate : (after.read site.stateFile).toOption = (tree.read site.stateFile).toOption) :
      History site contents after
  | run {session after : Session} {result : Except Stop Unit} (host : Host)
      (options : GenerateOptions) (hbefore : History site contents session.tree)
      (hadmits : site.Admits contents host options session.tree)
      (hrun : (writeManifests host options).run session = (result, after))
      (hresult : result = .ok () ∨ ¬Emits host options session.tree) :
      History site contents after.tree

/-- What is known of a site: there was no build yet, or the last one is recorded. -/
inductive Known (site : Site) (contents : Set ByteArray) (tree : Tree) : Prop
  | never (hfiles : ∀ rest, tree.file? (site.folder ++ rest) = none)
      (hstate : ∃ fault, tree.read site.stateFile = .error fault)
  | built {past : Tree} {made : Preparation} {markers : List String} {artifacts : List Artifact}
      (h : LastBuild site contents tree past made markers artifacts)

section Step

variable {site : Site} {contents : Set ByteArray} {tree : Tree} {host : Host}
  {options : GenerateOptions} {made : Preparation}

/-- What a preparation finds recorded is all that is in the folder of manifests. -/
theorem Known.onlyRecorded (h : Known site contents tree) (hhere : tree.here = site.here)
    (hprepares : Prepares host options tree made)
    (hfits : site.Fits contents options.markers tree made) : OnlyRecorded made tree := by
  cases h with
  | never hfiles hstate =>
    obtain ⟨fault, hread⟩ := hstate
    rw [← hfits.stateFile] at hread
    have hprevious := Build.load_of_unreadable hread hprepares.previous
    have hfolder : made.folderIn tree = site.folder := by
      rw [Preparation.folderIn, hhere, hfits.output, Site.folder]
    refine ⟨?_, fun rest bytes hbytes => ?_⟩
    · rw [Preparation.RecordsNames, hprevious]
      exact fun _ hmem => absurd hmem List.not_mem_nil
    · rw [hfolder, hfiles rest] at hbytes
      cases hbytes
  | built h => exact h.onlyRecorded hhere hprepares hfits

end Step

/-- Where a project stands: its tree is sound, and what is known of it is all that there is. -/
structure Stands (site : Site) (contents : Set ByteArray) (tree : Tree) : Prop where
  sound : tree.IsSound
  here : tree.here = site.here
  known : Known site contents tree

/-- What a run that succeeds does: it makes the manifests of the round in memory, unless they are
those of the last build already, which has the same inputs then. -/
structure Builds (site : Site) (contents : Set ByteArray) (host : Host) (options : GenerateOptions)
    (tree after : Tree) (made : Preparation) (markers : List String) (artifacts : List Artifact) :
    Prop where
  prepares : Prepares host options tree made
  named : made.config.markerNames options.markers = .ok markers
  planned : plannedIn made markers tree = .ok artifacts
  reaches : tree.Reaches after
  last : ∃ past other others, made.SameInputs other ∧
    LastBuild site contents after past other others artifacts

section Histories

variable {site : Site} {contents : Set ByteArray} {host : Host} {options : GenerateOptions}
  {session after : Session}

/-- A run that succeeds where a project stands builds it. -/
theorem Stands.exists_builds (hstands : Stands site contents session.tree) (hapart : site.IsApart)
    (hcontents : Set.InjOn (fun bytes : ByteArray => Digest.sha256 bytes.toList) contents)
    (hadmits : site.Admits contents host options session.tree)
    (hrun : (writeManifests host options).run session = (.ok (), after)) :
    ∃ made markers artifacts,
      Builds site contents host options session.tree after.tree made markers artifacts := by
  obtain ⟨hsound, hhere, hknown⟩ := hstands
  rcases writeManifests_run host options session with
    ⟨reason, hreason, -⟩ | ⟨made, hprepares, huptodate⟩ | ⟨made, markers, hbegins, hround⟩
  · rw [hrun] at hreason
    cases hreason
  · have hfits := hadmits made hprepares
    obtain ⟨plan, hplan, hdone⟩ := huptodate.plan
    have htree : after.tree = session.tree := by
      have hkept := huptodate.succeeds.2
      rwa [hrun] at hkept
    cases hknown with
    | never _ hstate =>
      exact absurd hdone (by simp [not_isUpToDate_of_never hstate hprepares hfits.toFits hplan])
    | built hlast =>
      obtain ⟨hsame, markers, hmarkers, hplanned⟩ :=
        hlast.sameInputs_of_isUpToDate hcontents hsound hhere hprepares hfits.toFits hplan hdone
      rw [htree]
      exact ⟨made, markers, _, hprepares, hmarkers, hplanned, .refl, _, _, _, hsame, hlast⟩
  · have hfits := hadmits made hbegins.prepares
    rw [hrun] at hround
    obtain ⟨artifacts, -, hplanned, -⟩ := writesAll_of_runsRound hround
    have hstate : ¬made.folderIn session.tree <+:
        (made.stateFile.absolute session.tree.here).parts := by
      rw [Preparation.folderIn, hhere, hfits.output, hfits.stateFile]
      exact hapart
    have hnames := hfits.names markers hbegins.markers artifacts hplanned
    have hbefore := hknown.onlyRecorded hhere hbegins.prepares hfits
    have hdelivers := delivers_of_runsRound hsound hplanned hnames hbefore.names hstate hround
    exact ⟨made, markers, artifacts, hbegins.prepares, hbegins.markers, hplanned, hdelivers.reaches,
      _, _, _, ⟨fun _ => rfl, rfl⟩,
      .of_delivers hsound hhere hbegins.prepares hfits hbegins.markers hplanned hdelivers
        (holdsManifests_of_runsRound hsound hplanned hnames hbefore hstate hround)⟩

/-- A project stands in every tree of its history. -/
theorem stands_of_history (hapart : site.IsApart)
    (hcontents : Set.InjOn (fun bytes : ByteArray => Digest.sha256 bytes.toList) contents)
    {tree : Tree} (h : History site contents tree) : Stands site contents tree := by
  induction h with
  | start hsound hhere hfiles hstate => exact ⟨hsound, hhere, .never hfiles hstate⟩
  | @edit tree after _ hsound hhere hfiles hstate ih =>
    refine ⟨hsound, hhere, ?_⟩
    cases ih.known with
    | never hnone hunread =>
      refine .never (fun rest => (hfiles rest).trans (hnone rest)) ?_
      obtain ⟨fault, hfault⟩ := hunread
      rw [hfault] at hstate
      cases hread : after.read site.stateFile with
      | error fault => exact ⟨fault, rfl⟩
      | ok bytes =>
        rw [hread] at hstate
        cases hstate
    | built hlast => exact .built (hlast.congr hfiles hstate)
  | @run session after result host options _ hadmits hrun hresult ih =>
    rcases hresult with rfl | hnot
    · obtain ⟨made, markers, artifacts, hbuilds⟩ :=
        ih.exists_builds hapart hcontents hadmits hrun
      obtain ⟨past, other, others, -, hlast⟩ := hbuilds.last
      exact ⟨hbuilds.reaches.isSound ih.sound, hbuilds.reaches.here_eq.trans ih.here, .built hlast⟩
    · have htree := tree_eq_of_not_emits hnot
      rw [hrun] at htree
      exact htree ▸ ih

/-- Whatever happened to a project before, a run that succeeds leaves in the folder of manifests
exactly what a round in memory over the sources of the run with its options makes, be it that it
ran a round or that it found nothing to do. The manifests are found below the output root as it was
given, unless there is a `..` in its path. An incremental run right after it that reads the same
configuration and the same sources finds nothing to do exactly if they are found there, and then
succeeds and leaves every file as it is. -/
theorem successful_run_mirrors_round (hapart : site.IsApart)
    (hcontents : Set.InjOn (fun bytes : ByteArray => Digest.sha256 bytes.toList) contents)
    (hhistory : History site contents session.tree)
    (hadmits : site.Admits contents host options session.tree)
    (hrun : (writeManifests host options).run session = (.ok (), after)) :
    ∃ made markers artifacts, Prepares host options session.tree made ∧
      made.config.markerNames options.markers = .ok markers ∧
      (roundInto made markers session.tree MemoryStore.artifactStore .empty).outcome =
        .ok artifacts ∧
      (roundInto made markers session.tree MemoryStore.artifactStore
        .empty).processor.state.IsMirrored after.tree.file? site.folder ∧
      (".." ∉ made.output.parts → ∀ artifact ∈ artifacts, after.tree.exists?
        (made.output.join (Path.ofString (Manifest.path artifact.interface))) = .ok true) ∧
      (ReadsSame host options made session.tree after.tree → ∀ again : Session,
        again.tree = after.tree → ∃ next,
          Prepares host { options with incremental := true } after.tree next ∧
          let rerun := (writeManifests host { options with incremental := true }).run again
          (IsUpToDate next { options with incremental := true } after.tree rerun ↔
            ∀ artifact ∈ artifacts, after.tree.exists?
              (made.output.join (Path.ofString (Manifest.path artifact.interface))) = .ok true) ∧
          (IsUpToDate next { options with incremental := true } after.tree rerun →
            rerun.1 = .ok () ∧ rerun.2.tree = after.tree)) := by
  have hstands := stands_of_history hapart hcontents hhistory
  obtain ⟨made, markers, artifacts, hbuilds⟩ :=
    hstands.exists_builds hapart hcontents hadmits hrun
  obtain ⟨past, other, others, hsame, hlast⟩ := hbuilds.last
  have hfits := hadmits made hbuilds.prepares
  refine ⟨made, markers, artifacts, hbuilds.prepares, hbuilds.named, hbuilds.planned,
    (Processor.areManifests_of_planned hbuilds.planned).2 _ _ hlast.holds, ?_, ?_⟩
  · intro hup artifact hartifact
    exact hlast.exists?_manifest (hbuilds.reaches.isSound hstands.sound)
      (hbuilds.reaches.here_eq.trans hstands.here) hfits.output hup hartifact
  · rintro hreads again hagain
    obtain ⟨next, hprepares, houtput, hstate, hinputs⟩ :=
      hlast.exists_prepares hbuilds.prepares hfits.stateFile hreads
    have hdone := hlast.isUpToDate_iff_of_sameInputs hprepares (hstate.trans hfits.stateFile)
      ⟨fun path => (hinputs.digests path).trans (hsame.digests path),
        hinputs.fingerprint.trans hsame.fingerprint⟩
    rw [houtput] at hdone
    refine ⟨next, hprepares, ⟨fun hfound => hdone.mp hfound.plan, fun hfound => ?_⟩,
      IsUpToDate.succeeds⟩
    obtain ⟨plan, hplan, huptodate⟩ := hdone.mpr hfound
    rw [← hagain] at hprepares hplan
    rw [← hagain]
    exact ⟨rfl, ⟨plan, hplan, huptodate⟩,
      writeManifests_of_isUpToDate hprepares rfl hplan huptodate⟩

end Histories

/-- A pair with a known first part is that part with its second one. -/
theorem eq_mk_of_fst {α β : Type} (result : α × β) {first : α} (h : result.1 = first) :
    result = (first, result.2) :=
  Prod.ext h rfl

/-- The text of a module with an interface and a class that provides it. -/
def providerModule : ByteArray :=
  "from autoservice import auto_service\nclass I: pass\n@auto_service(I)\nclass A: pass\n".toUTF8

/-- A project that was never built. -/
def freshProject : Tree := ⟨[(["src"], .folder), (["src", "m.py"], .file providerModule)], []⟩

/-- Where the fresh project is built. -/
def freshHost : Host := ⟨freshProject, [], ⟨0, 0, 0, ""⟩, "", ""⟩

/-- The site of the fresh project: it is built from `src` into `out`. -/
def freshSite : Site where
  here := []
  source := ⟨"/", ["src"]⟩
  stateFile := ⟨"", [".autoservice", "state.json"]⟩
  output := ⟨"/", ["out"]⟩

/-- The options of the first build. -/
def freshOptions : GenerateOptions := ⟨".", some "src", some "out", none, false, false, []⟩

/-- The first build of the fresh project. -/
def freshBuild : Except Stop Unit × Session :=
  (writeManifests freshHost freshOptions).run ⟨freshProject, [], ""⟩

/-- The first build succeeds, so it leaves what the round in memory makes. -/
theorem freshBuild_mirrors_round :
    freshBuild.1 = .ok () ∧
      freshBuild.2.tree.file? ["out", "META-INF", "services", "m.I"] = some "m.A\n".toUTF8 ∧
      ∃ made markers, Prepares freshHost freshOptions freshProject made ∧
        (roundInto made markers freshProject MemoryStore.artifactStore
          .empty).processor.state.IsMirrored freshBuild.2.tree.file? freshSite.folder := by
  have hbuild : freshBuild.1.toOption = some () ∧
      freshBuild.2.tree.file? ["out", "META-INF", "services", "m.I"] = some "m.A\n".toUTF8 := by
    decide +kernel
  have hresult : freshBuild.1 = .ok () := eq_ok_of_toOption hbuild.1
  have hcontents : Set.InjOn (fun bytes : ByteArray => Digest.sha256 bytes.toList)
      {bytes | bytes = providerModule} := fun _ hbytes _ hother _ => hbytes.trans hother.symm
  have hstart : History freshSite {bytes | bytes = providerModule} freshProject := by
    refine .start (by decide +kernel) rfl (fun rest => ?_) ⟨_, rfl⟩
    simp [Tree.file?, Tree.entry?, freshProject, freshSite, Site.folder, Manifest.place]
  have hadmits : freshSite.Admits {bytes | bytes = providerModule} freshHost freshOptions
      freshProject := by decide +kernel
  have hrun : (writeManifests freshHost freshOptions).run ⟨freshProject, [], ""⟩ =
      (.ok (), freshBuild.2) := eq_mk_of_fst freshBuild hresult
  obtain ⟨made, markers, -, hprepares, -, -, hmirrored, -⟩ :=
    successful_run_mirrors_round (by decide) hcontents hstart hadmits hrun
  exact ⟨hresult, hbuild.2, made, markers, hprepares, hmirrored⟩

end ServiceManifest.Command
