import ServiceManifest.Proofs.Command.History

/-!
# What the verdict of an incremental build is about

The builds of a project share one state file, but each may write below an output root of its own.
The verdict that manifests are up to date is then about the last build, wherever it wrote: the inputs
are those of that build, and below the requested output root something lies at the path of each of
its manifests. What these files hold is not looked at, and is known only where the last build wrote.
-/

namespace ServiceManifest.Command

open Disk Project

/-- The options of the build that a question for the status is about. -/
def StatusOptions.build (options : StatusOptions) : GenerateOptions :=
  ⟨options.root, options.src, options.out, none, false, true, []⟩

section Status

variable {host : Host} {options : StatusOptions} {session : Session} {made : Preparation}

/-- The verdict on a preparation: nothing to do, or the plan of what is. -/
def judge (made : Preparation) : Action Unit := do
  let plan ← Action.orFault (planIn made (← Action.files))
  if plan.isUpToDate then Action.print (Console.success upToDateMessage)
  else
    Action.print (Console.planTable plan)
    Action.print (Console.warning (ExitCode.describe ExitCode.stale ++
      " - run: autoservice generate"))
    Action.stop .stale

/-- Asking for the status is preparing a build and judging what was prepared. -/
theorem compareSources_eq (host : Host) (options : StatusOptions) :
    compareSources host options = prepare host options.build >>= judge := by
  simp only [compareSources, prepare, judge, bind_assoc, pure_bind]
  rfl

/-- Printing the plan ends with the stop that something is stale, or with a fault before it. -/
theorem run_stale_ne_ok (plan : Build.Plan) (session : Session) :
    ((do
        Action.print (Console.planTable plan)
        Action.print (Console.warning (ExitCode.describe ExitCode.stale ++
          " - run: autoservice generate"))
        Action.stop .stale : Action Unit).run session).1 ≠ .ok () := by
  intro h
  obtain ⟨_, middle, -, hnext⟩ := Action.exists_of_run_bind_eq_ok (Prod.ext h rfl)
  obtain ⟨_, last, -, hstop⟩ := Action.exists_of_run_bind_eq_ok hnext
  cases hstop

/-- The status is reported as up to date exactly if the plan is. -/
theorem compareSources_eq_ok_iff (hprepares : Prepares host options.build session.tree made) :
    ((compareSources host options).run session).1 = .ok () ↔
      ∃ plan, planIn made session.tree = .ok plan ∧ plan.isUpToDate = true := by
  obtain ⟨middle, hmiddle, hrun⟩ := reads_prepare host options.build session
  obtain ⟨last, hlast, hplan⟩ := Action.reads_orFault (planIn made session.tree) middle
  rw [compareSources_eq, Action.run_bind, hrun, preparedIn_eq_ok_iff.mpr hprepares]
  simp only [judge, Action.run_bind, Action.run_files, hmiddle, hplan]
  cases planIn made session.tree with
  | error cause => simp [faulty, Except.mapError]
  | ok plan =>
    simp only [faulty, Except.mapError, Except.ok.injEq, exists_eq_left']
    split
    · rename_i hdone
      obtain ⟨after, hprint, -⟩ := Action.run_print_eq_ok
        (by decide +kernel : (Console.success upToDateMessage).isOk = true) last
      simp [hprint, hdone]
    · rename_i hpending
      simp only [hpending]
      exact iff_of_false (run_stale_ne_ok plan last) Bool.false_ne_true

end Status

/-- An incremental build says that there is nothing to do exactly if its plan is up to date. -/
theorem isUpToDate_iff {host : Host} {options : GenerateOptions} {session : Session}
    {made : Preparation} (hprepares : Prepares host options session.tree made)
    (hincremental : options.incremental = true) :
    IsUpToDate made options session.tree ((writeManifests host options).run session) ↔
      ∃ plan, planIn made session.tree = .ok plan ∧ plan.isUpToDate = true := by
  constructor
  · exact IsUpToDate.plan
  · rintro ⟨plan, hplan, hdone⟩
    exact ⟨hincremental, ⟨plan, hplan, hdone⟩,
      writeManifests_of_isUpToDate hprepares hincremental hplan hdone⟩

/-- The last build that was recorded, with the output root below which it wrote its manifests. -/
structure LastWritten (base : Base) (contents : Set ByteArray) (root : Path) (tree past : Tree)
    (made : Preparation) (markers : List String) (artifacts : List Artifact) : Prop
    extends LastRecord base contents tree past made markers artifacts where
  names : ∀ artifact ∈ artifacts, Path.IsName artifact.interface
  written : ∀ artifact ∈ artifacts, tree.file? (Manifest.place root ++ [artifact.interface]) =
    some (Manifest.render artifact.implementers).toUTF8

/-- The trees that a project comes to whose builds share the state file and may write below different
output roots, and the one that was written last. It starts without a state file. Edits may change
anything but what the state file holds and the manifests that were written last. A build that writes
comes to its round and succeeds. -/
inductive SharedHistory (base : Base) (contents : Set ByteArray) : Option Path → Tree → Prop
  | start {tree : Tree} (hsound : tree.IsSound) (hhere : tree.here = base.here)
      (hstate : ∃ fault, tree.read base.stateFile = .error fault) :
      SharedHistory base contents none tree
  | edit {root : Option Path} {tree after : Tree} (hbefore : SharedHistory base contents root tree)
      (hsound : after.IsSound) (hhere : after.here = base.here)
      (hfiles : ∀ written ∈ root, ∀ rest, after.file? (Manifest.place written ++ rest) =
        tree.file? (Manifest.place written ++ rest))
      (hstate : (after.read base.stateFile).toOption = (tree.read base.stateFile).toOption) :
      SharedHistory base contents root after
  | write {root : Option Path} {session after : Session} (host : Host) (options : GenerateOptions)
      (made : Preparation) (markers : List String) (artifacts : List Artifact)
      (hbefore : SharedHistory base contents root session.tree)
      (hbegins : Begins host options session.tree made markers)
      (hfits : base.Fits contents session.tree made)
      (hplanned : plannedIn made markers session.tree = .ok artifacts)
      (hnames : ∀ artifact ∈ artifacts, Path.IsName artifact.interface)
      (hapart : ¬made.folderIn session.tree <+: (made.stateFile.absolute session.tree.here).parts)
      (hrun : (writeManifests host options).run session = (.ok (), after)) :
      SharedHistory base contents (some (made.output.absolute base.here)) after.tree

section Histories

variable {base : Base} {contents : Set ByteArray} {root : Option Path} {tree : Tree} {host : Host}
  {options : GenerateOptions} {made : Preparation}

/-- A run that begins its round and succeeds has run it. -/
theorem runsRound_of_begins {session after : Session} {markers : List String}
    (hbegins : Begins host options session.tree made markers)
    (hrun : (writeManifests host options).run session = (.ok (), after)) :
    RunsRound made markers session.tree (.ok (), after) := by
  rcases writeManifests_run host options session with
    ⟨reason, hreason, -⟩ | ⟨other, hprepares, hdone⟩ | ⟨other, others, hother, hround⟩
  · rw [hrun] at hreason
    cases hreason
  · obtain rfl := hprepares.unique hbegins.prepares
    exact absurd hdone hbegins.not_isUpToDate
  · obtain rfl := hother.prepares.unique hbegins.prepares
    obtain rfl := Except.ok.inj (hother.markers.symm.trans hbegins.markers)
    rwa [hrun] at hround

/-- A build that comes to its round and succeeds is the last one, written below its output root. -/
theorem LastWritten.of_writes {session after : Session} {markers : List String}
    {artifacts : List Artifact} (hsound : session.tree.IsSound) (hhere : session.tree.here = base.here)
    (hbegins : Begins host options session.tree made markers)
    (hfits : base.Fits contents session.tree made)
    (hplanned : plannedIn made markers session.tree = .ok artifacts)
    (hnames : ∀ artifact ∈ artifacts, Path.IsName artifact.interface)
    (hrecords : made.RecordsNames)
    (hapart : ¬made.folderIn session.tree <+: (made.stateFile.absolute session.tree.here).parts)
    (hrun : (writeManifests host options).run session = (.ok (), after)) :
    session.tree.Reaches after.tree ∧
      LastWritten base contents (made.output.absolute base.here) after.tree session.tree made markers
        artifacts := by
  have hdelivers := delivers_of_runsRound hsound hplanned hnames hrecords hapart
    (runsRound_of_begins hbegins hrun)
  refine ⟨hdelivers.reaches, .of_records hsound hhere hbegins.prepares hfits hbegins.markers
    hplanned hdelivers.record, hnames, ?_⟩
  simpa only [Preparation.folderIn, hhere] using hdelivers.written

/-- A build that succeeds goes on with a history: it finds nothing to do and leaves every file as it
is, or it writes. -/
theorem SharedHistory.run {session after : Session} (h : SharedHistory base contents root session.tree)
    (hadmits : ∀ made markers, Begins host options session.tree made markers →
      base.Fits contents session.tree made ∧
        ¬made.folderIn session.tree <+: (made.stateFile.absolute session.tree.here).parts ∧
        ∀ artifacts, plannedIn made markers session.tree = .ok artifacts →
          ∀ artifact ∈ artifacts, Path.IsName artifact.interface)
    (hrun : (writeManifests host options).run session = (.ok (), after)) :
    ∃ root, SharedHistory base contents root after.tree := by
  rcases writeManifests_run host options session with
    ⟨reason, hreason, -⟩ | ⟨made, -, hdone⟩ | ⟨made, markers, hbegins, hround⟩
  · rw [hrun] at hreason
    cases hreason
  · have htree := hdone.succeeds.2
    rw [hrun] at htree
    exact ⟨root, htree ▸ h⟩
  · rw [hrun] at hround
    obtain ⟨artifacts, -, hplanned, -⟩ := writesAll_of_runsRound hround
    obtain ⟨hfits, hapart, hnames⟩ := hadmits made markers hbegins
    exact ⟨_, .write host options made markers artifacts h hbegins hfits hplanned
      (hnames artifacts hplanned) hapart hrun⟩

/-- In every tree of a history nothing was recorded yet, or the last build is recorded with the
output root below which its manifests still are. -/
theorem SharedHistory.known (h : SharedHistory base contents root tree) :
    tree.IsSound ∧ tree.here = base.here ∧
      (root = none ∧ (∃ fault, tree.read base.stateFile = .error fault) ∨
        ∃ written past made markers artifacts, root = some written ∧
          LastWritten base contents written tree past made markers artifacts) := by
  induction h with
  | start hsound hhere hstate => exact ⟨hsound, hhere, Or.inl ⟨rfl, hstate⟩⟩
  | @edit root tree after _ hsound hhere hfiles hstate ih =>
    refine ⟨hsound, hhere, ih.2.2.imp ?_ ?_⟩
    · rintro ⟨rfl, fault, hfault⟩
      refine ⟨rfl, ?_⟩
      rw [hfault] at hstate
      cases hread : after.read base.stateFile with
      | error fault => exact ⟨fault, rfl⟩
      | ok bytes =>
        rw [hread] at hstate
        cases hstate
    · rintro ⟨written, past, made, markers, artifacts, rfl, hlast⟩
      exact ⟨written, past, made, markers, artifacts, rfl, hlast.toLastRecord.congr hstate,
        hlast.names, fun artifact hartifact =>
          (hfiles written rfl [artifact.interface]).trans (hlast.written artifact hartifact)⟩
  | @write root session after host options made markers artifacts _ hbegins hfits hplanned hnames
      hapart hrun ih =>
    obtain ⟨hsound, hhere, hknown⟩ := ih
    have hrecords : made.RecordsNames := by
      rcases hknown with ⟨-, fault, hread⟩ | ⟨_, _, _, _, _, -, hlast⟩
      · rw [← hfits.stateFile] at hread
        rw [Preparation.RecordsNames, Build.load_of_unreadable hread hbegins.prepares.previous]
        exact fun _ hmem => absurd hmem List.not_mem_nil
      · exact hlast.recordsNames hlast.names hbegins.prepares hfits.stateFile
    obtain ⟨hreaches, hlast⟩ := LastWritten.of_writes hsound hhere hbegins hfits hplanned hnames
      hrecords hapart hrun
    exact ⟨hreaches.isSound hsound, hreaches.here_eq.trans hhere,
      Or.inr ⟨_, _, _, _, _, rfl, hlast⟩⟩

/-- What the verdict asks for: the last build had the same inputs, and below the requested output root
something is found at the path of each of its manifests. -/
def MatchesLast (base : Base) (contents : Set ByteArray) (tree : Tree) (made : Preparation) : Prop :=
  ∃ past other markers artifacts, LastRecord base contents tree past other markers artifacts ∧
    made.SameInputs other ∧ ∀ artifact ∈ artifacts, tree.exists?
      (made.output.join (Path.ofString (Manifest.path artifact.interface))) = .ok true

/-- A plan is up to date exactly if it matches the last build. -/
theorem SharedHistory.isUpToDate_iff_matchesLast
    (hcontents : Set.InjOn (fun bytes : ByteArray => Digest.sha256 bytes.toList) contents)
    (h : SharedHistory base contents root tree) (hprepares : Prepares host options tree made)
    (hfits : base.Fits contents tree made) :
    (∃ plan, planIn made tree = .ok plan ∧ plan.isUpToDate = true) ↔
      MatchesLast base contents tree made := by
  obtain ⟨hsound, hhere, hknown⟩ := h.known
  constructor
  · rintro ⟨plan, hplan, hdone⟩
    rcases hknown with ⟨-, hstate⟩ | ⟨_, past, other, markers, artifacts, -, hlast⟩
    · rw [not_isUpToDate_of_never hstate hprepares hfits hplan] at hdone
      cases hdone
    · obtain ⟨hsame, -⟩ := hlast.sameInputs_of_isUpToDate hcontents hsound hhere hprepares hfits hplan
        hdone
      exact ⟨past, other, markers, artifacts, hlast.toLastRecord, hsame,
        (hlast.isUpToDate_iff_of_sameInputs hprepares hfits.stateFile hsame).mp
          ⟨plan, hplan, hdone⟩⟩
  · rintro ⟨past, other, markers, artifacts, hlast, hsame, hfound⟩
    exact (hlast.isUpToDate_iff_of_sameInputs hprepares hfits.stateFile hsame).mpr hfound

/-- After any history of builds that share the state file, an incremental build and a question for
the status come to the verdict that manifests are up to date exactly if the inputs are those of the
last build, wherever that wrote, and something is found at the path of each of its manifests below
the requested output root. A round in memory then makes these manifests, and they hold its texts
below the output root that was written last. -/
theorem verdict_is_about_last_build
    (hcontents : Set.InjOn (fun bytes : ByteArray => Digest.sha256 bytes.toList) contents)
    (hhistory : SharedHistory base contents root tree)
    (hprepares : Prepares host options tree made) (hfits : base.Fits contents tree made) :
    (options.incremental = true → ∀ session : Session, session.tree = tree →
      (IsUpToDate made options tree ((writeManifests host options).run session) ↔
        MatchesLast base contents tree made)) ∧
    (∀ status : StatusOptions, options = status.build → ∀ session : Session, session.tree = tree →
      (((compareSources host status).run session).1 = .ok () ↔
        MatchesLast base contents tree made)) ∧
    (MatchesLast base contents tree made → ∃ markers artifacts written,
      made.config.markerNames options.markers = .ok markers ∧
        plannedIn made markers tree = .ok artifacts ∧ root = some written ∧
          ∀ artifact ∈ artifacts, tree.file? (Manifest.place written ++ [artifact.interface]) =
            some (Manifest.render artifact.implementers).toUTF8) := by
  have hverdict := hhistory.isUpToDate_iff_matchesLast hcontents hprepares hfits
  refine ⟨?_, ?_, fun hmatches => ?_⟩
  · rintro hincremental session rfl
    exact (isUpToDate_iff hprepares hincremental).trans hverdict
  · rintro status rfl session rfl
    exact (compareSources_eq_ok_iff hprepares).trans hverdict
  · obtain ⟨plan, hplan, hdone⟩ := hverdict.mpr hmatches
    obtain ⟨hsound, hhere, ⟨-, hstate⟩ | ⟨written, past, other, others, artifacts, rfl, hlast⟩⟩ :=
      hhistory.known
    · rw [not_isUpToDate_of_never hstate hprepares hfits hplan] at hdone
      cases hdone
    · obtain ⟨-, markers, hmarkers, hplanned⟩ :=
        hlast.sameInputs_of_isUpToDate hcontents hsound hhere hprepares hfits hplan hdone
      exact ⟨markers, artifacts, written, hmarkers, hplanned, rfl, hlast.written⟩

end Histories

/-- A project whose manifest below `a` names a provider that is gone. -/
def staleProject : Tree where
  entries := [(["src"], .folder), (["src", "m.py"], .file providerModule), (["a"], .folder),
    (["a", "META-INF"], .folder), (["a", "META-INF", "services"], .folder),
    (["a", "META-INF", "services", "m.I"], .file "m.Old\n".toUTF8)]
  here := []

/-- Where the stale project is built. -/
def staleHost : Host := ⟨staleProject, [], ⟨0, 0, 0, ""⟩, "", ""⟩

/-- What the builds of the stale project share. -/
def staleBase : Base := freshSite.toBase

/-- The options of a build of the stale project below an output root. -/
def optionsBelow (output : String) (incremental : Bool) : GenerateOptions :=
  ⟨".", some "src", some output, none, false, incremental, []⟩

/-- The build of the stale project below `b`. -/
def elsewhereBuild : Except Stop Unit × Session :=
  (writeManifests staleHost (optionsBelow "b" false)).run ⟨staleProject, [], ""⟩

/-- The stale project after it was built below `b`. -/
def staleTree : Tree := elsewhereBuild.2.tree

/-- What the build of the stale project below `b` prepares, and what its round makes. -/
theorem exists_elsewhere : ∃ made, preparedIn staleHost (optionsBelow "b" false) staleProject =
    .ok made ∧ staleBase.Fits {bytes | bytes = providerModule} staleProject made ∧
      Keyed.keys made.previous.artifacts = [] ∧ made.output.hasNul = false ∧
      made.config.output "." (some "a") = Path.ofString "a" ∧
      ¬made.folderIn staleProject <+: (made.stateFile.absolute []).parts ∧
      ∃ markers, made.config.markerNames [] = .ok markers ∧
        ∃ artifacts, plannedIn made markers staleProject = .ok artifacts ∧
          artifacts.map (fun artifact => (artifact.interface, artifact.implementers)) =
            [("m.I", ["m.A"])] := by
  decide +kernel

/-- The build of the stale project below `b` succeeds and leaves the configuration, the sources and
the manifest below `a` as they are. -/
theorem elsewhereBuild_keeps_sources (made : Preparation)
    (h : preparedIn staleHost (optionsBelow "b" false) staleProject = .ok made) :
    elsewhereBuild.1.toOption = some () ∧
      (staleTree.exists? ((Config.homeOf staleHost.environment ".").join
        (Path.ofString "config.json"))).toOption = some false ∧
      staleTree.file? ["a", "META-INF", "services", "m.I"] = some "m.Old\n".toUTF8 ∧
      (staleTree.exists? ((Path.ofString "a").join
        (Path.ofString (Manifest.path "m.I")))).toOption = some true ∧
      (staleTree.isFolder? made.source).toOption = some true ∧
      ∃ found, discover staleTree made.source = .ok found ∧
        ∃ digests, Digest.snapshot staleTree made.source found.units = .ok digests ∧
          digests = made.digests ∧ ∀ path ∈ Keyed.keys digests, ∀ bytes,
            staleTree.read (made.source.join (Path.ofString path)) = .ok bytes →
              bytes = providerModule := by
  revert made
  decide +kernel

/-- After a build below `b`, a build below `a` says that there is nothing to do, and so does the
status, although a round makes another manifest than the one that lies there. -/
theorem staleTree_isUpToDate :
    staleTree.file? ["a", "META-INF", "services", "m.I"] = some "m.Old\n".toUTF8 ∧
      ∃ made markers artifacts,
        Prepares staleHost (optionsBelow "a" true) staleTree made ∧
        made.config.markerNames [] = .ok markers ∧ plannedIn made markers staleTree = .ok artifacts ∧
        artifacts.map (fun artifact => (artifact.interface, artifact.implementers)) =
          [("m.I", ["m.A"])] ∧
        ∀ session : Session, session.tree = staleTree →
          IsUpToDate made (optionsBelow "a" true) staleTree
              ((writeManifests staleHost (optionsBelow "a" true)).run session) ∧
            ((compareSources staleHost ⟨".", some "src", some "a"⟩).run session).1 = .ok () := by
  obtain ⟨made, hmade, hfits, hrecorded, hnul, houtput, hapart, markers, hmarkers, artifacts,
    hplanned, hartifacts⟩ := exists_elsewhere
  obtain ⟨hdone, hconfig, hold, hfound, hfolder, found, hdiscovered, digests, hdigests, rfl,
    hcontents⟩ := elsewhereBuild_keeps_sources made hmade
  have hprepares := preparedIn_eq_ok_iff.mp hmade
  have hinjective : Set.InjOn (fun bytes : ByteArray => Digest.sha256 bytes.toList)
      {bytes | bytes = providerModule} := fun _ hbytes _ hother _ => hbytes.trans hother.symm
  have hinterface : ∀ artifact ∈ artifacts, artifact.interface = "m.I" := by
    intro artifact hartifact
    have hmem := List.mem_map_of_mem (f := fun artifact : Artifact =>
      (artifact.interface, artifact.implementers)) hartifact
    rw [hartifacts, List.mem_singleton, Prod.mk.injEq] at hmem
    exact hmem.1
  have hnames : ∀ artifact ∈ artifacts, Path.IsName artifact.interface := fun artifact hartifact =>
    hinterface artifact hartifact ▸ by decide +kernel
  -- the build below `b` is the last one
  have hsound : (Session.mk staleProject [] "").tree.IsSound := by decide +kernel
  have hstart : SharedHistory staleBase {bytes | bytes = providerModule} none
      (Session.mk staleProject [] "").tree := .start hsound rfl ⟨_, rfl⟩
  have hbegins : Begins staleHost (optionsBelow "b" false) staleProject made markers :=
    ⟨hprepares, fun hincremental => absurd hincremental Bool.false_ne_true, hmarkers, hnul⟩
  have hrun : (writeManifests staleHost (optionsBelow "b" false)).run ⟨staleProject, [], ""⟩ =
      (.ok (), elsewhereBuild.2) := eq_mk_of_fst elsewhereBuild (eq_ok_of_toOption hdone)
  have hhistory : SharedHistory staleBase {bytes | bytes = providerModule}
      (some (made.output.absolute [])) staleTree :=
    .write _ _ made markers artifacts hstart hbegins hfits
      hplanned hnames hapart hrun
  have hlast : LastWritten staleBase {bytes | bytes = providerModule} (made.output.absolute [])
      staleTree staleProject made markers artifacts :=
    (LastWritten.of_writes hsound rfl hbegins hfits hplanned hnames
      (by rw [Preparation.RecordsNames, hrecorded]; exact fun _ hmem => absurd hmem List.not_mem_nil)
      hapart hrun).2
  -- the build below `a` has its inputs
  have hreads : (Config.load staleTree staleHost.environment ".").outcome =
      (Config.load staleProject staleHost.environment ".").outcome := by
    rw [Config.load_of_absent (eq_ok_of_toOption hconfig), Config.load_of_absent rfl]
  obtain ⟨previous, hagain⟩ := hlast.exists_prepares_again (hprepares.below (some "a"))
    hfits.stateFile hreads (eq_ok_of_toOption hfolder) ⟨found, hdiscovered, hdigests⟩
  obtain ⟨now, hnow, hbelow, hnowFits, hsame⟩ : ∃ now,
      Prepares staleHost (optionsBelow "a" true) staleTree now ∧ now.output = Path.ofString "a" ∧
        staleBase.Fits {bytes | bytes = providerModule} staleTree now ∧ now.SameInputs made :=
    ⟨_, hagain, houtput, ⟨hfits.source, hfits.stateFile, hfits.texts, hcontents⟩, fun _ => rfl, rfl⟩
  have hmatches : MatchesLast staleBase {bytes | bytes = providerModule} staleTree now := by
    refine ⟨_, _, _, _, hlast.toLastRecord, hsame, fun artifact hartifact => ?_⟩
    rw [hbelow, hinterface artifact hartifact]
    exact eq_ok_of_toOption hfound
  obtain ⟨hincremental, hstatus, -⟩ := verdict_is_about_last_build hinjective hhistory hnow hnowFits
  have hready : Prepares staleHost (optionsBelow "a" true) (Session.mk staleTree [] "").tree now := hnow
  obtain ⟨plan, hplan, huptodate⟩ := (isUpToDate_iff hready rfl).mp
    ((hincremental rfl ⟨staleTree, [], ""⟩ rfl).mpr hmatches)
  obtain ⟨-, names, hnamed, hmade⟩ := hlast.sameInputs_of_isUpToDate hinjective
    hhistory.known.1 hhistory.known.2.1 hnow hnowFits hplan huptodate
  exact ⟨hold, now, names, artifacts, hnow, hnamed, hmade, hartifacts, fun session hsession =>
    ⟨(hincremental rfl session hsession).mpr hmatches,
      (hstatus ⟨".", some "src", some "a"⟩ rfl session hsession).mpr hmatches⟩⟩

end ServiceManifest.Command
