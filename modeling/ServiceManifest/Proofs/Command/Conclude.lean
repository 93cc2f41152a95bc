import ServiceManifest.Proofs.Build.State
import ServiceManifest.Proofs.Command.Generate
import ServiceManifest.Proofs.Round.Mirror

/-!
# What a run that succeeds leaves behind

A run that came to its round and succeeds has written the manifests of the round in memory, removed
those of the last build that are obsolete, and recorded what it built. So the folder of manifests
holds the new ones and nothing else if it held nothing before but what the last build recorded.
-/

namespace ServiceManifest.Command

open Disk

/-- A conclusion that succeeds has removed what is obsolete and recorded the build; nothing after
that changes a file. -/
theorem conclude_run_eq_ok {made : Preparation} {artifacts : List Artifact} {store : FolderStore}
    {session after : Session} (hsound : store.tree.IsSound)
    (h : (conclude made artifacts store).run session = (.ok (), after)) :
    ∃ last, store.Cleared (Keyed.keys made.previous.artifacts) last ∧
      Build.saveState last.tree made.stateFile (Build.artifactSection last.index)
        (.object (Build.sourceSection made.digests)) made.fingerprint = .ok after.tree := by
  unfold conclude at h
  obtain ⟨_, logged, hlog, h⟩ := Action.exists_of_run_bind_eq_ok h
  obtain ⟨_, removed, hremove, h⟩ := Action.exists_of_run_bind_eq_ok h
  split at h
  · cases h
  · rename_i hfault
    refine ⟨_, FolderStore.cleared_of_removeObsolete hsound hfault, ?_⟩
    obtain ⟨_, raised, hraise, h⟩ := Action.exists_of_run_bind_eq_ok h
    obtain ⟨tree, _, hsave, h⟩ := Action.exists_of_run_bind_eq_ok h
    obtain ⟨_, saved, hset, hrest⟩ := Action.exists_of_run_bind_eq_ok h
    obtain ⟨hsaved, rfl⟩ := Action.run_orFault_eq_ok hsave
    obtain ⟨_, hprintAll⟩ := Action.reads_printAll
      (Console.writtenLines artifacts (store.removeObsolete (Keyed.keys made.previous.artifacts)).removed)
    obtain ⟨_, hprint⟩ := Action.reads_print (Console.success ("Wrote " ++
      toString artifacts.length ++ " manifest(s) to " ++ made.output.toString))
    have htree := (hprintAll.bind fun _ => hprint).tree_eq saved
    rw [hrest] at htree
    cases hset
    rw [htree]
    exact mapError_eq_ok_iff.mp hsaved

/-- What is recorded of manifests, by ascending path. -/
def indexOf (artifacts : List Artifact) : Keyed IndexEntry :=
  Keyed.ascending (artifacts.map fun artifact =>
    (artifact.path, artifact.dependencies.toIndexEntry))

/-- The recorded paths are those of the manifests. -/
theorem mem_keys_indexOf {artifacts : List Artifact} (h : AreManifests artifacts) {path : String} :
    path ∈ Keyed.keys (indexOf artifacts) ↔
      ∃ artifact ∈ artifacts, path = Manifest.path artifact.interface := by
  rw [indexOf, Keyed.mem_keys_ascending]
  simp only [Keyed.keys, List.map_map, List.mem_map, Function.comp_apply]
  constructor
  · rintro ⟨artifact, hartifact, rfl⟩
    exact ⟨artifact, hartifact, h.path artifact hartifact⟩
  · rintro ⟨artifact, hartifact, rfl⟩
    exact ⟨artifact, hartifact, h.path artifact hartifact⟩

/-- The text of the state file of a build that made some manifests. -/
def recordOf (made : Preparation) (artifacts : List Artifact) : String :=
  Build.stateText (Build.artifactSection (indexOf artifacts))
    (.object (Build.sourceSection made.digests)) made.fingerprint

/-- Where the manifests of a preparation lie. -/
def Preparation.folderIn (made : Preparation) (tree : Tree) : Place :=
  Manifest.place (made.output.absolute tree.here)

/-- What the last build recorded are manifests under names that files can have. -/
def Preparation.RecordsNames (made : Preparation) : Prop :=
  ∀ path ∈ Keyed.keys made.previous.artifacts,
    ∃ interface, path = Manifest.path interface ∧ Path.IsName interface

/-- What was there before a build: no files in the folder of manifests but those that the last build
recorded under names that files can have. -/
structure OnlyRecorded (made : Preparation) (tree : Tree) : Prop where
  names : made.RecordsNames
  files : ∀ rest bytes, tree.file? (made.folderIn tree ++ rest) = some bytes →
    ∃ interface, rest = [interface] ∧
      Manifest.path interface ∈ Keyed.keys made.previous.artifacts

/-- What a build leaves wherever it writes: its manifests are in the folder, calls take their paths,
and they are recorded. -/
structure Delivers (made : Preparation) (tree : Tree) (artifacts : List Artifact) (after : Tree) :
    Prop where
  reaches : tree.Reaches after
  written : ∀ artifact ∈ artifacts, after.file? (made.folderIn tree ++ [artifact.interface]) =
    some (Manifest.render artifact.implementers).toUTF8
  usable : ∀ artifact ∈ artifacts, Tree.IsUsable
    ⟨(made.output.absolute tree.here).anchor, made.folderIn tree ++ [artifact.interface]⟩
  record : after.read made.stateFile = .ok (recordOf made artifacts).toUTF8

variable {made : Preparation} {markers : List String} {tree : Tree} {after : Session}

/-- A run that comes to its round and succeeds has written all manifests of the round in memory. -/
theorem writesAll_of_runsRound (h : RunsRound made markers tree (.ok (), after)) :
    ∃ artifacts session, plannedIn made markers tree = .ok artifacts ∧
      let answer := roundInto made markers tree FolderStore.artifactStore (.ofRoot made.output tree)
      Processor.WritesAll FolderStore.artifactStore (.ofRoot made.output tree) artifacts answer ∧
        (conclude made artifacts answer.processor.state).run session = (.ok (), after) := by
  obtain ⟨session, -, hrun⟩ := h
  rcases Processor.process_start (ProcessorOptions.ofHost made.config.hostOptions)
      FolderStore.artifactStore (.ofRoot made.output tree)
      (Project.scan tree made.source markers).resolution with
    ⟨failure, -, houtcome, -⟩ |
      ⟨artifacts, hplanned, hall | ⟨before, artifact, rest, last, fault, -, hbreaks⟩⟩
  · rw [roundInto, houtcome] at hrun
    cases hrun
  · rw [roundInto, hall.outcome] at hrun
    exact ⟨artifacts, session, hplanned, hall, hrun.symm⟩
  · rw [roundInto, hbreaks.outcome] at hrun
    cases hrun

/-- A run that comes to its round and succeeds has written, cleared away what is obsolete and recorded
the build. -/
theorem exists_cleared_of_runsRound (hsound : tree.IsSound) {artifacts : List Artifact}
    (hplanned : plannedIn made markers tree = .ok artifacts)
    (h : RunsRound made markers tree (.ok (), after)) :
    ∃ written last, FolderStore.Wrote (.ofRoot made.output tree) artifacts written ∧
      written.Cleared (Keyed.keys made.previous.artifacts) last ∧
      tree.Reaches last.tree ∧ last.tree.Reaches after.tree ∧
      after.tree.read made.stateFile = .ok (recordOf made artifacts).toUTF8 ∧
      ∀ place, place ≠ (made.stateFile.absolute tree.here).parts →
        after.tree.file? place = last.tree.file? place := by
  obtain ⟨found, session, hfound, hall, hconclude⟩ := writesAll_of_runsRound h
  obtain rfl := Except.ok.inj (hfound.symm.trans hplanned)
  have hmanifests := (Processor.areManifests_of_planned hplanned).1
  have hwrote := FolderStore.wrote_of_creates hall.creates
  obtain ⟨last, hcleared, hsave⟩ :=
    conclude_run_eq_ok (hwrote.reaches.isSound hsound) hconclude
  have hlast : tree.Reaches last.tree := hwrote.reaches.trans hcleared.reaches
  obtain ⟨hreaches, hread, hfiles⟩ := Build.read_of_saveState (hlast.isSound hsound) hsave
  refine ⟨_, last, hwrote, hcleared, hlast, hreaches, ?_, fun place hplace => ?_⟩
  · rw [hread, FolderStore.index, hcleared.entries, hwrote.entries]
    exact congrArg (fun entries => Except.ok (Build.stateText (Build.artifactSection
      (Keyed.ascending entries)) _ _).toUTF8) (FolderStore.registered_of_nodup hmanifests.nodup_path)
  · rw [hfiles, hlast.here_eq, Function.update_of_ne hplace]

/-- Calls take the paths of the manifests that were written. -/
theorem usable_of_wrote {artifacts : List Artifact} {written : FolderStore}
    (hmanifests : AreManifests artifacts) (hnames : ∀ artifact ∈ artifacts, Path.IsName artifact.interface)
    (hwrote : FolderStore.Wrote (.ofRoot made.output tree) artifacts written) :
    ∀ artifact ∈ artifacts, Tree.IsUsable
      ⟨(made.output.absolute tree.here).anchor, made.folderIn tree ++ [artifact.interface]⟩ := by
  intro artifact hartifact
  have husable := hwrote.usable artifact hartifact
  rw [hmanifests.path artifact hartifact,
    Manifest.absolute_join_path (hnames artifact hartifact)] at husable
  change Tree.IsUsable ⟨((made.output.absolute tree.here).absolute tree.here).anchor,
    Manifest.place ((made.output.absolute tree.here).absolute tree.here) ++ _⟩ at husable
  rwa [Path.absolute_absolute] at husable

/-- A run that comes to its round and succeeds leaves the manifests of the round in memory, wherever
it writes, if the state file lies somewhere else. -/
theorem delivers_of_runsRound (hsound : tree.IsSound) {artifacts : List Artifact}
    (hplanned : plannedIn made markers tree = .ok artifacts)
    (hnames : ∀ artifact ∈ artifacts, Path.IsName artifact.interface)
    (hbefore : made.RecordsNames)
    (hstate : ¬made.folderIn tree <+: (made.stateFile.absolute tree.here).parts)
    (h : RunsRound made markers tree (.ok (), after)) : Delivers made tree artifacts after.tree := by
  obtain ⟨written, last, hwrote, hcleared, hlast, hafter, hrecord, hfiles⟩ :=
    exists_cleared_of_runsRound hsound hplanned h
  have hmanifests := (Processor.areManifests_of_planned hplanned).1
  refine ⟨hlast.trans hafter, fun artifact hartifact => ?_,
    usable_of_wrote hmanifests hnames hwrote, hrecord⟩
  rw [hfiles]
  · exact FolderStore.file?_of_cleared rfl rfl hmanifests hnames hwrote hcleared hbefore hartifact
  · rintro hplace
    exact hstate ⟨_, hplace⟩

/-- A manifest that is a file is found below the output root, however that is given, unless there is a
`..` in its path. -/
theorem exists?_of_file?_manifest (hsound : tree.IsSound) {output : Path} {interface : String}
    {bytes : ByteArray} (hname : Path.IsName interface) (hup : ".." ∉ output.parts)
    (husable : Tree.IsUsable ⟨(output.absolute tree.here).anchor,
      Manifest.place (output.absolute tree.here) ++ [interface]⟩)
    (hfile : tree.file? (Manifest.place (output.absolute tree.here) ++ [interface]) = some bytes) :
    tree.exists? (output.join (Path.ofString (Manifest.path interface))) = .ok true := by
  have hplace := Manifest.absolute_join_path hname output tree.here
  refine hsound.exists?_of_file? ?_ (hplace ▸ husable) (by rwa [hplace])
  rw [Manifest.ofString_path hname, Path.join, if_pos rfl]
  simp [hup, Ne.symm hname.2.2.1]

/-- A run that comes to its round and succeeds leaves something to be found at the path of each of its
manifests: none of them is removed again, and at most the record of the build takes the place of one. -/
theorem found_of_runsRound (hsound : tree.IsSound) {artifacts : List Artifact}
    (hplanned : plannedIn made markers tree = .ok artifacts)
    (hnames : ∀ artifact ∈ artifacts, Path.IsName artifact.interface)
    (hbefore : made.RecordsNames) (hup : ".." ∉ made.output.parts)
    (h : RunsRound made markers tree (.ok (), after)) : ∀ artifact ∈ artifacts,
      after.tree.exists? (made.output.join (Path.ofString (Manifest.path artifact.interface))) =
        .ok true := by
  obtain ⟨written, last, hwrote, hcleared, hlast, hafter, hrecord, hfiles⟩ :=
    exists_cleared_of_runsRound hsound hplanned h
  have hmanifests := (Processor.areManifests_of_planned hplanned).1
  have hreaches := hlast.trans hafter
  have hsoundAfter := hreaches.isSound hsound
  intro artifact hartifact
  have hfile : ∃ bytes, after.tree.file? (made.folderIn tree ++ [artifact.interface]) = some bytes := by
    by_cases hplace : made.folderIn tree ++ [artifact.interface] =
        (made.stateFile.absolute tree.here).parts
    · rw [hplace, ← hreaches.here_eq]
      exact ⟨_, hsoundAfter.file?_of_read hrecord⟩
    · rw [hfiles _ hplace]
      exact ⟨_, FolderStore.file?_of_cleared rfl rfl hmanifests hnames hwrote hcleared hbefore
        hartifact⟩
  obtain ⟨bytes, hbytes⟩ := hfile
  refine exists?_of_file?_manifest hsoundAfter (hnames artifact hartifact) hup ?_ (?_ : _ = some bytes)
  · rw [hreaches.here_eq]
    exact usable_of_wrote hmanifests hnames hwrote artifact hartifact
  · rw [hreaches.here_eq]
    exact hbytes

/-- If there was nothing but recorded manifests before, the folder holds the manifests of the round
and nothing else afterwards. -/
theorem holdsManifests_of_runsRound (hsound : tree.IsSound) {artifacts : List Artifact}
    (hplanned : plannedIn made markers tree = .ok artifacts)
    (hnames : ∀ artifact ∈ artifacts, Path.IsName artifact.interface)
    (hbefore : OnlyRecorded made tree)
    (hstate : ¬made.folderIn tree <+: (made.stateFile.absolute tree.here).parts)
    (h : RunsRound made markers tree (.ok (), after)) :
    HoldsManifests after.tree.file? (made.folderIn tree) artifacts := by
  obtain ⟨written, last, hwrote, hcleared, -, -, -, hfiles⟩ :=
    exists_cleared_of_runsRound hsound hplanned h
  have hholds := FolderStore.holdsManifests_of_cleared rfl rfl
    (Processor.areManifests_of_planned hplanned).1 hnames hwrote hcleared hbefore.names hbefore.files
  intro rest
  rw [hfiles]
  · exact hholds rest
  · rintro hplace
    exact hstate ⟨rest, hplace⟩

end ServiceManifest.Command
