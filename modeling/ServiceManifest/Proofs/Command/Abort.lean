import ServiceManifest.Proofs.Command.Generate
import ServiceManifest.Proofs.Round.Folder

/-!
# What an aborted run leaves behind

A run of `generate` that an error of the round aborts has changed nothing, unless the error is about
the writing of a manifest. Then the manifests before that one are already replaced, so that the run
is all or nothing exactly if they held the same text before.
-/

namespace ServiceManifest.Command

open Disk

/-- What follows a round that succeeded is not aborted by an error of the round. -/
theorem conclude_run_ne {made : Preparation} {artifacts : List Artifact} {store : FolderStore}
    {session after : Session} {error : RoundError} :
    (conclude made artifacts store).run session ≠ (.error (.failed (.round error)), after) :=
  fun h => neverRound_conclude made artifacts store session error (congrArg Prod.fst h)

/-- Looking for changes is not aborted by an error of the round. -/
theorem not_isUpToDate_of_round {made : Preparation} {options : GenerateOptions} {tree : Tree}
    {after : Session} {error : RoundError} :
    ¬IsUpToDate made options tree (.error (.failed (.round error)), after) := by
  rintro ⟨-, -, before, -, hrun⟩
  exact Action.neverRound_print _ before error (congrArg Prod.fst hrun).symm

/-- A run that is aborted at a manifest, and the changes that it has made by then. -/
def AbortsAt (host : Host) (options : GenerateOptions) (tree : Tree) (changes : List Change)
    (error : RoundError) : Prop :=
  ∃ made markers artifacts before artifact rest cause,
    Begins host options tree made markers ∧ plannedIn made markers tree = .ok artifacts ∧
      artifacts = before ++ artifact :: rest ∧ error = .artifactWrite artifact.path cause ∧
        changes = FolderStore.brokenAt (made.output.absolute tree.here) tree.here before artifact
          cause

/-- A round into an output root that fails has left the files as they were, or stops at a
manifest. -/
theorem files_of_roundInto {made : Preparation} {markers : List String} {tree : Tree}
    {error : RoundError}
    (h : (roundInto made markers tree FolderStore.artifactStore (.ofRoot made.output tree)).outcome =
      .error (.round error)) :
    let state := (roundInto made markers tree FolderStore.artifactStore
      (.ofRoot made.output tree)).processor.state
    error.isWrite = false ∧ state.tree = tree ∨
      ∃ artifacts before artifact rest cause, plannedIn made markers tree = .ok artifacts ∧
        artifacts = before ++ artifact :: rest ∧ error = .artifactWrite artifact.path cause ∧
          state.tree.file? = Files.after tree.file? (FolderStore.brokenAt
            (made.output.absolute tree.here) tree.here before artifact cause) := by
  rcases Processor.process_start (ProcessorOptions.ofHost made.config.hostOptions)
      FolderStore.artifactStore (.ofRoot made.output tree)
      (Project.scan tree made.source markers).resolution with
    ⟨failure, hplanned, houtcome, hstate⟩ |
      ⟨artifacts, hplanned, hall | ⟨before, artifact, rest, last, fault, hsplit, hbreaks⟩⟩
  · obtain rfl : failure = .round error := Except.error.inj (houtcome.symm.trans h)
    exact Or.inl ⟨Processor.isWrite_of_planned _ hplanned, congrArg FolderStore.tree hstate⟩
  · cases hall.outcome.symm.trans h
  · obtain ⟨cause, rfl, hfiles⟩ := FolderStore.files_of_breaksAt hbreaks
    have hfailure : writeFailure artifact.path (.disk cause) = .round error :=
      Except.error.inj (hbreaks.outcome.symm.trans h)
    unfold writeFailure at hfailure
    simp only at hfailure
    split at hfailure
    · obtain rfl := Failure.round.inj hfailure
      exact Or.inr ⟨artifacts, before, artifact, rest, cause, hplanned, hsplit, rfl, hfiles⟩
    · cases hfailure

/-- A run that is aborted by an error of the round leaves everything as it was, unless the error is
about the writing of a manifest. Then the manifests before that one are replaced already, so every
file is as it was exactly if the last change that the run made at each place was to what was
there. -/
theorem aborted_run_keeps_files_iff {host : Host} {options : GenerateOptions}
    {session after : Session} {error : RoundError}
    (h : (writeManifests host options).run session = (.error (.failed (.round error)), after)) :
    (error.isWrite = false → after.tree = session.tree) ∧
      (error.isWrite = true → ∃ changes, AbortsAt host options session.tree changes error ∧
        after.tree.file? = Files.after session.tree.file? changes ∧
          (after.tree.file? = session.tree.file? ↔
            ∀ front place content back, changes = front ++ (place, content) :: back →
              place ∉ back.map (·.1) → session.tree.file? place = content)) := by
  rcases writeManifests_run host options session with
    ⟨reason, hreason, -, hround⟩ | ⟨made, -, hdone⟩ |
      ⟨made, markers, hbegins, last, hlast, hrun⟩
  · rw [h] at hreason
    exact absurd (Except.error.inj hreason).symm (hround error)
  · rw [h] at hdone
    exact absurd hdone not_isUpToDate_of_round
  · rw [h] at hrun
    split at hrun
    · exact absurd hrun.symm conclude_run_ne
    · rename_i failure houtcome
      obtain ⟨hfailure, rfl⟩ := Prod.mk.inj hrun
      obtain rfl : failure = .round error :=
        (Stop.failed.inj (Except.error.inj hfailure)).symm
      rcases files_of_roundInto houtcome with
        ⟨hwrite, hstate⟩ | ⟨artifacts, before, artifact, rest, cause, hplanned, hsplit, rfl, hfiles⟩
      · exact ⟨fun _ => hlast.trans hstate, fun h => absurd (hwrite.symm.trans h) nofun⟩
      · rw [← hlast] at hfiles
        refine ⟨nofun, fun _ => ⟨_, ⟨made, markers, artifacts, before, artifact, rest, cause,
          hbegins, hplanned, hsplit, rfl, rfl⟩, hfiles, ?_⟩⟩
        rw [hfiles]
        exact Files.after_eq_self_iff

/-- Whether a run was stopped by an error of its round about the writing of a manifest. -/
def stopsAtWrite : Except Stop Unit → Bool
  | .error (.failed (.round error)) => error.isWrite
  | _ => false

/-- A run stopped that way has such an error. -/
theorem exists_of_stopsAtWrite {result : Except Stop Unit} (h : stopsAtWrite result = true) :
    ∃ error, result = .error (.failed (.round error)) ∧ error.isWrite = true := by
  unfold stopsAtWrite at h
  split at h
  · exact ⟨_, rfl, h⟩
  · cases h

/-- A project with a class that provides two interfaces. A folder lies where the manifest of the
second would be; the manifest of the first is from an earlier build. -/
def blocked : Tree :=
  ⟨[(["src"], .folder),
    (["src", "m.py"], .file ("from autoservice import auto_service\nclass I: pass\nclass J: pass\n" ++
      "@auto_service(I, J)\nclass A(I, J): pass\n").toUTF8),
    (["out"], .folder), (["out", "META-INF"], .folder), (["out", "META-INF", "services"], .folder),
    (["out", "META-INF", "services", "m.I"], .file "m.Old\n".toUTF8),
    (["out", "META-INF", "services", "m.J"], .folder)], []⟩

/-- Where manifests are generated for the blocked project. -/
def blockedHost : Host := ⟨blocked, [], ⟨0, 0, 0, ""⟩, "", ""⟩

/-- The options to generate manifests from `src` into `out`. -/
def blockedOptions : GenerateOptions := ⟨".", some "src", some "out", none, false, false, []⟩

/-- Generating manifests for the blocked project. -/
def blockedRun : Except Stop Unit × Session :=
  (writeManifests blockedHost blockedOptions).run ⟨blocked, [], ""⟩

/-- The run is aborted at the second manifest and has replaced the first by then. -/
theorem blockedRun_replaces_manifest :
    (∃ error changes, blockedRun.1 = .error (.failed (.round error)) ∧
      AbortsAt blockedHost blockedOptions blocked changes error ∧
        blockedRun.2.tree.file? = Files.after blocked.file? changes) ∧
    blocked.file? ["out", "META-INF", "services", "m.I"] = some "m.Old\n".toUTF8 ∧
      blockedRun.2.tree.file? ["out", "META-INF", "services", "m.I"] = some "m.A\n".toUTF8 := by
  have haborted : stopsAtWrite blockedRun.1 = true := by decide +kernel
  refine ⟨?_, by decide +kernel, by decide +kernel⟩
  obtain ⟨error, hstop, hwrite⟩ := exists_of_stopsAtWrite haborted
  have hrun : (writeManifests blockedHost blockedOptions).run ⟨blocked, [], ""⟩ =
      (.error (.failed (.round error)), blockedRun.2) := Prod.ext hstop rfl
  obtain ⟨changes, haborts, hfiles, -⟩ := (aborted_run_keeps_files_iff hrun).2 hwrite
  exact ⟨error, changes, hstop, haborts, hfiles⟩

end ServiceManifest.Command
