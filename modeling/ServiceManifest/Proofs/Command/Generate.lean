import ServiceManifest.Proofs.Command.Prepare
import ServiceManifest.Proofs.Round.Agree

/-!
# How a run of `generate` goes

A run prepares; an incremental one may then find that nothing has to be done. Otherwise it runs a
round, and only a round that succeeds is concluded: obsolete manifests are removed and the build is
recorded. An error of the round can come from nowhere but the round.
-/

namespace ServiceManifest.Command

open Project

namespace Action

variable {α β : Type}

/-- An action that never stops with an error of the round. -/
def NeverRound (action : Action α) : Prop :=
  ∀ session error, (action.run session).1 ≠ .error (.failed (.round error))

/-- An action that reads never stops with an error of the round if what it reads does not. -/
theorem Reads.neverRound {action : Action α} {value : Disk.Tree → Except Stop α}
    (h : Reads action value)
    (hvalue : ∀ tree error, value tree ≠ .error (.failed (.round error))) : NeverRound action := by
  intro session error
  obtain ⟨after, -, hrun⟩ := h session
  rw [hrun]
  exact hvalue session.tree error

/-- Replacing the files never stops. -/
theorem neverRound_setFiles (tree : Disk.Tree) : NeverRound (setFiles tree) :=
  fun _ _ => nofun

/-- Logging never stops. -/
theorem neverRound_log (records : List Log.Record) : NeverRound (log records) :=
  (reads_log records).neverRound fun _ _ => nofun

/-- A result stops with its fault at most. -/
theorem neverRound_orFault (result : Except Fault α) : NeverRound (orFault result) :=
  (reads_orFault result).neverRound fun _ error h => not_round_of_faulty h error rfl

/-- An access to the disk stops with its fault at most. -/
theorem neverRound_orDisk (result : Except Disk.Fault α) : NeverRound (orDisk result) :=
  neverRound_orFault _

/-- Printing stops with a fault at most. -/
theorem neverRound_print (printed : Console.Printed) : NeverRound (print printed) := by
  cases printed with
  | ok text => exact (reads_printText text).neverRound fun _ _ => nofun
  | error cause => exact (reads_stop _).neverRound fun _ _ => nofun

/-- Actions that never stop with an error of the round may follow each other. -/
theorem NeverRound.bind {action : Action α} {next : α → Action β} (haction : NeverRound action)
    (hnext : ∀ found, NeverRound (next found)) : NeverRound (action >>= next) := by
  intro session error
  rw [run_bind]
  cases hrun : action.run session with
  | mk result after =>
    cases result with
    | ok found => exact hnext found after error
    | error reason =>
      have hreason := haction session error
      rw [hrun] at hreason
      intro hstop
      exact hreason (congrArg Except.error (Except.error.inj hstop))

/-- Printing in order stops with a fault at most. -/
theorem neverRound_printAll (pieces : List Console.Printed) : NeverRound (printAll pieces) := by
  induction pieces with
  | nil => exact (reads_pure ()).neverRound fun _ _ => nofun
  | cons first rest ih => exact (neverRound_print first).bind fun _ => ih

end Action

/-- What follows a round that succeeded never stops with an error of the round. -/
theorem neverRound_conclude (made : Preparation) (artifacts : List Artifact) (store : FolderStore) :
    Action.NeverRound (conclude made artifacts store) := by
  unfold conclude
  refine (Action.neverRound_log _).bind fun _ => (Action.neverRound_setFiles _).bind fun _ => ?_
  split
  · exact (Action.reads_stop _).neverRound fun _ _ => nofun
  · exact (Action.neverRound_setFiles _).bind fun _ => (Action.neverRound_orDisk _).bind fun _ =>
      (Action.neverRound_setFiles _).bind fun _ => (Action.neverRound_printAll _).bind fun _ =>
        Action.neverRound_print _

/-- The round of a preparation over a store. -/
def roundInto {σ : Type} (made : Preparation) (markers : List String) (tree : Disk.Tree)
    (store : ArtifactStore σ) (state : σ) : Answer σ (List Artifact) :=
  (Processor.start (ProcessorOptions.ofHost made.config.hostOptions) store state).process
    (scan tree made.source markers).resolution

/-- The manifests that the round of a preparation makes in memory. -/
def plannedIn (made : Preparation) (markers : List String) (tree : Disk.Tree) :
    Except Failure (List Artifact) :=
  Processor.planned (ProcessorOptions.ofHost made.config.hostOptions)
    (scan tree made.source markers).resolution

/-- A round leaves the files that its store says, whether it succeeds or not. -/
theorem runRound_run {σ : Type} (made : Preparation) (markers : List String)
    (store : ArtifactStore σ) (state : σ) (place : σ → Disk.Tree) (session : Session) :
    let answer := roundInto made markers session.tree store state
    ∃ after, after.tree = place answer.processor.state ∧
      (runRound made.config made.source markers store state fun state =>
          Action.setFiles (place state)).run session =
        (match answer.outcome with
          | .ok artifacts => .ok (artifacts, answer.processor.state)
          | .error failure => .error (.failed failure), after) := by
  unfold runRound roundInto
  simp only [Action.run_bind, Action.run_files, Action.run_log, Action.run_setFiles]
  cases ((Processor.start (ProcessorOptions.ofHost made.config.hostOptions) store state).process
      (scan session.tree made.source markers).resolution).outcome with
  | error failure => exact ⟨_, rfl, rfl⟩
  | ok artifacts => exact ⟨_, rfl, rfl⟩

/-- The plan of a preparation for the files of a tree. -/
def planIn (made : Preparation) (tree : Disk.Tree) : Except Fault Build.Plan :=
  Build.plan made.previous (Build.sourceSection made.digests) (some (tree, made.output))
    (some made.fingerprint)

/-- A run that comes to its round: what it has found out by then. -/
structure Begins (host : Host) (options : GenerateOptions) (tree : Disk.Tree) (made : Preparation)
    (markers : List String) : Prop where
  prepares : Prepares host options tree made
  outdated : options.incremental = true → ∃ plan, planIn made tree = .ok plan ∧
    plan.isUpToDate = false
  markers : made.config.markerNames options.markers = .ok markers
  output : made.output.hasNul = false

/-- A run that stops before its round: the files are as they were, and the reason is no error of the
round. -/
def StopsEarly (tree : Disk.Tree) (run : Except Stop Unit × Session) : Prop :=
  ∃ reason, run.1 = .error reason ∧ run.2.tree = tree ∧ ∀ error, reason ≠ .failed (.round error)

/-- A run that finds that there is nothing to do: it says so and leaves the files as they were. -/
structure IsUpToDate (made : Preparation) (options : GenerateOptions) (tree : Disk.Tree)
    (run : Except Stop Unit × Session) : Prop where
  incremental : options.incremental = true
  plan : ∃ plan, planIn made tree = .ok plan ∧ plan.isUpToDate = true
  run : ∃ before, before.tree = tree ∧
    run = (Action.print (Console.success upToDateMessage)).run before

/-- A run that finds that there is nothing to do succeeds. -/
theorem IsUpToDate.succeeds {made : Preparation} {options : GenerateOptions} {tree : Disk.Tree}
    {run : Except Stop Unit × Session} (h : IsUpToDate made options tree run) :
    run.1 = .ok () ∧ run.2.tree = tree := by
  obtain ⟨before, hbefore, rfl⟩ := h.run
  obtain ⟨after, hprint, hafter⟩ := Action.run_print_eq_ok
    (by decide +kernel : (Console.success upToDateMessage).isOk = true) before
  rw [hprint]
  exact ⟨rfl, hafter.trans hbefore⟩

/-- A run that begins its round does not find that there is nothing to do. -/
theorem Begins.not_isUpToDate {host : Host} {options : GenerateOptions} {tree : Disk.Tree}
    {made : Preparation} {markers : List String} {run : Except Stop Unit × Session}
    (hbegins : Begins host options tree made markers) : ¬IsUpToDate made options tree run := by
  intro h
  obtain ⟨plan, hplan, hdone⟩ := h.plan
  obtain ⟨found, hfound, hpending⟩ := hbegins.outdated h.incremental
  rw [Except.ok.inj (hfound.symm.trans hplan), hdone] at hpending
  cases hpending

/-- A run that comes to its round: it stops with the failure of the round or is concluded, and in
both cases has the files of the store then. -/
def RunsRound (made : Preparation) (markers : List String) (tree : Disk.Tree)
    (run : Except Stop Unit × Session) : Prop :=
  let answer := roundInto made markers tree FolderStore.artifactStore (.ofRoot made.output tree)
  ∃ after, after.tree = answer.processor.state.tree ∧
    run = match answer.outcome with
      | .ok artifacts => (conclude made artifacts answer.processor.state).run after
      | .error failure => (.error (.failed failure), after)

/-- Making manifests again stops before the round or runs it. -/
theorem regenerate_run (made : Preparation) (extra : List String) {tree : Disk.Tree}
    {session : Session} (htree : session.tree = tree) :
    StopsEarly tree ((regenerate made extra).run session) ∨
      ∃ markers, made.config.markerNames extra = .ok markers ∧ made.output.hasNul = false ∧
        RunsRound made markers tree ((regenerate made extra).run session) := by
  subst htree
  unfold regenerate
  simp only [Action.run_bind]
  obtain ⟨second, hsecond, hmarkersRun⟩ := Action.reads_orFault
    ((made.config.markerNames extra).mapError .type) session
  rw [hmarkersRun]
  cases hmarkers : made.config.markerNames extra with
  | error cause => exact Or.inl ⟨_, rfl, hsecond, fun _ h => by cases h⟩
  | ok markers =>
    simp only [faulty, Except.mapError, Action.run_files, hsecond]
    obtain ⟨third, hthird, hstoreRun⟩ := Action.reads_orDisk
      (FolderStore.openAt made.output session.tree) second
    rw [hstoreRun]
    cases houtput : made.output.hasNul with
    | true =>
      simp only [FolderStore.openAt, houtput, if_true]
      exact Or.inl ⟨_, rfl, hthird.trans hsecond, fun _ h => by cases h⟩
    | false =>
      simp only [FolderStore.openAt, houtput, Bool.false_eq_true, if_false, faulty, Except.mapError]
      obtain ⟨after, hafter, hround⟩ := runRound_run made markers FolderStore.artifactStore
        (.ofRoot made.output session.tree) (·.tree) third
      rw [hround]
      rw [hthird, hsecond] at hafter ⊢
      refine Or.inr ⟨markers, rfl, trivial, after, hafter, ?_⟩
      cases (roundInto made markers session.tree FolderStore.artifactStore
        (.ofRoot made.output session.tree)).outcome <;> rfl

/-- A run that is prepared stops before its round, finds that there is nothing to do, or runs its
round because it is not incremental or not everything is up to date. -/
theorem proceed_run (made : Preparation) (options : GenerateOptions) (session : Session) :
    StopsEarly session.tree ((proceed made options).run session) ∨
      IsUpToDate made options session.tree ((proceed made options).run session) ∨
        (options.incremental = true → ∃ plan, planIn made session.tree = .ok plan ∧
            plan.isUpToDate = false) ∧
          ∃ markers, made.config.markerNames options.markers = .ok markers ∧
            made.output.hasNul = false ∧
              RunsRound made markers session.tree ((proceed made options).run session) := by
  unfold proceed
  split
  · rename_i hincremental
    simp only [Action.run_bind, Action.run_files]
    obtain ⟨second, hsecond, hplanRun⟩ := Action.reads_orFault (planIn made session.tree) session
    rw [planIn] at hplanRun
    rw [hplanRun]
    cases hplan : planIn made session.tree with
    | error cause =>
      rw [planIn] at hplan
      simp only [hplan]
      exact Or.inl ⟨_, rfl, hsecond, fun _ => nofun⟩
    | ok plan =>
      rw [planIn] at hplan
      simp only [hplan, faulty, Except.mapError]
      split
      · rename_i hdone
        exact Or.inr (Or.inl ⟨hincremental, ⟨plan, hplan, hdone⟩, second, hsecond, rfl⟩)
      · rename_i hpending
        simp only [Action.run_bind, Action.run_log]
        have hlogged : { second with records :=
            second.records ++ [Log.plain .info (pendingMessage plan)] }.tree = session.tree := hsecond
        refine (regenerate_run made options.markers hlogged).imp_right fun hround =>
          Or.inr ⟨fun _ => ⟨plan, rfl, ?_⟩, hround⟩
        simpa using hpending
  · rename_i hfull
    exact (regenerate_run made options.markers rfl).imp_right fun hround =>
      Or.inr ⟨fun h => absurd h hfull, hround⟩

/-- A run of `generate` stops before its round, finds that there is nothing to do, or runs its
round. -/
theorem writeManifests_run (host : Host) (options : GenerateOptions) (session : Session) :
    StopsEarly session.tree ((writeManifests host options).run session) ∨
      (∃ made, Prepares host options session.tree made ∧
          IsUpToDate made options session.tree ((writeManifests host options).run session)) ∨
        ∃ made markers, Begins host options session.tree made markers ∧
          RunsRound made markers session.tree ((writeManifests host options).run session) := by
  unfold writeManifests
  rw [Action.run_bind]
  obtain ⟨second, hsecond, hprepare⟩ := reads_prepare host options session
  rw [hprepare]
  cases hmade : preparedIn host options session.tree with
  | error reason => exact Or.inl ⟨reason, rfl, hsecond, not_round_of_preparedIn hmade⟩
  | ok made =>
    have hprepares : Prepares host options session.tree made := preparedIn_eq_ok_iff.mp hmade
    have hproceed := proceed_run made options second
    rw [hsecond] at hproceed
    rcases hproceed with hearly | hdone | ⟨houtdated, markers, hmarkers, houtput, hround⟩
    · exact Or.inl hearly
    · exact Or.inr (Or.inl ⟨made, hprepares, hdone⟩)
    · exact Or.inr (Or.inr ⟨made, markers, ⟨hprepares, houtdated, hmarkers, houtput⟩, hround⟩)

/-- An incremental run whose plan is up to date says so and does nothing else. -/
theorem writeManifests_of_isUpToDate {host : Host} {options : GenerateOptions} {session : Session}
    {made : Preparation} {plan : Build.Plan} (hprepares : Prepares host options session.tree made)
    (hincremental : options.incremental = true) (hplan : planIn made session.tree = .ok plan)
    (hdone : plan.isUpToDate = true) :
    ∃ before, before.tree = session.tree ∧ (writeManifests host options).run session =
      (Action.print (Console.success upToDateMessage)).run before := by
  obtain ⟨second, hsecond, hprepare⟩ := reads_prepare host options session
  obtain ⟨third, hthird, hplanRun⟩ := Action.reads_orFault (planIn made session.tree) second
  rw [planIn] at hplan hplanRun
  refine ⟨third, hthird.trans hsecond, ?_⟩
  unfold writeManifests proceed
  rw [Action.run_bind, hprepare, preparedIn_eq_ok_iff.mpr hprepares]
  simp only [hincremental, if_true, Action.run_bind, Action.run_files, hsecond]
  rw [hplanRun, hplan]
  simp only [faulty, Except.mapError, hdone, if_true]

end ServiceManifest.Command
