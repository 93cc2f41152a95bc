import ServiceManifest.Proofs.Command.Session

/-!
# What is known before manifests are written

A preparation only reads, so it is a function of the files. It fails with a fault or because there
is no source root, but never with an error of the round.
-/

namespace ServiceManifest.Command

open Project

/-- What a preparation finds in a tree. -/
structure Prepares (host : Host) (options : GenerateOptions) (tree : Disk.Tree)
    (made : Preparation) : Prop where
  config : ∃ loaded, (Config.load tree host.environment options.root).outcome = .ok loaded ∧
    made.config = withSwitches loaded options.verify options.verbose
  source : made.source = made.config.sources options.root options.src
  output : made.output = made.config.output options.root options.out
  stateFile : made.stateFile = made.config.stateFile options.root
  folder : tree.isFolder? made.source = .ok true
  previous : (Build.State.load tree made.stateFile).outcome = .ok made.previous
  digests : ∃ found, discover tree made.source = .ok found ∧
    Digest.snapshot tree made.source found.units = .ok made.digests
  fingerprint : made.config.fingerprint options.markers = .ok made.fingerprint

/-- Whether a source root is a folder, as a stop if it is none. -/
def sourcesIn (source : Path) (tree : Disk.Tree) : Except Stop Unit :=
  (faulty ((tree.isFolder? source).mapError .disk)).bind fun isFolder =>
    if isFolder then .ok ()
    else .error (.refused ("Source root not found: " ++ source.toString))

/-- The digests of the sources below a root, or the stop that they meet with. -/
def snapshotIn (source : Path) (tree : Disk.Tree) : Except Stop (Keyed String) :=
  (faulty ((discover tree source).mapError .disk)).bind fun found =>
    faulty ((Digest.snapshot tree source found.units).mapError .disk)

/-- The preparation in a tree, or the stop that it meets with. -/
def preparedIn (host : Host) (options : GenerateOptions) (tree : Disk.Tree) :
    Except Stop Preparation :=
  (faulty (Config.load tree host.environment options.root).outcome).bind fun loaded =>
    let config := withSwitches loaded options.verify options.verbose
    let source := config.sources options.root options.src
    let stateFile := config.stateFile options.root
    (sourcesIn source tree).bind fun _ =>
      (faulty (Build.State.load tree stateFile).outcome).bind fun previous =>
        (snapshotIn source tree).bind fun digests =>
          (faulty ((config.fingerprint options.markers).mapError .type)).bind fun fingerprint =>
            .ok ⟨config, source, config.output options.root options.out, stateFile, previous,
              digests, fingerprint⟩

/-- Asking for the source root only reads. -/
theorem reads_requireSources (source : Path) :
    Action.Reads (requireSources source) (sourcesIn source) := by
  unfold requireSources
  exact (Action.reads_files.bind fun tree =>
    (Action.reads_orDisk (tree.isFolder? source)).bind fun isFolder =>
      (Action.reads_pure ()).ite (Action.reads_stop _)).congr fun _ => rfl

/-- Taking a snapshot of the sources only reads. -/
theorem reads_takeSnapshot (source : Path) :
    Action.Reads (takeSnapshot source) (snapshotIn source) := by
  unfold takeSnapshot
  exact (Action.reads_files.bind fun tree =>
    (Action.reads_orDisk (discover tree source)).bind fun found =>
      (Action.reads_log found.records).bind fun _ =>
        Action.reads_orDisk (Digest.snapshot tree source found.units)).congr fun _ => rfl

/-- A preparation only reads. -/
theorem reads_prepare (host : Host) (options : GenerateOptions) :
    Action.Reads (prepare host options) (preparedIn host options) := by
  unfold prepare loadConfig
  exact ((Action.reads_files.bind fun tree =>
    Action.reads_attempt (Config.load tree host.environment options.root)).bind fun _ =>
      (reads_requireSources _).bind fun _ =>
        Action.reads_files.bind fun _ => (Action.reads_attempt _).bind fun _ =>
          (reads_takeSnapshot _).bind fun _ =>
            (Action.reads_orFault _).bind fun _ => Action.reads_pure _).congr fun _ => rfl

section Bind

variable {α β : Type}

/-- What follows a result that is there comes to a value exactly if both do. -/
theorem bind_eq_ok_iff {result : Except Stop α} {next : α → Except Stop β} {value : β} :
    result.bind next = .ok value ↔ ∃ found, result = .ok found ∧ next found = .ok value := by
  cases result <;> simp [Except.bind]

/-- A stop comes from a result or from what follows it. -/
theorem bind_eq_error_iff {result : Except Stop α} {next : α → Except Stop β} {reason : Stop} :
    result.bind next = .error reason ↔
      result = .error reason ∨ ∃ found, result = .ok found ∧ next found = .error reason := by
  cases result <;> simp [Except.bind]

/-- A result without a fault is its value. -/
@[simp] theorem faulty_eq_ok_iff {result : Except Fault α} {value : α} :
    faulty result = .ok value ↔ result = .ok value := by
  cases result <;> constructor <;> intro h <;> cases h <;> rfl

/-- The stop that a fault makes is no error of the round. -/
theorem not_round_of_faulty {result : Except Fault α} {reason : Stop}
    (h : faulty result = .error reason) (error : RoundError) : reason ≠ .failed (.round error) := by
  cases result <;> cases h
  nofun

/-- Another wording of the fault does not change a value. -/
@[simp] theorem mapError_eq_ok_iff {ε δ : Type} {change : ε → δ} {result : Except ε α} {value : α} :
    result.mapError change = .ok value ↔ result = .ok value := by
  cases result <;> constructor <;> intro h <;> cases h <;> rfl

end Bind

/-- A preparation comes to what is found in the tree. -/
theorem preparedIn_eq_ok_iff {host : Host} {options : GenerateOptions} {tree : Disk.Tree}
    {made : Preparation} :
    preparedIn host options tree = .ok made ↔ Prepares host options tree made := by
  simp only [preparedIn, sourcesIn, snapshotIn, bind_eq_ok_iff, faulty_eq_ok_iff,
    mapError_eq_ok_iff, Except.ok.injEq]
  constructor
  · rintro ⟨loaded, hloaded, _, ⟨isFolder, hfolder, hpresent⟩, previous, hprevious, digests,
      hdigests, fingerprint, hfingerprint, rfl⟩
    cases isFolder
    · cases hpresent
    · exact ⟨⟨loaded, hloaded, rfl⟩, rfl, rfl, rfl, hfolder, hprevious, hdigests, hfingerprint⟩
  · rintro ⟨⟨loaded, hloaded, hconfig⟩, hsource, houtput, hstateFile, hfolder, hprevious, hdigests,
      hfingerprint⟩
    obtain ⟨config, source, output, stateFile, previous, digests, fingerprint⟩ := made
    simp only at hconfig hsource houtput hstateFile hfolder hprevious hdigests hfingerprint
    subst hconfig hsource houtput hstateFile
    exact ⟨loaded, hloaded, (), ⟨true, hfolder, rfl⟩, previous, hprevious, digests, hdigests,
      fingerprint, hfingerprint, rfl⟩

/-- What is prepared is found in the tree, so nothing else is prepared there. -/
theorem Prepares.unique {host : Host} {options : GenerateOptions} {tree : Disk.Tree}
    {made other : Preparation} (h : Prepares host options tree made)
    (hother : Prepares host options tree other) : made = other :=
  Except.ok.inj ((preparedIn_eq_ok_iff.mpr h).symm.trans (preparedIn_eq_ok_iff.mpr hother))

/-- A preparation never stops with an error of the round. -/
theorem not_round_of_preparedIn {host : Host} {options : GenerateOptions} {tree : Disk.Tree}
    {reason : Stop} (h : preparedIn host options tree = .error reason) (error : RoundError) :
    reason ≠ .failed (.round error) := by
  simp only [preparedIn, sourcesIn, snapshotIn, bind_eq_error_iff] at h
  rcases h with h | ⟨_, -, (h | ⟨isFolder, -, h⟩) |
    ⟨_, -, h | ⟨_, -, (h | ⟨_, -, h⟩) | ⟨_, -, h | ⟨_, -, h⟩⟩⟩⟩⟩
  · exact not_round_of_faulty h error
  · exact not_round_of_faulty h error
  · cases isFolder <;> cases h
    nofun
  · exact not_round_of_faulty h error
  · exact not_round_of_faulty h error
  · exact not_round_of_faulty h error
  · exact not_round_of_faulty h error
  · cases h

end ServiceManifest.Command
