import ServiceManifest.Proofs.Round.Emitted
import ServiceManifest.Proofs.Store.Stream

/-!
# An emission that breaks off

A store that hands out streams may fail at any point of an emission: when a block is entered, at any piece
that is written, or when a block is left. The manifests that come before are then complete, nothing is
asked for that comes behind, and the fault is reported as it is, or as the failure to write its manifest
if it is a failed access. This is read off a record that does not change the emission.
-/

namespace ServiceManifest

open StreamStore

/-- What is asked for and comes of it when a manifest is written without a fault. -/
def Artifact.exchanges (artifact : Artifact) : List Exchange := whole artifact.path artifact.pieces

/-- How a fault in writing an artifact is reported: a failed access as the failure to write it, which has
the access as its cause, and any other fault as it is. -/
inductive Reported (path : String) : Fault → Failure → Prop
  | access {cause : Disk.Fault} (hfailed : cause.isFailedAccess = true) :
    Reported path (.disk cause) (.round (.artifactWrite path cause))
  | other {fault : Fault} (hother : ∀ cause, fault = .disk cause → cause.isFailedAccess = false) :
    Reported path fault (.fault fault)

/-- A fault is reported as what it means for the round. -/
theorem reported_writeFailure (path : String) (fault : Fault) :
    Reported path fault (writeFailure path fault) := by
  cases fault with
  | disk cause =>
    rw [writeFailure]
    split
    · exact .access ‹_›
    · rename_i hfailed
      refine .other fun other hother => ?_
      cases hother
      exact Bool.eq_false_iff.mpr hfailed
  | _ => exact .other nofun

/-- An error of the round is reported for an access that failed. -/
theorem Reported.of_round {path : String} {fault : Fault} {error : RoundError}
    (h : Reported path fault (.round error)) :
    ∃ cause, fault = .disk cause ∧ error = .artifactWrite path cause := by
  cases h with
  | access => exact ⟨_, rfl, rfl⟩

/-- An emission, seen through a function of the state of its store. -/
def Emission.onState {σ τ : Type} (f : σ → τ) (emission : Emission σ) : Emission τ :=
  ⟨emission.artifacts, emission.notes, f emission.state, emission.grouping, emission.failure⟩

section Recorded

variable {σ : Type} {store : StreamStore σ} {registered : σ → String → Prop}

/-- A record does not change an emission. -/
theorem emitEach_recorded (artifacts : List Artifact) (done : Emission (σ × List Exchange)) :
    (emitEach store.recorded.artifactStore artifacts done).onState Prod.fst =
      emitEach store.artifactStore artifacts (done.onState Prod.fst) := by
  induction artifacts generalizing done with
  | nil => rfl
  | cons artifact rest ih =>
    obtain ⟨exchanges, hcreate, -⟩ := recorded_create store done.state.1 artifact.dependencies
      artifact.path artifact.pieces done.state.2
    have hrecorded : store.recorded.artifactStore.create done.state artifact.dependencies artifact.path
        artifact.pieces = _ := hcreate
    have hplain : store.artifactStore.create (done.onState Prod.fst).state artifact.dependencies
        artifact.path artifact.pieces =
          store.create done.state.1 artifact.dependencies artifact.path artifact.pieces := rfl
    rw [emitEach, emitEach, hrecorded, hplain]
    simp only
    cases (store.create done.state.1 artifact.dependencies artifact.path artifact.pieces).fault with
    | some fault => rfl
    | none => exact ih _

/-- Manifests that are created are written completely, and no more is asked for. -/
theorem record_of_creates {artifacts : List Artifact} {state last : σ × List Exchange}
    (h : Creates store.recorded.artifactStore state artifacts last) :
    Creates store.artifactStore state.1 artifacts last.1 ∧
      last.2 = state.2 ++ artifacts.flatMap (·.exchanges) := by
  induction h with
  | nil state => exact ⟨.nil _, by simp⟩
  | @cons state last artifact rest hcreate hrest ih =>
    obtain ⟨exchanges, hrecorded, hended⟩ := recorded_create store state.1 artifact.dependencies
      artifact.path artifact.pieces state.2
    have hcreated : store.recorded.artifactStore.create state artifact.dependencies artifact.path
        artifact.pieces = _ := hrecorded
    rw [hcreated] at hcreate ih
    obtain ⟨-, rfl⟩ | ⟨fault, raised, -, hfault⟩ := hended
    · exact ⟨.cons hcreate ih.1, by rw [ih.2]; simp [Artifact.exchanges]⟩
    · cases hcreate.symm.trans hfault

/-- Of the paths that are registered after manifests were created, those of other artifacts were
registered before. -/
theorem registered_of_creates (hstrict : store.IsStrict registered) {artifacts : List Artifact}
    {state last : σ} (h : Creates store.artifactStore state artifacts last) {path : String}
    (hpath : ∀ artifact ∈ artifacts, artifact.path ≠ path) (hlast : registered last path) :
    registered state path := by
  induction h with
  | nil => exact hlast
  | cons hcreate _ ih =>
    obtain ⟨hfirst, hrest⟩ := List.forall_mem_cons.mp hpath
    obtain hsame | hbefore := hstrict.added _ _ _ _ path hcreate (ih hrest hlast)
    · exact absurd hsame.symm hfirst
    · exact hbefore

/-- Of all blocks only that of the artifact is entered while it breaks off. -/
theorem StreamStore.BreaksOff.path_of_enter {path other : String} {pieces : List String}
    {exchanges : List Exchange} {fault raised : Fault}
    (h : store.BreaksOff path pieces exchanges fault raised) {ended : Option Fault}
    (hmem : ⟨.enter other, ended⟩ ∈ exchanges) : other = path := by
  cases h <;> simp [written] at hmem <;> tauto

/-- What is raised by a strict store is what broke the block off. -/
theorem StreamStore.IsStrict.raised_eq (hstrict : store.IsStrict registered) {path : String}
    {pieces : List String} {exchanges : List Exchange} {fault raised : Fault}
    (h : store.BreaksOff path pieces exchanges fault raised) : raised = fault := by
  cases h with
  | entering => rfl
  | writing _ _ block => exact hstrict.raises block fault
  | leaving => rfl

/-- An emission that stops at a manifest has written those before it completely, and the manifest breaks
off with the fault that is reported. What is registered in the end was so before. -/
theorem record_of_stopsAt (hstrict : store.IsStrict registered) {state : σ × List Exchange}
    {before : List Artifact} {artifact : Artifact} {emission : Emission (σ × List Exchange)}
    (h : StopsAt store.recorded.artifactStore state before artifact emission) :
    ∃ last exchanges fault, Creates store.artifactStore state.1 before last ∧
      store.BreaksOff artifact.path artifact.pieces exchanges fault fault ∧
      emission.state.2 = state.2 ++ before.flatMap (·.exchanges) ++ exchanges ∧
      (∀ path, registered emission.state.1 path → registered last path) ∧
      emission.failure = some (writeFailure artifact.path fault) := by
  obtain ⟨last, raised, hcreates, hfault, hstate, hfailure⟩ := h
  obtain ⟨hbefore, hrecord⟩ := record_of_creates hcreates
  obtain ⟨exchanges, hcreate, hended⟩ := recorded_create store last.1 artifact.dependencies
    artifact.path artifact.pieces last.2
  have hcreated : store.recorded.artifactStore.create last artifact.dependencies artifact.path
      artifact.pieces = _ := hcreate
  rw [hcreated] at hfault hstate
  obtain ⟨hwhole, -⟩ | ⟨fault, other, hbreaks, hother⟩ := hended
  · cases hwhole.symm.trans hfault
  · obtain rfl : other = raised := Option.some.inj (hother.symm.trans hfault)
    obtain rfl : other = fault := hstrict.raised_eq hbreaks
    refine ⟨last.1, exchanges, other, hbefore, hbreaks, by rw [hstate, hrecord], ?_, hfailure⟩
    intro path hregistered
    rw [hstate] at hregistered
    exact hstrict.kept _ _ _ _ path (hfault ▸ Option.some_ne_none _) hregistered

end Recorded

/-- A block that is entered while an artifact is written is that of the artifact. -/
theorem Artifact.path_of_enter {artifact : Artifact} {other : String} {ended : Option Fault}
    (h : ⟨.enter other, ended⟩ ∈ artifact.exchanges) : other = artifact.path := by
  have hpath : other = artifact.path ∧ ended = none := by simpa [exchanges, whole, written] using h
  exact hpath.1

/-- Manifests before another one have smaller interfaces than it, and those behind it have larger
ones. -/
theorem AreManifests.around {before after : List Artifact} {artifact : Artifact}
    (h : AreManifests (before ++ artifact :: after)) :
    (∀ smaller ∈ before, smaller.interface < artifact.interface) ∧
      ∀ larger ∈ after, artifact.interface < larger.interface := by
  have hpairwise := h.ascending
  rw [List.map_append, List.map_cons, List.pairwise_append] at hpairwise
  obtain ⟨-, hafter, hacross⟩ := hpairwise
  refine ⟨fun smaller hsmaller => ?_, fun larger hlarger => ?_⟩
  · exact hacross _ (List.mem_map_of_mem hsmaller) _ List.mem_cons_self
  · exact (List.pairwise_cons.mp hafter).1 _ (List.mem_map_of_mem hlarger)

/-- No manifest has the path of one that comes before it. -/
theorem AreManifests.path_ne_of_append {front back : List Artifact}
    (h : AreManifests (front ++ back)) {artifact other : Artifact} (hartifact : artifact ∈ front)
    (hother : other ∈ back) : artifact.path ≠ other.path := by
  have hnodup := h.nodup_path
  rw [List.map_append, List.nodup_append] at hnodup
  exact hnodup.2.2 _ (List.mem_map_of_mem hartifact) _ (List.mem_map_of_mem hother)

/-- An emission to a store that registers an artifact only when its block is left without a fault, and
that raises again what a block is abandoned for, empties the grouping. A record does not change it, and
shows that either every manifest is written, in order and completely, or one of them breaks off. Then all
smaller ones were written completely, the one is not registered, no larger one is ever opened, and what
is reported is the fault that broke it off. -/
theorem emission_breaks_off_at_first_fault {σ : Type} (store : StreamStore σ)
    {registered : σ → String → Prop} (hstrict : store.IsStrict registered)
    (contributions : List (String × Contribution)) (state : σ) :
    let grouping := Grouping.filed contributions
    let emission := emit store.artifactStore grouping state
    let traced := emit store.recorded.artifactStore grouping (state, [])
    emission.grouping = .empty ∧
      emission = traced.onState Prod.fst ∧
      (emission.failure = none ∧ traced.state.2 = grouping.artifacts.flatMap (·.exchanges) ∨
        ∃ before artifact after exchanges fault failure,
          grouping.artifacts = before ++ artifact :: after ∧
          (∀ smaller ∈ before, smaller.interface < artifact.interface) ∧
          (∀ larger ∈ after, artifact.interface < larger.interface) ∧
          store.BreaksOff artifact.path artifact.pieces exchanges fault fault ∧
          traced.state.2 = before.flatMap (·.exchanges) ++ exchanges ∧
          (∀ larger ∈ after, ∀ ended, ⟨.enter larger.path, ended⟩ ∉ traced.state.2) ∧
          (registered emission.state artifact.path → registered state artifact.path) ∧
          Reported artifact.path fault failure ∧ emission.failure = some failure) := by
  intro grouping emission traced
  have hforget : emission = traced.onState Prod.fst :=
    (emitEach_recorded grouping.artifacts ⟨[], [], (state, []), .empty, none⟩).symm
  refine ⟨emitEach_grouping _ _ _, hforget, ?_⟩
  rcases emit_outcome store.recorded.artifactStore grouping (state, []) with
    ⟨⟨hcreates, hnone⟩, -⟩ | ⟨before, artifact, after, hsplit, hstops⟩
  · refine Or.inl ⟨?_, (record_of_creates hcreates).2⟩
    rw [hforget]
    exact hnone
  · obtain ⟨last, exchanges, fault, hbefore, hbreaks, hrecord, hregistered, hfailure⟩ :=
      record_of_stopsAt hstrict hstops
    have hmanifests : AreManifests (before ++ artifact :: after) :=
      hsplit ▸ Grouping.areManifests (Grouping.isOrdered_filed contributions)
    have hlarger : ∀ smaller ∈ before ++ [artifact], ∀ larger ∈ after, smaller.path ≠ larger.path :=
      fun _ hsmaller _ => (List.append_cons _ _ _ ▸ hmanifests).path_ne_of_append hsmaller
    have hsmaller : ∀ smaller ∈ before, smaller.path ≠ artifact.path :=
      fun _ hsmaller => hmanifests.path_ne_of_append hsmaller List.mem_cons_self
    refine Or.inr ⟨before, artifact, after, exchanges, fault, _, hsplit, hmanifests.around.1,
      hmanifests.around.2, hbreaks, hrecord, ?_, ?_, reported_writeFailure _ _, ?_⟩
    · intro larger hmem ended hentered
      rw [hrecord, List.nil_append, List.mem_append, List.mem_flatMap] at hentered
      obtain ⟨smaller, hmember, hentered⟩ | hentered := hentered
      · exact hlarger smaller (List.mem_append_left _ hmember) larger hmem
          (Artifact.path_of_enter hentered).symm
      · exact hlarger artifact List.mem_concat_self larger hmem (hbreaks.path_of_enter hentered).symm
    · intro hlast
      rw [hforget] at hlast
      exact registered_of_creates hstrict hbefore hsmaller (hregistered artifact.path hlast)
    · rw [hforget]
      exact hfailure

/-- Three interfaces with a provider each. -/
def threeInterfaces : List (String × Contribution) :=
  [("m.C", "m.Z", ⟨"m.py", "m"⟩), ("m.A", "m.X", ⟨"m.py", "m"⟩), ("m.B", "m.Y", ⟨"m.py", "m"⟩)]

/-- A store with a folder at the place of the manifest of the second of them. -/
def blockedStore : FolderStore :=
  .ofRoot ⟨"", ["out"]⟩
    ⟨[(["out"], .folder), (["out", "META-INF"], .folder), (["out", "META-INF", "services"], .folder),
      (["out", "META-INF", "services", "m.B"], .folder)], []⟩

/-- The manifest that cannot be moved to its place breaks the emission off. -/
theorem emission_breaks_off_at_folder :
    let grouping := Grouping.filed threeInterfaces
    let emission := emit FolderStore.streams.artifactStore grouping blockedStore
    emission.grouping = .empty ∧ Keyed.keys emission.state.entries = ["META-INF/services/m.A"] ∧
      ∃ artifact ∈ grouping.artifacts, ∃ exchanges fault,
        artifact.path = "META-INF/services/m.B" ∧
        FolderStore.streams.BreaksOff artifact.path artifact.pieces exchanges fault fault ∧
        fault.title = "IsADirectoryError" := by
  intro grouping emission
  have hreason : ∃ cause, emission.failure =
      some (.round (.artifactWrite "META-INF/services/m.B" cause)) ∧
        cause.title = "IsADirectoryError" :=
    ⟨.refused .isFolder "/out/META-INF/services/m.B.tmp" (some "/out/META-INF/services/m.B"),
      by decide +kernel, rfl⟩
  obtain ⟨cause, hcause, htitle⟩ := hreason
  obtain ⟨hgrouping, -, ⟨hnone, -⟩ | hbroken⟩ := emission_breaks_off_at_first_fault
    FolderStore.streams FolderStore.isStrict_streams threeInterfaces blockedStore
  · cases hnone.symm.trans hcause
  · obtain ⟨before, artifact, after, exchanges, fault, failure, hsplit, -, -, hbreaks, -, -, -,
      hreported, hfailure⟩ := hbroken
    obtain rfl := Option.some.inj (hfailure.symm.trans hcause)
    refine ⟨hgrouping, by decide +kernel, artifact, ?_, exchanges, fault, ?_⟩
    · rw [show grouping.artifacts = _ from hsplit]
      exact List.mem_append_right _ List.mem_cons_self
    · obtain ⟨other, rfl, herror⟩ := hreported.of_round
      obtain ⟨hpath, rfl⟩ := RoundError.artifactWrite.inj herror
      exact ⟨hpath.symm, hbreaks, htitle⟩

end ServiceManifest
