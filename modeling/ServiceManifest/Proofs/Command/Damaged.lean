import ServiceManifest.Proofs.Build.Rules
import ServiceManifest.Proofs.Command.Escape
import ServiceManifest.Proofs.Command.Verdict

/-!
# State files that are damaged

A state file is any octets. Some faults in them are passed on, as for a configuration file; a text that
is no JSON and a document that is no object stand for no build at all; and of an object each section
counts by itself, as empty if it is missing or no object. An artifact that cannot be read ends a plan
with a fault. Else the verdict is about the sections of sources and options and about the artifacts that
are listed, so a file without artifacts may well be up to date, and an incremental build follows it.
-/

namespace ServiceManifest.Build

open Json

/-- The document that octets hold, or why they hold none. -/
def documentIn (bytes : ByteArray) : Except Fault Value :=
  match Text.ofUtf8 bytes with
  | .error fault => .error (.text fault)
  | .ok text => (Json.read (String.ofList (Text.unifyLineEnds text.toList))).mapError .json

/-- What the octets of a file say of the last build: the sections of an object, or nothing if they hold
another document or a text that is no JSON. -/
inductive Holds (bytes : ByteArray) : State → Prop
  | sections {entries : Keyed Value} (hdocument : documentIn bytes = .ok (.object entries)) :
    Holds bytes (.ofEntries entries)
  | other {value : Value} (hdocument : documentIn bytes = .ok value) (hother : value.entries? = none) :
    Holds bytes .empty
  | malformed {message : String} (hdocument : documentIn bytes = .error (.json (.malformed message))) :
    Holds bytes .empty

section Load

variable {tree : Disk.Tree} {path : Path} {bytes : ByteArray}

/-- The document of a file is that in its octets. -/
theorem readDocument_eq (hread : tree.read path = .ok bytes) :
    readDocument tree path = documentIn bytes := by
  simp only [readDocument, readText, hread, documentIn]
  cases Text.ofUtf8 bytes <;> rfl

/-- Octets hold a document, or a text that is no JSON, or a fault that is passed on. -/
theorem documentIn_cases (bytes : ByteArray) : (∃ value, documentIn bytes = .ok value) ∨
    (∃ message, documentIn bytes = .error (.json (.malformed message))) ∨
      ∃ fault, documentIn bytes = .error fault ∧ State.isIgnored fault = false ∧
        Config.Unsettled bytes fault := by
  unfold documentIn
  cases htext : Text.ofUtf8 bytes with
  | error fault => exact Or.inr (Or.inr ⟨.text fault, rfl, rfl, .text htext⟩)
  | ok text =>
    cases hjson : Json.read (String.ofList (Text.unifyLineEnds text.toList)) with
    | ok value => exact Or.inl ⟨value, by simp [hjson, Except.mapError]⟩
    | error fault =>
      simp only [hjson, Except.mapError, reduceCtorEq, exists_false, false_or, Except.error.injEq]
      cases fault with
      | malformed message => exact Or.inl ⟨message, rfl⟩
      | tooManyDigits count => exact Or.inr ⟨_, rfl, rfl, .digits htext hjson⟩
      | tooDeep collection => exact Or.inr ⟨_, rfl, rfl, .depth htext hjson⟩

/-- A fault that is passed on is the reason why octets hold no document. -/
theorem documentIn_of_unsettled {fault : Fault} (h : Config.Unsettled bytes fault) :
    documentIn bytes = .error fault ∧ State.isIgnored fault = false := by
  cases h with
  | text htext => exact ⟨by rw [documentIn, htext], rfl⟩
  | digits htext hjson => exact ⟨by simp only [documentIn, htext, hjson, Except.mapError], rfl⟩
  | depth htext hjson => exact ⟨by simp only [documentIn, htext, hjson, Except.mapError], rfl⟩

/-- What is loaded from a file is what its octets say. -/
theorem load_outcome (hread : tree.read path = .ok bytes) :
    (State.load tree path).outcome =
      match documentIn bytes with
      | .error fault => if State.isIgnored fault then .ok .empty else .error fault
      | .ok (.object entries) => .ok (.ofEntries entries)
      | .ok _ => .ok .empty := by
  have hexists : tree.exists? path = .ok true := by
    unfold Disk.Tree.read at hread
    split at hread
    · exact Disk.Tree.exists?_eq_true_iff.mpr ⟨_, _, ‹_›⟩
    · cases hread
    · cases hread
  simp only [State.load, hexists, loadDocument, readDocument_eq hread]
  cases documentIn bytes with
  | error fault => cases hignored : State.isIgnored fault <;> simp [hignored]
  | ok value => cases value <;> rfl

/-- A state is loaded exactly if the octets of the file hold it. -/
theorem load_eq_ok_iff (hread : tree.read path = .ok bytes) {state : State} :
    (State.load tree path).outcome = .ok state ↔ Holds bytes state := by
  rw [load_outcome hread]
  constructor
  · intro hload
    rcases documentIn_cases bytes with ⟨value, hvalue⟩ | ⟨message, hmalformed⟩ | ⟨fault, hfault, hpassed, -⟩
    · rw [hvalue] at hload
      cases value with
      | object entries =>
        cases hload
        exact .sections hvalue
      | _ =>
        cases hload
        exact .other hvalue rfl
    · rw [hmalformed] at hload
      cases hload
      exact .malformed hmalformed
    · simp only [hfault, hpassed] at hload
      cases hload
  · intro h
    cases h with
    | sections hdocument => rw [hdocument]
    | @other value hdocument hother =>
      rw [hdocument]
      cases value with
      | object entries => cases hother
      | _ => rfl
    | malformed hdocument =>
      rw [hdocument]
      rfl

/-- A section of a document in which no object has a name twice has no name twice. -/
theorem nodup_sectionOf {entries : Keyed Value} (h : (Value.object entries).HasDistinctNames)
    (name : String) : (Keyed.keys (State.sectionOf entries name)).Nodup := by
  unfold State.sectionOf
  cases hget : Keyed.get? name entries with
  | none => exact List.nodup_nil
  | some value =>
    cases value with
    | object fields => exact h.nodup_of_get? hget
    | _ => exact List.nodup_nil

/-- Whatever wrote a state file, no section of the state that is loaded from it has a name twice. -/
theorem nodup_of_load {state : State} (hload : (State.load tree path).outcome = .ok state) :
    (Keyed.keys state.artifacts).Nodup ∧ (Keyed.keys state.sources).Nodup ∧
      (Keyed.keys state.options).Nodup := by
  have hempty : (Keyed.keys ([] : Keyed Value)).Nodup := List.nodup_nil
  cases hread : tree.read path with
  | error fault =>
    obtain rfl := load_of_unreadable hread hload
    exact ⟨hempty, hempty, hempty⟩
  | ok bytes =>
    cases (load_eq_ok_iff hread).mp hload with
    | @sections entries hdocument =>
      unfold documentIn at hdocument
      split at hdocument
      · cases hdocument
      · have hdistinct := hasDistinctNames_of_read (Command.mapError_eq_ok_iff.mp hdocument)
        exact ⟨nodup_sectionOf hdistinct _, nodup_sectionOf hdistinct _, nodup_sectionOf hdistinct _⟩
    | other => exact ⟨hempty, hempty, hempty⟩
    | malformed => exact ⟨hempty, hempty, hempty⟩

/-- Loading fails exactly if there is a fault in the octets of the file that is passed on. -/
theorem load_eq_error_iff (hread : tree.read path = .ok bytes) {fault : Fault} :
    (State.load tree path).outcome = .error fault ↔ Config.Unsettled bytes fault := by
  rw [load_outcome hread]
  constructor
  · intro hload
    rcases documentIn_cases bytes with ⟨value, hvalue⟩ | ⟨message, hmalformed⟩ | ⟨other, hother, hpassed, h⟩
    · rw [hvalue] at hload
      cases value <;> cases hload
    · rw [hmalformed] at hload
      cases hload
    · simp only [hother, hpassed, Bool.false_eq_true, if_false, Except.error.injEq] at hload
      exact hload ▸ h
  · intro h
    obtain ⟨hdocument, hpassed⟩ := documentIn_of_unsettled h
    simp [hdocument, hpassed]

end Load

section Legible

/-- A value that a set can be made of: a list without lists and objects, a text, or an object. -/
inductive IsCollection : Value → Prop
  | array {items : List Value} (hitems : ∀ item ∈ items, item.isMember = true) :
    IsCollection (.array items)
  | string (text : String) : IsCollection (.string text)
  | object (entries : Keyed Value) : IsCollection (.object entries)

/-- An entry of the section of artifacts that can be read: an object whose sources, if it has any, are a
collection. -/
def IsLegible (entry : Value) : Prop :=
  ∃ fields, entry = .object fields ∧ IsCollection ((Keyed.get? "sources" fields).getD (.array []))

/-- A value has members exactly if it is a collection. -/
theorem exists_members_iff {value : Value} :
    (∃ members, value.members = .ok members) ↔ IsCollection value := by
  constructor
  · rintro ⟨members, hmembers⟩
    cases value with
    | array items =>
      refine .array fun item hitem => ?_
      rw [Value.members] at hmembers
      split at hmembers
      · cases hmembers
      · rename_i hnone
        simpa using List.find?_eq_none.mp hnone item hitem
    | string text => exact .string text
    | object entries => exact .object entries
    | _ => cases hmembers
  · intro h
    cases h with
    | @array items hitems =>
      have hnone : items.find? (fun item => !item.isMember) = none := by simpa using hitems
      exact ⟨items, by rw [Value.members, hnone]⟩
    | string text => exact ⟨_, rfl⟩
    | object entries => exact ⟨_, rfl⟩

/-- An entry is read exactly if it is legible. -/
theorem exists_ofEntry_iff {path : String} {entry : Value} :
    (∃ artifact, Recorded.ofEntry path entry = .ok artifact) ↔ IsLegible entry := by
  cases entry with
  | object fields =>
    have hlegible : IsLegible (.object fields) ↔
        ∃ members, ((Keyed.get? "sources" fields).getD (.array [])).members = .ok members := by
      simp [IsLegible, exists_members_iff]
    rw [hlegible, Recorded.ofEntry, Value.textMembers]
    cases ((Keyed.get? "sources" fields).getD (.array [])).members <;> simp [Except.map]
  | _ => simp [Recorded.ofEntry, IsLegible]

/-- An artifact that was read has the path of its entry. -/
theorem path_of_ofEntry {path : String} {entry : Value} {artifact : Recorded}
    (h : Recorded.ofEntry path entry = .ok artifact) : artifact.path = path := by
  cases entry with
  | object fields =>
    rw [Recorded.ofEntry] at h
    cases hmembers : ((Keyed.get? "sources" fields).getD (.array [])).textMembers with
    | error fault => simp [hmembers, Except.map] at h
    | ok members =>
      rw [hmembers] at h
      cases h
      rfl
  | _ => cases h

/-- A first artifact is read, and then the others. -/
theorem recordedFrom_cons_eq_ok {entry : String × Value} {rest : Keyed Value}
    {recorded : List Recorded} : recordedFrom (entry :: rest) = .ok recorded ↔
      ∃ first more, Recorded.ofEntry entry.1 entry.2 = .ok first ∧ recordedFrom rest = .ok more ∧
        recorded = first :: more := by
  rw [recordedFrom]
  cases Recorded.ofEntry entry.1 entry.2 with
  | error fault => simp
  | ok first => cases recordedFrom rest <;> simp [Except.map, eq_comm]

/-- Artifacts are read to the end exactly if all their entries are legible. -/
theorem exists_recordedFrom_iff {entries : Keyed Value} :
    (∃ recorded, recordedFrom entries = .ok recorded) ↔ ∀ entry ∈ entries, IsLegible entry.2 := by
  induction entries with
  | nil => exact iff_of_true ⟨[], rfl⟩ nofun
  | cons entry rest ih =>
    rw [List.forall_mem_cons, ← ih, ← @exists_ofEntry_iff entry.1]
    simp only [recordedFrom_cons_eq_ok]
    constructor
    · rintro ⟨_, first, more, hfirst, hmore, -⟩
      exact ⟨⟨first, hfirst⟩, more, hmore⟩
    · rintro ⟨⟨first, hfirst⟩, more, hmore⟩
      exact ⟨_, first, more, hfirst, hmore, rfl⟩

/-- Artifacts that were read have the paths of their entries. -/
theorem paths_of_recordedFrom {entries : Keyed Value} {recorded : List Recorded}
    (h : recordedFrom entries = .ok recorded) : recorded.map (·.path) = Keyed.keys entries := by
  induction entries generalizing recorded with
  | nil =>
    cases h
    rfl
  | cons entry rest ih =>
    obtain ⟨first, more, hfirst, hmore, rfl⟩ := recordedFrom_cons_eq_ok.mp h
    rw [List.map_cons, ih hmore, path_of_ofEntry hfirst]
    rfl

end Legible

section Judged

variable {state : State} {digests : Keyed String} {output : Option (Disk.Tree × Path)}
  {options : Option Value}

/-- A state over which there can be a plan: its artifacts can be read, and the disk says of the path of
each whether something is there. -/
def State.IsPlannable (state : State) (output : Option (Disk.Tree × Path)) : Prop :=
  (∀ entry ∈ state.artifacts, IsLegible entry.2) ∧ Answers output (Keyed.keys state.artifacts)

/-- A state in which a build would find nothing to do: its sources have the digests of now, its options
are those of now, and something is at the path of each of its artifacts. -/
structure State.Matches (state : State) (digests : Keyed String) (output : Option (Disk.Tree × Path))
    (options : Option Value) : Prop where
  sources : ∀ path, Keyed.get? path state.sources = (Keyed.get? path digests).map .string
  options : state.HasOptions options
  artifacts : Stands output (Keyed.keys state.artifacts)

/-- There is a plan exactly over a state over which there can be one, and it is up to date exactly if the
state matches. -/
theorem plan_judges (state : State) (hnodup : (Keyed.keys digests).Nodup)
    (output : Option (Disk.Tree × Path)) (options : Option Value) :
    ((∃ found, plan state (sourceSection digests) output options = .ok found) ↔
        state.IsPlannable output) ∧
      ∀ found, plan state (sourceSection digests) output options = .ok found →
        (found.isUpToDate = true ↔ state.Matches digests output options) := by
  have hmatches : state.Matches digests output options ↔
      (∀ path, Keyed.get? path state.sources = (Keyed.get? path digests).map .string) ∧
        state.HasOptions options ∧ Stands output (Keyed.keys state.artifacts) :=
    ⟨fun ⟨hsources, hoptions, hartifacts⟩ => ⟨hsources, hoptions, hartifacts⟩,
      fun ⟨hsources, hoptions, hartifacts⟩ => ⟨hsources, hoptions, hartifacts⟩⟩
  have hlegible : (∀ entry ∈ state.artifacts, IsLegible entry.2) ↔
      ∃ recorded, recordedFrom (Keyed.ascending state.artifacts) = .ok recorded := by
    rw [exists_recordedFrom_iff]
    simp only [(Keyed.ascending_perm state.artifacts).mem_iff]
  rw [State.IsPlannable, hlegible, hmatches]
  cases hrecorded : recordedFrom (Keyed.ascending state.artifacts) with
  | error cause =>
    have hnone : plan state (sourceSection digests) output options = .error (.type cause) := by
      rw [plan_eq, hrecorded]
    simp [hnone]
  | ok recorded =>
    have hpaths (path : String) : path ∈ recorded.map (·.path) ↔ path ∈ Keyed.keys state.artifacts := by
      rw [paths_of_recordedFrom hrecorded, Keyed.mem_keys_ascending]
    rcases plan_of_recorded (sourceSection digests) options output hrecorded hpaths with
      ⟨missing, hplan, hanswers, hmissing⟩ | ⟨cause, tree, root, hplan, rfl, hrefused⟩
    · rw [hplan]
      refine ⟨⟨fun _ => ⟨⟨recorded, rfl⟩, hanswers⟩, fun _ => ⟨_, rfl⟩⟩, fun found hfound => ?_⟩
      obtain rfl := Except.ok.inj hfound
      exact isUpToDate_planned_iff hnodup hanswers hmissing
    · rw [hplan]
      exact ⟨⟨nofun, fun h => absurd h.2 (not_answers hrefused)⟩, nofun⟩

variable {bytes : ByteArray}

end Judged

end ServiceManifest.Build

namespace ServiceManifest.Command

open Build

section Incremental

variable {host : Host} {options : GenerateOptions} {session : Session} {made : Preparation}

end Incremental

end ServiceManifest.Command
