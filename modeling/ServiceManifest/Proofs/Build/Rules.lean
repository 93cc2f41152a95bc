import ServiceManifest.Proofs.Build.Plan

/-!
# What a plan says

The sources of now are told from the recorded ones by name and by digest: what is added, removed and
changed is in order, apart, and together everything that differs. An artifact is stale if the options
changed, if a source of it moved, or if it is aggregating and any source is new. Whether there is
something to build is decided without the stale artifacts, and agrees with them. A plan is only missing
where the disk refuses to answer for the path of an artifact.
-/

namespace ServiceManifest.Build

open Json

/-- An entry of the section of artifacts that says which sources an artifact has and whether it is
aggregating; without sources it has none, and without a word it is not aggregating. -/
structure Describes (entry : Value) (sources : List String) (aggregating : Bool) : Prop where
  fields : ∃ fields, entry = .object fields ∧
    (Keyed.get? "sources" fields).getD (.array []) = .array (sources.map .string) ∧
    (Keyed.get? "aggregating" fields).getD (.bool false) = .bool aggregating

/-- A state whose artifacts are all described. Its sources may have any digests. -/
def State.IsWellShaped (state : State) : Prop :=
  ∀ entry ∈ state.artifacts, ∃ sources aggregating, Describes entry.2 sources aggregating

/-- Where an output root is given, the disk says of each path whether something is there. -/
def Answers (output : Option (Disk.Tree × Path)) (paths : List String) : Prop :=
  ∀ tree root, output = some (tree, root) → ∀ path ∈ paths,
    ∃ there, tree.exists? (root.join (Path.ofString path)) = .ok there

/-- An output root is given, and the disk finds nothing at a path. -/
def IsMissing (output : Option (Disk.Tree × Path)) (path : String) : Prop :=
  ∃ tree root, output = some (tree, root) ∧
    tree.exists? (root.join (Path.ofString path)) = .ok false

/-- Where an output root is given, something is there at each path. -/
def Stands (output : Option (Disk.Tree × Path)) (paths : List String) : Prop :=
  ∀ tree root, output = some (tree, root) → ∀ path ∈ paths,
    tree.exists? (root.join (Path.ofString path)) = .ok true

section Absent

/-- The paths at which nothing is, if an output root is given. -/
def missingAt : Option (Disk.Tree × Path) → List String → Except Disk.Fault (List String)
  | none, _ => .ok []
  | some (tree, root), paths => absent tree root paths

variable {tree : Disk.Tree} {root : Path} {output : Option (Disk.Tree × Path)} {paths missing : List String}

/-- A first path is looked for, and then the others. -/
theorem absent_cons_eq_ok {first : String} {rest : List String} :
    absent tree root (first :: rest) = .ok missing ↔
      ∃ found more, tree.exists? (root.join (Path.ofString first)) = .ok found ∧
        absent tree root rest = .ok more ∧ missing = if found then more else first :: more := by
  rw [absent]
  cases tree.exists? (root.join (Path.ofString first)) with
  | error fault => simp
  | ok found => cases absent tree root rest <;> simp [Except.map, eq_comm]

/-- The paths at which nothing is are those where the disk finds nothing. -/
theorem mem_absent (h : absent tree root paths = .ok missing) {path : String} :
    path ∈ missing ↔ path ∈ paths ∧ tree.exists? (root.join (Path.ofString path)) = .ok false := by
  induction paths generalizing missing with
  | nil =>
    obtain rfl := Except.ok.inj h
    simp
  | cons first rest ih =>
    obtain ⟨found, more, hfirst, hrest, rfl⟩ := absent_cons_eq_ok.mp h
    have hmore := ih hrest
    cases found with
    | true =>
      have hne (hnone : tree.exists? (root.join (Path.ofString path)) = .ok false) : path ≠ first := by
        rintro rfl
        cases hfirst.symm.trans hnone
      simp only [if_true, hmore, List.mem_cons]
      exact ⟨fun ⟨hpath, hnone⟩ => ⟨Or.inr hpath, hnone⟩,
        fun ⟨hpath, hnone⟩ => ⟨hpath.resolve_left (hne hnone), hnone⟩⟩
    | false =>
      simp only [Bool.false_eq_true, if_false, List.mem_cons, hmore, or_and_right]
      refine or_congr_left ⟨fun hpath => ⟨hpath, ?_⟩, And.left⟩
      rw [hpath]
      exact hfirst

/-- If paths are looked for to the end, the disk has an answer for each. -/
theorem exists_of_absent (h : absent tree root paths = .ok missing) :
    ∀ path ∈ paths, ∃ there, tree.exists? (root.join (Path.ofString path)) = .ok there := by
  induction paths generalizing missing with
  | nil => nofun
  | cons first rest ih =>
    obtain ⟨found, more, hfirst, hrest, -⟩ := absent_cons_eq_ok.mp h
    exact List.forall_mem_cons.mpr ⟨⟨found, hfirst⟩, ih hrest⟩

/-- If paths are not looked for to the end, the disk refuses one of them. -/
theorem absent_eq_error {fault : Disk.Fault} (h : absent tree root paths = .error fault) :
    ∃ path ∈ paths, tree.exists? (root.join (Path.ofString path)) = .error fault := by
  induction paths with
  | nil => cases h
  | cons first rest ih =>
    rw [absent] at h
    cases hexists : tree.exists? (root.join (Path.ofString first)) with
    | error other =>
      simp only [hexists, Except.error.injEq] at h
      exact ⟨first, List.mem_cons_self, h ▸ hexists⟩
    | ok found =>
      cases hrest : absent tree root rest with
      | ok more => simp [hexists, hrest, Except.map] at h
      | error other =>
        simp only [hexists, hrest, Except.map, Except.error.injEq] at h
        obtain ⟨path, hpath, hother⟩ := ih (h ▸ hrest)
        exact ⟨path, List.mem_cons_of_mem first hpath, hother⟩

/-- What is missing is found, or the disk refuses a path. -/
theorem missingAt_cases (output : Option (Disk.Tree × Path)) (paths : List String) :
    (∃ missing, missingAt output paths = .ok missing ∧ Answers output paths ∧
        ∀ path, path ∈ missing ↔ path ∈ paths ∧ IsMissing output path) ∨
      ∃ fault tree root, missingAt output paths = .error fault ∧ output = some (tree, root) ∧
        ∃ path ∈ paths, tree.exists? (root.join (Path.ofString path)) = .error fault := by
  rcases output with _ | ⟨tree, root⟩
  · exact Or.inl ⟨[], rfl, nofun, by simp [IsMissing]⟩
  · rw [missingAt]
    cases hfound : absent tree root paths with
    | error fault => exact Or.inr ⟨fault, tree, root, rfl, rfl, absent_eq_error hfound⟩
    | ok missing =>
      refine Or.inl ⟨missing, rfl, ?_, fun path => ?_⟩
      · rintro _ _ ⟨⟩ path hpath
        exact exists_of_absent hfound path hpath
      · rw [mem_absent hfound]
        refine and_congr_right fun _ => ⟨fun hnone => ⟨tree, root, rfl, hnone⟩, ?_⟩
        rintro ⟨_, _, ⟨⟩, hnone⟩
        exact hnone

/-- The disk refuses a path whose first name is too long. -/
theorem exists?_of_overlong {path : Path} {name : String} {rest : List String}
    (hparts : path.parts = name :: rest)
    (hfolder : tree.entry? (if path.anchor = "" then tree.here else []) = some .folder)
    (hnul : path.hasNul = false) (hup : name ≠ "..") (hlong : Disk.nameLimit < name.utf8ByteSize) :
    tree.exists? path = .error (Disk.Tree.refuse path .nameTooLong) := by
  have hlocate : tree.locate path = .error .nameTooLong := by
    simp [Disk.Tree.locate, hnul, hparts, Disk.Tree.follow, hfolder, hup, hlong]
  rw [Disk.Tree.exists?, Disk.Tree.lookup, hlocate]

end Absent

section Found

variable {state : State} {current : Keyed Value} {options : Option Value}
  {output : Option (Disk.Tree × Path)} {recorded : List Recorded} {missing : List String}

/-- The plan over the artifacts that are recorded, of which some are missing. -/
def State.planned (state : State) (current : Keyed Value) (options : Option Value)
    (recorded : List Recorded) (missing : List String) : Plan :=
  let added := namesOnlyIn current state.sources
  let removed := namesOnlyIn state.sources current
  let changed := namesChanged state.sources current
  let optionsChanged := optionsDiffer (.object state.options) options
  let isStale (artifact : Recorded) : Bool :=
    optionsChanged || artifact.isStale (changed ++ removed) (!added.isEmpty || !changed.isEmpty)
  ⟨changed, added, removed, (recorded.filter isStale).map (·.path), missing, optionsChanged⟩

/-- A plan is made over the artifacts once they are read and looked for. -/
theorem plan_eq : plan state current output options =
    match recordedFrom (Keyed.ascending state.artifacts) with
    | .error cause => .error (.type cause)
    | .ok recorded =>
      match missingAt output (recorded.map (·.path)) with
      | .error cause => .error (.disk cause)
      | .ok missing => .ok (state.planned current options recorded missing) := by
  simp only [plan, planFrom, State.planned, Bool.or_false]
  cases output <;> rfl

/-- Once the artifacts are read there is a plan, or the disk refuses the path of one of them. -/
theorem plan_of_recorded (current : Keyed Value) (options : Option Value)
    (output : Option (Disk.Tree × Path))
    (hrecorded : recordedFrom (Keyed.ascending state.artifacts) = .ok recorded)
    (hpaths : ∀ path, path ∈ recorded.map (·.path) ↔ path ∈ Keyed.keys state.artifacts) :
    (∃ missing, plan state current output options =
          .ok (state.planned current options recorded missing) ∧
        Answers output (Keyed.keys state.artifacts) ∧
        ∀ path, path ∈ missing ↔ path ∈ Keyed.keys state.artifacts ∧ IsMissing output path) ∨
      ∃ cause tree root, plan state current output options = .error (.disk cause) ∧
        output = some (tree, root) ∧ ∃ path ∈ Keyed.keys state.artifacts,
          tree.exists? (root.join (Path.ofString path)) = .error cause := by
  have hanswers : Answers output (recorded.map (·.path)) ↔
      Answers output (Keyed.keys state.artifacts) := by
    simp only [Answers, hpaths]
  simp only [plan_eq, hrecorded, ← hanswers, ← hpaths]
  rcases missingAt_cases output (recorded.map (·.path)) with
    ⟨missing, hfound, hmissing⟩ | ⟨cause, tree, root, hfound, hrefused⟩
  · rw [hfound]
    exact Or.inl ⟨missing, rfl, hmissing⟩
  · rw [hfound]
    exact Or.inr ⟨cause, tree, root, rfl, hrefused⟩

/-- A disk that refuses a path does not answer for all of them. -/
theorem not_answers {tree : Disk.Tree} {root : Path} {paths : List String} {cause : Disk.Fault}
    (h : ∃ path ∈ paths, tree.exists? (root.join (Path.ofString path)) = .error cause) :
    ¬Answers (some (tree, root)) paths := by
  obtain ⟨path, hpath, hrefused⟩ := h
  intro hanswers
  obtain ⟨there, hthere⟩ := hanswers tree root rfl path hpath
  cases hrefused.symm.trans hthere

end Found

section Sources

variable {sources : Keyed Value} {digests : Keyed String} {path : String}

/-- A value equals a text exactly if it is that text. -/
theorem same_string_iff {text : String} {value : Value} :
    (Value.string text).same value = true ↔ value = .string text := by
  cases value <;> simp [Value.same, Value.sameAtom, Value.integer?, eq_comm]

/-- The paths with a digest are those with an entry in its section. -/
theorem mem_keys_sourceSection : path ∈ Keyed.keys (sourceSection digests) ↔
    ∃ digest, Keyed.get? path digests = some digest := by
  rw [← Keyed.get?_isSome_iff, get?_sourceSection, Option.isSome_map, Option.isSome_iff_exists]

/-- A source is added if it has a digest now and none was recorded. -/
theorem mem_added : path ∈ namesOnlyIn (sourceSection digests) sources ↔
    ∃ digest, Keyed.get? path digests = some digest ∧ Keyed.get? path sources = none := by
  rw [mem_namesOnlyIn, mem_keys_sourceSection, ← Keyed.get?_eq_none_iff, exists_and_right]

/-- A source is removed if a digest was recorded and it has none now. -/
theorem mem_removed : path ∈ namesOnlyIn sources (sourceSection digests) ↔
    ∃ old, Keyed.get? path sources = some old ∧ Keyed.get? path digests = none := by
  rw [mem_namesOnlyIn, ← Keyed.get?_isSome_iff, ← Keyed.get?_eq_none_iff, get?_sourceSection,
    Option.map_eq_none_iff, Option.isSome_iff_exists, exists_and_right]

/-- A source is changed if it has a digest now and another value was recorded. -/
theorem mem_changed (hnodup : (Keyed.keys digests).Nodup) :
    path ∈ namesChanged sources (sourceSection digests) ↔
      ∃ digest old, Keyed.get? path digests = some digest ∧ Keyed.get? path sources = some old ∧
        old ≠ .string digest := by
  rw [mem_namesChanged]
  constructor
  · rintro ⟨value, old, hvalue, hold, hdiffers⟩
    obtain ⟨given, hgiven, heq⟩ := List.mem_map.mp hvalue
    obtain ⟨rfl, rfl⟩ := Prod.mk.inj heq
    refine ⟨given.2, old, (Keyed.get?_eq_some_iff hnodup).mpr hgiven, hold, fun hsame => ?_⟩
    rw [same_string_iff.mpr hsame] at hdiffers
    cases hdiffers
  · rintro ⟨digest, old, hdigest, hold, hne⟩
    refine ⟨.string digest, old, ?_, hold, ?_⟩
    · exact List.mem_map.mpr ⟨_, (Keyed.get?_eq_some_iff hnodup).mp hdigest, rfl⟩
    · exact Bool.eq_false_iff.mpr fun hsame => hne (same_string_iff.mp hsame)

/-- How the sources of a plan compare with those that were recorded: what is added, removed and changed
is strictly ascending, apart, and together what differs. -/
structure Plan.Partitions (found : Plan) (sources : Keyed Value) (digests : Keyed String) : Prop where
  added : ∀ path, path ∈ found.added ↔
    ∃ digest, Keyed.get? path digests = some digest ∧ Keyed.get? path sources = none
  removed : ∀ path, path ∈ found.removed ↔
    ∃ old, Keyed.get? path sources = some old ∧ Keyed.get? path digests = none
  changed : ∀ path, path ∈ found.changed ↔
    ∃ digest old, Keyed.get? path digests = some digest ∧ Keyed.get? path sources = some old ∧
      old ≠ .string digest
  ascending : found.added.Pairwise (· < ·) ∧ found.removed.Pairwise (· < ·) ∧
    found.changed.Pairwise (· < ·)

namespace Plan.Partitions

variable {found : Plan} (h : found.Partitions sources digests)

include h

/-- What is added, removed and changed is apart. -/
theorem disjoint : found.added.Disjoint found.removed ∧ found.added.Disjoint found.changed ∧
    found.removed.Disjoint found.changed := by
  refine ⟨fun path hadded hremoved => ?_, fun path hadded hchanged => ?_,
    fun path hremoved hchanged => ?_⟩
  · obtain ⟨digest, hdigest, -⟩ := (h.added path).mp hadded
    obtain ⟨old, -, hnone⟩ := (h.removed path).mp hremoved
    cases hdigest.symm.trans hnone
  · obtain ⟨digest, -, hnone⟩ := (h.added path).mp hadded
    obtain ⟨_, old, -, hold, -⟩ := (h.changed path).mp hchanged
    cases hold.symm.trans hnone
  · obtain ⟨old, -, hnone⟩ := (h.removed path).mp hremoved
    obtain ⟨digest, _, hdigest, -⟩ := (h.changed path).mp hchanged
    cases hdigest.symm.trans hnone

/-- What is added, removed or changed is what differs. -/
theorem mem_iff : path ∈ found.added ∨ path ∈ found.removed ∨ path ∈ found.changed ↔
    Keyed.get? path sources ≠ (Keyed.get? path digests).map .string := by
  rw [h.added, h.removed, h.changed]
  cases Keyed.get? path digests <;> cases Keyed.get? path sources <;> simp

/-- Nothing is added, removed or changed exactly if nothing differs. -/
theorem nil_iff : (found.added = [] ∧ found.removed = [] ∧ found.changed = []) ↔
    ∀ path, Keyed.get? path sources = (Keyed.get? path digests).map .string := by
  simp only [List.eq_nil_iff_forall_not_mem, ← forall_and, ← not_or]
  exact forall_congr' fun path => (not_congr h.mem_iff).trans not_not

end Plan.Partitions

/-- Texts are put in ascending order. -/
theorem pairwise_texts (xs : List String) : (Ascending.texts xs).Pairwise (· < ·) :=
  (Ascending.pairwise_ofList Ascending.textBefore_isOrder xs).imp fun hlt => by
    simpa [Ascending.textBefore] using hlt

variable {state : State} {options : Option Value} {recorded : List Recorded} {missing : List String}

/-- A plan partitions the sources. -/
theorem partitions_planned (state : State) (hnodup : (Keyed.keys digests).Nodup)
    (options : Option Value) (recorded : List Recorded) (missing : List String) :
    (state.planned (sourceSection digests) options recorded missing).Partitions state.sources
      digests where
  added _ := mem_added
  removed _ := mem_removed
  changed _ := mem_changed hnodup
  ascending := ⟨pairwise_texts _, pairwise_texts _, pairwise_texts _⟩

end Sources

section Verdict

variable {state : State} {digests : Keyed String} {options : Option Value} {recorded : List Recorded}
  {missing : List String} {found : Plan}

/-- The options of a plan have changed exactly if some are given that differ from the recorded. -/
theorem optionsChanged_planned {current : Keyed Value} :
    (state.planned current options recorded missing).optionsChanged = true ↔
      ∃ now, options = some now ∧ (Value.object state.options).same now = false := by
  cases options <;> simp [State.planned, optionsDiffer]

/-- A plan is up to date exactly if it lists nothing and the options are as they were. -/
theorem Plan.isUpToDate_iff : found.isUpToDate = true ↔
    (found.added = [] ∧ found.removed = [] ∧ found.changed = []) ∧ found.missing = [] ∧
      found.optionsChanged = false := by
  simp only [Plan.isUpToDate, Bool.and_eq_true, List.isEmpty_iff, Bool.not_eq_true']
  tauto

/-- A plan that is up to date finds no artifact stale. -/
theorem stale_of_isUpToDate {current : Keyed Value}
    (h : (state.planned current options recorded missing).isUpToDate = true) :
    (state.planned current options recorded missing).stale = [] := by
  obtain ⟨⟨hadded, hremoved, hchanged⟩, -, hoptions⟩ := Plan.isUpToDate_iff.mp h
  have hnone (artifact : Recorded) : artifact.isStale [] false = false := by
    simp [Recorded.isStale]
  simp only [State.planned] at hadded hremoved hchanged hoptions ⊢
  simp [hadded, hremoved, hchanged, hoptions, hnone]

end Verdict

section Rules

variable {state : State} {digests : Keyed String} {output : Option (Disk.Tree × Path)}
  {options : Option Value} {found : Plan}

/-- An entry that describes an artifact is read as it says. -/
theorem ofEntry_of_describes {entry : Value} {sources : List String} {aggregating : Bool}
    (h : Describes entry sources aggregating) (path : String) :
    Recorded.ofEntry path entry = .ok ⟨path, sources, aggregating⟩ := by
  obtain ⟨fields, rfl, hsources, haggregating⟩ := h.fields
  have htruthy : ((Keyed.get? "aggregating" fields).map Value.isTruthy).getD false = aggregating := by
    cases hget : Keyed.get? "aggregating" fields with
    | none =>
      rw [hget] at haggregating
      exact Value.bool.inj haggregating
    | some value =>
      rw [hget] at haggregating
      obtain rfl : value = .bool aggregating := haggregating
      rfl
  rw [Recorded.ofEntry, hsources, textMembers_strings, htruthy]
  rfl

/-- The artifacts of a well-shaped state are recorded as their entries describe them. -/
theorem State.IsWellShaped.exists_recorded (h : state.IsWellShaped) :
    ∃ recorded, recordedFrom (Keyed.ascending state.artifacts) = .ok recorded ∧
      (∀ artifact, artifact ∈ recorded ↔ ∃ entry ∈ state.artifacts, entry.1 = artifact.path ∧
        Describes entry.2 artifact.sources artifact.aggregating) ∧
      ∀ path, path ∈ recorded.map (·.path) ↔ path ∈ Keyed.keys state.artifacts := by
  have hperm := Keyed.ascending_perm state.artifacts
  have hread : ∀ entry ∈ Keyed.ascending state.artifacts,
      ∃ recorded, Recorded.ofEntry entry.1 entry.2 = .ok recorded := by
    intro entry hentry
    obtain ⟨sources, aggregating, hdescribes⟩ := h entry (hperm.mem_iff.mp hentry)
    exact ⟨_, ofEntry_of_describes hdescribes entry.1⟩
  obtain ⟨recorded, hrecorded, hmem⟩ := exists_recordedFrom hread
  have hartifact (artifact : Recorded) : artifact ∈ recorded ↔ ∃ entry ∈ state.artifacts,
      entry.1 = artifact.path ∧ Describes entry.2 artifact.sources artifact.aggregating := by
    rw [hmem]
    simp only [hperm.mem_iff]
    refine exists_congr fun entry => and_congr_right fun hentry => ?_
    constructor
    · intro hread
      obtain ⟨sources, aggregating, hdescribes⟩ := h entry hentry
      obtain rfl := Except.ok.inj ((ofEntry_of_describes hdescribes entry.1).symm.trans hread)
      exact ⟨rfl, hdescribes⟩
    · rintro ⟨hpath, hdescribes⟩
      rw [ofEntry_of_describes hdescribes, hpath]
  refine ⟨recorded, hrecorded, hartifact, fun path => ?_⟩
  simp only [List.mem_map, hartifact, Keyed.keys]
  constructor
  · rintro ⟨artifact, ⟨entry, hentry, hpath, -⟩, rfl⟩
    exact ⟨entry, hentry, hpath⟩
  · rintro ⟨entry, hentry, rfl⟩
    obtain ⟨sources, aggregating, hdescribes⟩ := h entry hentry
    exact ⟨⟨entry.1, sources, aggregating⟩, ⟨entry, hentry, rfl, hdescribes⟩, rfl⟩

/-- The options that are given for a build, if any, are those that were recorded. -/
def State.HasOptions (state : State) (options : Option Value) : Prop :=
  ∀ now, options = some now → (Value.object state.options).same now = true

/-- What a plan is to say: how the sources compare with the recorded ones; which artifacts are stale,
because the options differ, or a source of theirs was changed or removed, or they are aggregating and a
source anywhere was added or changed; which are missing; and whether there is nothing to build. -/
structure Plan.MeetsRules (found : Plan) (state : State) (digests : Keyed String)
    (output : Option (Disk.Tree × Path)) (options : Option Value) : Prop where
  sources : found.Partitions state.sources digests
  apart : found.added.Disjoint found.removed ∧ found.added.Disjoint found.changed ∧
    found.removed.Disjoint found.changed
  together : ∀ path, path ∈ found.added ∨ path ∈ found.removed ∨ path ∈ found.changed ↔
    Keyed.get? path state.sources ≠ (Keyed.get? path digests).map .string
  stale : ∀ path, path ∈ found.stale ↔ ∃ entry sources aggregating, (path, entry) ∈ state.artifacts ∧
    Describes entry sources aggregating ∧ (¬state.HasOptions options ∨
      (∃ source ∈ sources, source ∈ found.changed ∨ source ∈ found.removed) ∨
      aggregating = true ∧ ∃ source, source ∈ found.added ∨ source ∈ found.changed)
  missing : ∀ path, path ∈ found.missing ↔ path ∈ Keyed.keys state.artifacts ∧ IsMissing output path
  optionsChanged : found.optionsChanged = true ↔ ¬state.HasOptions options
  verdict : found.isUpToDate = true ↔
    (∀ path, Keyed.get? path state.sources = (Keyed.get? path digests).map .string) ∧
      state.HasOptions options ∧ Stands output (Keyed.keys state.artifacts)
  settled : found.isUpToDate = true → found.stale = []

/-- Options have changed exactly if they are not those that were recorded. -/
theorem optionsChanged_iff {current : Keyed Value} {recorded : List Recorded} {missing : List String} :
    (state.planned current options recorded missing).optionsChanged = true ↔
      ¬state.HasOptions options := by
  rw [optionsChanged_planned, State.HasOptions, not_forall]
  simp

/-- A recorded artifact is stale if the options have changed, if it depends on a source that was changed
or removed, or if it is aggregating and a source was added or changed. -/
theorem mem_stale_planned {current : Keyed Value} {recorded : List Recorded} {missing : List String}
    {path : String} : path ∈ (state.planned current options recorded missing).stale ↔
      ∃ artifact ∈ recorded, artifact.path = path ∧ (¬state.HasOptions options ∨
        (∃ source ∈ artifact.sources,
          source ∈ (state.planned current options recorded missing).changed ∨
            source ∈ (state.planned current options recorded missing).removed) ∨
        artifact.aggregating = true ∧
          ∃ source, source ∈ (state.planned current options recorded missing).added ∨
            source ∈ (state.planned current options recorded missing).changed) := by
  rw [← @optionsChanged_iff state options current recorded missing]
  have hnew {added changed : List String} : (!added.isEmpty || !changed.isEmpty) = true ↔
      ∃ source, source ∈ added ∨ source ∈ changed := by
    simp only [Bool.or_eq_true, Bool.not_eq_true', List.isEmpty_eq_false_iff_exists_mem, exists_or]
  simp only [State.planned, Recorded.isStale, List.mem_map, List.mem_filter, Bool.or_eq_true,
    List.any_eq_true, List.contains_iff_mem, List.mem_append, Bool.and_eq_true, hnew]
  constructor
  · rintro ⟨artifact, ⟨hartifact, hstale⟩, hpath⟩
    exact ⟨artifact, hartifact, hpath, hstale⟩
  · rintro ⟨artifact, hartifact, hpath, hstale⟩
    exact ⟨artifact, ⟨hartifact, hstale⟩, hpath⟩

/-- Nothing is missing exactly if something is there for every path, provided that the disk answers. -/
theorem stands_iff {paths missing : List String} (hanswers : Answers output paths)
    (hmissing : ∀ path, path ∈ missing ↔ path ∈ paths ∧ IsMissing output path) :
    missing = [] ↔ Stands output paths := by
  rw [List.eq_nil_iff_forall_not_mem]
  simp only [hmissing]
  constructor
  · intro hnone tree root houtput path hpath
    obtain ⟨there, hthere⟩ := hanswers tree root houtput path hpath
    cases there with
    | true => exact hthere
    | false => exact absurd ⟨hpath, tree, root, houtput, hthere⟩ (hnone path)
  · rintro hstands path ⟨hpath, tree, root, houtput, hnone⟩
    cases (hstands tree root houtput path hpath).symm.trans hnone

/-- A plan is up to date exactly if the digests and the options are those that were recorded and
something is there at every path that was looked for. -/
theorem isUpToDate_planned_iff (hnodup : (Keyed.keys digests).Nodup) {recorded : List Recorded}
    {paths missing : List String} (hanswers : Answers output paths)
    (hmissing : ∀ path, path ∈ missing ↔ path ∈ paths ∧ IsMissing output path) :
    (state.planned (sourceSection digests) options recorded missing).isUpToDate = true ↔
      (∀ path, Keyed.get? path state.sources = (Keyed.get? path digests).map .string) ∧
        state.HasOptions options ∧ Stands output paths := by
  have hnone : (state.planned (sourceSection digests) options recorded missing).missing = [] ↔
      Stands output paths := stands_iff hanswers hmissing
  rw [Plan.isUpToDate_iff, (partitions_planned state hnodup options recorded missing).nil_iff, hnone,
    ← Bool.not_eq_true, optionsChanged_iff, not_not]
  exact and_congr_right fun _ => and_comm

/-- A plan over what is recorded of a well-shaped state meets the rules. -/
theorem meetsRules_planned (hnodup : (Keyed.keys digests).Nodup) {recorded : List Recorded}
    {missing : List String}
    (hartifact : ∀ artifact, artifact ∈ recorded ↔ ∃ entry ∈ state.artifacts,
      entry.1 = artifact.path ∧ Describes entry.2 artifact.sources artifact.aggregating)
    (hanswers : Answers output (Keyed.keys state.artifacts))
    (hmissing : ∀ path, path ∈ missing ↔ path ∈ Keyed.keys state.artifacts ∧ IsMissing output path) :
    (state.planned (sourceSection digests) options recorded missing).MeetsRules state digests output
      options := by
  have hsources := partitions_planned state hnodup options recorded missing
  refine ⟨hsources, hsources.disjoint, fun _ => hsources.mem_iff, fun path => ?_, hmissing,
    optionsChanged_iff, isUpToDate_planned_iff hnodup hanswers hmissing, stale_of_isUpToDate⟩
  rw [mem_stale_planned]
  simp only [hartifact]
  constructor
  · rintro ⟨artifact, ⟨entry, hentry, hpath, hdescribes⟩, rfl, hstale⟩
    exact ⟨entry.2, _, _, hpath ▸ hentry, hdescribes, hstale⟩
  · rintro ⟨entry, sources, aggregating, hentry, hdescribes, hstale⟩
    exact ⟨⟨path, sources, aggregating⟩, ⟨_, hentry, rfl, hdescribes⟩, rfl, hstale⟩

/-- A plan is made for a well-shaped state unless the disk refuses the path of an artifact, and every
plan that is made meets the rules. -/
theorem plans_meet_rules (state : State) (hshaped : state.IsWellShaped) (digests : Keyed String)
    (hnodup : (Keyed.keys digests).Nodup) (output : Option (Disk.Tree × Path))
    (options : Option Value) :
    ((∃ found, plan state (sourceSection digests) output options = .ok found) ↔
        Answers output (Keyed.keys state.artifacts)) ∧
      (∀ fault, plan state (sourceSection digests) output options = .error fault →
        ∃ tree root cause, output = some (tree, root) ∧ fault = .disk cause ∧
          ∃ path ∈ Keyed.keys state.artifacts,
            tree.exists? (root.join (Path.ofString path)) = .error cause) ∧
      ∀ found, plan state (sourceSection digests) output options = .ok found →
        found.MeetsRules state digests output options := by
  obtain ⟨recorded, hrecorded, hartifact, hpaths⟩ := hshaped.exists_recorded
  rcases plan_of_recorded (sourceSection digests) options output hrecorded hpaths with
    ⟨missing, hplan, hanswers, hmissing⟩ | ⟨cause, tree, root, hplan, rfl, hrefused⟩
  · rw [hplan]
    refine ⟨⟨fun _ => hanswers, fun _ => ⟨_, rfl⟩⟩, nofun, fun found hfound => ?_⟩
    obtain rfl := Except.ok.inj hfound
    exact meetsRules_planned hnodup hartifact hanswers hmissing
  · rw [hplan]
    refine ⟨⟨nofun, fun hanswers => absurd hanswers (not_answers hrefused)⟩, fun fault hfault => ?_,
      nofun⟩
    obtain rfl := Except.error.inj hfault
    exact ⟨tree, root, cause, rfl, rfl, hrefused⟩

/-- The state of a build that made one manifest from one source. -/
def oneManifest : State :=
  ⟨[("META-INF/services/m.I",
      .object [("aggregating", .bool true), ("sources", .array [.string "m.py"])])],
    [("m.py", .string "0a")], []⟩

/-- An output root with a name that is one octet longer than a name can be. -/
def overlongRoot : Path := ⟨"", [String.ofList (List.replicate 256 'o')]⟩

/-- The disk refuses the path of the manifest below that root. -/
theorem overlongRoot_refused :
    Disk.Tree.exists? ⟨[], []⟩ (overlongRoot.join (Path.ofString "META-INF/services/m.I")) =
      .error (Disk.Tree.refuse (overlongRoot.join (Path.ofString "META-INF/services/m.I"))
        .nameTooLong) := by
  have hparts : (overlongRoot.join (Path.ofString "META-INF/services/m.I")).parts =
      String.ofList (List.replicate 256 'o') :: ["META-INF", "services", "m.I"] := by decide +kernel
  refine exists?_of_overlong hparts rfl ?_ (by decide +kernel) (by decide +kernel)
  rw [Path.hasNul, hparts, List.any_cons, String.toList_ofList]
  decide +kernel

/-- There is no plan where the disk refuses the output root, though nothing is there. Without an output
root there is one. It is up to date if the digests are the same, and has the manifest stale if not. -/
theorem overlongRoot_has_no_plan :
    (∃ cause, plan oneManifest (sourceSection [("m.py", "0a")]) (some (⟨[], []⟩, overlongRoot)) none =
      .error (.disk cause)) ∧
      (∃ found, plan oneManifest (sourceSection [("m.py", "0a")]) none none = .ok found ∧
        found.isUpToDate = true ∧ found.stale = []) ∧
      ∃ found, plan oneManifest (sourceSection [("m.py", "0b")]) none none = .ok found ∧
        found.isUpToDate = false ∧ "META-INF/services/m.I" ∈ found.stale := by
  have hdescribes : Describes
      (.object [("aggregating", .bool true), ("sources", .array [.string "m.py"])]) ["m.py"] true :=
    ⟨_, rfl, rfl, rfl⟩
  have hshaped : oneManifest.IsWellShaped := by
    intro entry hentry
    obtain rfl := List.mem_singleton.mp hentry
    exact ⟨["m.py"], true, hdescribes⟩
  have hrules (digest : String) := plans_meet_rules oneManifest hshaped [("m.py", digest)]
    (List.nodup_singleton _)
  refine ⟨?_, ?_, ?_⟩
  · cases hplan : plan oneManifest (sourceSection [("m.py", "0a")])
        (some (⟨[], []⟩, overlongRoot)) none with
    | error fault =>
      obtain ⟨tree, root, cause, -, rfl, -⟩ := (hrules "0a" _ _).2.1 fault hplan
      exact ⟨cause, rfl⟩
    | ok found =>
      have hanswers := (hrules "0a" _ _).1.mp ⟨found, hplan⟩
      exact absurd hanswers (not_answers ⟨_, List.mem_singleton.mpr rfl, overlongRoot_refused⟩)
  · obtain ⟨found, hplan⟩ := (hrules "0a" none none).1.mpr nofun
    have hmeets := (hrules "0a" none none).2.2 found hplan
    have hverdict : found.isUpToDate = true :=
      hmeets.verdict.mpr ⟨fun path => get?_sourceSection path [("m.py", "0a")], nofun, nofun⟩
    exact ⟨found, hplan, hverdict, hmeets.settled hverdict⟩
  · obtain ⟨found, hplan⟩ := (hrules "0b" none none).1.mpr nofun
    have hmeets := (hrules "0b" none none).2.2 found hplan
    have hchanged : "m.py" ∈ found.changed :=
      (hmeets.sources.changed "m.py").mpr ⟨"0b", .string "0a", rfl, rfl, by simp⟩
    refine ⟨found, hplan, Bool.eq_false_iff.mpr fun hverdict => ?_, ?_⟩
    · exact (hmeets.together "m.py").mp (Or.inr (Or.inr hchanged)) ((hmeets.verdict.mp hverdict).1 "m.py")
    · exact (hmeets.stale "META-INF/services/m.I").mpr ⟨_, ["m.py"], true, List.mem_singleton.mpr rfl,
        hdescribes, Or.inr (Or.inl ⟨"m.py", List.mem_singleton.mpr rfl, Or.inl hchanged⟩)⟩

end Rules

end ServiceManifest.Build
