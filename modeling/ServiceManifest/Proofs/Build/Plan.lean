import ServiceManifest.Build.Plan
import ServiceManifest.Proofs.Ascending
import ServiceManifest.Proofs.Build.State
import ServiceManifest.Proofs.Json.Equality

/-!
# When nothing has to be built

A plan is up to date exactly if the digests of now are those of the last build, the options have not
changed and every artifact that was recorded is there.
-/

namespace ServiceManifest.Build

open Json

/-- Texts in order are none exactly if there were none. -/
theorem texts_eq_nil_iff {xs : List String} : Ascending.texts xs = [] ↔ xs = [] := by
  constructor
  · intro h
    refine List.eq_nil_iff_forall_not_mem.mpr fun x hx => ?_
    have hmem : x ∈ Ascending.texts xs := (Ascending.mem_ofList Ascending.textBefore_isOrder).mpr hx
    rw [h] at hmem
    cases hmem
  · rintro rfl
    rfl

section Sources

variable {before now : Keyed Value}

/-- The names that are only in the first entries. -/
theorem mem_namesOnlyIn {name : String} :
    name ∈ namesOnlyIn before now ↔ name ∈ Keyed.keys before ∧ name ∉ Keyed.keys now := by
  rw [namesOnlyIn, Ascending.texts, Ascending.mem_ofList Ascending.textBefore_isOrder,
    List.mem_filter, Bool.not_eq_true', ← Bool.not_eq_true, Keyed.has_iff]

/-- The names that have changed. -/
theorem mem_namesChanged {name : String} :
    name ∈ namesChanged before now ↔ ∃ value old, (name, value) ∈ now ∧
      Keyed.get? name before = some old ∧ value.same old = false := by
  rw [namesChanged, Ascending.texts, Ascending.mem_ofList Ascending.textBefore_isOrder, List.mem_map]
  constructor
  · rintro ⟨⟨name, value⟩, hentry, rfl⟩
    obtain ⟨hmem, hold⟩ := List.mem_filter.mp hentry
    simp only at hold
    cases hget : Keyed.get? name before with
    | none => simp [hget] at hold
    | some old => exact ⟨value, old, hmem, rfl, by simpa [hget] using hold⟩
  · rintro ⟨value, old, hmem, hget, hsame⟩
    exact ⟨(name, value), List.mem_filter.mpr ⟨hmem, by simp [hget, hsame]⟩, rfl⟩

/-- No name is only in the first entries exactly if all their names are in the others. -/
theorem namesOnlyIn_eq_nil_iff :
    namesOnlyIn before now = [] ↔ ∀ name ∈ Keyed.keys before, name ∈ Keyed.keys now := by
  rw [namesOnlyIn, texts_eq_nil_iff, List.filter_eq_nil_iff]
  simp only [Bool.not_eq_true', Bool.not_eq_false, Keyed.has_iff]

/-- No name has changed exactly if every value that was there before is the same. -/
theorem namesChanged_eq_nil_iff :
    namesChanged before now = [] ↔
      ∀ entry ∈ now, ∀ old, Keyed.get? entry.1 before = some old → entry.2.same old = true := by
  rw [namesChanged, texts_eq_nil_iff, List.map_eq_nil_iff, List.filter_eq_nil_iff]
  refine forall₂_congr fun entry _ => ?_
  obtain ⟨name, value⟩ := entry
  simp only
  cases Keyed.get? name before <;> simp

/-- The digest of a unit in the section of sources. -/
theorem get?_sourceSection (path : String) (digests : Keyed String) :
    Keyed.get? path (sourceSection digests) = (Keyed.get? path digests).map .string :=
  Keyed.get?_map Value.string path digests

/-- The digest of a unit in a section of sources that was loaded. -/
theorem get?_orderedSources (path : String) {digests : Keyed String}
    (hnodup : (Keyed.keys digests).Nodup) :
    Keyed.get? path (Keyed.ascending (orderedEntries (sourceSection digests))) =
      (Keyed.get? path digests).map .string := by
  have hordered : orderedEntries (sourceSection digests) = sourceSection digests := by
    simp [orderedEntries_eq_map, sourceSection, Value.ordered]
  rw [hordered, Keyed.get?_ascending path (by simpa [Keyed.keys, sourceSection,
    Function.comp_def] using hnodup), get?_sourceSection]

/-- Digests are the same exactly if no path has another digest and the paths are the same. -/
theorem get?_eq_iff {known digests : Keyed String} :
    (∀ path, Keyed.get? path digests = Keyed.get? path known) ↔
      (∀ path digest old, Keyed.get? path digests = some digest → Keyed.get? path known = some old →
        digest = old) ∧ (∀ path, (Keyed.get? path digests).isSome → (Keyed.get? path known).isSome) ∧
          ∀ path, (Keyed.get? path known).isSome → (Keyed.get? path digests).isSome := by
  constructor
  · intro h
    refine ⟨fun path digest old hdigest hold => ?_, fun path => by rw [h]; exact id,
      fun path => by rw [h]; exact id⟩
    rw [h, hold] at hdigest
    exact (Option.some.inj hdigest).symm
  · rintro ⟨hchanged, hadded, hremoved⟩ path
    have hadded := hadded path
    have hremoved := hremoved path
    cases hdigest : Keyed.get? path digests with
    | none =>
      cases hold : Keyed.get? path known with
      | none => rfl
      | some old =>
        rw [hdigest, hold] at hremoved
        cases hremoved rfl
    | some digest =>
      cases hold : Keyed.get? path known with
      | none =>
        rw [hdigest, hold] at hadded
        cases hadded rfl
      | some old => rw [hchanged path digest old hdigest hold]

/-- No source has changed, is new or is gone exactly if the digests are those of the last build. -/
theorem sources_unchanged_iff {known digests : Keyed String} (hknown : (Keyed.keys known).Nodup)
    (hdigests : (Keyed.keys digests).Nodup) :
    (namesChanged (Keyed.ascending (orderedEntries (sourceSection known)))
          (sourceSection digests) = [] ∧
        namesOnlyIn (sourceSection digests)
          (Keyed.ascending (orderedEntries (sourceSection known))) = [] ∧
        namesOnlyIn (Keyed.ascending (orderedEntries (sourceSection known)))
          (sourceSection digests) = []) ↔
      ∀ path, Keyed.get? path digests = Keyed.get? path known := by
  rw [get?_eq_iff, namesChanged_eq_nil_iff, namesOnlyIn_eq_nil_iff, namesOnlyIn_eq_nil_iff]
  simp only [← Keyed.get?_isSome_iff, get?_orderedSources _ hknown, get?_sourceSection,
    Option.isSome_map]
  refine and_congr_left fun _ => ?_
  constructor
  · intro h path digest old hdigest hold
    have hmem := (Keyed.get?_eq_some_iff hdigests).mp hdigest
    simpa using h (path, .string digest) (List.mem_map.mpr ⟨_, hmem, rfl⟩) (.string old)
      (by rw [hold]; rfl)
  · rintro h entry hentry value hvalue
    obtain ⟨given, hgiven, rfl⟩ := List.mem_map.mp hentry
    obtain ⟨old, hold, rfl⟩ := Option.map_eq_some_iff.mp hvalue
    have hdigest := (Keyed.get?_eq_some_iff hdigests).mpr hgiven
    simpa using h given.1 given.2 old hdigest hold

end Sources

section Options

/-- The entries of a fingerprint: whether providers are checked, and the names of the marker. -/
def fingerprintEntries (verify : Bool) (markers : List String) : Keyed Value :=
  [("verify", .bool verify), ("markers", .array (markers.map .string))]

/-- Fingerprints with the same entries are about the same options. -/
theorem fingerprintEntries_inj {verify other : Bool} {markers names : List String} :
    fingerprintEntries verify markers = fingerprintEntries other names ↔
      verify = other ∧ markers = names := by
  have hstring : Function.Injective Value.string := fun _ _ h => Value.string.inj h
  simp [fingerprintEntries, List.map_inj_right hstring]

/-- A fingerprint is written and read as it is. -/
theorem readable_fingerprint (verify : Bool) (markers : List String) (depth : Nat) :
    (Value.object (fingerprintEntries verify markers)).Readable (depth + 2) := by
  refine .object (by simp [fingerprintEntries, Keyed.keys]) fun entry hentry => ?_
  simp only [fingerprintEntries, List.mem_cons, List.not_mem_nil, or_false] at hentry
  rcases hentry with rfl | rfl
  · exact .bool _ _
  · refine .array fun item hitem => ?_
    obtain ⟨name, -, rfl⟩ := List.mem_map.mp hitem
    exact .string _ _

/-- A fingerprint has nothing to order inside of its entries. -/
theorem orderedEntries_fingerprint (verify : Bool) (markers : List String) :
    orderedEntries (fingerprintEntries verify markers) = fingerprintEntries verify markers := by
  simp [orderedEntries_eq_map, fingerprintEntries, Value.ordered, orderedItems_eq_map]

/-- A fingerprint that was loaded equals another exactly if both are about the same options. -/
theorem same_fingerprint_iff {verify other : Bool} {markers names : List String} :
    (Value.object (Keyed.ascending (orderedEntries (fingerprintEntries verify markers)))).same
        (.object (fingerprintEntries other names)) = true ↔ verify = other ∧ markers = names := by
  rw [orderedEntries_fingerprint]
  have hperm := Keyed.ascending_perm (fingerprintEntries verify markers)
  simp only [Value.same, hperm.length_eq, Bool.and_eq_true, sameEntries_iff, hperm.mem_iff]
  simp only [fingerprintEntries, List.length_cons, List.length_nil, decide_true, true_and,
    List.mem_cons, List.not_mem_nil, or_false, forall_eq_or_imp, forall_eq, Keyed.get?_cons]
  simp [Value.sameMember, Value.isNaN, same_strings]

/-- Options without a name twice equal the fingerprint of one choice of options at most. -/
theorem fingerprint_unique {recorded : Keyed Value} (hnodup : (Keyed.keys recorded).Nodup)
    {verify other : Bool} {markers names : List String}
    (hfirst : (Value.object recorded).same (.object (fingerprintEntries verify markers)) = true)
    (hsecond : (Value.object recorded).same (.object (fingerprintEntries other names)) = true) :
    verify = other ∧ markers = names := by
  simp only [Value.same, Bool.and_eq_true, sameEntries_iff, decide_eq_true_eq] at hfirst hsecond
  obtain ⟨hlength, hfirst⟩ := hfirst
  obtain ⟨-, hsecond⟩ := hsecond
  have hkeys : Keyed.keys recorded ⊆ ["verify", "markers"] := by
    intro key hkey
    obtain ⟨entry, hentry, rfl⟩ := List.mem_map.mp hkey
    obtain ⟨value, hvalue, -⟩ := hfirst entry hentry
    exact List.mem_map_of_mem (f := (·.1)) (Keyed.mem_of_get?_eq_some hvalue)
  -- without a name twice there are entries of both names
  have hperm : (Keyed.keys recorded).Perm ["verify", "markers"] :=
    (List.subperm_of_subset hnodup hkeys).perm_of_length_le
      (by simp [Keyed.keys, hlength, fingerprintEntries])
  have hentry (name : String) (hname : name ∈ ["verify", "markers"]) :
      ∃ value, (name, value) ∈ recorded := by
    obtain ⟨⟨_, value⟩, hmem, rfl⟩ := List.mem_map.mp (hperm.mem_iff.mpr hname)
    exact ⟨value, hmem⟩
  obtain ⟨switch, hswitch⟩ := hentry "verify" (by simp)
  obtain ⟨list, hlist⟩ := hentry "markers" (by simp)
  have hsame {verify : Bool} {markers : List String} (h : ∀ entry ∈ recorded, ∃ value,
      Keyed.get? entry.1 (fingerprintEntries verify markers) = some value ∧
        entry.2.sameMember value = true) :
      switch.same (.bool verify) = true ∧ list.same (.array (markers.map .string)) = true := by
    obtain ⟨value, hvalue, hverify⟩ := h _ hswitch
    obtain ⟨items, hitems, hmarkers⟩ := h _ hlist
    obtain rfl : .bool verify = value := Option.some.inj hvalue
    obtain rfl : .array (markers.map .string) = items := Option.some.inj hitems
    exact ⟨by simpa [Value.sameMember, Value.isNaN] using hverify,
      by simpa [Value.sameMember, Value.isNaN] using hmarkers⟩
  obtain ⟨hverify, hmarkers⟩ := hsame hfirst
  obtain ⟨hother, hnames⟩ := hsame hsecond
  have hstring : Function.Injective Value.string := fun _ _ h => Value.string.inj h
  refine ⟨eq_of_same_bool hverify hother, (List.map_inj_right hstring).mp (Value.array.inj ?_)⟩
  exact (same_texts_iff.mp hmarkers).symm.trans (same_texts_iff.mp hnames)

end Options

section Artifacts

/-- The entries of the section of artifacts. -/
def artifactEntries (index : Keyed IndexEntry) : Keyed Value :=
  index.map fun entry => (entry.1, .object [("aggregating", .bool entry.2.aggregating),
    ("sources", .array (entry.2.sources.map .string))])

/-- The paths of the section of artifacts that was loaded are those of the index. -/
theorem mem_keys_orderedArtifacts {path : String} {index : Keyed IndexEntry} :
    path ∈ Keyed.keys (Keyed.ascending (orderedEntries (artifactEntries index))) ↔
      path ∈ Keyed.keys index := by
  rw [Keyed.mem_keys_ascending, orderedEntries_eq_map]
  simp [Keyed.keys, artifactEntries, Function.comp_def]

/-- The recorded form of an artifact. -/
def recordedAs (path : String) (entry : IndexEntry) : Recorded :=
  ⟨path, entry.sources, entry.aggregating⟩

/-- An entry that was loaded is read as the recorded artifact. -/
theorem ofEntry_ordered (path : String) (entry : IndexEntry) :
    Recorded.ofEntry path (Value.object [("aggregating", .bool entry.aggregating),
      ("sources", .array (entry.sources.map .string))]).ordered = .ok (recordedAs path entry) := by
  have hnodup : (Keyed.keys (orderedEntries [("aggregating", Value.bool entry.aggregating),
      ("sources", .array (entry.sources.map .string))])).Nodup := by
    simp [orderedEntries_eq_map, Keyed.keys]
  have hsources : Keyed.get? "sources" (orderedEntries [("aggregating",
      Value.bool entry.aggregating), ("sources", .array (entry.sources.map .string))]) =
        some (.array (entry.sources.map .string)) := by
    simp [orderedEntries_eq_map, orderedItems_eq_map, Keyed.get?_cons, Value.ordered,
      Function.comp_def]
  have haggregating : Keyed.get? "aggregating" (orderedEntries [("aggregating",
      Value.bool entry.aggregating), ("sources", .array (entry.sources.map .string))]) =
        some (.bool entry.aggregating) := by
    simp [orderedEntries_eq_map, Keyed.get?_cons, Value.ordered]
  simp only [Value.ordered, Recorded.ofEntry, Keyed.get?_ascending _ hnodup, hsources, haggregating,
    Option.getD_some, Option.map_some, textMembers_strings]
  rfl

/-- Entries that can all be read are recorded. -/
theorem exists_recordedFrom {entries : Keyed Value}
    (h : ∀ entry ∈ entries, ∃ recorded, Recorded.ofEntry entry.1 entry.2 = .ok recorded) :
    ∃ recorded, recordedFrom entries = .ok recorded ∧
      ∀ found, found ∈ recorded ↔ ∃ entry ∈ entries, Recorded.ofEntry entry.1 entry.2 = .ok found := by
  induction entries with
  | nil => exact ⟨[], rfl, by simp⟩
  | cons entry rest ih =>
    obtain ⟨recorded, hrecorded, hmem⟩ :=
      ih fun other hother => h other (List.mem_cons_of_mem entry hother)
    obtain ⟨first, hfirst⟩ := h entry List.mem_cons_self
    refine ⟨first :: recorded, ?_, fun found => ?_⟩
    · rw [recordedFrom, hfirst]
      simp only [hrecorded, Except.map]
    · rw [List.mem_cons, hmem]
      simp only [List.mem_cons, exists_eq_or_imp, hfirst, Except.ok.injEq]
      exact or_congr_left eq_comm

/-- The artifacts of a section that was loaded are recorded. -/
theorem exists_recordedArtifacts (index : Keyed IndexEntry) :
    ∃ recorded, recordedFrom (Keyed.ascending
        (Keyed.ascending (orderedEntries (artifactEntries index)))) = .ok recorded ∧
      ∀ found, found ∈ recorded ↔ ∃ entry ∈ index, found = recordedAs entry.1 entry.2 := by
  have hentry (entry : String × Value) :
      entry ∈ Keyed.ascending (Keyed.ascending (orderedEntries (artifactEntries index))) ↔
        ∃ given ∈ index, entry = (given.1, (Value.object [("aggregating", .bool given.2.aggregating),
          ("sources", .array (given.2.sources.map .string))]).ordered) := by
    rw [(Keyed.ascending_perm _).mem_iff, (Keyed.ascending_perm _).mem_iff, orderedEntries_eq_map,
      artifactEntries, List.map_map]
    simp only [List.mem_map, Function.comp_apply, eq_comm]
  obtain ⟨recorded, hrecorded, hmem⟩ := @exists_recordedFrom
    (Keyed.ascending (Keyed.ascending (orderedEntries (artifactEntries index)))) (by
      intro entry hmem
      obtain ⟨given, -, rfl⟩ := (hentry entry).mp hmem
      exact ⟨_, ofEntry_ordered given.1 given.2⟩)
  refine ⟨recorded, hrecorded, fun found => ?_⟩
  rw [hmem]
  constructor
  · rintro ⟨entry, hmem, hfound⟩
    obtain ⟨given, hgiven, rfl⟩ := (hentry entry).mp hmem
    exact ⟨given, hgiven, Except.ok.inj (hfound.symm.trans (ofEntry_ordered given.1 given.2))⟩
  · rintro ⟨given, hgiven, rfl⟩
    exact ⟨_, (hentry _).mpr ⟨given, hgiven, rfl⟩, ofEntry_ordered given.1 given.2⟩

/-- The paths of what is recorded are those of the index. -/
theorem mem_paths_iff {recorded : List Recorded} {index : Keyed IndexEntry} {path : String}
    (h : ∀ found, found ∈ recorded ↔ ∃ entry ∈ index, found = recordedAs entry.1 entry.2) :
    path ∈ recorded.map (·.path) ↔ path ∈ Keyed.keys index := by
  simp only [List.mem_map, h, Keyed.keys]
  constructor
  · rintro ⟨_, ⟨entry, hentry, rfl⟩, rfl⟩
    exact ⟨entry, hentry, rfl⟩
  · rintro ⟨entry, hentry, rfl⟩
    exact ⟨_, ⟨entry, hentry, rfl⟩, rfl⟩

/-- No path is missing exactly if each is there. -/
theorem absent_eq_nil_iff {tree : Disk.Tree} {root : Path} {paths : List String} :
    absent tree root paths = .ok [] ↔
      ∀ path ∈ paths, tree.exists? (root.join (Path.ofString path)) = .ok true := by
  induction paths with
  | nil => simp [absent]
  | cons path rest ih =>
    rw [absent, List.forall_mem_cons, ← ih]
    cases hexists : tree.exists? (root.join (Path.ofString path)) with
    | error fault => simp
    | ok found => cases found <;> cases absent tree root rest <;> simp [Except.map]

end Artifacts

section Plan

variable {tree : Disk.Tree} {root : Path} {index : Keyed IndexEntry} {known digests : Keyed String}
  {verify other : Bool} {markers names : List String}

/-- A state that was saved and loaded again: what a build recorded. -/
def recordedState (index : Keyed IndexEntry) (known : Keyed String) (verify : Bool)
    (markers : List String) : State :=
  State.orderedSections (artifactEntries index) (sourceSection known)
    (fingerprintEntries verify markers)

/-- If a plan is up to date, the digests and the options are those of the last build and no artifact
is missing. -/
theorem unchanged_of_isUpToDate (hknown : (Keyed.keys known).Nodup)
    (hdigests : (Keyed.keys digests).Nodup) {found : Plan}
    (hplan : plan (recordedState index known verify markers) (sourceSection digests)
      (some (tree, root)) (some (.object (fingerprintEntries other names))) = .ok found)
    (hfound : found.isUpToDate = true) :
    (∀ path, Keyed.get? path digests = Keyed.get? path known) ∧ verify = other ∧
      markers = names ∧
        ∀ path ∈ Keyed.keys index, tree.exists? (root.join (Path.ofString path)) = .ok true := by
  obtain ⟨recorded, hrecorded, hpaths⟩ := exists_recordedArtifacts index
  unfold plan planFrom at hplan
  simp only [recordedState, State.orderedSections, hrecorded] at hplan
  split at hplan
  · cases hplan
  · rename_i missing hmissing
    cases hplan
    simp only [Plan.isUpToDate, Bool.and_eq_true, List.isEmpty_iff, Bool.not_eq_true',
      optionsDiffer, Bool.not_eq_false'] at hfound
    obtain ⟨⟨⟨⟨hchanged, hadded⟩, hremoved⟩, rfl⟩, hoptions⟩ := hfound
    obtain ⟨hverify, hmarkers⟩ := same_fingerprint_iff.mp hoptions
    exact ⟨(sources_unchanged_iff hknown hdigests).mp ⟨hchanged, hadded, hremoved⟩, hverify, hmarkers,
      fun path hpath => absent_eq_nil_iff.mp hmissing path ((mem_paths_iff hpaths).mpr hpath)⟩

/-- If the digests and the options are those of the last build, the plan is up to date exactly if no
artifact is missing. -/
theorem isUpToDate_iff_of_unchanged (hknown : (Keyed.keys known).Nodup)
    (hdigests : (Keyed.keys digests).Nodup)
    (hsame : ∀ path, Keyed.get? path digests = Keyed.get? path known) :
    (∃ found, plan (recordedState index known verify markers) (sourceSection digests)
      (some (tree, root)) (some (.object (fingerprintEntries verify markers))) = .ok found ∧
        found.isUpToDate = true) ↔
      ∀ path ∈ Keyed.keys index, tree.exists? (root.join (Path.ofString path)) = .ok true := by
  constructor
  · rintro ⟨found, hplan, hfound⟩
    exact (unchanged_of_isUpToDate hknown hdigests hplan hfound).2.2.2
  · intro hexists
    obtain ⟨hchanged, hadded, hremoved⟩ := (sources_unchanged_iff hknown hdigests).mpr hsame
    have hoptions := same_fingerprint_iff.mpr ⟨(rfl : verify = verify), (rfl : markers = markers)⟩
    obtain ⟨recorded, hrecorded, hpaths⟩ := exists_recordedArtifacts index
    have habsent : absent tree root (recorded.map (·.path)) = .ok [] :=
      absent_eq_nil_iff.mpr fun path hpath => hexists path ((mem_paths_iff hpaths).mp hpath)
    unfold plan planFrom
    simp only [recordedState, State.orderedSections, hrecorded, habsent, hchanged, hadded, hremoved,
      optionsDiffer, hoptions]
    exact ⟨_, rfl, rfl⟩

/-- A plan tells the sources of now from those of the last build by their digests. -/
structure Plan.Compares (found : Plan) (known digests : Keyed String) : Prop where
  changed : ∀ path, path ∈ found.changed ↔ ∃ digest old, Keyed.get? path digests = some digest ∧
    Keyed.get? path known = some old ∧ digest ≠ old
  added : ∀ path, path ∈ found.added ↔ path ∈ Keyed.keys digests ∧ path ∉ Keyed.keys known
  removed : ∀ path, path ∈ found.removed ↔ path ∈ Keyed.keys known ∧ path ∉ Keyed.keys digests

/-- What a plan finds: how the sources compare with those of the last build, and which artifacts are
stale. Such an artifact is recorded, and the options have changed, or one of its sources is changed
or removed, or it is aggregating and a source is new or changed. -/
theorem compares_of_plan (hknown : (Keyed.keys known).Nodup) (hdigests : (Keyed.keys digests).Nodup)
    {found : Plan} (hplan : plan (recordedState index known verify markers) (sourceSection digests)
      (some (tree, root)) (some (.object (fingerprintEntries other names))) = .ok found) :
    found.Compares known digests ∧ ∀ path, path ∈ found.stale ↔ ∃ entry ∈ index, entry.1 = path ∧
      (¬(verify = other ∧ markers = names) ∨
        (∃ source ∈ entry.2.sources, source ∈ found.changed ∨ source ∈ found.removed) ∨
          entry.2.aggregating = true ∧ (found.added ≠ [] ∨ found.changed ≠ [])) := by
  obtain ⟨recorded, hrecorded, hmem⟩ := exists_recordedArtifacts index
  have hkeys (path : String) :
      path ∈ Keyed.keys (Keyed.ascending (orderedEntries (sourceSection known))) ↔
        path ∈ Keyed.keys known := by
    rw [← Keyed.get?_isSome_iff, get?_orderedSources _ hknown, Option.isSome_map,
      Keyed.get?_isSome_iff]
  have hsection (path : String) :
      path ∈ Keyed.keys (sourceSection digests) ↔ path ∈ Keyed.keys digests := by
    rw [← Keyed.get?_isSome_iff, get?_sourceSection, Option.isSome_map, Keyed.get?_isSome_iff]
  unfold plan planFrom at hplan
  simp only [recordedState, State.orderedSections, hrecorded] at hplan
  split at hplan
  · cases hplan
  · cases hplan
    refine ⟨⟨fun path => ?_, fun path => ?_, fun path => ?_⟩, fun path => ?_⟩
    · simp only [mem_namesChanged, get?_orderedSources _ hknown]
      constructor
      · rintro ⟨value, old, hvalue, hold, hdiffers⟩
        obtain ⟨⟨path, digest⟩, hdigest, heq⟩ := List.mem_map.mp hvalue
        obtain ⟨rfl, rfl⟩ := Prod.mk.inj heq
        obtain ⟨past, hpast, rfl⟩ := Option.map_eq_some_iff.mp hold
        exact ⟨digest, past, (Keyed.get?_eq_some_iff hdigests).mpr hdigest, hpast,
          by simpa using hdiffers⟩
      · rintro ⟨digest, past, hdigest, hpast, hne⟩
        exact ⟨.string digest, .string past,
          List.mem_map.mpr ⟨_, (Keyed.get?_eq_some_iff hdigests).mp hdigest, rfl⟩,
          by rw [hpast]; rfl, by simpa using hne⟩
    · simp only [mem_namesOnlyIn, hkeys, hsection]
    · simp only [mem_namesOnlyIn, hkeys, hsection]
    · have hoptions : optionsDiffer (.object (Keyed.ascending (orderedEntries
          (fingerprintEntries verify markers)))) (some (.object (fingerprintEntries other names))) =
            true ↔ ¬(verify = other ∧ markers = names) := by
        rw [← same_fingerprint_iff, optionsDiffer, Bool.not_eq_true', Bool.not_eq_true]
      simp only [List.mem_map, List.mem_filter, hmem, Bool.or_eq_true, hoptions, Bool.false_eq_true,
        or_false, Recorded.isStale, List.any_eq_true, List.contains_iff_mem, List.mem_append,
        Bool.and_eq_true, Bool.not_eq_true', List.isEmpty_eq_false_iff]
      constructor
      · rintro ⟨_, ⟨⟨entry, hentry, rfl⟩, hstale⟩, rfl⟩
        exact ⟨entry, hentry, rfl, hstale⟩
      · rintro ⟨entry, hentry, rfl, hstale⟩
        exact ⟨_, ⟨⟨entry, hentry, rfl⟩, hstale⟩, rfl⟩

/-- There is a plan if every recorded artifact is there, and then none is missing. -/
theorem exists_plan
    (hexists : ∀ path ∈ Keyed.keys index, tree.exists? (root.join (Path.ofString path)) = .ok true) :
    ∃ found, plan (recordedState index known verify markers) (sourceSection digests)
      (some (tree, root)) (some (.object (fingerprintEntries other names))) = .ok found ∧
        found.missing = [] := by
  obtain ⟨recorded, hrecorded, hmem⟩ := exists_recordedArtifacts index
  have habsent : absent tree root (recorded.map (·.path)) = .ok [] :=
    absent_eq_nil_iff.mpr fun path hpath => hexists path ((mem_paths_iff hmem).mp hpath)
  unfold plan planFrom
  simp only [recordedState, State.orderedSections, hrecorded, habsent]
  exact ⟨_, rfl, rfl⟩

end Plan

end ServiceManifest.Build
