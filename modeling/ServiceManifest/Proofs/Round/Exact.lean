import ServiceManifest.Proofs.Project.Marked
import ServiceManifest.Proofs.Round.Emit
import ServiceManifest.Round.Processor

/-!
# What a round writes

A round over a fresh store in memory that succeeds writes what the sources provide and nothing else:
collecting neither drops nor invents a contribution, emitting turns every group of contributions
into one manifest, and the resolver has one occurrence for every marked declaration.
-/

namespace ServiceManifest

open Ascending Grouping Project

namespace MemoryStore

/-- A store holds exactly the manifests of what is provided: under the path of each interface with a
provider the ascending names of its providers, a line each, and as its sources the units that they
are from; and nothing under any other path. -/
structure HoldsExactly (store : MemoryStore) (provides : String → String → SourceUnit → Prop) :
    Prop where
  paths : ∀ path ∈ Keyed.keys store.files, ∃ interface, path = Manifest.path interface
  files : ∀ interface text, Keyed.get? (Manifest.path interface) store.files = some text ↔
    ∃ names, names ≠ [] ∧ names.Pairwise (· < ·) ∧
      (∀ provider, provider ∈ names ↔ ∃ unit, provides interface provider unit) ∧
        text = Manifest.render names
  dependencies : ∀ interface found,
    Keyed.get? (Manifest.path interface) store.dependencies = some found ↔
      (∃ provider unit, provides interface provider unit) ∧ found.aggregating = true ∧
        found.sources.Pairwise (SourceUnit.before · · = true) ∧
          ∀ unit, unit ∈ found.sources ↔ ∃ provider, provides interface provider unit

/-- The manifest of an interface among those of a grouping. -/
theorem find?_artifacts (grouping : Grouping) (interface : String) :
    grouping.artifacts.find? (·.path = Manifest.path interface) =
      if interface ∈ grouping.keys then some (.ofEntries interface (grouping.entries interface))
      else none := by
  rw [Grouping.artifacts]
  induction grouping.keys with
  | nil => rfl
  | cons key rest ih =>
    rw [List.map_cons, List.find?_cons, ih]
    by_cases hkey : key = interface
    · simp [hkey, Artifact.ofEntries]
    · have hpath : ¬Manifest.path key = Manifest.path interface := fun h =>
        hkey (Manifest.path_injective h)
      simp [Artifact.ofEntries, hpath, Ne.symm hkey]

/-- The manifests of a grouping in order are exactly those of its contributions. -/
theorem holdsExactly_insertAll {grouping : Grouping} (h : IsOrdered grouping.groups) :
    (empty.insertAll grouping.artifacts).HoldsExactly fun interface provider unit =>
      (provider, unit) ∈ grouping.entries interface where
  paths path hpath := by
    rw [← Keyed.get?_isSome_iff, (get?_insertAll_artifacts h path).1] at hpath
    obtain ⟨artifact, hartifact, rfl⟩ : ∃ artifact ∈ grouping.artifacts, artifact.path = path := by
      simpa using hpath
    obtain ⟨interface, -, rfl⟩ := List.mem_map.mp hartifact
    exact ⟨interface, rfl⟩
  files interface text := by
    rw [(get?_insertAll_artifacts h _).1, find?_artifacts]
    have hnames : ((texts ((grouping.entries interface).map (·.1))).Pairwise (· < ·)) :=
      (pairwise_ofList textBefore_isOrder _).imp fun hlt => by simpa [textBefore] using hlt
    have hmem (provider : String) : provider ∈ texts ((grouping.entries interface).map (·.1)) ↔
        ∃ unit, (provider, unit) ∈ grouping.entries interface := by
      simp [texts, mem_ofList textBefore_isOrder]
    constructor
    · split
      · rename_i hkey
        rintro ⟨⟩
        obtain ⟨entry, hentry⟩ := (mem_keys_iff h interface).mp hkey
        exact ⟨_, List.ne_nil_of_mem ((hmem entry.1).mpr ⟨entry.2, hentry⟩), hnames, hmem, rfl⟩
      · simp
    · rintro ⟨names, hne, hascending, hiff, rfl⟩
      obtain ⟨provider, hprovider⟩ := List.exists_mem_of_ne_nil names hne
      obtain ⟨unit, hentry⟩ := (hiff provider).mp hprovider
      rw [if_pos ((mem_keys_iff h interface).mpr ⟨_, hentry⟩)]
      have hsame : names = texts ((grouping.entries interface).map (·.1)) :=
        eq_of_mem_iff textBefore_isOrder (hascending.imp fun hlt => by simpa [textBefore] using hlt)
          (hnames.imp fun hlt => by simpa [textBefore] using hlt)
          fun provider => (hiff provider).trans (hmem provider).symm
      rw [hsame]
      rfl
  dependencies interface found := by
    rw [(get?_insertAll_artifacts h _).2, find?_artifacts]
    have hmem (unit : SourceUnit) :
        unit ∈ ofList SourceUnit.before ((grouping.entries interface).map (·.2)) ↔
          ∃ provider, (provider, unit) ∈ grouping.entries interface := by
      simp [mem_ofList unitBefore_isOrder]
    constructor
    · split
      · rename_i hkey
        rintro ⟨⟩
        obtain ⟨entry, hentry⟩ := (mem_keys_iff h interface).mp hkey
        exact ⟨⟨entry.1, entry.2, hentry⟩, rfl, pairwise_ofList unitBefore_isOrder _, hmem⟩
      · simp
    · rintro ⟨⟨provider, unit, hentry⟩, haggregating, hascending, hiff⟩
      rw [if_pos ((mem_keys_iff h interface).mpr ⟨_, hentry⟩)]
      have hsame : found.sources =
          ofList SourceUnit.before ((grouping.entries interface).map (·.2)) :=
        eq_of_mem_iff unitBefore_isOrder hascending (pairwise_ofList unitBefore_isOrder _)
          fun unit => (hiff unit).trans (hmem unit).symm
      obtain ⟨aggregating, sources⟩ := found
      subst hsame
      cases haggregating
      rfl

/-- What is provided counts only up to equivalence. -/
theorem HoldsExactly.congr {store : MemoryStore} {provides other : String → String → SourceUnit → Prop}
    (h : store.HoldsExactly provides)
    (hiff : ∀ interface provider unit,
      provides interface provider unit ↔ other interface provider unit) :
    store.HoldsExactly other := by
  have heq : provides = other := by
    funext interface provider unit
    exact propext (hiff interface provider unit)
  exact heq ▸ h

end MemoryStore

namespace Processor

variable {σ : Type}

/-- A round that succeeds has collected every occurrence without a violation and written every
manifest. -/
theorem process_eq_ok {processor : Processor σ} {resolution : Resolution}
    {artifacts : List Artifact} (h : (processor.process resolution).outcome = .ok artifacts) :
    ∃ occurrences, resolution.outcome = .ok occurrences ∧
      (collect processor.options.verify occurrences .empty).error = none ∧
        let emission := emit processor.store
          (collect processor.options.verify occurrences .empty).grouping processor.state
        emission.failure = none ∧ emission.artifacts = artifacts ∧
          (processor.process resolution).processor.state = emission.state := by
  unfold process at h ⊢
  split at h
  · cases h
  rename_i hfinished
  rw [if_neg hfinished]
  cases hresolution : resolution.outcome with
  | error failure => simp [hresolution, fail] at h
  | ok occurrences =>
    refine ⟨occurrences, rfl, ?_⟩
    cases herror : (collect processor.options.verify occurrences .empty).error with
    | some error => simp [hresolution, herror, fail] at h
    | none =>
      refine ⟨rfl, ?_⟩
      cases hfailure : (emit processor.store
          (collect processor.options.verify occurrences .empty).grouping processor.state).failure with
      | some failure => simp [hresolution, herror, hfailure, fail] at h
      | none =>
        simp only [hresolution, herror, hfailure, Except.ok.injEq] at h
        exact ⟨hfailure, h, by simp only [herror, hfailure]⟩

/-- A round that succeeds has created the manifests of a grouping of what sound occurrences
contribute. -/
theorem exists_grouping_of_process {processor : Processor σ} {resolution : Resolution}
    {artifacts : List Artifact} (h : (processor.process resolution).outcome = .ok artifacts) :
    Creates processor.store processor.state artifacts
        (processor.process resolution).processor.state ∧
      ∃ occurrences, ∃ grouping : Grouping, resolution.outcome = .ok occurrences ∧
        artifacts = grouping.artifacts ∧ IsOrdered grouping.groups ∧
        (∀ occurrence ∈ occurrences, occurrence.IsSound processor.options.verify) ∧
          ∀ interface entry, entry ∈ grouping.entries interface ↔
            ∃ occurrence ∈ occurrences, occurrence.Contributes interface entry := by
  obtain ⟨occurrences, hresolution, herror, hfailure, rfl, hstate⟩ := process_eq_ok h
  obtain ⟨hordered, hsound, hentries⟩ := collect_of_error_eq_none herror
  rcases emit_outcome processor.store
      (collect processor.options.verify occurrences .empty).grouping processor.state with
    ⟨hcompletes, hartifacts⟩ | ⟨_, _, _, _, _, _, _, _, _, hstopped⟩
  · rw [hstate, hartifacts]
    exact ⟨hcompletes.creates, occurrences, _, hresolution, rfl, hordered, hsound, hentries⟩
  · rw [hfailure] at hstopped
    cases hstopped

end Processor

section Round

variable {tree : Disk.Tree} {root : Path} {markers : List String}

/-- A scan that resolves has modules with occurrences. -/
theorem resolution_eq_ok {scan : Scan} {occurrences : List Occurrence}
    (h : scan.resolution.outcome = .ok occurrences) :
    ∃ modules, scan.outcome = .ok modules ∧ modules.occurrences = .ok occurrences := by
  unfold Scan.resolution at h
  cases hscan : scan.outcome with
  | error failure => simp [hscan] at h
  | ok modules =>
    cases hoccurrences : modules.occurrences with
    | error fault => simp [hscan, hoccurrences] at h
    | ok found =>
      simp only [hscan, hoccurrences, Except.ok.injEq] at h
      exact ⟨modules, rfl, h ▸ hoccurrences⟩

/-- Units of different modules are scanned to the modules of their sources. -/
theorem scan_eq_modulesOf {found : Discovery} {modules : Modules}
    (hfound : discover tree (root.absolute tree.here) = .ok found)
    (hdistinct : (found.units.map (·.module)).Nodup)
    (hscan : (scan tree root markers).outcome = .ok modules) :
    ∃ sources : List Source, sources.map (·.unit) = found.units ∧
      (∀ source ∈ sources, source.IsIn tree (root.absolute tree.here)) ∧
        modules = modulesOf markers sources := by
  simp only [scan, hfound] at hscan
  obtain ⟨indices, hreads, rfl⟩ := readModules_eq_named hdistinct hscan
  obtain ⟨sources, hunits, rfl, hsources⟩ := hreads.exists_sources
  exact ⟨sources, hunits, hsources, rfl⟩

/-- Sound occurrences of the marker in sources contribute what the sources provide. -/
theorem exists_contributes_iff_provides {sources : List Source} {occurrences : List Occurrence}
    {verify : Bool} (hoccurrences : (modulesOf markers sources).occurrences = .ok occurrences)
    (hsound : ∀ occurrence ∈ occurrences, occurrence.IsSound verify)
    (interface provider : String) (unit : SourceUnit) :
    (∃ occurrence ∈ occurrences, occurrence.Contributes interface (provider, unit)) ↔
      ∃ source ∈ sources, source.unit = unit ∧
        Provides markers sources source interface provider := by
  constructor
  · rintro ⟨occurrence, hmem, hcontributes⟩
    obtain ⟨source, hsource, declared, decorator, hmarks, hreports⟩ :=
      exists_marks_of_mem hoccurrences hmem
    obtain ⟨hkind, hentry, hinterface⟩ :=
      (hreports.contributes_iff (hsound occurrence hmem) interface _).mp hcontributes
    obtain ⟨rfl, rfl⟩ := Prod.mk.inj hentry
    exact ⟨source, hsource, rfl, declared, decorator, hmarks, hkind, rfl, hinterface⟩
  · rintro ⟨source, hsource, rfl, declared, decorator, hmarks, hkind, rfl, hinterface⟩
    obtain ⟨occurrence, hmem, hreports⟩ := exists_occurrence_of_marks hoccurrences hsource hmarks
    exact ⟨occurrence, hmem, (hreports.contributes_iff (hsound occurrence hmem) interface _).mpr
      ⟨hkind, rfl, hinterface⟩⟩

/-- A successful round over a fresh store in memory, for sources of different modules, leaves in the
store exactly the manifests of what the sources provide. Every marked class of a source stands
outside of functions and has at least one interface expression, and each of these stands for a
class, so that neither a class nor an expression is passed over. -/
theorem round_holds_exactly_what_is_provided {options : ProcessorOptions} {found : Discovery}
    {artifacts : List Artifact}
    (hfound : discover tree (root.absolute tree.here) = .ok found)
    (hdistinct : (found.units.map (·.module)).Nodup)
    (hround : ((Processor.start options MemoryStore.artifactStore .empty).process
      (scan tree root markers).resolution).outcome = .ok artifacts) :
    ∃ sources : List Source, sources.map (·.unit) = found.units ∧
      (∀ source ∈ sources, source.IsIn tree (root.absolute tree.here)) ∧
      ((Processor.start options MemoryStore.artifactStore .empty).process
        (scan tree root markers).resolution).processor.state.HoldsExactly
          (fun interface provider unit => ∃ source ∈ sources, source.unit = unit ∧
            Provides markers sources source interface provider) ∧
      ∀ source ∈ sources, ∀ declared decorator, source.Marks markers declared decorator →
        declared.kind ≠ .function →
          declared.kind = .topClass ∧ interfaceExpressions decorator ≠ [] ∧
            ∀ expr ∈ interfaceExpressions decorator, ∃ name,
              StandsFor (modulesOf markers sources) (source.index markers) declared.scope expr
                name := by
  obtain ⟨occurrences, hresolution, herror, -, -, hstate⟩ := Processor.process_eq_ok hround
  obtain ⟨modules, hscan, hoccurrences⟩ := resolution_eq_ok hresolution
  obtain ⟨sources, hunits, hsources, rfl⟩ := scan_eq_modulesOf hfound hdistinct hscan
  obtain ⟨hordered, hsound, hentries⟩ := collect_of_error_eq_none herror
  refine ⟨sources, hunits, hsources, ?_, ?_⟩
  · have hemit := MemoryStore.emit_eq
      (collect options.verify occurrences .empty).grouping MemoryStore.empty
    have hexact := MemoryStore.holdsExactly_insertAll hordered
    refine hstate.trans hemit.2.2 ▸ hexact.congr fun interface provider unit => ?_
    rw [hentries]
    exact exists_contributes_iff_provides hoccurrences hsound interface provider unit
  · intro source hsource declared decorator hmarks hkind
    obtain ⟨occurrence, hmem, hreports⟩ := exists_occurrence_of_marks hoccurrences hsource hmarks
    exact hreports.of_isSound (hsound occurrence hmem) hkind

end Round

/-- A module with an interface and a marked class that provides it. -/
def oneProvider : Disk.Tree :=
  ⟨[(["a.py"], .file
    "from autoservice import auto_service\nclass J: pass\n@auto_service(J)\nclass A(J): pass\n".toUTF8)],
    []⟩

/-- A verifying round over one module with one provider. -/
def oneProviderRound : Answer MemoryStore (List Artifact) :=
  (Processor.start ⟨true, false⟩ MemoryStore.artifactStore .empty).process
    (scan oneProvider ⟨"/", []⟩ defaultMarkers).resolution

/-- The store then holds exactly what the one module provides, and that is the one provider. -/
theorem oneProviderRound_holds_exactly :
    (∃ sources : List Source, sources.map (·.unit) = [⟨"a.py", "a"⟩] ∧
      oneProviderRound.processor.state.HoldsExactly fun interface provider unit =>
        ∃ source ∈ sources, source.unit = unit ∧
          Provides defaultMarkers sources source interface provider) ∧
    oneProviderRound.processor.state.files = [("META-INF/services/a.J", "a.A\n")] := by
  have hfound : discover oneProvider ⟨"/", []⟩ = .ok ⟨[⟨"a.py", "a"⟩], []⟩ := by
    have hpaths : sourcePaths oneProvider [] = [["a.py"]] := by decide +kernel
    have hlookup : oneProvider.lookup ⟨"/", []⟩ = .ok ([], .folder) := rfl
    rw [discover, hlookup]
    simp only [hpaths]
    congr 2
  have hround : oneProviderRound.outcome.isOk = true := by decide +kernel
  cases houtcome : oneProviderRound.outcome with
  | ok artifacts =>
    obtain ⟨sources, hunits, -, hexact, -⟩ :=
      round_holds_exactly_what_is_provided hfound (by decide) houtcome
    exact ⟨⟨sources, hunits, hexact⟩, by decide +kernel⟩
  | error failure =>
    rw [houtcome] at hround
    cases hround

end ServiceManifest
