import ServiceManifest.Proofs.Project.Fewer
import ServiceManifest.Proofs.Round.Agree
import ServiceManifest.Proofs.Round.Exact

/-!
# Manifests that a removal does not affect

When sources are removed, a manifest all of whose sources remain is made again as it was, provided
that the modules that interface expressions lead through remain as well: the same classes then
provide the same interfaces.
-/

namespace ServiceManifest

open Ascending Grouping Project

namespace Project

/-- Every module of a project that an interface expression of a marked class leads through, where the
class remains, remains as well. -/
def Modules.KeepsWalks (modules remaining : Modules) : Prop :=
  ∀ entry ∈ remaining.candidates, entry.2.kind = .topClass →
    ∀ expr ∈ interfaceExpressions entry.2.decorator,
      ∀ module ∈ modules.walkOf entry.1 entry.2.scope expr, module ∈ Keyed.keys remaining

instance (modules remaining : Modules) : Decidable (modules.KeepsWalks remaining) :=
  inferInstanceAs (Decidable (∀ entry ∈ remaining.candidates, _))

section Remain

variable {markers : List String} {sources remaining : List Source}
  {occurrences occurrencesRemaining : List Occurrence} {verify verifyRemaining : Bool}

/-- What a source that remains provides in its project is what it provides in what remains of it, if
both projects have nothing but sound occurrences. -/
theorem Remain.provides_iff (h : Remain sources remaining)
    (hwalks : (modulesOf markers sources).KeepsWalks (modulesOf markers remaining))
    (hoccurrences : (modulesOf markers sources).occurrences = .ok occurrences)
    (hsound : ∀ occurrence ∈ occurrences, occurrence.IsSound verify)
    (hoccurrencesRemaining : (modulesOf markers remaining).occurrences = .ok occurrencesRemaining)
    (hsoundRemaining : ∀ occurrence ∈ occurrencesRemaining, occurrence.IsSound verifyRemaining)
    {source : Source} (hsource : source ∈ remaining) (interface provider : String) :
    Provides markers remaining source interface provider ↔
      Provides markers sources source interface provider := by
  unfold Provides
  refine exists₂_congr fun declared decorator => and_congr_right fun hmarks =>
    and_congr_right fun hkind => and_congr_right fun _ => exists_congr fun expr =>
      and_congr_right fun hexpr => ?_
  -- both projects have an occurrence of the marker, so the expression stands for a class in both
  have hclass : declared.kind ≠ .function := by rw [hkind]; decide
  obtain ⟨occurrence, hmem, hreports⟩ :=
    exists_occurrence_of_marks hoccurrences (h.mem source hsource) hmarks
  obtain ⟨base, hbase⟩ := (hreports.of_isSound (hsound occurrence hmem) hclass).2.2 expr hexpr
  obtain ⟨occurrenceRemaining, hmemRemaining, hreportsRemaining⟩ :=
    exists_occurrence_of_marks hoccurrencesRemaining hsource hmarks
  obtain ⟨name, hname⟩ := (hreportsRemaining.of_isSound
    (hsoundRemaining occurrenceRemaining hmemRemaining) hclass).2.2 expr hexpr
  have hcandidate : (source.index markers, declared.candidate decorator) ∈
      (modulesOf markers remaining).candidates :=
    Modules.mem_candidates.mpr ⟨exists_mem_modulesOf.mpr ⟨source, hsource, rfl⟩,
      Source.mem_candidates_index.mpr ⟨declared, decorator, hmarks, rfl⟩⟩
  have hwalk := hwalks _ hcandidate hkind expr hexpr
  constructor
  · rintro ⟨other, hother, rfl⟩
    exact ⟨base, hbase, congrArg _ ((h.isWithin markers).eq_of_standsFor hwalk hother hbase).symm⟩
  · rintro ⟨other, hother, rfl⟩
    exact ⟨name, hname, congrArg _ ((h.isWithin markers).eq_of_standsFor hwalk hname hother)⟩

end Remain

end Project

section Rounds

variable {options : ProcessorOptions} {scan remainingScan : Project.Scan} {markers : List String}
  {sources remaining : List Source} {artifacts others : List Artifact}

/-- A manifest whose sources all remain is made again by a round over what remains, if that
succeeds. -/
theorem mem_planned_of_remain (hremain : Remain sources remaining)
    (hwalks : (modulesOf markers sources).KeepsWalks (modulesOf markers remaining))
    (hscan : scan.outcome = .ok (modulesOf markers sources))
    (hscanRemaining : remainingScan.outcome = .ok (modulesOf markers remaining))
    (hplanned : Processor.planned options scan.resolution = .ok artifacts)
    (hplannedRemaining : Processor.planned options remainingScan.resolution = .ok others)
    {artifact : Artifact} (hartifact : artifact ∈ artifacts)
    (hstill : ∀ source ∈ sources, source.unit ∈ artifact.dependencies.sources → source ∈ remaining) :
    artifact ∈ others := by
  obtain ⟨occurrences, grouping, hresolution, rfl, hordered, hsound, hentries⟩ :=
    (Processor.exists_grouping_of_process hplanned).2
  obtain ⟨occurrencesRemaining, groupingRemaining, hresolutionRemaining, rfl, horderedRemaining,
    hsoundRemaining, hentriesRemaining⟩ := (Processor.exists_grouping_of_process hplannedRemaining).2
  obtain ⟨modules, hmodules, hoccurrences⟩ := resolution_eq_ok hresolution
  obtain ⟨modulesRemaining, hmodulesRemaining, hoccurrencesRemaining⟩ :=
    resolution_eq_ok hresolutionRemaining
  obtain rfl := Except.ok.inj (hmodules.symm.trans hscan)
  obtain rfl := Except.ok.inj (hmodulesRemaining.symm.trans hscanRemaining)
  obtain ⟨interface, hkey, rfl⟩ := List.mem_map.mp hartifact
  have hprovides {source : Source} (hsource : source ∈ remaining) (provider : String) :=
    hremain.provides_iff hwalks hoccurrences hsound hoccurrencesRemaining hsoundRemaining hsource
      interface provider
  have hsame (entry : Contribution) :
      entry ∈ grouping.entries interface ↔ entry ∈ groupingRemaining.entries interface := by
    obtain ⟨provider, unit⟩ := entry
    have hprovided : (provider, unit) ∈ grouping.entries interface ↔ ∃ source ∈ sources,
        source.unit = unit ∧ Provides markers sources source interface provider :=
      (hentries interface _).trans
        (exists_contributes_iff_provides hoccurrences hsound interface provider unit)
    rw [hprovided, hentriesRemaining, exists_contributes_iff_provides hoccurrencesRemaining
      hsoundRemaining]
    constructor
    · rintro ⟨source, hsource, rfl, hsourceProvides⟩
      have hremains : source ∈ remaining := by
        refine hstill source hsource ((mem_ofList unitBefore_isOrder).mpr ?_)
        exact List.mem_map.mpr ⟨_, hprovided.mpr ⟨source, hsource, rfl, hsourceProvides⟩, rfl⟩
      exact ⟨source, hremains, rfl, (hprovides hremains provider).mpr hsourceProvides⟩
    · rintro ⟨source, hsource, rfl, hsourceProvides⟩
      exact ⟨source, hremain.mem source hsource, rfl, (hprovides hsource provider).mp hsourceProvides⟩
  refine List.mem_map.mpr ⟨interface, ?_, ?_⟩
  · rw [mem_keys_iff horderedRemaining]
    exact ((mem_keys_iff hordered interface).mp hkey).imp fun entry => (hsame entry).mp
  · have himplementers : texts ((groupingRemaining.entries interface).map (·.1)) =
        texts ((grouping.entries interface).map (·.1)) :=
      ofList_congr textBefore_isOrder fun provider => by simp [hsame]
    have hunits : ofList SourceUnit.before ((groupingRemaining.entries interface).map (·.2)) =
        ofList SourceUnit.before ((grouping.entries interface).map (·.2)) :=
      ofList_congr unitBefore_isOrder fun unit => by simp [hsame]
    simp only [Artifact.ofEntries, himplementers, hunits]

end Rounds

end ServiceManifest
