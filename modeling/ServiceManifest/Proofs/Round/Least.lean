import ServiceManifest.Proofs.Project.Ordered
import ServiceManifest.Proofs.Result
import ServiceManifest.Proofs.Round.Options
import ServiceManifest.Proofs.Round.Violation

/-!
# The first violation in the sources

Collecting fails at an occurrence that breaks a rule, and all before it break none. The occurrences in a
project come in the order of their places in the sources, so the error of a round that fails in
collecting is at the least place of all the marked declarations that break a rule.
-/

namespace ServiceManifest

/-- The checks of an occurrence are about its declaration. -/
theorem Occurrence.declaration_of_mem_checks {occurrence : Occurrence} {check : Check}
    (h : check ∈ occurrence.checks) : check.declaration = occurrence.declaration := by
  unfold checks at h
  split at h
  · rcases List.mem_cons.mp h with rfl | h
    · rfl
    · obtain ⟨ref, -, rfl⟩ := List.mem_map.mp h
      rfl
  · cases h

namespace Collection

variable {verify : Bool} {occurrences : List Occurrence} {position : Nat} {error : RoundError}

/-- Filing an occurrence fails with an error at its declaration. -/
theorem location_of_fileOccurrence {occurrence : Occurrence} {done : Collection}
    (hdone : done.error = none) (h : (fileOccurrence verify occurrence done).error = some error) :
    error.location = occurrence.declaration.location := by
  obtain ⟨passed, hstops, -⟩ := @makes_fileOccurrence verify occurrence done hdone
  rw [h] at hstops
  cases hstops with
  | @atViolation check rest _ hchecks _ hviolates =>
    have hmem : check ∈ occurrence.checks := by simp [hchecks]
    rw [hviolates.location, Occurrence.declaration_of_mem_checks hmem]

/-- Collecting fails at an occurrence that breaks a rule, with an error at its declaration, and those in
front of it break none. -/
theorem FailsAt.exists_split (h : FailsAt verify (.start .empty) occurrences position error) :
    ∃ front occurrence back, occurrences = front ++ occurrence :: back ∧
      (∀ other ∈ front, other.IsSound verify) ∧ ¬occurrence.IsSound verify ∧
        error.location = occurrence.declaration.location := by
  have hinside := h.inside
  have hthere := h.there
  rw [← List.take_append_getElem h.inside, fileAll_append h.before] at hthere
  have herror : (fileOccurrence verify occurrences[position]
      (fileAll verify (occurrences.take position) (.start .empty))).error = some error := by
    rw [fileAll] at hthere
    split at hthere
    · exact hthere
    · rename_i hnone
      cases hnone.symm.trans hthere
  refine ⟨occurrences.take position, occurrences[position], occurrences.drop (position + 1), ?_,
    (collect_error_eq_none_iff Grouping.isOrdered_nil).mp h.before, fun hsound => ?_,
    location_of_fileOccurrence h.before herror⟩
  · rw [List.getElem_cons_drop, List.take_append_drop]
  · rw [error_fileOccurrence hsound, h.before] at herror
    cases herror

end Collection

namespace Project

/-- Occurrences of the marker in sources: one for every marked declaration and none for anything else,
in the order of their places. -/
structure AreInSourceOrder (markers : List String) (sources : List Source)
    (occurrences : List Occurrence) : Prop where
  marked : ∀ occurrence ∈ occurrences, ∃ source ∈ sources, ∃ declared decorator,
    source.Marks markers declared decorator ∧
      source.Reports markers sources declared decorator occurrence
  reported : ∀ source ∈ sources, ∀ declared decorator, source.Marks markers declared decorator →
    ∃ occurrence ∈ occurrences, source.Reports markers sources declared decorator occurrence
  ordered : occurrences.Pairwise fun first second =>
    first.declaration.StandsUpTo second.declaration

/-- A marked declaration whose occurrence breaks a rule of collection stands at a place in the
sources. -/
def ViolatesAt (markers : List String) (sources : List Source) (occurrences : List Occurrence)
    (verify : Bool) (location : SourceLocation) : Prop :=
  ∃ source ∈ sources, ∃ declared decorator, source.Marks markers declared decorator ∧
    location = ⟨source.unit.path, declared.line⟩ ∧ ∃ occurrence ∈ occurrences,
      source.Reports markers sources declared decorator occurrence ∧ ¬occurrence.IsSound verify

section Sources

variable {markers : List String} {sources : List Source} {source : Source} {declared : Declared}
  {decorator : Source.Expr} {occurrence : Occurrence} {occurrences : List Occurrence} {verify : Bool}
  {error : RoundError}

/-- An occurrence stands where the declaration does that it reports. -/
theorem Source.Reports.location_eq
    (h : source.Reports markers sources declared decorator occurrence) :
    occurrence.declaration.location = some ⟨source.unit.path, declared.line⟩ := by
  have hunit : (source.index markers).unit = source.unit := indexModule_unit _ _ _ _
  rw [h.location, hunit]
  rfl

/-- The error of collecting occurrences in source order is at the least place of the marked declarations
that break a rule. -/
theorem AreInSourceOrder.least (h : AreInSourceOrder markers sources occurrences)
    (herror : (collect verify occurrences .empty).error = some error) :
    ∃ location, error.location = some location ∧
      ViolatesAt markers sources occurrences verify location ∧
        ∀ other, ViolatesAt markers sources occurrences verify other → ¬other.Before location := by
  obtain ⟨position, hfails⟩ := Collection.exists_failsAt rfl herror
  obtain ⟨front, first, back, rfl, hfront, hfirst, hlocation⟩ := hfails.exists_split
  have hmem : first ∈ front ++ first :: back := by simp
  obtain ⟨source, hsource, declared, decorator, hmarks, hreports⟩ := h.marked first hmem
  refine ⟨⟨source.unit.path, declared.line⟩, hlocation.trans hreports.location_eq,
    ⟨source, hsource, declared, decorator, hmarks, rfl, first, hmem, hreports, hfirst⟩, ?_⟩
  rintro _ ⟨source', -, declared', decorator', -, rfl, second, hsecond, hreports', hunsound⟩
  rcases List.mem_append.mp hsecond with hsecond | hsecond
  · exact absurd (hfront second hsecond) hunsound
  rcases List.mem_cons.mp hsecond with rfl | hsecond
  · rw [← Option.some.inj (hreports.location_eq.symm.trans hreports'.location_eq)]
    simp [SourceLocation.Before]
  · obtain ⟨place, other, hplace, hother, hbefore⟩ :=
      (List.pairwise_cons.mp (List.pairwise_append.mp h.ordered).2.1).1 second hsecond
    obtain rfl := Option.some.inj (hreports.location_eq.symm.trans hplace)
    obtain rfl := Option.some.inj (hreports'.location_eq.symm.trans hother)
    exact hbefore

end Sources

end Project

open Project

/-- The occurrences in a project of different modules come in source order, whatever the order in which
the disk lists the files. So a round over the project that fails in collecting has an error at the least
place of all the marked declarations that break a rule. -/
theorem round_fails_at_least_place {σ : Type} {tree : Disk.Tree} {root : Path} {markers : List String}
    {entries : List (Disk.Place × Disk.Entry)} {found : Discovery}
    (hplaces : (tree.entries.map (·.1)).Nodup) (hentries : entries.Perm tree.entries)
    (hfound : discover tree (root.absolute tree.here) = .ok found)
    (hdistinct : (found.units.map (·.module)).Nodup) :
    let resolution := (scan tree root markers).resolution
    (scan { tree with entries := entries } root markers).resolution = resolution ∧
      ∀ occurrences, resolution.outcome = .ok occurrences →
        ∃ sources : List Source, sources.map (·.unit) = found.units ∧
          (∀ source ∈ sources, source.IsIn tree (root.absolute tree.here)) ∧
          AreInSourceOrder markers sources occurrences ∧
          ∀ (processor : Processor σ) (error : RoundError), processor.finished = false →
            (collect processor.options.verify occurrences .empty).error = some error →
              (processor.process resolution).outcome = .error (.round error) ∧
                ∃ location, error.location = some location ∧
                  ViolatesAt markers sources occurrences processor.options.verify location ∧
                    ∀ other, ViolatesAt markers sources occurrences processor.options.verify other →
                      ¬other.Before location := by
  intro resolution
  refine ⟨by rw [scan_eq_of_perm hentries hplaces], fun occurrences hresolution => ?_⟩
  obtain ⟨modules, hscan, hoccurrences⟩ := resolution_eq_ok hresolution
  have hordered := pairwise_occurrences_of_scan hscan hoccurrences
  obtain ⟨sources, hunits, hsources, rfl⟩ := scan_eq_modulesOf hfound hdistinct hscan
  have hinOrder : AreInSourceOrder markers sources occurrences :=
    { marked := fun _ hmem => exists_marks_of_mem hoccurrences hmem
      reported := fun _ hsource _ _ hmarks => exists_occurrence_of_marks hoccurrences hsource hmarks
      ordered := hordered }
  refine ⟨sources, hunits, hsources, hinOrder, fun processor error hfinished herror => ?_⟩
  exact ⟨(Processor.process_of_collect_error hfinished hresolution herror).1, hinOrder.least herror⟩

/-- Two modules with misfits: the disk lists first the one whose path is the greater. -/
def misfits : Disk.Tree :=
  ⟨[(["b.py"], .file
      "from autoservice import auto_service\n@auto_service\nclass C: pass\n".toUTF8),
    (["a.py"], .file
      "from autoservice import auto_service\n\n@auto_service()\nclass A: pass\n".toUTF8)], []⟩

/-- The error is at the misfit in the module whose path is the least, though its line is the greater. -/
theorem misfits_fail_at_least_place :
    let resolution := (scan misfits ⟨"/", []⟩ defaultMarkers).resolution
    (scan { misfits with entries := misfits.entries.reverse } ⟨"/", []⟩ defaultMarkers).resolution =
        resolution ∧
      ∃ sources occurrences, AreInSourceOrder defaultMarkers sources occurrences ∧
        ((Processor.start ⟨true, false⟩ MemoryStore.artifactStore .empty).process resolution).outcome =
          .error (.round (.emptyInterfaceSet "a.A" (some ⟨"a.py", 4⟩))) ∧
        ViolatesAt defaultMarkers sources occurrences true ⟨"a.py", 4⟩ ∧
        ∀ other, ViolatesAt defaultMarkers sources occurrences true other → ¬other.Before ⟨"a.py", 4⟩ := by
  have hfound : discover misfits ⟨"/", []⟩ = .ok ⟨[⟨"a.py", "a"⟩, ⟨"b.py", "b"⟩], []⟩ := by
    have hpaths : sourcePaths misfits [] = [["a.py"], ["b.py"]] := by decide +kernel
    have hlookup : misfits.lookup ⟨"/", []⟩ = .ok ([], .folder) := rfl
    rw [discover, hlookup]
    simp only [hpaths]
    congr 2
  have hcollect : (scan misfits ⟨"/", []⟩ defaultMarkers).resolution.outcome.toOption.map
      (fun found => (collect true found .empty).error) =
        some (some (.emptyInterfaceSet "a.A" (some ⟨"a.py", 4⟩))) := by decide +kernel
  obtain ⟨occurrences, hoccurrences, herror⟩ := Option.map_eq_some_iff.mp hcollect
  obtain ⟨hsame, hrounds⟩ := @round_fails_at_least_place MemoryStore misfits ⟨"/", []⟩ defaultMarkers
    _ _ (by decide) misfits.entries.reverse_perm hfound (by decide)
  obtain ⟨sources, -, -, hinOrder, hround⟩ := hrounds occurrences (eq_ok_of_toOption hoccurrences)
  obtain ⟨houtcome, location, hlocation, hviolates, hleast⟩ :=
    hround (.start ⟨true, false⟩ MemoryStore.artifactStore .empty) _ rfl herror
  obtain rfl : ⟨"a.py", 4⟩ = location := Option.some.inj hlocation
  exact ⟨hsame, sources, occurrences, hinOrder, houtcome, hviolates, hleast⟩

end ServiceManifest
