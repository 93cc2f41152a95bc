import ServiceManifest.Proofs.Round.Collect
import ServiceManifest.Proofs.Round.DryRun

/-!
# Rounds over the same occurrences

Collecting succeeds exactly if every occurrence is sound, and then the grouping holds what was filed
before and what the occurrences contribute. Neither hangs on the order of the occurrences, nor on how
often one of them comes. A grouping in order is known by what it holds, so the same goes for all that
is emitted.
-/

namespace ServiceManifest

open Ascending
open Grouping (IsOrdered)

namespace Grouping

/-- A group in order has the contributions to its interface. -/
theorem entriesIn_of_mem {groups : List (String × List Contribution)} (h : IsOrdered groups)
    {group : String × List Contribution} (hgroup : group ∈ groups) :
    entriesIn groups group.1 = group.2 := by
  induction groups with
  | nil => cases hgroup
  | cons first rest ih =>
    rw [entriesIn_cons]
    rcases List.mem_cons.mp hgroup with rfl | hgroup
    · exact if_pos rfl
    · have hbefore : textBefore first.1 group.1 = true :=
        (List.pairwise_cons.mp h.interfaces).1 group.1 (List.mem_map_of_mem hgroup)
      have hne : first.1 ≠ group.1 := by
        intro heq
        rw [heq, textBefore_isOrder.irrefl] at hbefore
        cases hbefore
      rw [if_neg hne, ih h.tail hgroup]

/-- Groups in order are their interfaces, each with the contributions to it. -/
theorem IsOrdered.eq_map_entries {grouping : Grouping} (h : IsOrdered grouping.groups) :
    grouping.groups = grouping.keys.map fun key => (key, grouping.entries key) := by
  rw [keys, List.map_map]
  refine (List.map_id _).symm.trans (List.map_congr_left fun group hgroup => ?_)
  exact Prod.ext rfl (entriesIn_of_mem h hgroup).symm

/-- The contributions to an interface in order. -/
theorem IsOrdered.pairwise_entries {grouping : Grouping} (h : IsOrdered grouping.groups)
    (key : String) : (grouping.entries key).Pairwise (Contribution.before · · = true) := by
  by_cases hkey : key ∈ grouping.groups.map (·.1)
  · obtain ⟨group, hgroup, rfl⟩ := List.mem_map.mp hkey
    have hentries : grouping.entries group.1 = group.2 := entriesIn_of_mem h hgroup
    rw [hentries]
    exact h.contributions group hgroup
  · have hentries : grouping.entries key = [] := entriesIn_of_not_mem hkey
    rw [hentries]
    exact .nil

/-- Groupings in order that hold the same contributions are equal. -/
theorem eq_of_mem_entries_iff {grouping other : Grouping} (h : IsOrdered grouping.groups)
    (hother : IsOrdered other.groups)
    (hmem : ∀ key entry, entry ∈ grouping.entries key ↔ entry ∈ other.entries key) :
    grouping = other := by
  have hentries : grouping.entries = other.entries := funext fun key =>
    eq_of_mem_iff contributionBefore_isOrder (h.pairwise_entries key) (hother.pairwise_entries key)
      (hmem key)
  have hkeys : grouping.keys = other.keys :=
    eq_of_mem_iff textBefore_isOrder h.interfaces hother.interfaces fun key => by
      rw [mem_keys_iff h, mem_keys_iff hother, hentries]
  have hgroups : grouping.groups = other.groups := by
    rw [h.eq_map_entries, hother.eq_map_entries, hkeys, hentries]
  cases grouping
  cases other
  exact congrArg Grouping.mk hgroups

end Grouping

section Collect

variable {verify : Bool}

namespace Collection

/-- Filing types of which each can be registered meets with no violation. -/
theorem error_fileRefs {declaration : Declaration} {refs : List TypeRef}
    (hrefs : ∀ ref ∈ refs, ∃ found, registration verify declaration ref = .ok found)
    (done : Collection) : (fileRefs verify declaration refs done).error = done.error := by
  induction refs generalizing done with
  | nil => rfl
  | cons ref rest ih =>
    obtain ⟨⟨interface, provider⟩, hreg⟩ := hrefs ref List.mem_cons_self
    rw [fileRefs, hreg]
    exact ih (fun other hother => hrefs other (List.mem_cons_of_mem ref hother)) _

/-- Filing a sound occurrence meets with no violation. -/
theorem error_fileOccurrence {occurrence : Occurrence} (hsound : occurrence.IsSound verify)
    (done : Collection) : (fileOccurrence verify occurrence done).error = done.error := by
  unfold fileOccurrence
  simp only
  split
  · rename_i hclass
    obtain ⟨hkind, refs, hlisted, hne, hrefs⟩ := hsound hclass
    rw [interfaces_eq_ok_iff.mpr ⟨hlisted, hne⟩]
    refine error_fileRefs (fun ref href => ?_) done
    obtain ⟨name, hclosest, hmay⟩ := hrefs ref href
    exact ⟨_, registration_eq_ok_iff.mpr
      ⟨hclosest, hmay, Declaration.binaryName_eq_ok_iff.mpr ⟨Or.inl hkind, rfl⟩⟩⟩
  · rfl

/-- Filing sound occurrences meets with no violation. -/
theorem error_fileAll {occurrences : List Occurrence}
    (hsound : ∀ occurrence ∈ occurrences, occurrence.IsSound verify) {done : Collection}
    (hdone : done.error = none) : (fileAll verify occurrences done).error = none := by
  induction occurrences generalizing done with
  | nil => exact hdone
  | cons first rest ih =>
    have hfirst : (fileOccurrence verify first done).error = none :=
      (error_fileOccurrence (hsound first List.mem_cons_self) done).trans hdone
    simp only [fileAll, hfirst]
    exact ih (fun other hother => hsound other (List.mem_cons_of_mem first hother)) hfirst

end Collection

variable {occurrences others : List Occurrence} {grouping : Grouping}

/-- Collecting succeeds exactly if every occurrence is sound. -/
theorem collect_error_eq_none_iff (hordered : IsOrdered grouping.groups) :
    (collect verify occurrences grouping).error = none ↔
      ∀ occurrence ∈ occurrences, occurrence.IsSound verify :=
  ⟨fun hdone => (collect_into_of_error_eq_none hordered hdone).2.1,
    fun hsound => Collection.error_fileAll hsound rfl⟩

/-- Sound occurrences that contribute the same are collected into the same grouping. -/
theorem collect_grouping_congr (hordered : IsOrdered grouping.groups)
    (hdone : (collect verify occurrences grouping).error = none)
    (hdoneOther : (collect verify others grouping).error = none)
    (hsame : ∀ interface entry, (∃ occurrence ∈ occurrences, occurrence.Contributes interface entry) ↔
      ∃ occurrence ∈ others, occurrence.Contributes interface entry) :
    (collect verify occurrences grouping).grouping = (collect verify others grouping).grouping := by
  obtain ⟨hcollected, -, hentries⟩ := collect_into_of_error_eq_none hordered hdone
  obtain ⟨hcollectedOther, -, hentriesOther⟩ := collect_into_of_error_eq_none hordered hdoneOther
  refine Grouping.eq_of_mem_entries_iff hcollected hcollectedOther fun interface entry => ?_
  exact (hentries interface entry).trans
    ((or_congr_right (hsame interface entry)).trans (hentriesOther interface entry).symm)

end Collect

/-- What two collections come to if nothing hangs on the difference between them: both succeed or
neither does. If they do, their groupings have the same contributions to every interface, and from
these emitting to the same memory makes the same artifacts, and leaves the same texts under the same
paths and the same index. -/
structure Collection.Agrees (collected other : Collection) (store : MemoryStore) : Prop where
  succeeds : collected.error = none ↔ other.error = none
  keys : collected.error = none → collected.grouping.keys = other.grouping.keys
  entries : collected.error = none → ∀ interface entry,
    entry ∈ collected.grouping.entries interface ↔ entry ∈ other.grouping.entries interface
  emits : collected.error = none →
    let emission := emit MemoryStore.artifactStore collected.grouping store
    let emissionOther := emit MemoryStore.artifactStore other.grouping store
    emission.failure = none ∧ emissionOther.failure = none ∧
      emission.artifacts = emissionOther.artifacts ∧
        emission.state.files = emissionOther.state.files ∧
          emission.state.index = emissionOther.state.index

/-- Lists of the same occurrences, in any order and each any number of times, are collected into any
grouping with the same result: every occurrence is sound, and then the grouping holds what was filed
before and what the occurrences contribute, or neither list can be collected. What is emitted is the
same as well. -/
theorem collections_of_same_occurrences_agree (verify : Bool)
    (contributions : List (String × Contribution)) (store : MemoryStore)
    {occurrences others : List Occurrence}
    (hsame : ∀ occurrence, occurrence ∈ occurrences ↔ occurrence ∈ others) :
    let collected := collect verify occurrences (Grouping.filed contributions)
    (collected.error = none ↔ ∀ occurrence ∈ occurrences, occurrence.IsSound verify) ∧
      (collected.error = none → ∀ interface entry, entry ∈ collected.grouping.entries interface ↔
        entry ∈ (Grouping.filed contributions).entries interface ∨
          ∃ occurrence ∈ occurrences, occurrence.Contributes interface entry) ∧
      collected.Agrees (collect verify others (Grouping.filed contributions)) store := by
  have hordered := Grouping.isOrdered_filed contributions
  have hsound := @collect_error_eq_none_iff verify occurrences _ hordered
  have hiff : (collect verify occurrences (Grouping.filed contributions)).error = none ↔
      (collect verify others (Grouping.filed contributions)).error = none := by
    rw [hsound, collect_error_eq_none_iff hordered]
    simp only [hsame]
  have hgrouping (hdone : (collect verify occurrences (Grouping.filed contributions)).error = none) :=
    collect_grouping_congr hordered hdone (hiff.mp hdone) fun interface entry => by simp only [hsame]
  refine ⟨hsound, fun hdone => ?_, hiff, fun hdone => by rw [hgrouping hdone],
    fun hdone interface entry => by rw [hgrouping hdone], fun hdone => ?_⟩
  · exact (collect_into_of_error_eq_none hordered hdone).2.2
  · have hfailure (grouping : Grouping) := (MemoryStore.emit_eq grouping store).1
    exact ⟨hfailure _, hfailure _, by rw [hgrouping hdone], by rw [hgrouping hdone],
      by rw [hgrouping hdone]⟩

/-- The marker of a class of a module for the interface `m.I`, which the class descends from. -/
def service (name : String) : Occurrence :=
  ⟨⟨⟨"m", [name]⟩, .topClass, ⟨"m.py", "m"⟩, none, [⟨"m", ["I"]⟩]⟩,
    some [(valueArgument, .sequence [.type ⟨⟨"m", ["I"]⟩, [], none, true⟩])]⟩

/-- A contribution that was filed before. -/
def filedBefore : List (String × Contribution) := [("m.J", "m.C", ⟨"m.py", "m"⟩)]

/-- Two services the other way round, one of them twice, are collected and emitted alike. -/
theorem swappedServices_are_collected_alike :
    (collect true [service "A", service "B"] (Grouping.filed filedBefore)).error = none ∧
      "m.A" ∈ ((collect true [service "A", service "B"] (Grouping.filed filedBefore)).grouping.entries
        "m.I").map (·.1) ∧
      (collect true [service "A", service "B"] (Grouping.filed filedBefore)).Agrees
        (collect true [service "B", service "A", service "B"] (Grouping.filed filedBefore))
        ⟨[("META-INF/services/m.I", "m.Z\n")], [("META-INF/services/m.I", ⟨true, []⟩)]⟩ := by
  have hsame (occurrence : Occurrence) : occurrence ∈ [service "A", service "B"] ↔
      occurrence ∈ [service "B", service "A", service "B"] := by
    simp only [List.mem_cons, List.not_mem_nil, or_false]
    tauto
  exact ⟨by rfl, by decide, (collections_of_same_occurrences_agree true filedBefore _ hsame).2.2⟩

end ServiceManifest
