import ServiceManifest.Proofs.Grouping
import ServiceManifest.Round.Collect

/-!
# What a successful collection files

Collecting stops at the first violation, so a collection that ends without one has filed every
interface of every class among its occurrences. The grouping then holds exactly the contributions of
the occurrences besides those that were there before.
-/

namespace ServiceManifest

open Grouping (IsOrdered)

/-- What an occurrence contributes to the interface of a binary name: its class and its unit, if the
marker lists a type whose nearest class has that name. -/
def Occurrence.Contributes (occurrence : Occurrence) (interface : String) (entry : Contribution) :
    Prop :=
  occurrence.declaration.isClass = true ∧
    entry = (occurrence.declaration.name.binary, occurrence.declaration.unit) ∧
      ∃ refs, occurrence.listed? = some refs ∧
        ∃ ref ∈ refs, ∃ name, ref.closestClass = some name ∧ name.binary = interface

/-- An occurrence that breaks no rule: a function, or a class outside of functions whose marker
lists at least one type, each of which has a nearest class that the declaration may provide. -/
def Occurrence.IsSound (verify : Bool) (occurrence : Occurrence) : Prop :=
  occurrence.declaration.isClass = true →
    occurrence.declaration.kind = .topClass ∧
      ∃ refs, occurrence.listed? = some refs ∧ refs ≠ [] ∧
        ∀ ref ∈ refs, ∃ name, ref.closestClass = some name ∧
          occurrence.declaration.mayProvide name verify = true

/-- The declarations with a binary name are classes outside of functions and functions. -/
theorem Declaration.binaryName_eq_ok_iff {declaration : Declaration} {provider : String} :
    declaration.binaryName = .ok provider ↔
      (declaration.kind = .topClass ∨ declaration.kind = .function) ∧
        provider = declaration.name.binary := by
  unfold Declaration.binaryName
  cases declaration.kind <;> simp [eq_comm]

/-- A registration succeeds if the type has a nearest class that the declaration may provide, and
the declaration has a binary name. -/
theorem registration_eq_ok_iff {verify : Bool} {declaration : Declaration} {ref : TypeRef}
    {name : QualifiedName} {provider : String} :
    registration verify declaration ref = .ok (name, provider) ↔
      ref.closestClass = some name ∧ declaration.mayProvide name verify = true ∧
        declaration.binaryName = .ok provider := by
  unfold registration
  cases hclosest : ref.closestClass with
  | none => simp
  | some found =>
    simp only [Option.some.injEq]
    split
    · rename_i hmay
      cases hbinary : declaration.binaryName with
      | error fault =>
        simp only [Except.map, reduceCtorEq, and_false]
      | ok given =>
        simp only [Except.map, Except.ok.injEq, Prod.mk.injEq]
        constructor
        · rintro ⟨rfl, rfl⟩
          exact ⟨rfl, hmay, rfl⟩
        · rintro ⟨rfl, -, rfl⟩
          exact ⟨rfl, rfl⟩
    · rename_i hmay
      simp only [reduceCtorEq, false_iff]
      rintro ⟨rfl, hmay', -⟩
      exact hmay hmay'

namespace Collection

/-- Filing the types of a declaration without a violation files each of them. -/
theorem fileRefs_of_error_eq_none {verify : Bool} {declaration : Declaration} (refs : List TypeRef)
    {done : Collection} (hordered : IsOrdered done.grouping.groups)
    (hdone : (fileRefs verify declaration refs done).error = none) :
    IsOrdered (fileRefs verify declaration refs done).grouping.groups ∧
      (∀ ref ∈ refs, ∃ name provider, registration verify declaration ref = .ok (name, provider)) ∧
        ∀ interface entry,
          entry ∈ (fileRefs verify declaration refs done).grouping.entries interface ↔
            entry ∈ done.grouping.entries interface ∨
              ∃ ref ∈ refs, ∃ name provider,
                registration verify declaration ref = .ok (name, provider) ∧
                  name.binary = interface ∧ entry = (provider, declaration.unit) := by
  induction refs generalizing done with
  | nil => simpa [fileRefs] using hordered
  | cons ref rest ih =>
    rw [fileRefs] at hdone ⊢
    cases hreg : registration verify declaration ref with
    | error fault => simp [hreg] at hdone
    | ok found =>
      obtain ⟨name, provider⟩ := found
      simp only [hreg] at hdone ⊢
      have hput : IsOrdered (done.grouping.put name.binary provider declaration.unit).groups :=
        hordered.putGroup name.binary (provider, declaration.unit)
      obtain ⟨hordered', hall, hentries⟩ := ih hput hdone
      refine ⟨hordered', ?_, fun interface entry => ?_⟩
      · rintro other (_ | ⟨_, hother⟩)
        · exact ⟨name, provider, hreg⟩
        · exact hall other hother
      · rw [hentries, Grouping.mem_entries_put hordered]
        constructor
        · rintro ((⟨rfl, rfl⟩ | hold) | ⟨other, hother, hfound⟩)
          · exact Or.inr ⟨ref, List.mem_cons_self, name, provider, hreg, rfl, rfl⟩
          · exact Or.inl hold
          · exact Or.inr ⟨other, List.mem_cons_of_mem _ hother, hfound⟩
        · rintro (hold | ⟨other, hother, hfound⟩)
          · exact Or.inl (Or.inr hold)
          · rcases List.mem_cons.mp hother with rfl | hother
            · obtain ⟨name', provider', hreg', rfl, rfl⟩ := hfound
              rw [hreg] at hreg'
              cases hreg'
              exact Or.inl (Or.inl ⟨rfl, rfl⟩)
            · exact Or.inr ⟨other, hother, hfound⟩

/-- The interfaces of an occurrence are the types that its marker lists, if there are any. -/
theorem interfaces_eq_ok_iff {occurrence : Occurrence} {refs : List TypeRef} :
    occurrence.interfaces = .ok refs ↔ occurrence.listed? = some refs ∧ refs ≠ [] := by
  unfold Occurrence.interfaces
  rcases occurrence.listed? with _ | (_ | ⟨ref, rest⟩)
  · simp
  · simp only [reduceCtorEq, Option.some.injEq, false_iff]
    rintro ⟨rfl, hne⟩
    exact hne rfl
  · simp only [Except.ok.injEq, Option.some.injEq]
    constructor
    · rintro rfl
      exact ⟨rfl, List.cons_ne_nil _ _⟩
    · rintro ⟨rfl, -⟩
      rfl

/-- Filing an occurrence without a violation files its contributions, and the occurrence is
sound. -/
theorem fileOccurrence_of_error_eq_none {verify : Bool} {occurrence : Occurrence}
    {done : Collection} (hordered : IsOrdered done.grouping.groups)
    (hdone : (fileOccurrence verify occurrence done).error = none) :
    IsOrdered (fileOccurrence verify occurrence done).grouping.groups ∧
      occurrence.IsSound verify ∧
        ∀ interface entry,
          entry ∈ (fileOccurrence verify occurrence done).grouping.entries interface ↔
            entry ∈ done.grouping.entries interface ∨ occurrence.Contributes interface entry := by
  rw [fileOccurrence] at hdone ⊢
  by_cases hclass : occurrence.declaration.isClass = true
  · simp only [hclass, if_true] at hdone ⊢
    cases hrefs : occurrence.interfaces with
    | error fault => simp [hrefs] at hdone
    | ok refs =>
      simp only [hrefs] at hdone ⊢
      obtain ⟨hlisted, hne⟩ := interfaces_eq_ok_iff.mp hrefs
      obtain ⟨hordered', hall, hentries⟩ := fileRefs_of_error_eq_none refs hordered hdone
      have hkind : occurrence.declaration.kind ≠ .function := by
        simpa [Declaration.isClass] using hclass
      refine ⟨hordered', fun _ => ⟨?_, refs, hlisted, hne, fun ref href => ?_⟩, fun interface entry => ?_⟩
      · obtain ⟨ref, href⟩ := List.exists_mem_of_ne_nil refs hne
        obtain ⟨name, provider, hreg⟩ := hall ref href
        exact (Declaration.binaryName_eq_ok_iff.mp
          (registration_eq_ok_iff.mp hreg).2.2).1.resolve_right hkind
      · obtain ⟨name, provider, hreg⟩ := hall ref href
        obtain ⟨hclosest, hmay, -⟩ := registration_eq_ok_iff.mp hreg
        exact ⟨name, hclosest, hmay⟩
      · rw [hentries]
        refine or_congr_right ⟨?_, ?_⟩
        · rintro ⟨ref, href, name, provider, hreg, rfl, rfl⟩
          obtain ⟨hclosest, -, hbinary⟩ := registration_eq_ok_iff.mp hreg
          obtain ⟨-, rfl⟩ := Declaration.binaryName_eq_ok_iff.mp hbinary
          exact ⟨hclass, rfl, refs, hlisted, ref, href, name, hclosest, rfl⟩
        · rintro ⟨-, rfl, refs', hlisted', ref, href, name, hclosest, rfl⟩
          obtain rfl : refs = refs' := Option.some.inj (hlisted.symm.trans hlisted')
          obtain ⟨name', provider, hreg⟩ := hall ref href
          obtain ⟨hclosest', -, hbinary⟩ := registration_eq_ok_iff.mp hreg
          obtain rfl : name = name' := Option.some.inj (hclosest.symm.trans hclosest')
          obtain ⟨-, rfl⟩ := Declaration.binaryName_eq_ok_iff.mp hbinary
          exact ⟨ref, href, name, _, hreg, rfl, rfl⟩
  · simp only [hclass, if_false, Bool.false_eq_true] at hdone ⊢
    refine ⟨hordered, fun hclass' => absurd hclass' hclass, fun interface entry => ?_⟩
    simp [Occurrence.Contributes, hclass]

/-- Filing occurrences without a violation files the contributions of all of them, and each is
sound. -/
theorem fileAll_of_error_eq_none {verify : Bool} (occurrences : List Occurrence)
    {done : Collection} (hordered : IsOrdered done.grouping.groups)
    (hdone : (fileAll verify occurrences done).error = none) :
    IsOrdered (fileAll verify occurrences done).grouping.groups ∧
      (∀ occurrence ∈ occurrences, occurrence.IsSound verify) ∧
        ∀ interface entry,
          entry ∈ (fileAll verify occurrences done).grouping.entries interface ↔
            entry ∈ done.grouping.entries interface ∨
              ∃ occurrence ∈ occurrences, occurrence.Contributes interface entry := by
  induction occurrences generalizing done with
  | nil => simpa [fileAll] using hordered
  | cons first rest ih =>
    simp only [fileAll] at hdone ⊢
    cases herror : (fileOccurrence verify first done).error with
    | some error => simp [herror] at hdone
    | none =>
      simp only [herror] at hdone ⊢
      obtain ⟨hordered', hsound, hentries⟩ := fileOccurrence_of_error_eq_none hordered herror
      obtain ⟨hordered'', hrest, hall⟩ := ih hordered' hdone
      refine ⟨hordered'', ?_, fun interface entry => ?_⟩
      · rintro other (_ | ⟨_, hother⟩)
        · exact hsound
        · exact hrest other hother
      · rw [hall, hentries]
        simp only [List.mem_cons, exists_eq_or_imp]
        tauto

end Collection

/-- Collecting without a violation into a grouping in order files, beside what is there, exactly the
contributions of the occurrences, each of which is sound. -/
theorem collect_into_of_error_eq_none {verify : Bool} {occurrences : List Occurrence}
    {grouping : Grouping} (hordered : IsOrdered grouping.groups)
    (hdone : (collect verify occurrences grouping).error = none) :
    IsOrdered (collect verify occurrences grouping).grouping.groups ∧
      (∀ occurrence ∈ occurrences, occurrence.IsSound verify) ∧
        ∀ interface entry,
          entry ∈ (collect verify occurrences grouping).grouping.entries interface ↔
            entry ∈ grouping.entries interface ∨
              ∃ occurrence ∈ occurrences, occurrence.Contributes interface entry :=
  @Collection.fileAll_of_error_eq_none verify occurrences (.start grouping) hordered hdone

/-- Collecting without a violation into the empty grouping files exactly the contributions of the
occurrences, each of which is sound. -/
theorem collect_of_error_eq_none {verify : Bool} {occurrences : List Occurrence}
    (hdone : (collect verify occurrences .empty).error = none) :
    IsOrdered (collect verify occurrences .empty).grouping.groups ∧
      (∀ occurrence ∈ occurrences, occurrence.IsSound verify) ∧
        ∀ interface entry,
          entry ∈ (collect verify occurrences .empty).grouping.entries interface ↔
            ∃ occurrence ∈ occurrences, occurrence.Contributes interface entry := by
  have hempty : IsOrdered Grouping.empty.groups := Grouping.isOrdered_nil
  obtain ⟨hordered, hsound, hentries⟩ := collect_into_of_error_eq_none hempty hdone
  refine ⟨hordered, hsound, fun interface entry => ?_⟩
  rw [hentries]
  simp [Grouping.empty, Grouping.entries]

end ServiceManifest
