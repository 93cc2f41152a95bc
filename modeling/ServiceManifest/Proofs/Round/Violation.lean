import ServiceManifest.Proofs.Result
import ServiceManifest.Proofs.Round.Unordered

/-!
# The first violation

Collecting makes one check after the other: for every class that is marked, whether its marker lists
interfaces at all, and then for each of these whether the class may be registered for it. The first
check that fails ends the collection with its error. What is filed then are the registrations that
were checked before, and if no check fails, all of them.
-/

namespace ServiceManifest

open Grouping (IsOrdered filed)

/-- A marker lists types if they are, in order, the value of its argument for interfaces. -/
def Occurrence.Lists (occurrence : Occurrence) (refs : List TypeRef) : Prop :=
  ∃ arguments, occurrence.arguments = some arguments ∧
    Keyed.get? valueArgument arguments = some (.sequence (refs.map .type))

/-- The types in arguments are those that all the arguments are. -/
theorem typesOf?_eq_some_iff {items : List Argument} {refs : List TypeRef} :
    typesOf? items = some refs ↔ items = refs.map .type := by
  induction items generalizing refs with
  | nil => cases refs <;> simp [typesOf?]
  | cons item rest ih =>
    cases item with
    | type ref =>
      rw [typesOf?, Option.map_eq_some_iff]
      cases refs with
      | nil => simp
      | cons first more => simp [ih, and_comm]
    | expression | sequence | other => cases refs <;> simp [typesOf?]

/-- The types that are found in a marker are those that it lists. -/
theorem Occurrence.listed?_eq_some_iff {occurrence : Occurrence} {refs : List TypeRef} :
    occurrence.listed? = some refs ↔ occurrence.Lists refs := by
  unfold listed? Lists
  cases occurrence.arguments with
  | none => simp
  | some arguments =>
    simp only [Option.bind_some, Option.some.injEq, exists_eq_left']
    cases Keyed.get? valueArgument arguments with
    | none => simp
    | some value => cases value <;> simp [typesOf?_eq_some_iff]

/-- A check: that the marker on a class lists interfaces, or that a declaration may be registered for
one. -/
inductive Check
  | listing (occurrence : Occurrence)
  | registering (declaration : Declaration) (ref : TypeRef)

namespace Check

/-- The declaration that a check is about. -/
def declaration : Check → Declaration
  | listing occurrence => occurrence.declaration
  | registering declaration _ => declaration

/-- The rules of collection: a check fails with an error. Of the rules for a registration the first
that is violated counts, so each comes with what the rules before it ask for. -/
inductive Violates (verify : Bool) : Check → RoundError → Prop
  | missingArgument {occurrence : Occurrence} (hnone : ∀ refs, ¬occurrence.Lists refs) :
      Violates verify (listing occurrence) (.missingArgument
        occurrence.declaration.name.dotted occurrence.declaration.location)
  | emptyInterfaceSet {occurrence : Occurrence} (hempty : occurrence.Lists []) :
      Violates verify (listing occurrence) (.emptyInterfaceSet
        occurrence.declaration.name.dotted occurrence.declaration.location)
  | unresolvedInterface {declaration : Declaration} {ref : TypeRef}
      (hnone : ref.closestClass = none) :
      Violates verify (registering declaration ref)
        (.unresolvedInterface ref.name.dotted declaration.location)
  | notAnImplementer {declaration : Declaration} {ref : TypeRef} {interface : QualifiedName}
      (hclosest : ref.closestClass = some interface) (hverify : verify = true)
      (hnot : declaration.implements interface = false) :
      Violates verify (registering declaration ref)
        (.notAnImplementer declaration.name.dotted interface.dotted declaration.location)
  | unsupportedKind {declaration : Declaration} {ref : TypeRef} {interface : QualifiedName}
      (hclosest : ref.closestClass = some interface)
      (himplements : verify = true → declaration.implements interface = true)
      (hkind : declaration.kind = .localClass ∨ declaration.kind = .anonymousClass) :
      Violates verify (registering declaration ref)
        (.unsupportedKind declaration.name.dotted declaration.kind.label declaration.location)

/-- A check is passed if it fails with no error. -/
def Passes (verify : Bool) (check : Check) : Prop := ∀ error, ¬check.Violates verify error

/-- What is filed once a check is passed. -/
def contribution? : Check → Option (String × Contribution)
  | listing _ => none
  | registering declaration ref =>
    ref.closestClass.map fun interface =>
      (interface.binary, declaration.name.binary, declaration.unit)

variable {verify : Bool} {check : Check} {error other : RoundError}

/-- The error of a check carries the location of its declaration. -/
theorem Violates.location (h : check.Violates verify error) :
    error.location = check.declaration.location := by
  cases h <;> rfl

/-- A check fails with one error at most. -/
theorem Violates.unique (h : check.Violates verify error) (hother : check.Violates verify other) :
    error = other := by
  cases h with
  | missingArgument hnone =>
    cases hother with
    | missingArgument => rfl
    | emptyInterfaceSet hempty => exact absurd hempty (hnone [])
  | emptyInterfaceSet hempty =>
    cases hother with
    | missingArgument hnone => exact absurd hempty (hnone [])
    | emptyInterfaceSet => rfl
  | unresolvedInterface hnone => cases hother <;> simp_all
  | notAnImplementer hclosest hverify hnot => cases hother <;> simp_all
  | unsupportedKind hclosest himplements hkind => cases hother <;> simp_all

end Check

open Check

/-- The checks of an occurrence: none of a function, and of a class that of its list and then one for
each type in it. -/
def Occurrence.checks (occurrence : Occurrence) : List Check :=
  if occurrence.declaration.isClass then
    listing occurrence ::
      (occurrence.listed?.getD []).map (registering occurrence.declaration)
  else []

section Single

variable {verify : Bool}

/-- An occurrence has no interfaces exactly if the check of its list fails. -/
theorem interfaces_eq_error_iff {occurrence : Occurrence} {error : RoundError} :
    occurrence.interfaces = .error error ↔ (listing occurrence).Violates verify error := by
  unfold Occurrence.interfaces
  cases hlisted : occurrence.listed? with
  | none =>
    have hnone (refs : List TypeRef) : ¬occurrence.Lists refs := by
      rw [← Occurrence.listed?_eq_some_iff, hlisted]
      simp
    constructor
    · rintro ⟨⟩
      exact .missingArgument hnone
    · intro h
      cases h with
      | missingArgument => rfl
      | emptyInterfaceSet hempty => exact absurd hempty (hnone [])
  | some refs =>
    have hlists := Occurrence.listed?_eq_some_iff.mp hlisted
    cases refs with
    | nil =>
      constructor
      · rintro ⟨⟩
        exact .emptyInterfaceSet hlists
      · intro h
        cases h with
        | missingArgument hnone => exact absurd hlists (hnone [])
        | emptyInterfaceSet => rfl
    | cons ref rest =>
      simp only [reduceCtorEq, false_iff]
      intro h
      cases h with
      | missingArgument hnone => exact hnone _ hlists
      | emptyInterfaceSet hempty =>
        rw [← Occurrence.listed?_eq_some_iff, hlisted] at hempty
        cases hempty

/-- A declaration has no binary name exactly if it is of a kind that cannot be provided. -/
theorem binaryName_eq_error_iff {declaration : Declaration} {error : RoundError} :
    declaration.binaryName = .error error ↔
      (declaration.kind = .localClass ∨ declaration.kind = .anonymousClass) ∧
        error = .unsupportedKind declaration.name.dotted declaration.kind.label
          declaration.location := by
  unfold Declaration.binaryName
  cases declaration.kind <;> simp [eq_comm]

/-- A registration is refused exactly if its check fails. -/
theorem registration_eq_error_iff {declaration : Declaration} {ref : TypeRef} {error : RoundError} :
    registration verify declaration ref = .error error ↔
      (registering declaration ref).Violates verify error := by
  unfold registration
  cases hclosest : ref.closestClass with
  | none =>
    constructor
    · rintro ⟨⟩
      exact .unresolvedInterface hclosest
    · intro h
      cases h <;> simp_all
  | some interface =>
    dsimp only
    cases hmay : declaration.mayProvide interface verify with
    | false =>
      obtain ⟨hverify, hnot⟩ : verify = true ∧ declaration.implements interface = false := by
        simpa [Declaration.mayProvide] using hmay
      simp only [Bool.false_eq_true, if_false, Except.error.injEq]
      constructor
      · rintro rfl
        exact .notAnImplementer hclosest hverify hnot
      · intro h
        cases h <;> simp_all
    | true =>
      have himplements : verify = true → declaration.implements interface = true := by
        rintro rfl
        simpa [Declaration.mayProvide] using hmay
      simp only [if_true, map_eq_error_iff, binaryName_eq_error_iff]
      constructor
      · rintro ⟨hkind, rfl⟩
        exact .unsupportedKind hclosest himplements hkind
      · intro h
        cases h <;> simp_all

/-- A registration that is accepted has passed its check, and is about the nearest class of the type
and the binary name of the declaration. -/
theorem passes_of_registration {declaration : Declaration} {ref : TypeRef} {interface : QualifiedName}
    {provider : String} (h : registration verify declaration ref = .ok (interface, provider)) :
    (registering declaration ref).Passes verify ∧ ref.closestClass = some interface ∧
      provider = declaration.name.binary := by
  obtain ⟨hclosest, -, hbinary⟩ := registration_eq_ok_iff.mp h
  refine ⟨fun error hviolates => ?_, hclosest, (Declaration.binaryName_eq_ok_iff.mp hbinary).2⟩
  cases h.symm.trans (registration_eq_error_iff.mpr hviolates)

/-- A declaration that passes the check for a type may be registered for its nearest class. -/
theorem exists_interface_of_passes {declaration : Declaration} {ref : TypeRef}
    (h : (registering declaration ref).Passes verify) :
    ∃ interface, ref.closestClass = some interface ∧
      (verify = true → declaration.implements interface = true) := by
  cases hclosest : ref.closestClass with
  | none => exact absurd (.unresolvedInterface hclosest) (h _)
  | some interface =>
    refine ⟨interface, rfl, fun hverify => ?_⟩
    by_contra hnot
    exact h _ (.notAnImplementer hclosest hverify (by simpa using hnot))

end Single

/-- How checks end: all of them are passed, or those before the first that fails, with its error. -/
inductive Stops (verify : Bool) (checks passed : List Check) : Option RoundError → Prop
  | atEnd (hchecks : checks = passed) (hpassed : ∀ check ∈ passed, check.Passes verify) :
      Stops verify checks passed none
  | atViolation {check : Check} {rest : List Check} {error : RoundError}
      (hchecks : checks = passed ++ check :: rest)
      (hpassed : ∀ check ∈ passed, check.Passes verify)
      (hviolates : check.Violates verify error) : Stops verify checks passed (some error)

section Stops

variable {verify : Bool} {check : Check} {checks more passed front : List Check}
  {error : RoundError} {ending other : Option RoundError}

/-- Checks before the end are passed. -/
theorem Stops.all_pass (h : Stops verify checks passed ending) :
    ∀ check ∈ passed, check.Passes verify := by
  cases h <;> assumption

/-- A check that fails first ends the checks. -/
theorem stops_of_violates (h : check.Violates verify error) (checks : List Check) :
    Stops verify (check :: checks) [] (some error) :=
  .atViolation rfl (List.forall_mem_nil _) h

/-- Behind checks that are passed, checks end as they do by themselves. -/
theorem Stops.append (hfront : ∀ check ∈ front, check.Passes verify)
    (h : Stops verify checks passed ending) :
    Stops verify (front ++ checks) (front ++ passed) ending := by
  have hall : ∀ check ∈ front ++ passed, check.Passes verify :=
    List.forall_mem_append.mpr ⟨hfront, h.all_pass⟩
  cases h with
  | atEnd hchecks => exact .atEnd (congrArg (front ++ ·) hchecks) hall
  | atViolation hchecks _ hviolates =>
    exact .atViolation (by rw [hchecks, List.append_assoc]) hall hviolates

/-- What stands behind a check that fails does not count. -/
theorem Stops.append_right (h : Stops verify checks passed (some error)) (more : List Check) :
    Stops verify (checks ++ more) passed (some error) := by
  cases h with
  | atViolation hchecks hpassed hviolates =>
    exact .atViolation (by rw [hchecks, List.append_assoc, List.cons_append]) hpassed hviolates

/-- Checks end in one way only. -/
theorem Stops.unique (h : Stops verify checks passed ending)
    (hfront : Stops verify checks front other) : front = passed ∧ other = ending := by
  induction checks generalizing passed front with
  | nil =>
    cases h with
    | atEnd hchecks =>
      cases hfront with
      | atEnd hchecks' => exact ⟨hchecks'.symm.trans hchecks, rfl⟩
      | atViolation hchecks' => simp at hchecks'
    | atViolation hchecks => simp at hchecks
  | cons check rest ih =>
    have hcases {passed : List Check} {ending : Option RoundError}
        (h : Stops verify (check :: rest) passed ending) :
        (passed = [] ∧ ∃ error, check.Violates verify error ∧ ending = some error) ∨
          ∃ behind, passed = check :: behind ∧ check.Passes verify ∧ Stops verify rest behind ending := by
      cases h with
      | atEnd hchecks hpassed =>
        subst hchecks
        exact .inr ⟨rest, rfl, hpassed check List.mem_cons_self,
          .atEnd rfl fun other hother => hpassed other (List.mem_cons_of_mem _ hother)⟩
      | atViolation hchecks hpassed hviolates =>
        cases passed with
        | nil =>
          obtain ⟨rfl, -⟩ := List.cons.inj hchecks
          exact .inl ⟨rfl, _, hviolates, rfl⟩
        | cons first behind =>
          obtain ⟨rfl, hrest⟩ := List.cons.inj hchecks
          exact .inr ⟨behind, rfl, hpassed check List.mem_cons_self, .atViolation hrest
            (fun other hother => hpassed other (List.mem_cons_of_mem _ hother)) hviolates⟩
    rcases hcases h with ⟨rfl, error, hviolates, rfl⟩ | ⟨behind, rfl, hpasses, hstops⟩
    · rcases hcases hfront with ⟨rfl, error', hviolates', rfl⟩ | ⟨_, _, hpasses', _⟩
      · exact ⟨rfl, congrArg some (hviolates'.unique hviolates)⟩
      · exact absurd hviolates (hpasses' error)
    · rcases hcases hfront with ⟨_, error', hviolates', _⟩ | ⟨behind', rfl, _, hstops'⟩
      · exact absurd hviolates' (hpasses error')
      · obtain ⟨rfl, rfl⟩ := ih hstops hstops'
        exact ⟨rfl, rfl⟩

end Stops

namespace Collection

/-- A collection that was brought further by making checks: it has filed what stands for those that were
passed, and it has the error of the one that failed. -/
def Makes (verify : Bool) (done next : Collection) (checks : List Check) : Prop :=
  ∃ passed, Stops verify checks passed next.error ∧
    next.grouping = done.grouping.withAll (passed.filterMap contribution?)

section Makes

variable {verify : Bool} {done middle next : Collection} {checks more : List Check}

/-- Checks after checks without a failure are made one after the other. -/
theorem Makes.trans (hfirst : Makes verify done middle checks) (hnone : middle.error = none)
    (hsecond : Makes verify middle next more) : Makes verify done next (checks ++ more) := by
  obtain ⟨passed, hstops, hgrouping⟩ := hfirst
  obtain ⟨behind, hstops', hgrouping'⟩ := hsecond
  rw [hnone] at hstops
  cases hstops with
  | atEnd hchecks hpassed =>
    subst hchecks
    refine ⟨checks ++ behind, hstops'.append hpassed, ?_⟩
    rw [hgrouping', hgrouping, Grouping.withAll, Grouping.withAll, ← List.foldl_append,
      ← List.filterMap_append]
    rfl

/-- Once a check has failed no further one is made. -/
theorem Makes.of_error (h : Makes verify done next checks) {error : RoundError}
    (herror : next.error = some error) (more : List Check) :
    Makes verify done next (checks ++ more) := by
  obtain ⟨passed, hstops, hgrouping⟩ := h
  rw [herror] at hstops
  exact ⟨passed, herror ▸ hstops.append_right more, hgrouping⟩

/-- A check that fails is made without filing anything. -/
theorem makes_of_violates {check : Check} {error : RoundError} (h : check.Violates verify error)
    (checks : List Check) : Makes verify done { done with error := some error } (check :: checks) :=
  ⟨[], stops_of_violates h checks, rfl⟩

/-- Filing types makes the check of each. -/
theorem makes_fileRefs {declaration : Declaration} (refs : List TypeRef) {done : Collection}
    (hdone : done.error = none) :
    Makes verify done (fileRefs verify declaration refs done)
      (refs.map (registering declaration)) := by
  induction refs generalizing done with
  | nil => exact ⟨[], hdone ▸ .atEnd rfl (List.forall_mem_nil _), rfl⟩
  | cons ref rest ih =>
    rw [fileRefs, List.map_cons]
    cases hregistration : registration verify declaration ref with
    | error fault =>
      exact makes_of_violates (registration_eq_error_iff.mp hregistration) _
    | ok found =>
      obtain ⟨interface, provider⟩ := found
      obtain ⟨hpasses, hclosest, rfl⟩ := passes_of_registration hregistration
      obtain ⟨passed, hstops, hgrouping⟩ := @ih { done with
        grouping := done.grouping.put interface.binary declaration.name.binary declaration.unit
        messages := done.messages ++ [declaration.name.binary ++ " provides " ++ interface.binary ++
          " (" ++ declaration.unit.path ++ ")"] } hdone
      refine ⟨registering declaration ref :: passed,
        hstops.append (List.forall_mem_singleton.mpr hpasses), ?_⟩
      rw [List.filterMap_cons, contribution?, hclosest]
      exact hgrouping

/-- Filing an occurrence makes its checks. -/
theorem makes_fileOccurrence (occurrence : Occurrence) {done : Collection}
    (hdone : done.error = none) :
    Makes verify done (fileOccurrence verify occurrence done) occurrence.checks := by
  unfold fileOccurrence Occurrence.checks
  simp only
  split
  · cases hinterfaces : occurrence.interfaces with
    | error fault => exact makes_of_violates (interfaces_eq_error_iff.mp hinterfaces) _
    | ok refs =>
      have hpasses : (listing occurrence).Passes verify := by
        intro error hviolates
        cases hinterfaces.symm.trans (interfaces_eq_error_iff.mpr hviolates)
      obtain ⟨hlisted, -⟩ := interfaces_eq_ok_iff.mp hinterfaces
      obtain ⟨passed, hstops, hgrouping⟩ := makes_fileRefs refs hdone
      rw [hlisted]
      exact ⟨listing occurrence :: passed,
        hstops.append (List.forall_mem_singleton.mpr hpasses), hgrouping⟩
  · exact ⟨[], hdone ▸ .atEnd rfl (List.forall_mem_nil _), rfl⟩

/-- Filing occurrences makes the checks of all of them. -/
theorem makes_fileAll (occurrences : List Occurrence) {done : Collection} (hdone : done.error = none) :
    Makes verify done (fileAll verify occurrences done) (occurrences.flatMap Occurrence.checks) := by
  induction occurrences generalizing done with
  | nil => exact ⟨[], hdone ▸ .atEnd rfl (List.forall_mem_nil _), rfl⟩
  | cons first rest ih =>
    have hfirst : Makes verify done (fileOccurrence verify first done) first.checks :=
      makes_fileOccurrence first hdone
    rw [List.flatMap_cons, fileAll]
    cases herror : (fileOccurrence verify first done).error with
    | some error =>
      exact hfirst.of_error herror _
    | none =>
      exact hfirst.trans herror (ih herror)

end Makes

end Collection

/-- Collecting makes the checks of the occurrences in order and stops at the first that fails: its error
is that of the first violation, with the location of the declaration, or there is none. What was filed
before stays, and what stands for the checks that were passed is filed besides, and nothing else. With
verification all of that is for interfaces that the declarations implement. -/
theorem collection_stops_at_first_violation (verify : Bool) (occurrences : List Occurrence)
    (contributions : List (String × Contribution)) :
    let done := collect verify occurrences (filed contributions)
    ∃ passed : List Check,
      (∀ front ending, Stops verify (occurrences.flatMap Occurrence.checks) front ending ↔
        front = passed ∧ ending = done.error) ∧
      (∀ (check : Check) (error : RoundError), check.Violates verify error →
        error.location = check.declaration.location) ∧
      done.grouping = filed (contributions ++ passed.filterMap contribution?) ∧
      (∀ interface entry, entry ∈ done.grouping.entries interface ↔
        (interface, entry) ∈ contributions ∨
          ∃ check ∈ passed, check.contribution? = some (interface, entry)) ∧
      ∀ declaration ref, registering declaration ref ∈ passed →
        ∃ interface, ref.closestClass = some interface ∧
          (verify = true → declaration.implements interface = true) := by
  obtain ⟨passed, hstops, hgrouping⟩ : Collection.Makes verify (.start (filed contributions)) _ _ :=
    Collection.makes_fileAll occurrences rfl
  have hfiled : (collect verify occurrences (filed contributions)).grouping =
      filed (contributions ++ passed.filterMap contribution?) :=
    hgrouping.trans (Grouping.filed_append _ _).symm
  refine ⟨passed, fun front ending => ⟨fun h => hstops.unique h, ?_⟩,
    fun check error h => h.location, hfiled, fun interface entry => ?_,
    fun declaration ref hmem => exists_interface_of_passes (hstops.all_pass _ hmem)⟩
  · rintro ⟨rfl, rfl⟩
    exact hstops
  · rw [hfiled, Grouping.mem_entries_filed, List.mem_append, List.mem_filterMap]

end ServiceManifest
