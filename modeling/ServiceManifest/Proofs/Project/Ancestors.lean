import Mathlib.Logic.Relation
import ServiceManifest.Proofs.Project.Kept

/-!
# Only what is above a class is reported as its supertype

A base edge leads from a class to what one of its base expressions stands for. Closures are computed
by going up such edges, but what is remembered of a class may be provisional, and class statements of
one name share what is remembered. Neither does harm: at every moment each class that is remembered
for a name is the object class or is reached from the name by base edges.
-/

namespace ServiceManifest.Project

open ServiceManifest.Source

/-- A base edge: some class statement with the qualified name has a base expression that stands for
the other class, seen from the class around the statement. -/
def HasBase (markers : List String) (sources : List Source) (name base : QualifiedName) : Prop :=
  ∃ source ∈ sources, source.unit.module = name.package ∧
    ∃ declared ∈ declarations source.statements, declared.kind ≠ .function ∧
      declared.path = name.simpleNames ∧ ∃ expr ∈ declared.bases,
        StandsFor (modulesOf markers sources) (source.index markers) declared.path.dropLast expr base

/-- A class is above a name if it is the object class or is reached by edges, at least one. -/
def IsAbove (edge : QualifiedName → QualifiedName → Prop) (name base : QualifiedName) : Prop :=
  base = .object ∨ Relation.TransGen edge name base

section Closures

variable {edge : QualifiedName → QualifiedName → Prop} {modules : Modules}

/-- What is above a class is above every class below that one. -/
theorem IsAbove.below {name base above : QualifiedName} (hedge : edge name base)
    (h : IsAbove edge base above) : IsAbove edge name above :=
  h.imp_right fun hreached => .head hedge hreached

/-- A property of a class and a set of classes that the computation of closures keeps: it holds of the
object class alone, and it is kept when a base is added, or what is found for a base. -/
structure IsKept (edge : QualifiedName → QualifiedName → Prop)
    (holds : QualifiedName → ClassSet → Prop) : Prop where
  object : ∀ name, holds name [.object]
  insert : ∀ {name base classes}, edge name base → holds name classes →
    holds name (ClassSet.insert base classes)
  union : ∀ {name base classes more}, edge name base → holds name classes → holds base more →
    holds name (ClassSet.union classes more)

/-- Closures that have a property of each class and what is remembered of it. -/
def Closures.Hold (holds : QualifiedName → ClassSet → Prop) (closures : Closures) : Prop :=
  ∀ entry ∈ closures, holds entry.1 entry.2

/-- Every class that a base of a class statement stands for is reached by an edge from its name. -/
def HasEdges (edge : QualifiedName → QualifiedName → Prop) (modules : Modules) (index : ModuleIndex)
    (path : List String) (bases : List Expr) : Prop :=
  ∀ expr ∈ bases, ∀ base, StandsFor modules index path.dropLast expr base →
    edge ⟨index.name, path⟩ base

/-- The classes that a project knows belong to the module of their package and have their edges. -/
def Modules.HasEdges (modules : Modules) (edge : QualifiedName → QualifiedName → Prop) : Prop :=
  ∀ name owner bases, declaration? modules name = some (owner, bases) →
    owner.name = name.package ∧ Project.HasEdges edge modules owner name.simpleNames bases

/-- A computation of closures that keeps a property of what is remembered and finds only sets that
have it. -/
def ClosuresHold (edge : QualifiedName → QualifiedName → Prop)
    (holds : QualifiedName → ClassSet → Prop) (modules : Modules) (closureOf : ClosureOf) : Prop :=
  ∀ {closures after index path bases closure}, closures.Hold holds →
    HasEdges edge modules index path bases →
      closureOf closures index path bases = .ok (closure, after) →
        holds ⟨index.name, path⟩ closure ∧ after.Hold holds

section Kept

variable {holds : QualifiedName → ClassSet → Prop}

/-- What has the property may be remembered. -/
theorem Closures.Hold.put {closures : Closures} (h : closures.Hold holds) {name : QualifiedName}
    {closure : ClassSet} (hclosure : holds name closure) : (closures.put name closure).Hold holds := by
  intro entry hentry
  rcases List.mem_cons.mp hentry with rfl | hentry
  · exact hclosure
  · exact h entry (List.mem_filter.mp hentry).1

/-- What is remembered of a class has the property. -/
theorem Closures.Hold.get? {closures : Closures} (h : closures.Hold holds) {name : QualifiedName}
    {closure : ClassSet} (hget : closures.get? name = some closure) : holds name closure := by
  obtain ⟨entry, hentry, rfl⟩ := Option.map_eq_some_iff.mp hget
  have hname : entry.1 = name := by simpa using List.find?_some hentry
  exact hname ▸ h entry (List.mem_of_find?_eq_some hentry)

/-- A base has a class exactly if it stands for it. -/
theorem baseClass?_eq_some_iff {index : ModuleIndex} {path : List String} {expr : Expr}
    {base : QualifiedName} : baseClass? modules index path expr = .ok (some base) ↔
      StandsFor modules index path.dropLast expr base := by
  unfold baseClass? StandsFor
  cases hresolve : resolve modules index path.dropLast expr with
  | error fault => simp [Except.map]
  | ok found => simp [Except.map, Option.bind_eq_some_iff]

/-- Adding what bases bring keeps the property, if what is below does so. -/
theorem hold_addBases (hkept : IsKept edge holds) (hmodules : modules.HasEdges edge)
    {below : ClosureOf} (hbelow : ClosuresHold edge holds modules below) {index : ModuleIndex}
    {path : List String} {bases : List Expr} (hedges : HasEdges edge modules index path bases)
    {found closure : ClassSet} {closures after : Closures} (hfound : holds ⟨index.name, path⟩ found)
    (hclosures : closures.Hold holds)
    (h : addBases modules below index path bases found closures = .ok (closure, after)) :
    holds ⟨index.name, path⟩ closure ∧ after.Hold holds := by
  induction bases generalizing found closures with
  | nil =>
    cases h
    exact ⟨hfound, hclosures⟩
  | cons expr rest ih =>
    have hrest : HasEdges edge modules index path rest := fun other hother =>
      hedges other (List.mem_cons_of_mem expr hother)
    rw [addBases] at h
    cases hbase : baseClass? modules index path expr with
    | error fault => simp [hbase] at h
    | ok base =>
      cases base with
      | none =>
        simp only [hbase] at h
        exact ih hrest hfound hclosures h
      | some base =>
        have hedge := hedges expr List.mem_cons_self base (baseClass?_eq_some_iff.mp hbase)
        have hwith := hkept.insert hedge hfound
        simp only [hbase] at h
        cases hdeclared : declaration? modules base with
        | none =>
          simp only [hdeclared] at h
          exact ih hrest hwith hclosures h
        | some declared =>
          obtain ⟨owner, above⟩ := declared
          obtain ⟨hname, habove⟩ := hmodules base owner above hdeclared
          simp only [hdeclared] at h
          cases hmore : below closures owner base.simpleNames above with
          | error fault => simp [hmore] at h
          | ok result =>
            obtain ⟨more, known⟩ := result
            simp only [hmore] at h
            obtain ⟨hmoreHolds, hknown⟩ := hbelow hclosures habove hmore
            rw [hname] at hmoreHolds
            exact ih hrest (hkept.union hedge hwith hmoreHolds) hknown h

/-- If computing the closures of bases keeps the property, so does computing that of a class. -/
theorem closuresHold_closureStep (hkept : IsKept edge holds) (hmodules : modules.HasEdges edge)
    {below : ClosureOf} (hbelow : ClosuresHold edge holds modules below) :
    ClosuresHold edge holds modules (closureStep modules below) := by
  intro closures after index path bases closure hclosures hedges h
  rw [closureStep] at h
  simp only at h
  split at h
  · rename_i known hknown
    cases h
    exact ⟨hclosures.get? hknown, hclosures⟩
  · split at h
    · cases h
    · rename_i found known hadd
      cases h
      obtain ⟨hclosure, hafter⟩ := hold_addBases hkept hmodules hbelow hedges (hkept.object _)
        (hclosures.put (hkept.object _)) hadd
      exact ⟨hclosure, hafter.put hclosure⟩

/-- Computing closures keeps the property, however deep bases are followed. -/
theorem closuresHold_closureWithin (hkept : IsKept edge holds) (hmodules : modules.HasEdges edge)
    (depth : Nat) : ClosuresHold edge holds modules (closureWithin modules depth) := by
  induction depth with
  | zero =>
    intro closures after index path bases closure hclosures hedges h
    cases h
    exact ⟨hkept.object _, hclosures⟩
  | succ depth ih => exact closuresHold_closureStep hkept hmodules ih

end Kept

/-- A set of classes that are all above a name. -/
def ClassSet.IsAbove (edge : QualifiedName → QualifiedName → Prop) (name : QualifiedName)
    (classes : ClassSet) : Prop :=
  ∀ base ∈ classes, Project.IsAbove edge name base

/-- Closures that have nothing but what is above their names. -/
def Closures.IsSound (edge : QualifiedName → QualifiedName → Prop) (closures : Closures) : Prop :=
  closures.Hold (ClassSet.IsAbove edge)

/-- A set has a class after an insertion if that was inserted or it had it before. -/
theorem ClassSet.mem_insert {name base : QualifiedName} {classes : ClassSet} :
    base ∈ ClassSet.insert name classes ↔ base = name ∨ base ∈ classes :=
  Ascending.mem_insert Ascending.nameBefore_isOrder

/-- A union has the classes of either set. -/
theorem ClassSet.mem_union {base : QualifiedName} {classes more : ClassSet} :
    base ∈ ClassSet.union classes more ↔ base ∈ classes ∨ base ∈ more :=
  Ascending.mem_foldl_insert Ascending.nameBefore_isOrder more classes

/-- Computing closures finds only what is above a class. -/
theorem isKept_isAbove : IsKept edge (ClassSet.IsAbove edge) where
  object name base hbase := Or.inl (List.mem_singleton.mp hbase)
  insert hedge hclasses other hother := by
    rcases ClassSet.mem_insert.mp hother with rfl | hother
    · exact Or.inr (.single hedge)
    · exact hclasses other hother
  union hedge hclasses hmore other hother := by
    rcases ClassSet.mem_union.mp hother with hother | hother
    · exact hclasses other hother
    · exact (hmore other hother).below hedge

/-- The classes that an occurrence names as supertypes are above its class, and the closures stay
sound. -/
theorem isAbove_of_occurrence (hmodules : modules.HasEdges edge) {closures after : Closures}
    (hsound : closures.IsSound edge) {index : ModuleIndex} {candidate : Candidate}
    (hedges : candidate.kind ≠ .function →
      HasEdges edge modules index candidate.path candidate.bases)
    {found : Occurrence} (h : occurrence modules closures index candidate = .ok (found, after)) :
    ClassSet.IsAbove edge found.declaration.name found.declaration.supertypes ∧
      after.IsSound edge := by
  obtain ⟨hreports, hclosed⟩ := occurrence_eq_ok h
  rw [hreports.name]
  split at hclosed
  · obtain ⟨hnone, rfl⟩ := Prod.mk.inj (Except.ok.inj hclosed)
    rw [← hnone]
    exact ⟨nofun, hsound⟩
  · rename_i hkind
    exact closuresHold_closureWithin isKept_isAbove hmodules _ hsound (hedges hkind) hclosed

/-- The supertypes of every occurrence are above its class. -/
theorem isAbove_of_occurrencesFrom (hmodules : modules.HasEdges edge)
    {entries : List (ModuleIndex × Candidate)}
    (hedges : ∀ entry ∈ entries, entry.2.kind ≠ .function →
      HasEdges edge modules entry.1 entry.2.path entry.2.bases)
    {closures : Closures} (hsound : closures.IsSound edge) {occurrences : List Occurrence}
    (h : occurrencesFrom modules entries closures = .ok occurrences) :
    ∀ occurrence ∈ occurrences,
      ClassSet.IsAbove edge occurrence.declaration.name occurrence.declaration.supertypes := by
  induction entries generalizing closures occurrences with
  | nil =>
    cases h
    exact nofun
  | cons entry rest ih =>
    obtain ⟨first, after, more, hfirst, hrest, rfl⟩ := occurrencesFrom_cons_eq_ok h
    obtain ⟨habove, hafter⟩ := isAbove_of_occurrence hmodules hsound
      (hedges entry List.mem_cons_self) hfirst
    exact List.forall_mem_cons.mpr ⟨habove,
      ih (fun other hother => hedges other (List.mem_cons_of_mem entry hother)) hafter hrest⟩

end Closures

section Sources

variable {markers : List String} {sources : List Source}

/-- A module that is found by its name among those of sources is that of a source with the name. -/
theorem exists_source_of_get? {name : String} {index : ModuleIndex}
    (h : Keyed.get? name (modulesOf markers sources) = some index) :
    ∃ source ∈ sources, source.unit.module = name ∧ source.index markers = index := by
  have hmem := Keyed.mem_of_get?_eq_some h
  simp only [modulesOf, named, List.map_map, List.mem_map, Function.comp_apply, Prod.mk.injEq] at hmem
  obtain ⟨source, hsource, rfl, rfl⟩ := hmem
  exact ⟨source, hsource, source.name_index.symm, rfl⟩

/-- The base edges of sources start at the class statements of each of them. -/
theorem hasEdges_of_declared {source : Source} (hsource : source ∈ sources) {declared : Declared}
    (hdeclared : declared ∈ declarations source.statements) (hkind : declared.kind ≠ .function) :
    HasEdges (HasBase markers sources) (modulesOf markers sources) (source.index markers)
      declared.path declared.bases := by
  intro expr hexpr base hbase
  exact ⟨source, hsource, source.name_index.symm, declared, hdeclared, hkind, rfl, expr, hexpr, hbase⟩

/-- A class that sources know is declared outside of functions in the source of its package. -/
theorem exists_declared_of_declaration? {name : QualifiedName} {owner : ModuleIndex}
    {bases : List Expr} (h : declaration? (modulesOf markers sources) name = some (owner, bases)) :
    ∃ source ∈ sources, source.unit.module = name.package ∧ source.index markers = owner ∧
      ∃ declared ∈ declarations source.statements, declared.kind = .topClass ∧
        declared.path = name.simpleNames ∧ declared.bases = bases := by
  obtain ⟨found, hfound, hbases⟩ := Option.bind_eq_some_iff.mp h
  obtain ⟨source, hsource, hmodule, rfl⟩ := exists_source_of_get? hfound
  obtain ⟨stated, hstated, heq⟩ := Option.map_eq_some_iff.mp hbases
  cases heq
  obtain ⟨entry, hentry, rfl⟩ := Option.map_eq_some_iff.mp hstated
  have hpath : entry.1 = name.simpleNames := by simpa using List.find?_some hentry
  obtain ⟨declared, hdeclared, hkind, rfl⟩ :=
    exists_declared_of_mem_classes (List.mem_of_find?_eq_some hentry)
  exact ⟨source, hsource, hmodule, rfl, declared, hdeclared, hkind, hpath, rfl⟩

/-- The classes that the modules of sources know have their base edges. -/
theorem hasEdges_modulesOf : (modulesOf markers sources).HasEdges (HasBase markers sources) := by
  intro name owner bases h
  obtain ⟨source, hsource, hmodule, rfl, declared, hdeclared, hkind, hpath, rfl⟩ :=
    exists_declared_of_declaration? h
  exact ⟨source.name_index.trans hmodule,
    hpath ▸ hasEdges_of_declared hsource hdeclared (hkind.trans_ne (by decide))⟩

/-- The supertypes of every occurrence in sources are above its class by base edges. -/
theorem isAbove_of_mem_occurrences {occurrences : List Occurrence}
    (h : (modulesOf markers sources).occurrences = .ok occurrences) {occurrence : Occurrence}
    (hmem : occurrence ∈ occurrences) {base : QualifiedName}
    (hbase : base ∈ occurrence.declaration.supertypes) :
    IsAbove (HasBase markers sources) occurrence.declaration.name base := by
  have hsound : Closures.IsSound (HasBase markers sources) [] := fun entry hentry =>
    absurd hentry List.not_mem_nil
  refine isAbove_of_occurrencesFrom hasEdges_modulesOf (fun entry hentry hkind => ?_) hsound h
    occurrence hmem base hbase
  obtain ⟨index, candidate⟩ := entry
  obtain ⟨hindex, hcandidate⟩ := Modules.mem_candidates.mp hentry
  obtain ⟨source, hsource, rfl⟩ := exists_mem_modulesOf.mp hindex
  obtain ⟨declared, decorator, ⟨before, after, heq, -⟩, rfl⟩ :=
    Source.mem_candidates_index.mp hcandidate
  exact hasEdges_of_declared hsource (by simp [heq]) hkind

end Sources

end ServiceManifest.Project
