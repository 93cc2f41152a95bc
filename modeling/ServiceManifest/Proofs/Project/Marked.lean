import ServiceManifest.Proofs.Project.Scan
import ServiceManifest.Proofs.Round.Collect

/-!
# What the marked declarations of a project provide

A source is a unit with the statements that its file holds. A decorator of a declaration marks it if
it is a marker where the declaration stands. The occurrences of the marker in a project are then
those of the marked declarations of its sources, and what a sound one contributes is read off the
expressions in the decorator.
-/

namespace ServiceManifest.Project

open ServiceManifest.Source

/-- A unit with the statements of its module. -/
structure Source where
  unit : SourceUnit
  isPackage : Bool
  statements : List Statement

namespace Source

/-- The index of the module of a source. -/
def index (markers : List String) (source : Source) : ModuleIndex :=
  indexModule markers source.unit source.isPackage source.statements

/-- A source is what the file of its unit holds. -/
def IsIn (tree : Disk.Tree) (root : Path) (source : Source) : Prop :=
  ∃ bytes, tree.read (root.join (Path.ofString source.unit.path)) = .ok bytes ∧
    parseModule bytes.toList = some source.statements ∧
      source.isPackage = ((root.join (Path.ofString source.unit.path)).name = packageFile)

/-- A decorator of a declaration in a source that is a marker to what the module knows where the
declaration stands: its imports and definitions, and the classes up to the declaration itself. -/
def Marks (markers : List String) (source : Source) (declared : Declared) (decorator : Expr) :
    Prop :=
  ∃ before after, declarations source.statements = before ++ declared :: after ∧
    decorator ∈ declared.decorators ∧
      (statedIn (topLevel source.unit source.isPackage source.statements)
        (before ++ [declared])).isMarker markers declared.scope decorator = true

end Source

/-- The modules of sources. -/
def modulesOf (markers : List String) (sources : List Source) : Modules :=
  named (sources.map (Source.index markers))

/-- The interface expressions of a decorator: its positional arguments and what its value keywords
list. -/
def interfaceExpressions : Expr → List Expr
  | .call _ positional keywords => positional ++ (valueKeywords keywords).flatMap listedExpressions
  | _ => []

/-- An expression that stands for a class: it refers to something whose nearest class it is. -/
def StandsFor (modules : Modules) (index : ModuleIndex) (scope : ClassPath) (expr : Expr)
    (name : QualifiedName) : Prop :=
  ∃ ref, resolve modules index scope expr = .ok (some ref) ∧ ref.closestClass = some name

/-- A class outside of functions, in one of some sources, that provides an interface: it has the
binary name of the provider, and it is marked with an expression that stands for a class with the
binary name of the interface. -/
def Provides (markers : List String) (sources : List Source) (source : Source)
    (interface provider : String) : Prop :=
  ∃ declared decorator, source.Marks markers declared decorator ∧ declared.kind = .topClass ∧
    (⟨source.unit.module, declared.path⟩ : QualifiedName).binary = provider ∧
      ∃ expr ∈ interfaceExpressions decorator, ∃ name,
        StandsFor (modulesOf markers sources) (source.index markers) declared.scope expr name ∧
          name.binary = interface

section Sources

variable {tree : Disk.Tree} {root : Path} {markers : List String}

/-- Units that are read to indices are those of sources with these indices. -/
theorem Reads.exists_sources {units : List SourceUnit} {indices : List ModuleIndex}
    (h : Reads tree root markers units indices) :
    ∃ sources : List Source, sources.map (·.unit) = units ∧
      sources.map (Source.index markers) = indices ∧ ∀ source ∈ sources, source.IsIn tree root := by
  induction h with
  | nil => exact ⟨[], rfl, rfl, by simp⟩
  | @cons unit index rest more hread _ ih =>
    obtain ⟨bytes, statements, htree, hparse, rfl⟩ := readModule_eq_ok_iff.mp hread
    obtain ⟨sources, rfl, rfl, hsources⟩ := ih
    refine ⟨⟨unit, (root.join (Path.ofString unit.path)).name = packageFile, statements⟩ :: sources,
      rfl, rfl, ?_⟩
    rintro source (_ | ⟨_, hsource⟩)
    · exact ⟨bytes, htree, hparse, by simp⟩
    · exact hsources source hsource

/-- The candidates of a source are its marked declarations. -/
theorem Source.mem_candidates_index {source : Source} {candidate : Candidate} :
    candidate ∈ (source.index markers).candidates ↔
      ∃ declared decorator, source.Marks markers declared decorator ∧
        candidate = declared.candidate decorator := by
  rw [Source.index, indexModule_eq]
  simp only [ModuleIndex.withCandidates, mem_candidatesAmong, Declared.candidatesIn, List.mem_map,
    List.mem_filter]
  constructor
  · rintro ⟨before, declared, after, heq, decorator, ⟨hmem, hmarker⟩, rfl⟩
    exact ⟨declared, decorator, ⟨before, after, heq, hmem, hmarker⟩, rfl⟩
  · rintro ⟨declared, decorator, ⟨before, after, heq, hmem, hmarker⟩, rfl⟩
    exact ⟨before, declared, after, heq, decorator, ⟨hmem, hmarker⟩, rfl⟩

/-- The indices among the modules of sources are those of the sources. -/
theorem exists_mem_modulesOf {sources : List Source} {index : ModuleIndex} :
    (∃ name, (name, index) ∈ modulesOf markers sources) ↔
      ∃ source ∈ sources, source.index markers = index := by
  simp [modulesOf, named]

end Sources

/-- An occurrence of the marker on a declaration of a source. -/
def Source.Reports (markers : List String) (sources : List Source) (source : Source)
    (declared : Declared) (decorator : Expr) (occurrence : Occurrence) : Prop :=
  Project.Reports (modulesOf markers sources) (source.index markers) (declared.candidate decorator)
    occurrence

section Occurrences

variable {markers : List String} {sources : List Source} {occurrences : List Occurrence}

/-- Every occurrence in a project is one on a marked declaration. -/
theorem exists_marks_of_mem (h : (modulesOf markers sources).occurrences = .ok occurrences)
    {occurrence : Occurrence} (hmem : occurrence ∈ occurrences) :
    ∃ source ∈ sources, ∃ declared decorator, source.Marks markers declared decorator ∧
      source.Reports markers sources declared decorator occurrence := by
  obtain ⟨⟨index, candidate⟩, hcandidate, hreports⟩ :=
    exists_left_of_forall₂ (reports_occurrencesFrom h) hmem
  obtain ⟨hindex, hcandidate⟩ := Modules.mem_candidates.mp hcandidate
  obtain ⟨source, hsource, rfl⟩ := exists_mem_modulesOf.mp hindex
  obtain ⟨declared, decorator, hmarks, rfl⟩ := Source.mem_candidates_index.mp hcandidate
  exact ⟨source, hsource, declared, decorator, hmarks, hreports⟩

/-- Every marked declaration of a project has its occurrence. -/
theorem exists_occurrence_of_marks
    (h : (modulesOf markers sources).occurrences = .ok occurrences) {source : Source}
    (hsource : source ∈ sources) {declared : Declared} {decorator : Expr}
    (hmarks : source.Marks markers declared decorator) :
    ∃ occurrence ∈ occurrences, source.Reports markers sources declared decorator occurrence :=
  exists_right_of_forall₂ (reports_occurrencesFrom h)
    (Modules.mem_candidates.mpr ⟨exists_mem_modulesOf.mpr ⟨source, hsource, rfl⟩,
      Source.mem_candidates_index.mpr ⟨declared, decorator, hmarks, rfl⟩⟩)

end Occurrences

section Arguments

variable {modules : Modules} {index : ModuleIndex} {scope : ClassPath}

/-- Arguments are read from expressions if each of them is from its expression. -/
theorem interfaceArguments_eq_ok_iff {exprs : List Expr} {items : List Argument} :
    interfaceArguments modules index scope exprs = .ok items ↔
      List.Forall₂ (fun expr item => interfaceArgument modules index scope expr = .ok item)
        exprs items := by
  induction exprs generalizing items with
  | nil => rw [interfaceArguments, List.forall₂_nil_left_iff, Except.ok.injEq, eq_comm]
  | cons expr rest ih =>
    simp only [interfaceArguments, List.forall₂_cons_left_iff, ← ih]
    cases interfaceArgument modules index scope expr with
    | error fault => simp
    | ok first => cases interfaceArguments modules index scope rest <;> simp [eq_comm]

/-- Where all arguments read from expressions are types, they are what the expressions refer to. -/
theorem forall₂_of_interfaceArguments {exprs : List Expr} {items : List Argument}
    {refs : List TypeRef} (h : interfaceArguments modules index scope exprs = .ok items)
    (hrefs : typesOf? items = some refs) :
    List.Forall₂ (fun expr ref => resolve modules index scope expr = .ok (some ref)) exprs refs := by
  have hitems := interfaceArguments_eq_ok_iff.mp h
  clear h
  induction hitems generalizing refs with
  | nil =>
    cases hrefs
    exact .nil
  | @cons expr first rest more hfirst _ ih =>
    cases first with
    | type ref =>
      obtain ⟨refs', hrefs', rfl⟩ := Option.map_eq_some_iff.mp hrefs
      refine .cons ?_ (ih hrefs')
      rw [interfaceArgument] at hfirst
      cases hresolve : resolve modules index scope expr with
      | error fault => simp [hresolve, Except.map] at hfirst
      | ok found => cases found <;> simp_all [Except.map]
    | expression | sequence | other => cases hrefs

/-- The types that an occurrence lists are what the interface expressions of its decorator refer
to. -/
theorem forall₂_of_listed {decorator : Expr} {occurrence : Occurrence} {refs : List TypeRef}
    (h : markerArguments modules index scope decorator = .ok occurrence.arguments)
    (hrefs : occurrence.listed? = some refs) :
    List.Forall₂ (fun expr ref => resolve modules index scope expr = .ok (some ref))
      (interfaceExpressions decorator) refs := by
  rw [Occurrence.listed?] at hrefs
  unfold markerArguments at h
  split at h
  · rename_i function positional keywords
    simp only at h
    split at h
    · simp only [Except.ok.injEq] at h
      simp [← h, Keyed.get?] at hrefs
    · cases hitems : interfaceArguments modules index scope
          (positional ++ (valueKeywords keywords).flatMap listedExpressions) with
      | error fault => simp [hitems, Except.map] at h
      | ok items =>
        simp only [hitems, Except.map, Except.ok.injEq] at h
        simp only [← h, Option.bind_some, Keyed.get?, List.find?_cons, decide_true,
          Option.map_some] at hrefs
        exact forall₂_of_interfaceArguments hitems hrefs
  · simp only [Except.ok.injEq] at h
    simp [← h] at hrefs

end Arguments

section Sound

variable {markers : List String} {sources : List Source} {source : Source} {declared : Declared}
  {decorator : Expr} {occurrence : Occurrence} {verify : Bool}

/-- The types that an occurrence on a marked declaration lists are what the interface expressions of
its decorator refer to. -/
theorem Source.Reports.forall₂_listed
    (h : source.Reports markers sources declared decorator occurrence) {refs : List TypeRef}
    (hlisted : occurrence.listed? = some refs) :
    List.Forall₂ (fun expr ref => resolve (modulesOf markers sources) (source.index markers)
        declared.scope expr = .ok (some ref))
      (interfaceExpressions decorator) refs :=
  forall₂_of_listed h.arguments hlisted

/-- A marked class of which the occurrence is sound stands outside of functions, and it is marked
with at least one interface expression, each of which stands for a class. -/
theorem Source.Reports.of_isSound
    (h : source.Reports markers sources declared decorator occurrence)
    (hsound : occurrence.IsSound verify) (hkind : declared.kind ≠ .function) :
    declared.kind = .topClass ∧ interfaceExpressions decorator ≠ [] ∧
      ∀ expr ∈ interfaceExpressions decorator, ∃ name,
        StandsFor (modulesOf markers sources) (source.index markers) declared.scope expr name := by
  have hclass : occurrence.declaration.isClass = true := by
    rw [Declaration.isClass, h.kind]
    exact decide_eq_true hkind
  obtain ⟨htop, refs, hlisted, hne, hall⟩ := hsound hclass
  have hexprs := h.forall₂_listed hlisted
  refine ⟨h.kind.symm.trans htop, ?_, fun expr hexpr => ?_⟩
  · rintro hnil
    rw [hnil, List.forall₂_nil_left_iff] at hexprs
    exact hne hexprs
  · obtain ⟨ref, href, hresolve⟩ := exists_right_of_forall₂ hexprs hexpr
    obtain ⟨name, hclosest, -⟩ := hall ref href
    exact ⟨name, ref, hresolve, hclosest⟩

/-- What a sound occurrence on a marked declaration contributes is what the declaration provides. -/
theorem Source.Reports.contributes_iff
    (h : source.Reports markers sources declared decorator occurrence)
    (hsound : occurrence.IsSound verify) (interface : String) (entry : Contribution) :
    occurrence.Contributes interface entry ↔
      declared.kind = .topClass ∧
        entry = ((⟨source.unit.module, declared.path⟩ : QualifiedName).binary, source.unit) ∧
          ∃ expr ∈ interfaceExpressions decorator, ∃ name,
            StandsFor (modulesOf markers sources) (source.index markers) declared.scope expr name ∧
              name.binary = interface := by
  have hindex : (source.index markers).unit = source.unit := indexModule_unit _ _ _ _
  have hentry : (occurrence.declaration.name.binary, occurrence.declaration.unit) =
      ((⟨source.unit.module, declared.path⟩ : QualifiedName).binary, source.unit) := by
    rw [h.name, h.unit, ModuleIndex.name, hindex]
    rfl
  constructor
  · rintro ⟨hclass, rfl, refs, hlisted, ref, href, name, hclosest, rfl⟩
    have hexprs := h.forall₂_listed hlisted
    obtain ⟨expr, hexpr, hresolve⟩ := exists_left_of_forall₂ hexprs href
    exact ⟨h.kind.symm.trans (hsound hclass).1, hentry, expr, hexpr, name,
      ⟨ref, hresolve, hclosest⟩, rfl⟩
  · rintro ⟨hkind, rfl, expr, hexpr, name, ⟨ref, hresolve, hclosest⟩, rfl⟩
    have hclass : occurrence.declaration.isClass = true := by
      rw [Declaration.isClass, h.kind]
      exact decide_eq_true (hkind.trans_ne (by decide))
    obtain ⟨-, refs, hlisted, -⟩ := hsound hclass
    have hexprs := h.forall₂_listed hlisted
    obtain ⟨ref', href, hresolve'⟩ := exists_right_of_forall₂ hexprs hexpr
    have hsame : ref = ref' :=
      Option.some.inj (Except.ok.inj (hresolve.symm.trans hresolve'))
    exact ⟨hclass, hentry.symm, refs, hlisted, ref, hsame ▸ href, name, hclosest, rfl⟩

end Sound

end ServiceManifest.Project
