import Mathlib.Data.List.Basic
import ServiceManifest.Project.Index

/-!
# The declarations of a module

The class and function statements of a module are listed in the order in which they stand, each
before those inside of it, with the class scope that their decorators are evaluated in. Visiting a
module notes exactly these declarations: it knows the classes outside of functions, and it has one
candidate for each decorator that is a marker at the place where its declaration stands.
-/

namespace ServiceManifest.Project

open ServiceManifest.Source

/-- A class or function statement as it stands in a module. The path leads to it from the module,
and the scope is the class around it. -/
structure Declared where
  path : List String
  scope : ClassPath
  kind : DeclarationKind
  bases : List Expr
  decorators : List Expr
  line : Nat

mutual

/-- The declarations in a statement, itself first, for a statement inside a class scope and behind a
path, perhaps inside a function. -/
def declaredIn (scope : ClassPath) (outer : List String) (inFunction : Bool) :
    Statement → List Declared
  | .classDef line name decorators bases body =>
    ⟨outer ++ [name], scope, if inFunction then .localClass else .topClass, bases, decorators, line⟩ ::
      declaredInAll (if inFunction then scope else outer ++ [name]) (outer ++ [name]) inFunction body
  | .functionDef line name decorators body =>
    ⟨outer ++ [name], scope, .function, [], decorators, line⟩ ::
      declaredInAll scope (outer ++ [name] ++ [localsPart]) true body
  | .compound _ body => declaredInAll scope outer inFunction body
  | _ => []

/-- The declarations in statements, in the order in which they stand. -/
def declaredInAll (scope : ClassPath) (outer : List String) (inFunction : Bool) :
    List Statement → List Declared
  | [] => []
  | statement :: rest =>
    declaredIn scope outer inFunction statement ++ declaredInAll scope outer inFunction rest

end

/-- The declarations of a module. -/
def declarations (statements : List Statement) : List Declared := declaredInAll [] [] false statements

/-- The index of a module with other candidates. -/
def ModuleIndex.withCandidates (index : ModuleIndex) (candidates : List Candidate) : ModuleIndex :=
  { index with candidates := candidates }

namespace Declared

/-- The declaration as a candidate, for one of its decorators. -/
def candidate (declared : Declared) (decorator : Expr) : Candidate :=
  ⟨declared.path, declared.scope, declared.kind, declared.bases, decorator, declared.line⟩

/-- The index of a module that knows a declaration more: a class outside of functions. -/
def addTo (index : ModuleIndex) (declared : Declared) : ModuleIndex :=
  if declared.kind = .topClass then index.putClass declared.path declared.bases else index

/-- The index after a visit of a declaration. -/
def visitIn (markers : List String) (index : ModuleIndex) (declared : Declared) : ModuleIndex :=
  (declared.addTo index).addCandidates markers declared.scope declared.decorators declared.candidate

/-- Which classes are known does not hang on the candidates. -/
theorem addTo_withCandidates (index : ModuleIndex) (candidates : List Candidate)
    (declared : Declared) :
    declared.addTo (index.withCandidates candidates) =
      (declared.addTo index).withCandidates candidates := by
  unfold addTo
  split <;> rfl

/-- A declaration leaves the unit and the candidates of the module as they are. -/
theorem addTo_unit_candidates (index : ModuleIndex) (declared : Declared) :
    (declared.addTo index).unit = index.unit ∧
      (declared.addTo index).candidates = index.candidates := by
  unfold addTo
  split <;> exact ⟨rfl, rfl⟩

/-- The candidates that a declaration is in a module that knows it and those before it. -/
def candidatesIn (markers : List String) (index : ModuleIndex) (declared : Declared) :
    List Candidate :=
  (declared.decorators.filter (index.isMarker markers declared.scope)).map declared.candidate

end Declared

mutual

/-- Visiting a statement visits the declarations in it in order. -/
theorem visit_eq_foldl (markers : List String) (scope : ClassPath) (outer : List String)
    (inFunction : Bool) (index : ModuleIndex) (statement : Statement) :
    visit markers scope outer inFunction index statement =
      (declaredIn scope outer inFunction statement).foldl (Declared.visitIn markers) index := by
  cases statement with
  | classDef line name decorators bases body =>
    rw [visit, declaredIn, List.foldl_cons, visitAll_eq_foldl]
    cases inFunction <;> rfl
  | functionDef line name decorators body =>
    rw [visit, declaredIn, List.foldl_cons, visitAll_eq_foldl]
    rfl
  | compound atImport body =>
    rw [visit, declaredIn, visitAll_eq_foldl]
  | importModules | importFrom | assign | annotate | other => rfl

/-- Visiting statements visits the declarations in them in order. -/
theorem visitAll_eq_foldl (markers : List String) (scope : ClassPath) (outer : List String)
    (inFunction : Bool) (index : ModuleIndex) (statements : List Statement) :
    visitAll markers scope outer inFunction index statements =
      (declaredInAll scope outer inFunction statements).foldl (Declared.visitIn markers) index := by
  cases statements with
  | nil => rfl
  | cons statement rest =>
    rw [visitAll, declaredInAll, List.foldl_append, visit_eq_foldl, visitAll_eq_foldl]

end

/-- The index of a module by its imports and top-level definitions, before any declaration is
visited. -/
def topLevel (unit : SourceUnit) (isPackage : Bool) (statements : List Statement) : ModuleIndex :=
  (importTimeAll statements).foldl ModuleIndex.addDefinition
    ((importTimeAll statements).foldl ModuleIndex.addImport (.empty unit isPackage))

/-- The index that knows declarations besides. -/
def statedIn (index : ModuleIndex) (declared : List Declared) : ModuleIndex :=
  declared.foldl (fun index declared => declared.addTo index) index

/-- The candidates among declarations: each is judged by what the module knows where it stands. -/
def candidatesAmong (markers : List String) (index : ModuleIndex) :
    List Declared → List Candidate
  | [] => []
  | first :: rest =>
    first.candidatesIn markers (first.addTo index) ++
      candidatesAmong markers (first.addTo index) rest

/-- A visit of declarations notes the classes and the candidates among them. -/
theorem foldl_visitIn (markers : List String) (declared : List Declared) (index : ModuleIndex)
    (candidates : List Candidate) :
    declared.foldl (Declared.visitIn markers) (index.withCandidates candidates) =
      (statedIn index declared).withCandidates
        (candidates ++ candidatesAmong markers index declared) := by
  induction declared generalizing index candidates with
  | nil => simp [statedIn, candidatesAmong]
  | cons first rest ih =>
    have hvisit : first.visitIn markers (index.withCandidates candidates) =
        (first.addTo index).withCandidates
          (candidates ++ first.candidatesIn markers (first.addTo index)) := by
      rw [Declared.visitIn, Declared.addTo_withCandidates]
      rfl
    rw [List.foldl_cons, hvisit, ih, candidatesAmong, List.append_assoc]
    rfl

/-- A candidate among declarations is one of them with a decorator that is a marker to a module
that knows it and those before it. -/
theorem mem_candidatesAmong {markers : List String} {index : ModuleIndex}
    {declared : List Declared} {candidate : Candidate} :
    candidate ∈ candidatesAmong markers index declared ↔
      ∃ before stated after, declared = before ++ stated :: after ∧
        candidate ∈ stated.candidatesIn markers (statedIn index (before ++ [stated])) := by
  induction declared generalizing index with
  | nil => simp [candidatesAmong]
  | cons first rest ih =>
    rw [candidatesAmong, List.mem_append, ih]
    constructor
    · rintro (hfirst | ⟨before, stated, after, rfl, hmem⟩)
      · exact ⟨[], first, rest, rfl, hfirst⟩
      · exact ⟨first :: before, stated, after, rfl, hmem⟩
    · rintro ⟨_ | ⟨_, before⟩, stated, after, heq, hmem⟩
      · cases heq
        exact Or.inl hmem
      · cases heq
        exact Or.inr ⟨before, stated, after, rfl, hmem⟩

namespace ModuleIndex

/-- Two indices are about the same unit and have the same candidates. -/
def Agrees (index other : ModuleIndex) : Prop :=
  other.unit = index.unit ∧ other.candidates = index.candidates

/-- Steps that keep the unit and the candidates keep them together. -/
theorem agrees_foldl {α : Type} {step : ModuleIndex → α → ModuleIndex}
    (hstep : ∀ index entry, Agrees index (step index entry)) (entries : List α)
    (index : ModuleIndex) : Agrees index (entries.foldl step index) := by
  induction entries generalizing index with
  | nil => exact ⟨rfl, rfl⟩
  | cons entry rest ih =>
    have hrest := ih (step index entry)
    have hentry := hstep index entry
    exact ⟨hrest.1.trans hentry.1, hrest.2.trans hentry.2⟩

/-- Import statements bring neither candidates nor another unit. -/
theorem agrees_addImport (index : ModuleIndex) (statement : Statement) :
    Agrees index (index.addImport statement) := by
  cases statement with
  | importModules names =>
    have hstep (index : ModuleIndex) (entry : String × Option String) :
        Agrees index (index.importModule entry) := ⟨rfl, rfl⟩
    exact agrees_foldl hstep names index
  | importFrom level module names =>
    have hstep (source : String) (index : ModuleIndex) (entry : String × Option String) :
        Agrees index (importMember source index entry) := by
      unfold importMember
      split <;> exact ⟨rfl, rfl⟩
    simp only [addImport]
    split
    · exact ⟨rfl, rfl⟩
    · exact agrees_foldl (hstep _) names
        { index with importedModules := index.importSource level module :: index.importedModules }
  | classDef | functionDef | assign | annotate | compound | other => exact ⟨rfl, rfl⟩

/-- Top-level definitions only add names that are defined and aliases. -/
theorem exists_addDefinition (index : ModuleIndex) (statement : Statement) :
    ∃ defined aliases, index.addDefinition statement =
      { index with defined := defined, aliases := aliases } := by
  cases statement with
  | assign targets value =>
    refine List.foldlRecOn (motive := fun other : ModuleIndex => ∃ defined aliases,
      other = { index with defined := defined, aliases := aliases }) targets _
      ⟨index.defined, index.aliases, rfl⟩ ?_
    rintro _ ⟨defined, aliases, rfl⟩ target -
    unfold assignTarget
    split
    · split
      · exact ⟨_, _, rfl⟩
      · exact ⟨_, aliases, rfl⟩
    · exact ⟨defined, aliases, rfl⟩
  | annotate target hint value =>
    cases target with
    | name id =>
      simp only [addDefinition]
      split
      · split
        · exact ⟨_, _, rfl⟩
        · exact ⟨_, index.aliases, rfl⟩
      · exact ⟨_, index.aliases, rfl⟩
    | _ => exact ⟨index.defined, index.aliases, rfl⟩
  | classDef | functionDef | importModules | importFrom | compound | other =>
    exact ⟨_, index.aliases, rfl⟩

/-- Top-level definitions bring neither candidates nor another unit. -/
theorem agrees_addDefinition (index : ModuleIndex) (statement : Statement) :
    Agrees index (index.addDefinition statement) := by
  obtain ⟨defined, aliases, heq⟩ := exists_addDefinition index statement
  rw [heq]
  exact ⟨rfl, rfl⟩

end ModuleIndex

/-- Before any declaration is visited, a module has its unit and no candidate. -/
theorem agrees_topLevel (unit : SourceUnit) (isPackage : Bool) (statements : List Statement) :
    (ModuleIndex.empty unit isPackage).Agrees (topLevel unit isPackage statements) := by
  have himports := ModuleIndex.agrees_foldl ModuleIndex.agrees_addImport (importTimeAll statements)
    (.empty unit isPackage)
  have hdefinitions := ModuleIndex.agrees_foldl ModuleIndex.agrees_addDefinition
    (importTimeAll statements) ((importTimeAll statements).foldl ModuleIndex.addImport
      (.empty unit isPackage))
  exact ⟨hdefinitions.1.trans himports.1, hdefinitions.2.trans himports.2⟩

/-- Declarations leave the unit of the module as it is. -/
theorem agrees_statedIn (index : ModuleIndex) (declared : List Declared) :
    index.Agrees (statedIn index declared) :=
  ModuleIndex.agrees_foldl (fun index declared => declared.addTo_unit_candidates index) declared index

/-- The index of a module knows its imports and definitions, the classes among its declarations, and
the candidates among them. -/
theorem indexModule_eq (markers : List String) (unit : SourceUnit) (isPackage : Bool)
    (statements : List Statement) :
    indexModule markers unit isPackage statements =
      (statedIn (topLevel unit isPackage statements) (declarations statements)).withCandidates
        (candidatesAmong markers (topLevel unit isPackage statements) (declarations statements)) := by
  have htop : (topLevel unit isPackage statements).candidates = [] :=
    (agrees_topLevel unit isPackage statements).2
  have hvisit := foldl_visitIn markers (declarations statements)
    (topLevel unit isPackage statements) (topLevel unit isPackage statements).candidates
  rw [htop, List.nil_append, ← htop] at hvisit
  rw [← hvisit]
  exact visitAll_eq_foldl markers [] [] false _ statements

/-- The index of a module is about its unit. -/
theorem indexModule_unit (markers : List String) (unit : SourceUnit) (isPackage : Bool)
    (statements : List Statement) : (indexModule markers unit isPackage statements).unit = unit := by
  rw [indexModule_eq]
  exact (agrees_statedIn _ _).1.trans (agrees_topLevel unit isPackage statements).1

end ServiceManifest.Project
