import ServiceManifest.Proofs.Project.Kept

/-!
# What the statements of a source bring

The statements that run when a module is imported are read for the modules that they import, the names
that they bring from there, and the names that they define. The index of a source has each of these from
exactly the statements that bring it. An alias is always a name that the source defines.
-/

namespace ServiceManifest.Project

open ServiceManifest.Source

section Imports

/-- An import statement in a module names another module: it imports that one, or one in it, under
whatever name, or something from it. -/
def ImportsModule (index : ModuleIndex) (package : String) : Statement → Prop
  | .importModules names => ∃ entry ∈ names, package ∈ ModuleIndex.dottedPrefixes entry.1
  | .importFrom level module _ => index.importSource level module = package ∧ package ≠ ""
  | _ => False

/-- What an import is from hangs on the unit of the module alone, and on whether it is a package. -/
theorem ModuleIndex.importSource_congr {index other : ModuleIndex} (hunit : other.unit = index.unit)
    (hpackage : other.isPackage = index.isPackage) (level : Nat) (module : String) :
    other.importSource level module = index.importSource level module := by
  have hlevel : other.packageForLevel level = index.packageForLevel level := by
    unfold ModuleIndex.packageForLevel ModuleIndex.name
    rw [hunit, hpackage]
  unfold ModuleIndex.importSource
  rw [hlevel]

/-- Modules that are imported are known with all packages around them. -/
theorem ModuleIndex.exists_foldl_importModule (names : List (String × Option String))
    (index : ModuleIndex) :
    ∃ imports known, names.foldl importModule index =
        { index with imports := imports, importedModules := known } ∧
      ∀ package, package ∈ known ↔ package ∈ index.importedModules ∨
        ∃ entry ∈ names, package ∈ dottedPrefixes entry.1 := by
  induction names generalizing index with
  | nil => exact ⟨index.imports, index.importedModules, rfl, by simp⟩
  | cons entry rest ih =>
    obtain ⟨imports, known, heq, hknown⟩ := ih (index.importModule entry)
    refine ⟨imports, known, heq, fun package => ?_⟩
    rw [hknown]
    simp only [importModule, List.mem_append, List.exists_mem_cons_iff]
    tauto

/-- Names that are imported from a module bring no more modules. -/
theorem ModuleIndex.exists_foldl_importMember (source : String) (names : List (String × Option String))
    (index : ModuleIndex) :
    ∃ imports, names.foldl (importMember source) index = { index with imports := imports } := by
  refine List.foldlRecOn (motive := fun other : ModuleIndex => ∃ imports,
    other = { index with imports := imports }) names _ ⟨index.imports, rfl⟩ ?_
  rintro _ ⟨imports, rfl⟩ entry -
  unfold importMember
  split <;> exact ⟨_, rfl⟩

/-- An import statement brings the modules that it names. -/
theorem ModuleIndex.exists_addImport (index : ModuleIndex) (statement : Statement) :
    ∃ imports known, index.addImport statement =
        { index with imports := imports, importedModules := known } ∧
      ∀ package, package ∈ known ↔
        package ∈ index.importedModules ∨ ImportsModule index package statement := by
  cases statement with
  | importModules names => exact exists_foldl_importModule names index
  | importFrom level module names =>
    simp only [addImport, ImportsModule]
    split
    · rename_i hsource
      refine ⟨index.imports, index.importedModules, rfl, fun package => ?_⟩
      refine (or_iff_left ?_).symm
      rintro ⟨rfl, hne⟩
      exact hne hsource
    · rename_i hsource
      obtain ⟨imports, heq⟩ := exists_foldl_importMember (index.importSource level module) names
        { index with importedModules := index.importSource level module :: index.importedModules }
      refine ⟨imports, _, heq, fun package => ?_⟩
      rw [List.mem_cons, or_comm]
      refine or_congr_right ⟨?_, fun himports => himports.1.symm⟩
      rintro rfl
      exact ⟨rfl, hsource⟩
  | classDef | functionDef | assign | annotate | compound | other =>
    exact ⟨index.imports, index.importedModules, rfl, fun package => (or_iff_left id).symm⟩

/-- Import statements bring imports and modules that are imported, however many there are. -/
theorem ModuleIndex.exists_foldl_addImport (statements : List Statement) (index : ModuleIndex) :
    ∃ imports known, statements.foldl addImport index =
      { index with imports := imports, importedModules := known } := by
  refine List.foldlRecOn (motive := fun other : ModuleIndex => ∃ imports known,
    other = { index with imports := imports, importedModules := known }) statements _
    ⟨index.imports, index.importedModules, rfl⟩ ?_
  rintro _ ⟨imports, known, rfl⟩ statement -
  obtain ⟨more, others, heq, -⟩ := exists_addImport
    { index with imports := imports, importedModules := known } statement
  exact ⟨more, others, heq⟩

/-- If each import statement adds names to a part of the index, and the same ones in modules of one unit,
all of them together add what any of them adds. -/
theorem ModuleIndex.mem_foldl_addImport {part : ModuleIndex → List String}
    {adds : ModuleIndex → String → Statement → Prop}
    (hstep : ∀ index statement name, name ∈ part (addImport index statement) ↔
      name ∈ part index ∨ adds index name statement)
    (hcongr : ∀ {index other}, other.unit = index.unit → other.isPackage = index.isPackage →
      ∀ name statement, adds other name statement ↔ adds index name statement)
    {name : String} (statements : List Statement) (index : ModuleIndex) :
    name ∈ part (statements.foldl addImport index) ↔
      name ∈ part index ∨ ∃ statement ∈ statements, adds index name statement := by
  induction statements generalizing index with
  | nil => simp
  | cons statement rest ih =>
    obtain ⟨imports, known, heq, -⟩ := index.exists_addImport statement
    have hlater (later : Statement) :
        adds (index.addImport statement) name later ↔ adds index name later :=
      hcongr (by rw [heq]) (by rw [heq]) name later
    rw [List.foldl_cons, ih, hstep, List.exists_mem_cons_iff, or_assoc]
    simp only [hlater]

end Imports

section Bound

/-- A statement defines a name at the top level of a module. -/
def Defines (name : String) : Statement → Prop
  | .classDef _ id _ _ _ => id = name
  | .functionDef _ id _ _ => id = name
  | .assign targets _ => ∃ target ∈ targets, target = .name name
  | .annotate target _ _ => target = .name name
  | _ => False

/-- An import statement in a module brings a name. -/
def Brings (index : ModuleIndex) (name : String) : Statement → Prop
  | .importModules names => ∃ entry ∈ names, entry.2.getD ((nameParts '.' entry.1).headD "") = name
  | .importFrom level module names => index.importSource level module ≠ "" ∧
      ∃ entry ∈ names, entry.1 ≠ "*" ∧ entry.2.getD entry.1 = name
  | _ => False

/-- A source defines a name: a class, a function or an assignment that runs when it is imported does. -/
def Source.Defines (source : Source) (name : String) : Prop :=
  ∃ statement ∈ importTimeAll source.statements, Project.Defines name statement

/-- A source brings a name: an import that runs when it is imported does. -/
def Source.Brings (source : Source) (name : String) : Prop :=
  ∃ statement ∈ importTimeAll source.statements,
    Project.Brings (.empty source.unit source.isPackage) name statement

/-- A target that is a name is defined. -/
theorem ModuleIndex.mem_defined_assignTarget {value : Expr} {single : Bool} {index : ModuleIndex}
    {target : Expr} {name : String} :
    name ∈ (assignTarget value single index target).defined ↔
      name ∈ index.defined ∨ target = .name name := by
  unfold assignTarget
  split
  · rename_i id
    have hdefine : name ∈ (index.define id).defined ↔ name ∈ index.defined ∨ Expr.name id = .name name := by
      rw [define, List.mem_cons, Expr.name.injEq, or_comm, eq_comm (a := name)]
    split
    · exact hdefine
    · exact hdefine
  · rename_i hname
    exact (or_iff_left fun heq => hname name heq).symm

/-- Targets that are names are defined. -/
theorem ModuleIndex.mem_defined_foldl_assignTarget {value : Expr} {single : Bool} {targets : List Expr}
    {index : ModuleIndex} {name : String} :
    name ∈ (targets.foldl (assignTarget value single) index).defined ↔
      name ∈ index.defined ∨ ∃ target ∈ targets, target = .name name := by
  induction targets generalizing index with
  | nil => simp
  | cons target rest ih =>
    rw [List.foldl_cons, ih, mem_defined_assignTarget, List.exists_mem_cons_iff, or_assoc]

/-- What is defined after a statement was defined before or is defined by it. -/
theorem ModuleIndex.mem_defined_addDefinition {index : ModuleIndex} {statement : Statement}
    {name : String} :
    name ∈ (index.addDefinition statement).defined ↔
      name ∈ index.defined ∨ Project.Defines name statement := by
  cases statement with
  | classDef line id decorators bases body => simp [addDefinition, define, Defines, or_comm, eq_comm]
  | functionDef line id decorators body => simp [addDefinition, define, Defines, or_comm, eq_comm]
  | assign targets value => exact mem_defined_foldl_assignTarget
  | annotate target hint value =>
    cases target with
    | name id =>
      have hdefine : name ∈ (index.define id).defined ↔
          name ∈ index.defined ∨ Project.Defines name (.annotate (.name id) hint value) := by
        simp [define, Defines, or_comm, eq_comm]
      simp only [addDefinition]
      split
      · split
        · exact hdefine
        · exact hdefine
      · exact hdefine
    | _ => simp [addDefinition, Defines]
  | importModules | importFrom | compound | other => simp [addDefinition, Defines]

/-- What is defined after statements was defined before or is defined by one of them. -/
theorem ModuleIndex.mem_defined_foldl {statements : List Statement} {index : ModuleIndex}
    {name : String} :
    name ∈ (statements.foldl addDefinition index).defined ↔
      name ∈ index.defined ∨ ∃ statement ∈ statements, Project.Defines name statement := by
  induction statements generalizing index with
  | nil => simp
  | cons statement rest ih =>
    rw [List.foldl_cons, ih, mem_defined_addDefinition, List.exists_mem_cons_iff, or_assoc]

/-- The names that the index of a source knows to be defined are those that the source defines. -/
theorem Source.mem_defined {markers : List String} {source : Source} {name : String} :
    name ∈ (source.index markers).defined ↔ source.Defines name := by
  obtain ⟨classes, candidates, hindex⟩ := source.exists_index markers
  obtain ⟨imports, known, himported⟩ := ModuleIndex.exists_foldl_addImport
    (importTimeAll source.statements) (.empty source.unit source.isPackage)
  rw [hindex, topLevel, ModuleIndex.mem_defined_foldl, himported]
  exact or_iff_right List.not_mem_nil

end Bound

section Brought

/-- Importing modules binds their first names, or those given to them. -/
theorem ModuleIndex.mem_keys_foldl_importModule {names : List (String × Option String)}
    {index : ModuleIndex} {name : String} :
    name ∈ Keyed.keys (names.foldl importModule index).imports ↔
      name ∈ Keyed.keys index.imports ∨
        ∃ entry ∈ names, entry.2.getD ((nameParts '.' entry.1).headD "") = name := by
  induction names generalizing index with
  | nil => simp
  | cons entry rest ih =>
    have hentry : name ∈ Keyed.keys (index.importModule entry).imports ↔
        name ∈ Keyed.keys index.imports ∨ entry.2.getD ((nameParts '.' entry.1).headD "") = name := by
      obtain ⟨module, given⟩ := entry
      cases given <;> simp [importModule, Keyed.mem_keys_put, or_comm, eq_comm]
    rw [List.foldl_cons, ih, hentry, List.exists_mem_cons_iff, or_assoc]

/-- Importing from a module binds the names that are imported, or those given to them. -/
theorem ModuleIndex.mem_keys_foldl_importMember {source : String}
    {names : List (String × Option String)} {index : ModuleIndex} {name : String} :
    name ∈ Keyed.keys (names.foldl (importMember source) index).imports ↔
      name ∈ Keyed.keys index.imports ∨
        ∃ entry ∈ names, entry.1 ≠ "*" ∧ entry.2.getD entry.1 = name := by
  induction names generalizing index with
  | nil => simp
  | cons entry rest ih =>
    have hentry : name ∈ Keyed.keys (importMember source index entry).imports ↔
        name ∈ Keyed.keys index.imports ∨ entry.1 ≠ "*" ∧ entry.2.getD entry.1 = name := by
      unfold importMember
      split
      · rename_i hstar
        simp [hstar]
      · rename_i hstar
        simp [hstar, Keyed.mem_keys_put, or_comm, eq_comm]
    rw [List.foldl_cons, ih, hentry, List.exists_mem_cons_iff, or_assoc]

/-- What is imported after a statement was imported before or is brought by it. -/
theorem ModuleIndex.mem_keys_addImport (index : ModuleIndex) (statement : Statement) (name : String) :
    name ∈ Keyed.keys (index.addImport statement).imports ↔
      name ∈ Keyed.keys index.imports ∨ Project.Brings index name statement := by
  cases statement with
  | importModules names => exact mem_keys_foldl_importModule
  | importFrom level module names =>
    simp only [addImport, Brings]
    split
    · rename_i hsource
      simp [hsource]
    · rename_i hsource
      rw [mem_keys_foldl_importMember]
      simp [hsource]
  | classDef | functionDef | assign | annotate | compound | other => simp [addImport, Brings]

/-- A statement brings the same names in modules of one unit that are both packages or both not. -/
theorem brings_congr {index other : ModuleIndex} (hunit : other.unit = index.unit)
    (hpackage : other.isPackage = index.isPackage) (name : String) (statement : Statement) :
    Brings other name statement ↔ Brings index name statement := by
  cases statement with
  | importFrom level module names =>
    simp only [Brings, ModuleIndex.importSource_congr hunit hpackage]
  | importModules | classDef | functionDef | assign | annotate | compound | other => exact Iff.rfl

/-- The names that the index of a source knows to be imported are those that the source brings. -/
theorem Source.mem_keys_imports {markers : List String} {source : Source} {name : String} :
    name ∈ Keyed.keys (source.index markers).imports ↔ source.Brings name := by
  obtain ⟨defined, aliases, classes, candidates, hindex⟩ := source.exists_index_imported markers
  have hfold := @ModuleIndex.mem_foldl_addImport (fun index => Keyed.keys index.imports) _
    ModuleIndex.mem_keys_addImport brings_congr name (importTimeAll source.statements)
    (.empty source.unit source.isPackage)
  rw [hindex]
  exact hfold.trans (or_iff_right List.not_mem_nil)

end Brought


section Aliases

/-- Every alias of a module is a name that it defines. -/
def ModuleIndex.DefinesAliases (index : ModuleIndex) : Prop :=
  ∀ name ∈ Keyed.keys index.aliases, name ∈ index.defined

variable {index : ModuleIndex}

/-- Defining a name leaves aliases defined. -/
theorem ModuleIndex.DefinesAliases.define (h : index.DefinesAliases) (id : String) :
    (index.define id).DefinesAliases :=
  fun name hname => List.mem_cons_of_mem id (h name hname)

/-- A name that was just defined may become an alias. -/
theorem ModuleIndex.DefinesAliases.addAlias (h : index.DefinesAliases) (id : String) (value : Expr) :
    ((index.define id).addAlias id value).DefinesAliases := by
  intro name hname
  rcases Keyed.mem_keys_put.mp hname with rfl | hname
  · exact List.mem_cons_self
  · exact h.define id name hname

/-- A target of an assignment leaves aliases defined. -/
theorem ModuleIndex.DefinesAliases.assignTarget (h : index.DefinesAliases) (value : Expr)
    (single : Bool) (target : Expr) : (assignTarget value single index target).DefinesAliases := by
  unfold ModuleIndex.assignTarget
  split
  · dsimp only
    split
    · exact h.addAlias _ value
    · exact h.define _
  · exact h

/-- A statement leaves aliases defined. -/
theorem ModuleIndex.DefinesAliases.addDefinition (h : index.DefinesAliases) (statement : Statement) :
    (index.addDefinition statement).DefinesAliases := by
  cases statement with
  | classDef line id decorators bases body => exact h.define id
  | functionDef line id decorators body => exact h.define id
  | assign targets value =>
    exact List.foldlRecOn targets _ h fun index hindex target _ => hindex.assignTarget value _ target
  | annotate target hint value =>
    cases target with
    | name id =>
      simp only [ModuleIndex.addDefinition]
      split
      · split
        · exact h.addAlias id _
        · exact h.define id
      · exact h.define id
    | _ => exact h
  | importModules | importFrom | compound | other => exact h

end Aliases

end ServiceManifest.Project
