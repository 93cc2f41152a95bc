import ServiceManifest.Proofs.Project.Marked

/-!
# The sources that a scan keeps

Whatever is discovered, the modules of a scan are those of sources: of the last unit of each module,
with what its file holds. The classes that the module of a source knows are those that its statements
declare outside of functions.
-/

namespace ServiceManifest.Project

open ServiceManifest.Source

section Scan

variable {tree : Disk.Tree} {root : Path} {markers : List String} {modules : Modules}

/-- Sources that are the last units of their modules among units, as a tree has them. -/
structure Keeps (tree : Disk.Tree) (root : Path) (units : List SourceUnit) (sources : List Source) :
    Prop where
  nodup : (sources.map (·.unit.module)).Nodup
  isIn : ∀ source ∈ sources, source.IsIn tree root
  units : ∀ unit, unit ∈ sources.map (·.unit) ↔ IsLast units unit

/-- The module of a source has the name that its unit gives. -/
theorem Source.name_index (source : Source) :
    (source.index markers).name = source.unit.module :=
  congrArg SourceUnit.module (indexModule_unit markers source.unit _ source.statements)

/-- Modules that are all indices of sources are the modules of a list of these. -/
theorem exists_modulesOf {sources : List Source}
    (h : ∀ entry ∈ modules, ∃ source ∈ sources, entry = (source.unit.module, source.index markers)) :
    ∃ kept : List Source, modules = modulesOf markers kept ∧ ∀ source ∈ kept, source ∈ sources := by
  induction modules with
  | nil => exact ⟨[], rfl, nofun⟩
  | cons entry rest ih =>
    obtain ⟨kept, rfl, hkept⟩ := ih fun other hother => h other (List.mem_cons_of_mem entry hother)
    obtain ⟨source, hsource, rfl⟩ := h entry List.mem_cons_self
    refine ⟨source :: kept, ?_, List.forall_mem_cons.mpr ⟨hsource, hkept⟩⟩
    simp [modulesOf, named, source.name_index]

/-- The names of the modules of sources. -/
theorem keys_modulesOf (markers : List String) (sources : List Source) :
    Keyed.keys (modulesOf markers sources) = sources.map (·.unit.module) := by
  simp [Keyed.keys, modulesOf, named, Function.comp_def, Source.name_index]

/-- The units of the modules of sources. -/
theorem mem_units_modulesOf {sources : List Source} {unit : SourceUnit} :
    unit ∈ (modulesOf markers sources).units ↔ unit ∈ sources.map (·.unit) := by
  rw [Modules.mem_units]
  simp [modulesOf, named, Source.index, indexModule_unit]

/-- A scan that comes to modules has discovered units and keeps the last of each module. -/
theorem exists_keeps_of_scan (hscan : (scan tree root markers).outcome = .ok modules) :
    ∃ found sources, discover tree (root.absolute tree.here) = .ok found ∧
      modules = modulesOf markers sources ∧
        Keeps tree (root.absolute tree.here) found.units sources := by
  cases hfound : discover tree (root.absolute tree.here) with
  | error fault => simp [scan, hfound] at hscan
  | ok found =>
    simp only [scan, hfound] at hscan
    obtain ⟨indices, hreads, rfl⟩ := readModules_eq_ok_iff.mp hscan
    obtain ⟨sources, -, rfl, hsources⟩ := hreads.exists_sources
    obtain ⟨kept, hmodules, hkept⟩ := @exists_modulesOf markers
      (Keyed.putAll (named (sources.map (Source.index markers))) []) sources (by
        intro entry hentry
        obtain ⟨before, after, heq, -⟩ := Keyed.mem_putAll_nil.mp hentry
        have hmem : entry ∈ named (sources.map (Source.index markers)) := by simp [heq]
        obtain ⟨index, hindex, rfl⟩ := List.mem_map.mp hmem
        obtain ⟨source, hsource, rfl⟩ := List.mem_map.mp hindex
        exact ⟨source, hsource, Prod.ext source.name_index rfl⟩)
    refine ⟨found, kept, rfl, hmodules, ?_, fun source hsource => hsources source (hkept source hsource),
      fun unit => ?_⟩
    · rw [← keys_modulesOf markers, ← hmodules]
      exact Keyed.nodup_keys_putAll _ List.nodup_nil
    · rw [← mem_units_modulesOf, ← hmodules, hreads.mem_units_iff]

end Scan

section Classes

/-- What every step leaves as it is, all steps together leave as it is. -/
theorem foldl_keeps {α β : Type} {step : ModuleIndex → α → ModuleIndex} {part : ModuleIndex → β}
    (hstep : ∀ index entry, part (step index entry) = part index) (entries : List α)
    (index : ModuleIndex) : part (entries.foldl step index) = part index := by
  induction entries generalizing index with
  | nil => rfl
  | cons entry rest ih => exact (ih (step index entry)).trans (hstep index entry)

/-- Import statements state no class. -/
theorem classes_addImport (index : ModuleIndex) (statement : Statement) :
    (index.addImport statement).classes = index.classes := by
  cases statement with
  | importModules names =>
    have hstep (index : ModuleIndex) (entry : String × Option String) :
        (index.importModule entry).classes = index.classes := rfl
    exact foldl_keeps hstep names index
  | importFrom level module names =>
    have hstep (source : String) (index : ModuleIndex) (entry : String × Option String) :
        (ModuleIndex.importMember source index entry).classes = index.classes := by
      unfold ModuleIndex.importMember
      split <;> rfl
    simp only [ModuleIndex.addImport]
    split
    · rfl
    · exact foldl_keeps (hstep _) names _
  | classDef | functionDef | assign | annotate | compound | other => rfl

/-- Top-level definitions alone state no class. -/
theorem classes_addDefinition (index : ModuleIndex) (statement : Statement) :
    (index.addDefinition statement).classes = index.classes := by
  obtain ⟨defined, aliases, heq⟩ := index.exists_addDefinition statement
  rw [heq]

/-- Top-level definitions only add names that are defined and aliases, however many there are. -/
theorem exists_foldl_addDefinition (statements : List Statement) (index : ModuleIndex) :
    ∃ defined aliases, statements.foldl ModuleIndex.addDefinition index =
      { index with defined := defined, aliases := aliases } := by
  refine List.foldlRecOn (motive := fun other : ModuleIndex => ∃ defined aliases,
    other = { index with defined := defined, aliases := aliases }) statements _
    ⟨index.defined, index.aliases, rfl⟩ ?_
  rintro _ ⟨defined, aliases, rfl⟩ statement -
  obtain ⟨more, others, heq⟩ := ModuleIndex.exists_addDefinition
    { index with defined := defined, aliases := aliases } statement
  exact ⟨more, others, heq⟩

/-- Declarations only add classes. -/
theorem exists_statedIn (declared : List Declared) (index : ModuleIndex) :
    ∃ classes, statedIn index declared = { index with classes := classes } := by
  refine List.foldlRecOn (motive := fun other : ModuleIndex => ∃ classes,
    other = { index with classes := classes }) declared _ ⟨index.classes, rfl⟩ ?_
  rintro _ ⟨classes, rfl⟩ stated -
  unfold Declared.addTo
  split <;> exact ⟨_, rfl⟩

/-- The index of a source is that of its imports and definitions but for classes and candidates. -/
theorem Source.exists_index (markers : List String) (source : Source) :
    ∃ classes candidates, source.index markers =
      { topLevel source.unit source.isPackage source.statements with
        classes := classes, candidates := candidates } := by
  obtain ⟨classes, heq⟩ := exists_statedIn (declarations source.statements)
    (topLevel source.unit source.isPackage source.statements)
  rw [Source.index, indexModule_eq, heq]
  exact ⟨_, _, rfl⟩

/-- The index of a source by its imports alone. -/
def Source.imported (source : Source) : ModuleIndex :=
  (importTimeAll source.statements).foldl ModuleIndex.addImport (.empty source.unit source.isPackage)

/-- The index of a source is that of its imports but for definitions, aliases, classes and
candidates. -/
theorem Source.exists_index_imported (markers : List String) (source : Source) :
    ∃ defined aliases classes candidates, source.index markers =
      { source.imported with
        defined := defined, aliases := aliases, classes := classes, candidates := candidates } := by
  obtain ⟨classes, candidates, hindex⟩ := source.exists_index markers
  obtain ⟨defined, aliases, htop⟩ :=
    exists_foldl_addDefinition (importTimeAll source.statements) source.imported
  rw [hindex, topLevel, ← Source.imported, htop]
  exact ⟨defined, aliases, classes, candidates, rfl⟩

/-- Before any declaration is visited, a module knows no class. -/
theorem classes_topLevel (unit : SourceUnit) (isPackage : Bool) (statements : List Statement) :
    (topLevel unit isPackage statements).classes = [] :=
  (foldl_keeps classes_addDefinition _ _).trans (foldl_keeps classes_addImport _ _)

/-- A class is known after a declaration if it was known before or is declared. -/
theorem mem_classes_addTo {index : ModuleIndex} {declared : Declared}
    {entry : ClassPath × List Expr} (h : entry ∈ (declared.addTo index).classes) :
    entry ∈ index.classes ∨ declared.kind = .topClass ∧ entry = (declared.path, declared.bases) := by
  unfold Declared.addTo at h
  split at h
  · rename_i hkind
    simp only [ModuleIndex.putClass, List.mem_append, List.mem_filter, List.mem_singleton] at h
    exact h.imp And.left (⟨hkind, ·⟩)
  · exact Or.inl h

/-- There is a class at a path exactly if one is noted there. -/
theorem hasClass_iff {index : ModuleIndex} {path : ClassPath} :
    index.hasClass path = true ↔ ∃ bases, (path, bases) ∈ index.classes := by
  simp [ModuleIndex.hasClass]

/-- There is a class at a path after a declaration if there was one before or one is declared
there. -/
theorem hasClass_addTo {index : ModuleIndex} {declared : Declared} {path : ClassPath}
    (h : index.hasClass path = true ∨ declared.kind = .topClass ∧ declared.path = path) :
    (declared.addTo index).hasClass path = true := by
  rw [hasClass_iff]
  unfold Declared.addTo
  split
  · simp only [ModuleIndex.putClass, List.mem_append, List.mem_filter, List.mem_singleton]
    by_cases hpath : declared.path = path
    · exact ⟨declared.bases, Or.inr (by rw [hpath])⟩
    · obtain ⟨bases, hbases⟩ := hasClass_iff.mp (h.resolve_right fun hnew => hpath hnew.2)
      exact ⟨bases, Or.inl ⟨hbases, by simpa using Ne.symm hpath⟩⟩
  · rename_i hkind
    exact hasClass_iff.mp (h.resolve_right fun hnew => hkind hnew.1)

/-- The classes that are known after declarations were known before or are declared. -/
theorem mem_classes_statedIn {index : ModuleIndex} {declared : List Declared}
    {entry : ClassPath × List Expr} (h : entry ∈ (statedIn index declared).classes) :
    entry ∈ index.classes ∨
      ∃ stated ∈ declared, stated.kind = .topClass ∧ entry = (stated.path, stated.bases) := by
  induction declared generalizing index with
  | nil => exact Or.inl h
  | cons first rest ih =>
    rcases ih h with hfirst | ⟨stated, hstated, hentry⟩
    · exact (mem_classes_addTo hfirst).imp_right fun hnew => ⟨first, List.mem_cons_self, hnew⟩
    · exact Or.inr ⟨stated, List.mem_cons_of_mem first hstated, hentry⟩

/-- After declarations there is a class where there was one before, and where one is declared. -/
theorem hasClass_statedIn {index : ModuleIndex} {declared : List Declared} {path : ClassPath}
    (h : index.hasClass path = true ∨
      ∃ stated ∈ declared, stated.kind = .topClass ∧ stated.path = path) :
    (statedIn index declared).hasClass path = true := by
  induction declared generalizing index with
  | nil =>
    refine h.resolve_right ?_
    rintro ⟨stated, hstated, -⟩
    cases hstated
  | cons first rest ih =>
    refine ih ?_
    rcases h with hbefore | ⟨stated, hstated, hkind, hpath⟩
    · exact Or.inl (hasClass_addTo (Or.inl hbefore))
    · rcases List.mem_cons.mp hstated with rfl | hstated
      · exact Or.inl (hasClass_addTo (Or.inr ⟨hkind, hpath⟩))
      · exact Or.inr ⟨stated, hstated, hkind, hpath⟩

/-- A class with its bases that the module of a source knows is declared in it outside of
functions. -/
theorem exists_declared_of_mem_classes {markers : List String} {source : Source}
    {entry : ClassPath × List Expr} (h : entry ∈ (source.index markers).classes) :
    ∃ declared ∈ declarations source.statements,
      declared.kind = .topClass ∧ entry = (declared.path, declared.bases) := by
  rw [Source.index, indexModule_eq] at h
  refine (mem_classes_statedIn h).resolve_left ?_
  rw [classes_topLevel]
  exact List.not_mem_nil

/-- The module of a source has a class exactly where one is declared outside of functions. -/
theorem hasClass_index_iff {markers : List String} {source : Source} {path : ClassPath} :
    (source.index markers).hasClass path = true ↔
      ∃ declared ∈ declarations source.statements, declared.kind = .topClass ∧
        declared.path = path := by
  constructor
  · intro h
    obtain ⟨bases, hbases⟩ := hasClass_iff.mp h
    obtain ⟨declared, hdeclared, hkind, hentry⟩ := exists_declared_of_mem_classes hbases
    exact ⟨declared, hdeclared, hkind, (congrArg Prod.fst hentry).symm⟩
  · intro h
    rw [Source.index, indexModule_eq]
    exact hasClass_statedIn (Or.inr h)

end Classes

end ServiceManifest.Project
