import Mathlib.Data.List.Basic
import ServiceManifest.Proofs.Name
import ServiceManifest.Proofs.Project.Ancestors
import ServiceManifest.Proofs.Project.Bound
import ServiceManifest.Proofs.Project.Units
import ServiceManifest.Proofs.Source.Statement

/-!
# Names in the modules of a project

The modules of a project have dotted names, and so have the targets of their imports: no part of them
is empty. Whatever is written in a module therefore has an absolute name that is dotted, too, and in
particular one that starts with a name. The same holds of all that the index of a module keeps of its
statements: the paths of its classes, their bases, the decorators, and the values of aliases.
-/

namespace ServiceManifest

namespace Source

section Front

variable {dotted first : String} {rest : List String}

/-- A dotted name whose first part is not empty. -/
def HasFront (dotted : String) : Prop := ∃ c rest, dotted.toList = c :: rest ∧ c ≠ '.'

/-- What is behind a name with a first part does not take it away. -/
theorem HasFront.append (h : HasFront dotted) (tail : String) : HasFront (dotted ++ tail) := by
  obtain ⟨c, rest, heq, hc⟩ := h
  exact ⟨c, rest ++ tail.toList, by rw [String.toList_append, heq, List.cons_append], hc⟩

/-- A name that starts with a name has a first part that does. -/
theorem HasFront.exists_nameParts (h : HasFront dotted) :
    ∃ first rest, nameParts '.' dotted = first :: rest ∧ HasFront first := by
  obtain ⟨c, cs, heq, hc⟩ := h
  obtain ⟨piece, pieces, hpieces⟩ := List.exists_cons_of_ne_nil (List.splitOn_ne_nil '.' cs)
  refine ⟨String.ofList (c :: piece), pieces.map String.ofList, ?_, c, piece, String.toList_ofList, hc⟩
  rw [nameParts, heq, List.splitOn_cons_eq_if_modifyHead, if_neg (by simpa using hc), hpieces]
  rfl

/-- Parts spell a name that starts with a name if the first of them does. -/
theorem hasFront_intercalate (h : HasFront first) : HasFront (".".intercalate (first :: rest)) := by
  cases rest with
  | nil => rwa [String.intercalate_singleton]
  | cons second rest =>
    rw [String.intercalate_cons_cons]
    exact (h.append _).append _

/-- The first parts of a name that starts with a name spell one, too, if there are any. -/
theorem HasFront.of_front (h : HasFront dotted) {front : List String}
    (hfront : front <+: nameParts '.' dotted) (hne : front ≠ []) :
    HasFront (".".intercalate front) := by
  obtain ⟨first, rest, hparts, hfirst⟩ := h.exists_nameParts
  obtain ⟨head, tail, rfl⟩ := List.exists_cons_of_ne_nil hne
  rw [hparts, List.cons_prefix_cons] at hfront
  exact hasFront_intercalate (hfront.1 ▸ hfirst)

/-- What starts with a name is not empty. -/
theorem HasFront.ne_empty (h : HasFront dotted) : dotted ≠ "" := by
  rintro rfl
  obtain ⟨c, cs, heq, -⟩ := h
  simp at heq

end Front

section Dotted

variable {dotted front : String} {parts : List String}

/-- Dotted names spell a dotted name. -/
theorem isDotted_intercalate (hne : parts ≠ []) (hparts : ∀ part ∈ parts, IsDotted part) :
    IsDotted (".".intercalate parts) := by
  induction parts with
  | nil => exact absurd rfl hne
  | cons first rest ih =>
    obtain ⟨hfirst, hrest⟩ := List.forall_mem_cons.mp hparts
    rcases eq_or_ne rest [] with rfl | hmore
    · rwa [String.intercalate_singleton]
    · rw [String.intercalate_cons_of_ne_nil hmore]
      exact hfirst.append (ih hmore hrest)

/-- The first parts of a dotted name spell one, too, if there are any. -/
theorem IsDotted.of_front (h : IsDotted dotted) (hfront : parts <+: nameParts '.' dotted)
    (hne : parts ≠ []) : IsDotted (".".intercalate parts) :=
  isDotted_intercalate hne fun _ hpart => (h _ (hfront.subset hpart)).isDotted

/-- A dotted name starts with a name. -/
theorem IsDotted.hasFront (h : IsDotted dotted) : HasFront dotted := by
  unfold IsDotted nameParts at h
  have hempty : "" ∉ (dotted.toList.splitOn '.').map String.ofList := fun hmem => (h "" hmem).1 rfl
  rcases hchars : dotted.toList with _ | ⟨c, rest⟩
  · simp [hchars] at hempty
  · refine ⟨c, rest, hchars, ?_⟩
    rintro rfl
    refine hempty ?_
    rw [hchars, List.splitOn_cons_eq_if_modifyHead]
    simp

/-- The first part of a dotted name may be exchanged for a dotted name. -/
theorem IsDotted.append_behind (h : IsDotted dotted) (hfront : IsDotted front) :
    IsDotted (front ++ String.ofList (dotted.toList.drop ((nameParts '.' dotted).headD "").length)) := by
  obtain ⟨first, rest, hparts⟩ := List.exists_cons_of_ne_nil (nameParts_ne_nil dotted)
  have hdotted := intercalate_nameParts dotted
  rw [hparts] at hdotted ⊢
  rw [List.headD_cons, ← hdotted]
  rcases eq_or_ne rest [] with rfl | hmore
  · simpa [← String.length_toList] using hfront
  · have hbehind : IsDotted (".".intercalate rest) :=
      isDotted_intercalate hmore fun part hpart =>
        (h _ (hparts ▸ List.mem_cons_of_mem _ hpart)).isDotted
    rw [String.intercalate_cons_of_ne_nil hmore, String.append_assoc, String.toList_append,
      ← String.length_toList, List.drop_left, String.ofList_toList, ← String.append_assoc]
    exact hfront.append hbehind

/-- The chain of attributes that an expression with simple names spells is dotted. -/
theorem Expr.NamesAreSimple.isDotted {expr : Expr} (h : expr.NamesAreSimple)
    (hdotted : expr.dottedName? = some dotted) : IsDotted dotted := by
  fun_induction Expr.dottedName? expr generalizing dotted with
  | case1 id =>
    obtain rfl := Option.some.inj hdotted
    exact (Expr.namesAreSimple_name.mp h).isDotted
  | case2 value member ih =>
    obtain ⟨hvalue, hmember⟩ := Expr.namesAreSimple_attribute.mp h
    obtain ⟨base, hbase, rfl⟩ := Option.map_eq_some_iff.mp hdotted
    exact (ih hvalue hbase).append hmember.isDotted
  | case3 => cases hdotted

end Dotted

end Source

namespace Project

open ServiceManifest.Source

namespace ModuleIndex

/-- The name of a module and the targets of its imports start with a name. -/
structure IsFronted (index : ModuleIndex) : Prop where
  name : HasFront index.name
  imports : ∀ bound target, Keyed.get? bound index.imports = some target → HasFront target

section Fronted

variable {index : ModuleIndex}

/-- The absolute name of what is written in a module starts with a name. -/
theorem IsFronted.absolute (h : index.IsFronted) (scope : ClassPath) (dotted : String) :
    HasFront (index.absolute scope dotted) := by
  have hmember : HasFront (index.name ++ "." ++ dotted) := (h.name.append _).append _
  have hbuiltin : HasFront builtinModule := ⟨'b', _, rfl, by decide⟩
  unfold ModuleIndex.absolute
  dsimp only
  split
  · exact (hasFront_intercalate h.name).append _
  · split
    · exact hmember
    · split
      · rename_i target htarget
        exact (h.imports _ _ htarget).append _
      · split
        · exact (hbuiltin.append _).append _
        · exact hmember

end Fronted

end ModuleIndex

section Statements

mutual

/-- Names in the statements that run with a statement are simple. -/
theorem namesAreSimple_importTime {statement : Statement} (h : statement.NamesAreSimple) :
    ∀ inner ∈ importTime statement, inner.NamesAreSimple := by
  cases statement with
  | compound atImport body =>
    cases atImport with
    | true =>
      rw [importTime, List.forall_mem_cons]
      exact ⟨h, namesAreSimple_importTimeAll (Statement.namesAreSimple_compound.mp h)⟩
    | false => exact List.forall_mem_singleton.mpr h
  | _ => exact List.forall_mem_singleton.mpr h

/-- Names in the statements that run with others are simple. -/
theorem namesAreSimple_importTimeAll {statements : List Statement}
    (h : ∀ statement ∈ statements, statement.NamesAreSimple) :
    ∀ inner ∈ importTimeAll statements, inner.NamesAreSimple := by
  cases statements with
  | nil => nofun
  | cons first rest =>
    obtain ⟨hfirst, hrest⟩ := List.forall_mem_cons.mp h
    rw [importTimeAll, List.forall_mem_append]
    exact ⟨namesAreSimple_importTime hfirst, namesAreSimple_importTimeAll hrest⟩

end

/-- A path of simple names that leads somewhere. -/
def IsSimplePath (path : List String) : Prop := path ≠ [] ∧ ∀ name ∈ path, IsSimple name

/-- A path of simple names makes a qualified name. -/
theorem IsSimplePath.wellFormed {path : List String} (h : IsSimplePath path) (package : String) :
    (⟨package, path⟩ : QualifiedName).wellFormed = true := by
  have hparts : ∀ name ∈ path, name ≠ "" := fun name hname => (h.2 name hname).1
  simpa [QualifiedName.wellFormed, h.1] using hparts

/-- A simple name behind others makes a path. -/
theorem isSimplePath_concat {outer : List String} (houter : ∀ name ∈ outer, IsSimple name)
    {name : String} (hname : IsSimple name) : IsSimplePath (outer ++ [name]) :=
  ⟨by simp, List.forall_mem_append.mpr ⟨houter, List.forall_mem_singleton.mpr hname⟩⟩

/-- All names in a declaration are simple: those that lead to it and those in its bases and
decorators. -/
structure Declared.NamesAreSimple (declared : Declared) : Prop where
  path : IsSimplePath declared.path
  scope : ∀ name ∈ declared.scope, IsSimple name
  bases : ∀ base ∈ declared.bases, base.NamesAreSimple
  decorators : ∀ decorator ∈ declared.decorators, decorator.NamesAreSimple

mutual

/-- Names in the declarations of a statement are simple. -/
theorem namesAreSimple_declaredIn {scope : ClassPath} {outer : List String}
    (hscope : ∀ name ∈ scope, IsSimple name) (houter : ∀ name ∈ outer, IsSimple name)
    (inFunction : Bool) {statement : Statement} (h : statement.NamesAreSimple) :
    ∀ declared ∈ declaredIn scope outer inFunction statement, declared.NamesAreSimple := by
  cases statement with
  | classDef line name decorators bases body =>
    obtain ⟨hname, hdecorators, hbases, hbody⟩ := Statement.namesAreSimple_classDef.mp h
    rw [declaredIn, List.forall_mem_cons]
    have hpath := isSimplePath_concat houter hname
    refine ⟨⟨hpath, hscope, hbases, hdecorators⟩, ?_⟩
    refine namesAreSimple_declaredInAll ?_ hpath.2 inFunction hbody
    split
    · exact hscope
    · exact hpath.2
  | functionDef line name decorators body =>
    obtain ⟨hname, hdecorators, hbody⟩ := Statement.namesAreSimple_functionDef.mp h
    rw [declaredIn, List.forall_mem_cons]
    have hpath := isSimplePath_concat houter hname
    have hlocals : IsSimple localsPart := by decide
    exact ⟨⟨hpath, hscope, nofun, hdecorators⟩,
      namesAreSimple_declaredInAll hscope (isSimplePath_concat hpath.2 hlocals).2 true hbody⟩
  | compound atImport body =>
    exact namesAreSimple_declaredInAll hscope houter inFunction (Statement.namesAreSimple_compound.mp h)
  | importModules | importFrom | assign | annotate | other => nofun

/-- Names in the declarations of statements are simple. -/
theorem namesAreSimple_declaredInAll {scope : ClassPath} {outer : List String}
    (hscope : ∀ name ∈ scope, IsSimple name) (houter : ∀ name ∈ outer, IsSimple name)
    (inFunction : Bool) {statements : List Statement}
    (h : ∀ statement ∈ statements, statement.NamesAreSimple) :
    ∀ declared ∈ declaredInAll scope outer inFunction statements, declared.NamesAreSimple := by
  cases statements with
  | nil => nofun
  | cons first rest =>
    obtain ⟨hfirst, hrest⟩ := List.forall_mem_cons.mp h
    rw [declaredInAll, List.forall_mem_append]
    exact ⟨namesAreSimple_declaredIn hscope houter inFunction hfirst,
      namesAreSimple_declaredInAll hscope houter inFunction hrest⟩

end

end Statements

namespace ModuleIndex

/-- The name of a module and the targets of its imports are dotted, and what these are bound to is a
simple name. -/
structure IsDotted (index : ModuleIndex) : Prop where
  name : Source.IsDotted index.name
  imports : ∀ bound target, Keyed.get? bound index.imports = some target → Source.IsDotted target
  bound : ∀ bound target, Keyed.get? bound index.imports = some target → IsSimple bound

section Dotted

variable {index other : ModuleIndex}

/-- The absolute name of what is written in a module is dotted. -/
theorem IsDotted.absolute (h : index.IsDotted) {scope : ClassPath}
    (hscope : ∀ name ∈ scope, IsSimple name) {dotted : String} (hdotted : Source.IsDotted dotted) :
    Source.IsDotted (index.absolute scope dotted) := by
  have hmember := h.name.append hdotted
  have hbuiltin : Source.IsDotted builtinModule := by
    unfold Source.IsDotted
    decide
  unfold ModuleIndex.absolute
  dsimp only
  split
  · refine hdotted.append_behind (isDotted_intercalate (by simp) ?_)
    rw [List.cons_append, List.forall_mem_cons, List.forall_mem_append, List.forall_mem_singleton]
    refine ⟨h.name, fun name hname => (hscope name hname).isDotted, ?_⟩
    obtain ⟨first, rest, hparts⟩ := List.exists_cons_of_ne_nil (nameParts_ne_nil dotted)
    rw [hparts, List.headD_cons]
    exact (hdotted _ (hparts ▸ List.mem_cons_self)).isDotted
  · split
    · exact hmember
    · split
      · rename_i target htarget
        exact hdotted.append_behind (h.imports _ _ htarget)
      · split
        · exact hbuiltin.append hdotted
        · exact hmember

/-- Modules of one unit with the same imports have the same names. -/
theorem IsDotted.congr (h : index.IsDotted) (hunit : other.unit = index.unit)
    (himports : other.imports = index.imports) : other.IsDotted where
  name := by
    rw [ModuleIndex.name, hunit]
    exact h.name
  imports := himports ▸ h.imports
  bound := himports ▸ h.bound

/-- An import of a dotted target keeps the names if it is bound to a simple one. -/
theorem IsDotted.put (h : index.IsDotted) {bound target : String} (hbound : IsSimple bound)
    (htarget : Source.IsDotted target) :
    IsDotted { index with imports := Keyed.put bound target index.imports } where
  name := h.name
  imports name found hfound := by
    rw [Keyed.get?_put] at hfound
    split at hfound
    · obtain rfl := Option.some.inj hfound
      exact htarget
    · exact h.imports name found hfound
  bound name found hfound := by
    rw [Keyed.get?_put] at hfound
    split at hfound
    · rename_i heq
      exact heq ▸ hbound
    · exact h.bound name found hfound

/-- The base package of a relative import is empty or dotted. -/
theorem IsDotted.packageForLevel (h : index.IsDotted) (level : Nat) :
    index.packageForLevel level = "" ∨ Source.IsDotted (index.packageForLevel level) := by
  have hstart {front : List String} (hfront : front <+: nameParts '.' index.name) :
      ".".intercalate front = "" ∨ Source.IsDotted (".".intercalate front) := by
    rcases eq_or_ne front [] with rfl | hne
    · exact .inl rfl
    · exact .inr (h.name.of_front hfront hne)
  have hparts : (if index.isPackage then nameParts '.' index.name
      else (nameParts '.' index.name).dropLast) <+: nameParts '.' index.name := by
    split
    · exact List.prefix_refl _
    · exact List.dropLast_prefix _
  refine hstart ?_
  split
  · exact hparts
  · exact (List.take_prefix _ _).trans hparts

/-- The source of an import is empty or dotted. -/
theorem IsDotted.importSource (h : index.IsDotted) (level : Nat) {module : String}
    (hmodule : module = "" ∨ Source.IsDotted module) :
    index.importSource level module = "" ∨ Source.IsDotted (index.importSource level module) := by
  unfold ModuleIndex.importSource
  split
  · exact hmodule
  · dsimp only
    split
    · rename_i hboth
      simp only [ne_eq, Bool.and_eq_true, decide_eq_true_eq] at hboth
      exact .inr (((h.packageForLevel level).resolve_left hboth.1).append
        (hmodule.resolve_left hboth.2))
    · split
      · exact h.packageForLevel level
      · exact hmodule

/-- An import statement keeps the names if those in it are simple. -/
theorem IsDotted.addImport (h : index.IsDotted) {statement : Statement}
    (hstatement : statement.NamesAreSimple) : (index.addImport statement).IsDotted := by
  cases statement with
  | importModules names =>
    refine List.foldlRecOn names _ h fun index h entry hentry => ?_
    obtain ⟨hdotted, hgiven⟩ := Statement.namesAreSimple_importModules.mp hstatement entry hentry
    obtain ⟨first, rest, hparts⟩ := List.exists_cons_of_ne_nil (nameParts_ne_nil entry.1)
    unfold importModule
    rw [hparts]
    cases hname : entry.2 with
    | none =>
      have hfirst := hdotted first (hparts ▸ List.mem_cons_self)
      exact (h.put hfirst hfirst.isDotted).congr rfl rfl
    | some given => exact (h.put (hgiven given hname) hdotted).congr rfl rfl
  | importFrom level module names =>
    obtain ⟨hmodule, hnames⟩ := Statement.namesAreSimple_importFrom.mp hstatement
    simp only [ModuleIndex.addImport]
    split
    · exact h
    · rename_i hsource
      have hdotted := (h.importSource level hmodule).resolve_left hsource
      refine List.foldlRecOn names _ (h.congr rfl rfl) fun index h entry hentry => ?_
      unfold importMember
      split
      · exact h
      · rename_i hstar
        obtain ⟨hname, hgiven⟩ := hnames entry hentry
        have hsimple := hname.resolve_left hstar
        refine h.put ?_ (hdotted.append hsimple.isDotted)
        cases hbound : entry.2 with
        | none => exact hsimple
        | some given => exact hgiven given hbound
  | _ => exact h

end Dotted

/-- Aliases and the names in their values are simple. -/
def AliasesAreSimple (index : ModuleIndex) : Prop :=
  ∀ bound value, Keyed.get? bound index.aliases = some value → IsSimple bound ∧ value.NamesAreSimple

/-- A simple name may become an alias of a value in which all names are simple. -/
theorem AliasesAreSimple.addAlias {index : ModuleIndex} (h : index.AliasesAreSimple) {name : String}
    (hname : IsSimple name) {value : Expr} (hvalue : value.NamesAreSimple) :
    (index.addAlias name value).AliasesAreSimple := by
  intro bound found hfound
  rw [ModuleIndex.addAlias, Keyed.get?_put] at hfound
  split at hfound
  · rename_i heq
    obtain rfl := Option.some.inj hfound
    exact ⟨heq ▸ hname, hvalue⟩
  · exact h bound found hfound

/-- A definition keeps aliases and the names in their values simple. -/
theorem AliasesAreSimple.addDefinition {index : ModuleIndex} (h : index.AliasesAreSimple)
    {statement : Statement} (hstatement : statement.NamesAreSimple) :
    (index.addDefinition statement).AliasesAreSimple := by
  cases statement with
  | assign targets value =>
    obtain ⟨htargets, hvalue⟩ := Statement.namesAreSimple_assign.mp hstatement
    refine List.foldlRecOn targets _ h fun index h target htarget => ?_
    unfold assignTarget
    split
    · dsimp only
      split
      · exact h.addAlias (Expr.namesAreSimple_name.mp (htargets _ htarget)) hvalue
      · exact h
    · exact h
  | annotate target hint value =>
    cases target with
    | name id =>
      obtain ⟨hname, hvalue⟩ := Statement.namesAreSimple_annotate.mp hstatement
      simp only [ModuleIndex.addDefinition]
      split
      · rename_i given
        split
        · exact h.addAlias (Expr.namesAreSimple_name.mp hname) (hvalue given rfl)
        · exact h
      · exact h
    | _ => exact h
  | _ => exact h

/-- All names in a module are simple: those in its imports, its aliases, its classes, and the
declarations that are its candidates. -/
structure NamesAreSimple (index : ModuleIndex) : Prop where
  dotted : index.IsDotted
  aliases : index.AliasesAreSimple
  classes : ∀ entry ∈ index.classes, IsSimplePath entry.1 ∧ ∀ base ∈ entry.2, base.NamesAreSimple
  candidates : ∀ candidate ∈ index.candidates, ∃ declared : Declared, declared.NamesAreSimple ∧
    ∃ decorator ∈ declared.decorators, candidate = declared.candidate decorator

end ModuleIndex

/-- A module that can be imported has a dotted name. -/
theorem isDotted_of_isImportable {module : String} (h : isImportable module = true) :
    Source.IsDotted module := by
  simp only [isImportable, Bool.and_eq_true, List.all_eq_true] at h
  refine fun part hpart => ⟨?_, Text.isDelimiter_of_isIdentifier (h.2 part hpart)⟩
  rintro rfl
  exact absurd (h.2 "" hpart) (by decide)

section Sources

variable {tree : Disk.Tree} {root : Path} {markers : List String} {source : Source}

/-- In the module of a source that a tree has, all names are simple if the module can be imported. -/
theorem Source.namesAreSimple (hsource : source.IsIn tree root)
    (himportable : isImportable source.unit.module = true) :
    (source.index markers).NamesAreSimple := by
  obtain ⟨bytes, -, hparse, -⟩ := hsource
  have hstatements := (parseModule_spec hparse).1
  have htop := namesAreSimple_importTimeAll hstatements
  have hdeclared : ∀ declared ∈ declarations source.statements, declared.NamesAreSimple :=
    namesAreSimple_declaredInAll (List.forall_mem_nil _) (List.forall_mem_nil _) false hstatements
  have hempty : (ModuleIndex.empty source.unit source.isPackage).IsDotted :=
    { name := isDotted_of_isImportable himportable
      imports := fun _ _ hfound => by cases hfound
      bound := fun _ _ hfound => by cases hfound }
  have himported : source.imported.IsDotted :=
    List.foldlRecOn _ _ hempty fun index hindex statement hmem =>
      hindex.addImport (htop statement hmem)
  have haliases : (topLevel source.unit source.isPackage source.statements).AliasesAreSimple := by
    refine List.foldlRecOn _ _ ?_ fun index hindex statement hmem =>
      hindex.addDefinition (htop statement hmem)
    obtain ⟨imports, known, heq⟩ := ModuleIndex.exists_foldl_addImport
      (importTimeAll source.statements) (.empty source.unit source.isPackage)
    rw [heq]
    exact fun _ _ hfound => by cases hfound
  refine ⟨?_, ?_, fun entry hentry => ?_, fun candidate hcandidate => ?_⟩
  · obtain ⟨defined, aliases, classes, candidates, hindex⟩ := source.exists_index_imported markers
    rw [hindex]
    exact himported.congr rfl rfl
  · obtain ⟨classes, candidates, hindex⟩ := source.exists_index markers
    rw [hindex]
    exact haliases
  · obtain ⟨declared, hmem, -, rfl⟩ := exists_declared_of_mem_classes hentry
    exact ⟨(hdeclared declared hmem).path, (hdeclared declared hmem).bases⟩
  · obtain ⟨declared, decorator, ⟨before, after, heq, hdecorator, -⟩, rfl⟩ :=
      Source.mem_candidates_index.mp hcandidate
    have hmem : declared ∈ declarations source.statements := by
      rw [heq]
      exact List.mem_append_right _ List.mem_cons_self
    exact ⟨declared, hdeclared declared hmem, decorator, hdecorator, rfl⟩

/-- In the module of a source that a tree has, names start with a name if the module can be
imported. -/
theorem Source.isFronted (hsource : source.IsIn tree root)
    (himportable : isImportable source.unit.module = true) : (source.index markers).IsFronted where
  name := (source.namesAreSimple hsource himportable).dotted.name.hasFront
  imports bound target htarget :=
    ((source.namesAreSimple hsource himportable).dotted.imports bound target htarget).hasFront

end Sources

end Project

end ServiceManifest
