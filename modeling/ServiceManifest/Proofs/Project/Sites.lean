import Mathlib.Data.List.Induction
import Mathlib.Data.List.TakeWhile
import ServiceManifest.Proofs.Project.Kept

/-!
# Where class and function statements stand

A module is a tree of statements, in which each class and function statement has its place. Its qualified
name, its kind and the class scope of its decorators are read off the statements around it. The candidates
of a module are exactly the pairs of such a statement and one of its decorators that is a marker there, in
the order of the places, and its classes are exactly the class statements without a function around them,
so with a class it has every class around that one.
-/

namespace ServiceManifest

namespace Source.Statement

/-- The statements directly inside of a statement. -/
def body : Statement → List Statement
  | .classDef _ _ _ _ body => body
  | .functionDef _ _ _ body => body
  | .compound _ body => body
  | _ => []

/-- The name that a class or function statement declares. -/
def declaredName? : Statement → Option String
  | .classDef _ name _ _ _ => some name
  | .functionDef _ name _ _ => some name
  | _ => none

/-- The decorators of a class or function statement. -/
def decorators : Statement → List Expr
  | .classDef _ _ decorators _ _ => decorators
  | .functionDef _ _ decorators _ => decorators
  | _ => []

/-- The bases of a class statement. -/
def bases : Statement → List Expr
  | .classDef _ _ _ bases _ => bases
  | _ => []

/-- The line on which a class or function statement is declared. -/
def line : Statement → Nat
  | .classDef line _ _ _ _ => line
  | .functionDef line _ _ _ => line
  | _ => 0

/-- Whether a statement is a function statement. -/
def isFunction : Statement → Bool
  | .functionDef _ _ _ _ => true
  | _ => false

/-- What stands in the qualified names of all that is declared inside of a statement. -/
def qualifier : Statement → String
  | .classDef _ name _ _ _ => name ++ "."
  | .functionDef _ name _ _ => name ++ ".<locals>."
  | _ => ""

/-- The parts of paths that a statement brings for all that is declared inside of it. -/
def innerParts : Statement → List String
  | .classDef _ name _ _ _ => [name]
  | .functionDef _ name _ _ => [name, Project.localsPart]
  | _ => []

end Source.Statement

/-- The dotted name of a decorator, called or not. -/
def Source.Expr.decoratorName? : Expr → Option String
  | .call function _ _ => function.dottedName?
  | decorator => decorator.dottedName?

namespace Project

open ServiceManifest.Source

/-- A statement where it stands in a module: its place, which has the number of each statement around it
and its own among the statements beside them, and the statements around it, outermost first. -/
structure Site where
  place : List Nat
  around : List Statement
  statement : Statement

namespace Site

/-- A site in the body of a statement, as one of the statements that this one is among. -/
def inside (n : Nat) (outer : Statement) (site : Site) : Site :=
  ⟨n :: site.place, outer :: site.around, site.statement⟩

variable (site : Site)

/-- The name that is declared at a site. -/
def name : String := site.statement.declaredName?.getD ""

/-- Whether a function is around a site. -/
def inFunction : Bool := site.around.any Statement.isFunction

/-- The kind of what is declared at a site: a class is local if a function is around it. -/
def kind : DeclarationKind :=
  if site.statement.isFunction then .function else if site.inFunction then .localClass else .topClass

/-- The qualified name of what is declared at a site. -/
def qualname : String := String.join (site.around.map Statement.qualifier) ++ site.name

/-- The path to what is declared at a site. -/
def path : List String := site.around.flatMap Statement.innerParts ++ [site.name]

/-- The nearest class scope around a site: that of the innermost class around which there is no
function. -/
def scope : ClassPath :=
  (site.around.takeWhile fun outer => !outer.isFunction).flatMap Statement.innerParts

/-- What is declared at a site, as a candidate for one of its decorators. -/
def candidate (decorator : Expr) : Candidate :=
  ⟨site.path, site.scope, site.kind, site.statement.bases, decorator, site.statement.line⟩

end Site

/-- A statement stands at a site in statements: it is one of them, or it stands in the body of one. -/
inductive Stands : List Statement → Site → Prop
  | here {statements : List Statement} {n : Nat} {statement : Statement}
      (hat : statements[n]? = some statement) : Stands statements ⟨[n], [], statement⟩
  | inside {statements : List Statement} {n : Nat} {outer : Statement} {site : Site}
      (hat : statements[n]? = some outer) (hsite : Stands outer.body site) :
      Stands statements (site.inside n outer)

/-- A class or function statement stands at a site in statements. -/
def Declares (statements : List Statement) (site : Site) : Prop :=
  Stands statements site ∧ site.statement.declaredName?.isSome = true

mutual

/-- The sites of class and function statements in the body of a statement. -/
def sitesIn : Statement → List Site
  | .classDef _ _ _ _ body => sitesFrom 0 body
  | .functionDef _ _ _ body => sitesFrom 0 body
  | .compound _ body => sitesFrom 0 body
  | _ => []

/-- The sites of class and function statements in statements, the first of which has a number. -/
def sitesFrom (n : Nat) : List Statement → List Site
  | [] => []
  | statement :: rest =>
    (if statement.declaredName?.isSome then [⟨[n], [], statement⟩] else []) ++
      (sitesIn statement).map (Site.inside n statement) ++ sitesFrom (n + 1) rest

end

/-- The sites of the class and function statements of a module, in the order of their places. -/
def sites (statements : List Statement) : List Site := sitesFrom 0 statements

section Listed

variable {statements : List Statement} {site : Site}

/-- The sites in the body of a statement are those of its statements. -/
theorem sitesIn_eq (statement : Statement) : sitesIn statement = sites statement.body := by
  cases statement <;> rfl

/-- A site is listed for a statement at its number, or in the body of that statement. -/
theorem mem_sitesFrom {n : Nat} : site ∈ sitesFrom n statements ↔
    ∃ k statement, statements[k]? = some statement ∧
      (statement.declaredName?.isSome = true ∧ site = ⟨[n + k], [], statement⟩ ∨
        ∃ inner ∈ sites statement.body, site = inner.inside (n + k) statement) := by
  induction statements generalizing n with
  | nil => simp [sitesFrom]
  | cons first rest ih =>
    have hfirst : site ∈ (if first.declaredName?.isSome then [(⟨[n], [], first⟩ : Site)] else []) ++
          (sitesIn first).map (Site.inside n first) ↔
        first.declaredName?.isSome = true ∧ site = ⟨[n], [], first⟩ ∨
          ∃ inner ∈ sites first.body, site = inner.inside n first := by
      simp only [List.mem_append, List.mem_map, sitesIn_eq, eq_comm (a := site), List.mem_ite_nil_right,
        List.mem_singleton]
    rw [sitesFrom, List.mem_append, hfirst, ih]
    constructor
    · rintro (hfirst | ⟨k, statement, hat, hsite⟩)
      · exact ⟨0, first, rfl, hfirst⟩
      · exact ⟨k + 1, statement, hat, by rwa [Nat.add_right_comm, Nat.add_assoc] at hsite⟩
    · rintro ⟨_ | k, statement, hat, hsite⟩
      · obtain rfl := Option.some.inj hat
        exact .inl hsite
      · exact .inr ⟨k, statement, hat, by rwa [Nat.add_right_comm, Nat.add_assoc]⟩

/-- The sites that are listed are those at which class and function statements stand. -/
theorem mem_sites : site ∈ sites statements ↔ Declares statements site := by
  constructor
  · intro hmem
    induction hlength : site.place.length using Nat.strongRecOn generalizing statements site with
    | _ count ih =>
      subst hlength
      obtain ⟨n, statement, hat, ⟨hdeclared, rfl⟩ | ⟨inner, hinner, rfl⟩⟩ := mem_sitesFrom.mp hmem
      · rw [Nat.zero_add]
        exact ⟨.here hat, hdeclared⟩
      · obtain ⟨hstands, hdeclared⟩ := ih _ (by simp [Site.inside]) hinner rfl
        rw [Nat.zero_add]
        exact ⟨.inside hat hstands, hdeclared⟩
  · rintro ⟨hstands, hdeclared⟩
    induction hstands with
    | @here statements n statement hat =>
      exact mem_sitesFrom.mpr ⟨n, statement, hat, .inl ⟨hdeclared, by rw [Nat.zero_add]⟩⟩
    | @inside statements n outer inner hat _ ih =>
      exact mem_sitesFrom.mpr ⟨n, outer, hat, .inr ⟨inner, ih hdeclared, by rw [Nat.zero_add]⟩⟩

/-- The place of a site that is listed begins with a number that is not below the first one. -/
theorem exists_place_of_mem_sitesFrom {n : Nat} (h : site ∈ sitesFrom n statements) :
    ∃ k rest, site.place = (n + k) :: rest := by
  obtain ⟨k, statement, -, ⟨-, rfl⟩ | ⟨inner, -, rfl⟩⟩ := mem_sitesFrom.mp h
  · exact ⟨k, [], rfl⟩
  · exact ⟨k, inner.place, rfl⟩

mutual

/-- The sites in the body of a statement are listed in the order of their places. -/
theorem pairwise_sitesIn (statement : Statement) :
    (sitesIn statement).Pairwise fun first second => first.place < second.place := by
  cases statement with
  | classDef line name decorators bases body => exact pairwise_sitesFrom 0 body
  | functionDef line name decorators body => exact pairwise_sitesFrom 0 body
  | compound atImport body => exact pairwise_sitesFrom 0 body
  | importModules | importFrom | assign | annotate | other => exact .nil

/-- The sites in statements are listed in the order of their places. -/
theorem pairwise_sitesFrom (n : Nat) (statements : List Statement) :
    (sitesFrom n statements).Pairwise fun first second => first.place < second.place := by
  cases statements with
  | nil => exact .nil
  | cons first rest =>
    have hinner : ((sitesIn first).map (Site.inside n first)).Pairwise
        fun first second => first.place < second.place :=
      List.pairwise_map.mpr ((pairwise_sitesIn first).imp List.cons_lt_cons_self.mpr)
    rw [sitesFrom, List.append_assoc, List.pairwise_append]
    refine ⟨?_, List.pairwise_append.mpr ⟨hinner, pairwise_sitesFrom (n + 1) rest, ?_⟩, ?_⟩
    · split
      · exact List.pairwise_singleton _ _
      · exact .nil
    · intro site hsite later hlater
      obtain ⟨inner, -, rfl⟩ := List.mem_map.mp hsite
      obtain ⟨k, more, hplace⟩ := exists_place_of_mem_sitesFrom hlater
      rw [hplace]
      exact List.cons_lt_cons_iff.mpr (.inl (by omega))
    · intro site hsite later hlater
      obtain ⟨-, hsite⟩ := List.mem_ite_nil_right.mp hsite
      obtain rfl := List.mem_singleton.mp hsite
      rcases List.mem_append.mp hlater with hlater | hlater
      · obtain ⟨inner, hinner, rfl⟩ := List.mem_map.mp hlater
        rw [sitesIn_eq] at hinner
        obtain ⟨k, more, hplace⟩ := exists_place_of_mem_sitesFrom hinner
        refine List.cons_lt_cons_self.mpr ?_
        rw [hplace]
        exact List.nil_lt_cons _ _
      · obtain ⟨k, more, hplace⟩ := exists_place_of_mem_sitesFrom hlater
        rw [hplace]
        exact List.cons_lt_cons_iff.mpr (.inl (by omega))

end

end Listed

section Declared

/-- The path to what is declared at a site spells its qualified name. -/
theorem Site.intercalate_path (site : Site) : ".".intercalate site.path = site.qualname := by
  have hlocals : "." ++ localsPart ++ "." = ".<locals>." := by decide
  have hjoin (around : List Statement) :
      ".".intercalate (around.flatMap Statement.innerParts ++ [site.name]) =
        String.join (around.map Statement.qualifier) ++ site.name := by
    induction around with
    | nil => simp
    | cons outer rest ih =>
      have hne : rest.flatMap Statement.innerParts ++ [site.name] ≠ [] := by simp
      rw [List.flatMap_cons, List.append_assoc, List.map_cons, String.join_cons, String.append_assoc,
        ← ih]
      cases outer with
      | classDef line name decorators bases body => exact String.intercalate_cons_of_ne_nil hne
      | functionDef line name decorators body =>
        simp only [Statement.innerParts, Statement.qualifier, List.cons_append, List.nil_append,
          String.intercalate_cons_cons, String.intercalate_cons_of_ne_nil hne, ← hlocals,
          String.append_assoc]
      | _ => simp [Statement.innerParts, Statement.qualifier]
  exact hjoin site.around

/-- What is declared at a site in statements that stand behind a path, in a class scope and perhaps in a
function. -/
def Site.declaredWithin (scope : ClassPath) (outer : List String) (inFunction : Bool)
    (site : Site) : Declared :=
  ⟨outer ++ site.path, if inFunction then scope else outer ++ site.scope,
    if site.statement.isFunction then .function
    else if inFunction || site.inFunction then .localClass else .topClass,
    site.statement.bases, site.statement.decorators, site.statement.line⟩

/-- What is declared at a site of a module. -/
def Site.declared (site : Site) : Declared := site.declaredWithin [] [] false

section Inside

variable {scope : ClassPath} {outer : List String} {inFunction : Bool} (n line : Nat) (name : String)
  (decorators bases : List Expr) (body : List Statement) (site : Site)

/-- Inside of a class statement, its name is put behind the path, and it is the scope unless a function is
around it. -/
theorem declaredWithin_inside_classDef :
    (site.inside n (.classDef line name decorators bases body)).declaredWithin scope outer inFunction =
      site.declaredWithin (if inFunction then scope else outer ++ [name]) (outer ++ [name])
        inFunction := by
  cases inFunction <;> simp [Site.declaredWithin, Site.inside, Site.path, Site.scope, Site.name,
    Site.inFunction, Statement.innerParts, Statement.isFunction]

/-- Inside of a function statement, its name is put behind the path, and the scope stays as it is. -/
theorem declaredWithin_inside_functionDef (hscope : inFunction = false → scope = outer) :
    (site.inside n (.functionDef line name decorators body)).declaredWithin scope outer inFunction =
      site.declaredWithin scope (outer ++ [name] ++ [localsPart]) true := by
  cases inFunction <;> simp [Site.declaredWithin, Site.inside, Site.path, Site.scope, Site.name,
    Site.inFunction, Statement.innerParts, Statement.isFunction, hscope]

/-- Inside of any other compound statement, the path and the scope stay as they are. -/
theorem declaredWithin_inside_compound (atImport : Bool) :
    (site.inside n (.compound atImport body)).declaredWithin scope outer inFunction =
      site.declaredWithin scope outer inFunction := by
  simp [Site.declaredWithin, Site.inside, Site.path, Site.scope, Site.name, Site.inFunction,
    Statement.innerParts, Statement.isFunction]

/-- A statement at a site of its own declares its name behind the path. -/
theorem declaredWithin_here (statement : Statement) (hscope : inFunction = false → scope = outer) :
    Site.declaredWithin scope outer inFunction ⟨[n], [], statement⟩ =
      ⟨outer ++ [statement.declaredName?.getD ""], scope,
        if statement.isFunction then .function else if inFunction then .localClass else .topClass,
        statement.bases, statement.decorators, statement.line⟩ := by
  cases inFunction <;> simp [Site.declaredWithin, Site.path, Site.scope, Site.name, Site.inFunction,
    hscope]

end Inside

mutual

/-- The declarations in a statement are what is declared at the statement and at the sites in its
body. -/
theorem declaredIn_eq_map {scope : ClassPath} {outer : List String} {inFunction : Bool}
    (hscope : inFunction = false → scope = outer) (n : Nat) (statement : Statement) :
    declaredIn scope outer inFunction statement =
      ((if statement.declaredName?.isSome then [(⟨[n], [], statement⟩ : Site)] else []) ++
        (sitesIn statement).map (Site.inside n statement)).map
          (Site.declaredWithin scope outer inFunction) := by
  cases statement with
  | classDef line name decorators bases body =>
    rw [declaredIn, declaredInAll_eq_map (fun hout => by rw [hout]; rfl) 0]
    simp only [Statement.declaredName?, Option.isSome_some, if_true, List.singleton_append,
      List.map_cons, List.map_map, Function.comp_def, declaredWithin_inside_classDef,
      declaredWithin_here n _ hscope]
    rfl
  | functionDef line name decorators body =>
    rw [declaredIn, @declaredInAll_eq_map scope _ true nofun 0]
    simp only [Statement.declaredName?, Option.isSome_some, if_true, List.singleton_append,
      List.map_cons, List.map_map, Function.comp_def, declaredWithin_inside_functionDef _ _ _ _ _ _ hscope,
      declaredWithin_here n _ hscope]
    rfl
  | compound atImport body =>
    rw [declaredIn, declaredInAll_eq_map hscope 0]
    simp only [Statement.declaredName?, Option.isSome_none, Bool.false_eq_true, if_false,
      List.nil_append, List.map_map, Function.comp_def, declaredWithin_inside_compound]
    rfl
  | importModules | importFrom | assign | annotate | other => rfl

/-- The declarations in statements are what is declared at their sites. -/
theorem declaredInAll_eq_map {scope : ClassPath} {outer : List String} {inFunction : Bool}
    (hscope : inFunction = false → scope = outer) (n : Nat) (statements : List Statement) :
    declaredInAll scope outer inFunction statements =
      (sitesFrom n statements).map (Site.declaredWithin scope outer inFunction) := by
  cases statements with
  | nil => rfl
  | cons first rest =>
    rw [declaredInAll, sitesFrom, List.map_append, ← declaredIn_eq_map hscope,
      ← declaredInAll_eq_map hscope (n + 1)]

end

/-- The declarations of a module are what is declared at its sites. -/
theorem declarations_eq_map (statements : List Statement) :
    declarations statements = (sites statements).map Site.declared :=
  declaredInAll_eq_map (fun _ => rfl) 0 statements

/-- What is declared at a site of a module has its path, its scope and its kind. -/
theorem Site.declared_eq (site : Site) : site.declared =
    ⟨site.path, site.scope, site.kind, site.statement.bases, site.statement.decorators,
      site.statement.line⟩ := by
  simp [Site.declared, Site.declaredWithin, Site.kind]

end Declared

section Known

variable {index other : ModuleIndex} {markers : List String} {statements : List Statement}

/-- Modules of one name with the same imports, definitions and classes make the same of a name. -/
theorem ModuleIndex.absolute_congr (hunit : other.unit = index.unit)
    (himports : other.imports = index.imports) (hdefined : other.defined = index.defined)
    (hclasses : ∀ path, other.hasClass path = true ↔ index.hasClass path = true)
    (scope : ClassPath) (dotted : String) :
    other.absolute scope dotted = index.absolute scope dotted := by
  simp only [ModuleIndex.absolute, ModuleIndex.name, hunit, himports, hdefined,
    Bool.eq_iff_iff.mpr (hclasses _)]

/-- Whether a decorator at a site marks it for a module: its dotted name, called or not, has one of the
names of the marker for its absolute form. -/
def Site.isMarkedBy (markers : List String) (index : ModuleIndex) (site : Site) (decorator : Expr) :
    Bool :=
  decorator.decoratorName?.any fun dotted => markers.contains (index.absolute site.scope dotted)

/-- A decorator is a marker to a module in the scope of a site if it marks the site. -/
theorem isMarker_eq (site : Site) (decorator : Expr) :
    index.isMarker markers site.scope decorator = site.isMarkedBy markers index decorator := by
  unfold ModuleIndex.isMarker Site.isMarkedBy
  dsimp only
  split
  · rename_i dotted hdotted
    have hname : decorator.decoratorName? = some dotted := by cases decorator <;> exact hdotted
    rw [hname]
    rfl
  · rename_i hdotted
    have hname : decorator.decoratorName? = none := by cases decorator <;> exact hdotted
    rw [hname]
    rfl

/-- What a module knows at a site: all that it imports and defines, but of its classes only those up to
the site. -/
def ModuleIndex.knownAt (index : ModuleIndex) (statements : List Statement) (site : Site) :
    ModuleIndex :=
  { index with
    classes := ((sites statements).filter fun other =>
      other.kind = .topClass ∧ ¬site.place < other.place).map fun other =>
        (other.path, other.statement.bases) }

/-- In a list of sites in order, those up to one of them are those that are not behind it. -/
theorem mem_upTo_iff {front after : List Site} {site other : Site}
    (h : (front ++ site :: after).Pairwise fun first second => first.place < second.place) :
    other ∈ front ++ [site] ↔ other ∈ front ++ site :: after ∧ ¬site.place < other.place := by
  obtain ⟨-, hafter, hbefore⟩ := List.pairwise_append.mp h
  obtain ⟨hlater, -⟩ := List.pairwise_cons.mp hafter
  simp only [List.mem_append, List.mem_cons, List.not_mem_nil, or_false]
  constructor
  · rintro (hfront | rfl)
    · exact ⟨.inl hfront, List.lt_asymm (hbefore other hfront site List.mem_cons_self)⟩
    · exact ⟨.inr (.inl rfl), List.lt_irrefl _⟩
  · rintro ⟨hfront | rfl | hmem, hnot⟩
    · exact .inl hfront
    · exact .inr rfl
    · exact absurd (hlater other hmem) hnot

/-- A module that knew no class before declarations has exactly the classes among them. -/
theorem hasClass_statedIn_iff (hclasses : index.classes = []) {declared : List Declared}
    {path : ClassPath} : (statedIn index declared).hasClass path = true ↔
      ∃ stated ∈ declared, stated.kind = .topClass ∧ stated.path = path := by
  refine ⟨fun hpath => ?_, fun hpath => hasClass_statedIn (.inr hpath)⟩
  obtain ⟨bases, hbases⟩ := hasClass_iff.mp hpath
  rcases mem_classes_statedIn hbases with hknown | ⟨stated, hstated, hkind, hentry⟩
  · rw [hclasses] at hknown
    cases hknown
  · exact ⟨stated, hstated, hkind, (congrArg Prod.fst hentry).symm⟩

/-- At a site, a module knows the classes at the sites up to it. -/
theorem hasClass_knownAt {site : Site} {path : ClassPath} :
    (index.knownAt statements site).hasClass path = true ↔
      ∃ other ∈ sites statements, other.kind = .topClass ∧ ¬site.place < other.place ∧
        other.path = path := by
  simp only [ModuleIndex.hasClass, ModuleIndex.knownAt, List.any_map, List.any_eq_true, List.mem_filter,
    decide_eq_true_eq, Function.comp_apply, and_assoc]

/-- With the classes among the declarations up to a site, a module makes of a name what it does at the
site. -/
theorem absolute_statedIn {top : ModuleIndex} {front after : List Site} {site : Site}
    (hsites : sites statements = front ++ site :: after) (hunit : top.unit = index.unit)
    (himports : top.imports = index.imports) (hdefined : top.defined = index.defined)
    (hclasses : top.classes = []) (scope : ClassPath) (dotted : String) :
    (statedIn top ((front ++ [site]).map Site.declared)).absolute scope dotted =
      (index.knownAt statements site).absolute scope dotted := by
  have hordered := pairwise_sitesFrom 0 statements
  rw [← sites, hsites] at hordered
  obtain ⟨classes, heq⟩ := exists_statedIn ((front ++ [site]).map Site.declared) top
  have hpaths (path : ClassPath) :
      (statedIn top ((front ++ [site]).map Site.declared)).hasClass path = true ↔
        (index.knownAt statements site).hasClass path = true := by
    rw [hasClass_statedIn_iff hclasses, hasClass_knownAt, hsites]
    simp only [List.mem_map, exists_exists_and_eq_and, Site.declared_eq, mem_upTo_iff hordered]
    exact exists_congr fun other => by tauto
  refine ModuleIndex.absolute_congr ?_ ?_ ?_ hpaths scope dotted
  · rw [heq]
    exact hunit
  · rw [heq]
    exact himports
  · rw [heq]
    exact hdefined

/-- The candidates among declarations at sites are those of each site in turn: one for each decorator by
which the site is marked for what is known there. -/
theorem candidatesAmong_eq_flatMap {top : ModuleIndex} {known : Site → ModuleIndex}
    {rest : List Site} (before : List Site)
    (hknown : ∀ front site after, rest = front ++ site :: after → ∀ dotted,
      (statedIn top ((before ++ front ++ [site]).map Site.declared)).absolute site.scope dotted =
        (known site).absolute site.scope dotted) :
    candidatesAmong markers (statedIn top (before.map Site.declared)) (rest.map Site.declared) =
      rest.flatMap fun site =>
        (site.statement.decorators.filter (site.isMarkedBy markers (known site))).map
          site.candidate := by
  induction rest generalizing before with
  | nil => rfl
  | cons first rest ih =>
    have hstated : first.declared.addTo (statedIn top (before.map Site.declared)) =
        statedIn top ((before ++ [first]).map Site.declared) := by
      simp [statedIn]
    have hfirst : first.declared.candidatesIn markers
          (statedIn top ((before ++ [first]).map Site.declared)) =
        (first.statement.decorators.filter (first.isMarkedBy markers (known first))).map
          first.candidate := by
      have hmarked (decorator : Expr) :
          (statedIn top ((before ++ [first]).map Site.declared)).isMarker markers first.scope decorator =
            first.isMarkedBy markers (known first) decorator := by
        have habsolute := hknown [] first rest rfl
        rw [List.append_nil] at habsolute
        rw [isMarker_eq, Site.isMarkedBy, Site.isMarkedBy]
        simp only [habsolute]
      rw [Declared.candidatesIn, Site.declared_eq]
      exact congrArg (List.map _) (List.filter_congr fun decorator _ => hmarked decorator)
    rw [List.map_cons, candidatesAmong, hstated, hfirst, List.flatMap_cons, ih (before ++ [first])]
    intro front site after hsplit
    rw [List.append_assoc before]
    exact hknown (first :: front) site after (by rw [hsplit, List.cons_append])

end Known

section Classes

variable {statements : List Statement} {site : Site}

/-- What is declared inside of a statement has the parts that the statement brings in front. -/
theorem Site.path_inside (n : Nat) (outer : Statement) (site : Site) :
    (site.inside n outer).path = outer.innerParts ++ site.path := by
  simp [path, inside, name]

/-- Outside of functions, so has the class scope. -/
theorem Site.scope_inside (n : Nat) {outer : Statement} (h : outer.isFunction = false) (site : Site) :
    (site.inside n outer).scope = outer.innerParts ++ site.scope := by
  simp [scope, inside, h]

/-- Inside of a function there is no class scope. -/
theorem Site.scope_inside_function (n : Nat) {outer : Statement} (h : outer.isFunction = true)
    (site : Site) : (site.inside n outer).scope = [] := by
  simp [scope, inside, h]

/-- Inside of a statement that is no function, kinds are as before. -/
theorem Site.kind_inside (n : Nat) {outer : Statement} (h : outer.isFunction = false) (site : Site) :
    (site.inside n outer).kind = site.kind := by
  simp [kind, inside, inFunction, h]

/-- A class that is declared outside of functions has its name behind the class scope around it for its
path. -/
theorem Site.path_of_topClass (h : site.kind = .topClass) : site.path = site.scope ++ [site.name] := by
  have hnone : ∀ outer ∈ site.around, (!outer.isFunction) = true := by
    intro outer houter
    by_contra hfunction
    have hlocal : site.inFunction = true :=
      List.any_eq_true.mpr ⟨outer, houter, by simpa using hfunction⟩
    unfold kind at h
    split at h <;> simp_all
  rw [path, scope, List.takeWhile_eq_self_iff.mpr hnone]

/-- Around a site with a class scope there is a class at the path of the scope. -/
theorem Stands.exists_scope (h : Stands statements site) (hscope : site.scope ≠ []) :
    ∃ outer, Declares statements outer ∧ outer.kind = .topClass ∧ outer.path = site.scope := by
  induction h with
  | here hat => exact absurd rfl hscope
  | @inside statements n outer site hat hsite ih =>
    cases hfunction : outer.isFunction with
    | true => exact absurd (site.scope_inside_function n hfunction) hscope
    | false =>
      rw [site.scope_inside n hfunction] at hscope ⊢
      by_cases hinner : site.scope = []
      · -- The innermost class around the site is the statement itself.
        rw [hinner, List.append_nil] at hscope ⊢
        cases outer with
        | classDef line name decorators bases body => exact ⟨_, ⟨.here hat, rfl⟩, rfl, rfl⟩
        | functionDef line name decorators body => cases hfunction
        | _ => exact absurd rfl hscope
      · obtain ⟨class_, ⟨hstands, hdeclared⟩, hkind, hpath⟩ := ih hinner
        refine ⟨class_.inside n outer, ⟨.inside hat hstands, hdeclared⟩, ?_, ?_⟩
        · rw [class_.kind_inside n hfunction, hkind]
        · rw [class_.path_inside, hpath]

/-- The module of a source has a class exactly where a class statement stands outside of functions. -/
theorem hasClass_indexModule_iff {markers : List String} {unit : SourceUnit} {isPackage : Bool}
    {path : ClassPath} : (indexModule markers unit isPackage statements).hasClass path = true ↔
      ∃ site, Declares statements site ∧ site.kind = .topClass ∧ site.path = path := by
  have hindex := @hasClass_index_iff markers ⟨unit, isPackage, statements⟩ path
  rw [Source.index] at hindex
  rw [hindex, declarations_eq_map]
  simp only [List.mem_map, exists_exists_and_eq_and, Site.declared_eq, mem_sites]

/-- With a class, a module has all classes around it. -/
theorem hasClass_of_prefix {markers : List String} {unit : SourceUnit} {isPackage : Bool}
    {path front : ClassPath} (h : (indexModule markers unit isPackage statements).hasClass path = true)
    (hfront : front <+: path) (hne : front ≠ []) :
    (indexModule markers unit isPackage statements).hasClass front = true := by
  induction path using List.reverseRec with
  | nil => exact absurd (List.prefix_nil.mp hfront) hne
  | append_singleton outer name ih =>
    rcases List.prefix_concat_iff.mp hfront with rfl | hfront
    · exact h
    · obtain ⟨site, ⟨hstands, hdeclared⟩, hkind, hpath⟩ := hasClass_indexModule_iff.mp h
      rw [Site.path_of_topClass hkind] at hpath
      obtain ⟨hscope, -⟩ := List.append_inj' hpath rfl
      have hne : site.scope ≠ [] := by
        rintro hnil
        rw [← hscope, hnil, List.prefix_nil] at hfront
        exact hne hfront
      refine ih (hasClass_indexModule_iff.mpr ?_) hfront
      rw [← hscope]
      exact hstands.exists_scope hne

end Classes

end Project

open Project

/-- The candidates of a module, whatever its statements are, are the pairs of a class or function statement
and one of its decorators whose dotted name is made one of the names of the marker by what the module knows
there, each pair once and in the order in which they stand. The path of a candidate spells the qualified
name of the statement, and its scope and kind are those of the site. The classes of the module are the
class statements around which there is no function, and with each of them it has those around it. -/
theorem candidates_are_marked_sites (markers : List String) (unit : SourceUnit) (isPackage : Bool)
    (statements : List Source.Statement) :
    (indexModule markers unit isPackage statements).candidates =
        (sites statements).flatMap (fun site =>
          (site.statement.decorators.filter (site.isMarkedBy markers
            ((indexModule markers unit isPackage statements).knownAt statements site))).map
              site.candidate) ∧
      (∀ site, site ∈ sites statements ↔ Declares statements site) ∧
      (sites statements).Pairwise (fun first second => first.place < second.place) ∧
      (∀ site : Site, ".".intercalate site.path = site.qualname) ∧
      (∀ path, (indexModule markers unit isPackage statements).hasClass path = true ↔
        ∃ site, Declares statements site ∧ site.kind = .topClass ∧ site.path = path) ∧
      ∀ path front, (indexModule markers unit isPackage statements).hasClass path = true →
        front <+: path → front ≠ [] →
          (indexModule markers unit isPackage statements).hasClass front = true := by
  refine ⟨?_, fun _ => mem_sites, pairwise_sitesFrom 0 statements, Site.intercalate_path,
    fun _ => hasClass_indexModule_iff, fun _ _ => hasClass_of_prefix⟩
  obtain ⟨classes, candidates, hindex⟩ := Source.exists_index markers ⟨unit, isPackage, statements⟩
  have hknown (front : List Site) (site : Site) (after : List Site)
      (hsites : sites statements = front ++ site :: after) (dotted : String) :
      (statedIn (topLevel unit isPackage statements)
          (([] ++ front ++ [site]).map Site.declared)).absolute site.scope dotted =
        ((indexModule markers unit isPackage statements).knownAt statements site).absolute site.scope
          dotted := by
    refine absolute_statedIn hsites ?_ ?_ ?_ (classes_topLevel unit isPackage statements) _ _
    · exact (congrArg ModuleIndex.unit hindex).symm
    · exact (congrArg ModuleIndex.imports hindex).symm
    · exact (congrArg ModuleIndex.defined hindex).symm
  rw [← candidatesAmong_eq_flatMap [] hknown, indexModule_eq, declarations_eq_map]
  rfl

/-- A marked class in a class, and a marked class in a function of that one. -/
def nestedMarkers : List Source.Statement :=
  (Source.parseModuleText ("from autoservice import auto_service as mark\nclass A:\n    @mark(int)\n" ++
    "    class B:\n        def make(self):\n            @mark(int)\n            class C: pass\n").toList).getD []

/-- Both marked classes are candidates, and the outer class is one of the module because the inner is. -/
theorem nestedMarkers_candidates :
    ((indexModule defaultMarkers ⟨"m.py", "m"⟩ false nestedMarkers).candidates.map fun candidate =>
        (".".intercalate candidate.path, candidate.scope, candidate.kind)) =
        [("A.B", ["A"], .topClass), ("A.B.make.<locals>.C", ["A", "B"], .localClass)] ∧
      (indexModule defaultMarkers ⟨"m.py", "m"⟩ false nestedMarkers).hasClass ["A", "B"] = true ∧
      ["A"] <+: ["A", "B"] ∧
      (indexModule defaultMarkers ⟨"m.py", "m"⟩ false nestedMarkers).hasClass ["A"] = true := by
  have hinner : (indexModule defaultMarkers ⟨"m.py", "m"⟩ false nestedMarkers).hasClass ["A", "B"] =
      true := by decide +kernel
  have hfront : ["A"] <+: ["A", "B"] := by decide
  obtain ⟨-, -, -, -, -, hclosed⟩ :=
    candidates_are_marked_sites defaultMarkers ⟨"m.py", "m"⟩ false nestedMarkers
  exact ⟨by decide +kernel, hinner, hfront, hclosed _ _ hinner hfront (by decide)⟩

end ServiceManifest
