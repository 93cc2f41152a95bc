import ServiceManifest.Proofs.Project.Chain
import ServiceManifest.Proofs.Project.Without

/-!
# The own name of a class

Names are looked up in what a module has in the end, not in what it has where they stand. So in the bases
of a class statement and in its decorators, the name of the class is that of the class itself wherever the
module knows the class under it: in a class body, or at the top level if the name is defined there or stands
for nothing else. What the name was bound to before the statement is found only where the module does not
note the statement as a definition: for a class inside of a function, and for one in a block that is not
read for definitions, if the name is imported or builtin. There the statement might as well not be there.
-/

namespace ServiceManifest

namespace Project

open ServiceManifest.Source

section Own

variable {markers : List String} {source : Source} {site : Site}

/-- A source looks the name of a site up as its own: there is a class scope around the site, or the source
defines the name, or nothing else has it. -/
def Source.FindsOwn (source : Source) (site : Site) : Prop :=
  site.scope ≠ [] ∨ source.Defines site.name ∨
    ¬source.Brings site.name ∧ site.name ∉ builtinNames

/-- A name that is that of a class in the scope is looked up there. -/
theorem ModuleIndex.absolute_of_hasClass {index : ModuleIndex} {scope : ClassPath} {name : String}
    (hname : '.' ∉ name.toList) (hscope : scope ≠ []) (hclass : index.hasClass (scope ++ [name]) = true) :
    index.absolute scope name = ".".intercalate (index.name :: scope ++ [name]) := by
  have hlength : name.toList.drop name.length = [] := by
    rw [List.drop_eq_nil_iff, String.length_toList]
  simp [ModuleIndex.absolute, nameParts_eq_singleton hname, hscope, hclass, hlength]

/-- A name that is neither defined nor imported nor builtin is a member of the module. -/
theorem ModuleIndex.absolute_of_unbound {index : ModuleIndex} {name : String}
    (hname : '.' ∉ name.toList) (hdefined : name ∉ index.defined)
    (himport : Keyed.get? name index.imports = none) (hbuiltin : name ∉ builtinNames) :
    index.absolute [] name = index.name ++ "." ++ name := by
  simp [ModuleIndex.absolute, nameParts_eq_singleton hname, hdefined, himport, hbuiltin]

/-- The name of a class outside of functions that is looked up as its own is that of the class. -/
theorem Declares.absolute_of_findsOwn (h : Declares source.statements site)
    (hkind : site.kind = .topClass) (hname : '.' ∉ site.name.toList) (hown : source.FindsOwn site) :
    (source.index markers).absolute site.scope site.name =
      ".".intercalate (source.unit.module :: site.path) := by
  have hpath := Site.path_of_topClass hkind
  have hclass : (source.index markers).hasClass (site.scope ++ [site.name]) = true :=
    hasClass_indexModule_iff.mpr ⟨site, h, hkind, hpath⟩
  have hmember : ".".intercalate [source.unit.module, site.name] =
      (source.index markers).name ++ "." ++ site.name := by
    rw [source.name_index, String.intercalate_cons_cons, String.intercalate_singleton]
  rw [hpath]
  by_cases hscope : site.scope = []
  · rw [hscope, List.nil_append, hmember]
    rcases hown with hne | hdefines | ⟨hbrings, hbuiltin⟩
    · exact absurd hscope hne
    · exact ModuleIndex.absolute_of_mem_defined hname (Source.mem_defined.mpr hdefines)
    · by_cases hdefined : site.name ∈ (source.index markers).defined
      · exact ModuleIndex.absolute_of_mem_defined hname hdefined
      · refine ModuleIndex.absolute_of_unbound hname hdefined ?_ hbuiltin
        rw [Keyed.get?_eq_none_iff, Source.mem_keys_imports]
        exact hbrings
  · rw [ModuleIndex.absolute_of_hasClass hname hscope hclass, source.name_index]
    rfl

end Own

section Scan

variable {tree : Disk.Tree} {root : Path} {markers : List String} {sources : List Source}
  {found : Discovery} {source : Source} {site : Site}

/-- The name of what is declared in a source that a scan keeps has no dot. -/
theorem Keeps.not_mem_name (hkeeps : Keeps tree root found.units sources) (hsource : source ∈ sources)
    (hsite : Declares source.statements site) : '.' ∉ site.name.toList := by
  obtain ⟨bytes, -, hparse, -⟩ := hkeeps.isIn source hsource
  have hdeclared : site.declared ∈ declarations source.statements := by
    rw [declarations_eq_map]
    exact List.mem_map_of_mem (mem_sites.mpr hsite)
  have hsimple := namesAreSimple_declaredInAll (List.forall_mem_nil _) (List.forall_mem_nil _) false
    (parseModule_spec hparse).1 _ hdeclared
  have hmem : site.name ∈ site.declared.path := by
    rw [Site.declared_eq, Site.path]
    exact List.mem_append_right _ List.mem_cons_self
  exact (hsimple.path.2 _ hmem).not_mem

/-- In what a scan keeps, the name of a class outside of functions that is looked up as its own stands for
the class. -/
theorem Keeps.resolve_of_findsOwn (hkeeps : Keeps tree root found.units sources)
    (hfound : discover tree root = .ok found) (hsource : source ∈ sources)
    (hsite : Declares source.statements site) (hkind : site.kind = .topClass)
    (hown : source.FindsOwn site)
    (hfree : (modulesOf markers sources).LeavesFree (source.unit.module, site.path.headD ""))
    (halias : site.scope = [] → Keyed.get? site.name (source.index markers).aliases = none) :
    resolve (modulesOf markers sources) (source.index markers) site.scope (.name site.name) =
      .ok (some (classRef ⟨source.unit.module, site.path⟩)) := by
  have howner : Keyed.get? (source.index markers).name (modulesOf markers sources) =
      some (source.index markers) := hkeeps.get?_index hsource
  have hfronted : (modulesOf markers sources).AreFronted := hkeeps.areFronted hfound
  rw [source.name_index] at howner
  have hclass : (source.index markers).hasClass site.path = true :=
    hasClass_indexModule_iff.mpr ⟨site, hsite, hkind, rfl⟩
  have hname := hkeeps.not_mem_name hsource hsite
  have hdotted : (Expr.name site.name).dottedName? = some site.name := rfl
  rw [resolve, typeRefBy_of_dottedName? hdotted, hsite.absolute_of_findsOwn hkind hname hown]
  obtain ⟨first, nested, hpath⟩ : ∃ first nested, site.path = first :: nested :=
    List.exists_cons_of_ne_nil (by simp [Site.path])
  rw [hpath, List.headD_cons] at hfree
  rw [hpath] at hclass
  have hnames := hkeeps.not_mem_of_hasClass hfound howner hclass
  have hbare : nested = [] → Keyed.get? first (source.index markers).aliases = none := by
    rintro rfl
    have hsingle : site.scope ++ [site.name] = [] ++ [first] :=
      (Site.path_of_topClass hkind).symm.trans hpath
    obtain ⟨hscope, hfirst⟩ := List.append_inj' hsingle rfl
    obtain rfl := List.singleton_inj.mp hfirst
    exact halias hscope
  rw [hpath]
  exact congrArg (Except.map some) (@qualified_of_hasClass _ _ (source.unit.module, first) nested _ howner
    hfronted.name (hkeeps.classesAreNested howner) hfree hnames hclass hbare _)

/-- In what a scan keeps, without a class statement that does not run at import, an expression that is a
dotted name refers to the same in its module, if what is looked up for it is nowhere a class that is
missing. -/
theorem Keeps.resolve_without (hkeeps : Keeps tree root found.units sources)
    (hfound : discover tree root = .ok found) (hsource : source ∈ sources)
    (hsite : Declares source.statements site) (hkind : site.kind ≠ .function)
    (himport : site.atImport = false) {scope : ClassPath}
    (hlocal : site.kind = .localClass ∨ scope = [] ∧ site.path = [site.name] ∧
      ¬(modulesOf markers sources).LooksUp (source.index markers,
        (source.index markers).absolute [] site.name) (source.unit.module, site.name)) :
    resolve (modulesOf markers (sourcesWithout source site.place sources))
        ((source.without site.place).index markers) scope (.name site.name) =
      resolve (modulesOf markers sources) (source.index markers) scope (.name site.name) := by
  have hfronted : (modulesOf markers sources).AreFronted := hkeeps.areFronted hfound
  have hdotted : (Expr.name site.name).dottedName? = some site.name := rfl
  rcases hlocal with hlocal | ⟨rfl, hpath, hlooks⟩
  · have hlike : (source.index markers).IsLike ((source.without site.place).index markers)
        fun _ => False :=
      hsite.isLike_without hkind himport fun _ _ _ => .inl hlocal
    have halike : (modulesOf markers sources).AreLike
        (modulesOf markers (sourcesWithout source site.place sources)) fun _ => False :=
      hsite.areLike_without hkeeps.nodup hsource hkind himport fun _ _ _ => .inl hlocal
    refine halike.resolve_eq hfronted.name hlike.importedModules hdotted ?_ fun _ _ => id
    refine ModuleIndex.absolute_congr hlike.unit hlike.imports hlike.defined (fun path => ?_) _ _
    rw [hsite.hasClass_without hkind (.inl hlocal)]
  · have hother (first : String) (rest : List String) (hfirst : ¬first = site.name) :
        site.kind = .localClass ∨ ¬site.path <+: first :: rest := by
      refine .inr fun hfront => hfirst ?_
      rw [hpath, List.cons_prefix_cons] at hfront
      exact hfront.1.symm
    have hlike : (source.index markers).IsLike ((source.without site.place).index markers)
        (· = site.name) := hsite.isLike_without hkind himport hother
    have halike : (modulesOf markers sources).AreLike
        (modulesOf markers (sourcesWithout source site.place sources))
        (· = (source.unit.module, site.name)) :=
      hsite.areLike_without hkeeps.nodup hsource hkind himport
        fun first rest hfirst => hother first rest fun heq => hfirst (by rw [heq])
    refine halike.resolve_eq hfronted.name hlike.importedModules hdotted (hlike.absolute_nil _) ?_
    rintro _ hlooked rfl
    exact hlooks hlooked

end Scan

end Project

open Project

/-- In what a scan keeps, names in the bases of a class statement and in its decorators are looked up in what
the module has in the end, in which a statement that runs at import defines its name. So the name of a class
outside of functions stands there for the class itself, which is then a base of it, if the class is nested
in another, or the name is defined, or it is neither imported nor builtin; unless a module is named like the
outermost class or lies below it, or the name is an alias at the top level. In the other cases it refers to
what it refers to without the class statement: for a class outside of functions unless following the name
comes to the same name in the module, and for a class inside of a function always. -/
theorem own_names_are_looked_up_in_finished_modules {tree : Disk.Tree} {root : Path}
    {markers : List String} {sources : List Source} {found : Discovery}
    (hfound : discover tree root = .ok found) (hkeeps : Keeps tree root found.units sources)
    {source : Source} (hsource : source ∈ sources) {site : Site}
    (hsite : Declares source.statements site) :
    (site.atImport = true → source.Defines site.name) ∧
    (site.kind = .topClass →
      (source.FindsOwn site →
        (modulesOf markers sources).LeavesFree (source.unit.module, site.path.headD "") →
        (site.scope = [] → Keyed.get? site.name (source.index markers).aliases = none) →
        resolve (modulesOf markers sources) (source.index markers) site.scope (.name site.name) =
            .ok (some (classRef ⟨source.unit.module, site.path⟩)) ∧
          (.name site.name ∈ site.statement.bases → HasBase markers sources
            ⟨source.unit.module, site.path⟩ ⟨source.unit.module, site.path⟩)) ∧
      (¬source.FindsOwn site →
        ¬(modulesOf markers sources).LooksUp (source.index markers,
          (source.index markers).absolute [] site.name) (source.unit.module, site.name) →
        resolve (modulesOf markers (sourcesWithout source site.place sources))
            ((source.without site.place).index markers) site.scope (.name site.name) =
          resolve (modulesOf markers sources) (source.index markers) site.scope (.name site.name))) ∧
    (site.kind = .localClass → ∀ scope,
      resolve (modulesOf markers (sourcesWithout source site.place sources))
          ((source.without site.place).index markers) scope (.name site.name) =
        resolve (modulesOf markers sources) (source.index markers) scope (.name site.name)) := by
  refine ⟨hsite.defines, fun hkind => ⟨fun hown hfree halias => ?_, fun hown hlooks => ?_⟩,
    fun hkind scope => ?_⟩
  · have hresolve := hkeeps.resolve_of_findsOwn hfound hsource hsite hkind hown hfree halias
    refine ⟨hresolve, fun hbase => ?_⟩
    have hdeclared : site.declared ∈ declarations source.statements := by
      rw [declarations_eq_map]
      exact List.mem_map_of_mem (mem_sites.mpr hsite)
    have hscope : site.path.dropLast = site.scope := by
      rw [Site.path_of_topClass hkind, List.dropLast_concat]
    rw [Site.declared_eq] at hdeclared
    refine ⟨source, hsource, rfl, _, hdeclared, by simp [hkind], rfl, _, hbase,
      classRef ⟨source.unit.module, site.path⟩, ?_, rfl⟩
    rw [hscope]
    exact hresolve
  · obtain ⟨hnested, hother⟩ := not_or.mp hown
    obtain ⟨hdefines, -⟩ := not_or.mp hother
    have hscope : site.scope = [] := not_not.mp hnested
    have himport : site.atImport = false := by
      rw [Bool.eq_false_iff]
      exact fun himport => hdefines (hsite.defines himport)
    have hpath : site.path = [site.name] := by
      rw [Site.path_of_topClass hkind, hscope, List.nil_append]
    exact hkeeps.resolve_without hfound hsource hsite (by simp [hkind]) himport
      (.inr ⟨hscope, hpath, hlooks⟩)
  · exact hkeeps.resolve_without hfound hsource hsite (by simp [hkind]) (atImport_of_localClass hkind)
      (.inl hkind)

/-- A module with a class, one that imports it and wraps it in a class of the same name, and one that does so
in a block that is not read for definitions. -/
def wrappedBases : Disk.Tree :=
  ⟨[(["base.py"], .file "class Handler: pass\n".toUTF8),
    (["m.py"], .file "from base import Handler\nclass Handler(Handler): pass\n".toUTF8),
    (["n.py"], .file ("from base import Handler\n" ++
      "while ready:\n    class Handler(Handler): pass\n").toUTF8)], []⟩

/-- The sources of the three modules. -/
def wrappedSources : List Project.Source := ["base", "m", "n"].map (sourceAt wrappedBases)

/-- The outline of a class or function statement: where it stands, its name, the class scope around it,
whether it is a class outside of functions, and which of its bases are bare names. -/
structure Outline where
  place : List Nat
  name : String
  scope : ClassPath
  isOuter : Bool
  bareBases : List (Option String)
  deriving DecidableEq

/-- The outlines of the class and function statements of a source. -/
def outlines (source : Project.Source) : List Outline :=
  (sites source.statements).map fun site =>
    { place := site.place
      name := site.name
      scope := site.scope
      isOuter := !site.inFunction && !site.statement.isFunction
      bareBases := site.statement.bases.map fun
        | .name id => some id
        | _ => none }

/-- A single class at the top level that has its own name for its base. -/
theorem exists_site_of_outlines {source : Project.Source} {place : List Nat} {name : String}
    (h : outlines source = [⟨place, name, [], true, [some name]⟩]) :
    ∃ site, Declares source.statements site ∧ site.place = place ∧ site.name = name ∧ site.scope = [] ∧
      site.kind = .topClass ∧ .name site.name ∈ site.statement.bases := by
  obtain ⟨site, hsites, hsite⟩ := List.map_eq_singleton_iff.mp h
  simp only [Outline.mk.injEq, Bool.and_eq_true, Bool.not_eq_true'] at hsite
  obtain ⟨rfl, rfl, hscope, ⟨hout, hfunction⟩, hbases⟩ := hsite
  obtain ⟨base, heq, hbase⟩ := List.map_eq_singleton_iff.mp hbases
  have hmem : site ∈ sites source.statements := hsites ▸ List.mem_singleton_self site
  refine ⟨site, mem_sites.mp hmem, rfl, rfl, hscope, by simp [Site.kind, hout, hfunction], ?_⟩
  rw [heq]
  cases base with
  | name id => exact List.mem_singleton.mpr (congrArg Source.Expr.name (Option.some.inj hbase).symm)
  | _ => cases hbase

/-- The class at the top level is its own base, and the name of the one in the block refers to what it refers
to without that class. -/
theorem wrappedBases_are_looked_up :
    HasBase defaultMarkers wrappedSources ⟨"m", ["Handler"]⟩ ⟨"m", ["Handler"]⟩ ∧
    resolve (modulesOf defaultMarkers
          (sourcesWithout (sourceAt wrappedBases "n") [1, 0] wrappedSources))
        (((sourceAt wrappedBases "n").without [1, 0]).index defaultMarkers) [] (.name "Handler") =
      resolve (modulesOf defaultMarkers wrappedSources)
        ((sourceAt wrappedBases "n").index defaultMarkers) [] (.name "Handler") := by
  -- What is evaluated stands together, so that the modules are parsed once.
  obtain ⟨hpaths, hholds, htop, hblock, hdefined, halias, hundefined, hbrought, habsolute, hend,
      hsplit⟩ :
      sourcePaths wrappedBases [] = [["base.py"], ["m.py"], ["n.py"]] ∧
      ["base", "m", "n"].all (holdsModule wrappedBases) = true ∧
      outlines (sourceAt wrappedBases "m") = [⟨[1], "Handler", [], true, [some "Handler"]⟩] ∧
      outlines (sourceAt wrappedBases "n") = [⟨[1, 0], "Handler", [], true, [some "Handler"]⟩] ∧
      "Handler" ∈ ((sourceAt wrappedBases "m").index defaultMarkers).defined ∧
      Keyed.get? "Handler" ((sourceAt wrappedBases "m").index defaultMarkers).aliases = none ∧
      "Handler" ∉ ((sourceAt wrappedBases "n").index defaultMarkers).defined ∧
      "Handler" ∈ Keyed.keys ((sourceAt wrappedBases "n").index defaultMarkers).imports ∧
      ((sourceAt wrappedBases "n").index defaultMarkers).absolute [] "Handler" = "base.Handler" ∧
      (modulesOf defaultMarkers wrappedSources).isEnd "base.Handler" = true ∧
      ((modulesOf defaultMarkers wrappedSources).splitOf "base.Handler").map (·.1.name) =
        some "base" := by
    decide +kernel
  obtain ⟨hfound, hkeeps⟩ := @discovers_and_keeps_at _ ["base", "m", "n"] hpaths rfl (by decide) hholds
  refine ⟨?_, ?_⟩
  · obtain ⟨site, hsite, -, hname, hscope, hkind, hbase⟩ := exists_site_of_outlines htop
    have hpath : site.path = ["Handler"] := by
      rw [Site.path_of_topClass hkind, hscope, hname, List.nil_append]
    have hown : (sourceAt wrappedBases "m").FindsOwn site := by
      rw [← hname] at hdefined
      exact .inr (.inl (Source.mem_defined.mp hdefined))
    have hfree : (modulesOf defaultMarkers wrappedSources).LeavesFree
        ((sourceAt wrappedBases "m").unit.module, site.path.headD "") := by
      have hkeys : Keyed.keys (modulesOf defaultMarkers wrappedSources) = ["base", "m", "n"] :=
        keys_modulesOf _ _
      rw [hpath]
      unfold Modules.LeavesFree
      rw [hkeys]
      decide +kernel
    have hlooked := ((own_names_are_looked_up_in_finished_modules hfound hkeeps
      (List.mem_map_of_mem (show "m" ∈ ["base", "m", "n"] by decide)) hsite).2.1 hkind).1 hown hfree
      fun _ => hname ▸ halias
    have hself := hlooked.2 hbase
    rw [hpath] at hself
    exact hself
  · obtain ⟨site, hsite, hplace, hname, hscope, hkind, -⟩ := exists_site_of_outlines hblock
    have hother : ¬(sourceAt wrappedBases "n").FindsOwn site := by
      rw [Source.FindsOwn, hscope, hname, ← @Source.mem_defined defaultMarkers,
        ← @Source.mem_keys_imports defaultMarkers]
      simp [hundefined, hbrought]
    have hlooks : ¬(modulesOf defaultMarkers wrappedSources).LooksUp
        ((sourceAt wrappedBases "n").index defaultMarkers,
          ((sourceAt wrappedBases "n").index defaultMarkers).absolute [] site.name)
        ("n", site.name) := by
      rw [hname, habsolute]
      rintro ⟨here, target, nested, hwalk, hhere, hmodule⟩
      rw [Modules.eq_of_isEnd hend hwalk] at hhere
      rw [hhere] at hsplit
      exact absurd (hmodule.symm.trans (Option.some.inj hsplit)) (by decide)
    have hlooked := ((own_names_are_looked_up_in_finished_modules hfound hkeeps
      (List.mem_map_of_mem (show "n" ∈ ["base", "m", "n"] by decide)) hsite).2.1 hkind).2 hother hlooks
    rw [hplace, hscope, hname] at hlooked
    exact hlooked

/-- Behind nothing but an import, the class at the top level has the imported name for its base, which stands
for the class itself, but for the imported one without the class statement. -/
theorem wrappedBases_hide_import :
    ((sourceAt wrappedBases "m").statements.take 1).all (fun
      | .importFrom _ _ _ => true
      | _ => false) = true ∧
    outlines (sourceAt wrappedBases "m") = [⟨[1], "Handler", [], true, [some "Handler"]⟩] ∧
    (closestClassOf (modulesOf defaultMarkers wrappedSources)
        ((sourceAt wrappedBases "m").index defaultMarkers) [] (.name "Handler")).toOption =
      some (some ⟨"m", ["Handler"]⟩) ∧
    (closestClassOf
        (modulesOf defaultMarkers (sourcesWithout (sourceAt wrappedBases "m") [1] wrappedSources))
        (((sourceAt wrappedBases "m").without [1]).index defaultMarkers) [] (.name "Handler")).toOption =
      some (some ⟨"base", ["Handler"]⟩) := by
  decide +kernel

end ServiceManifest
