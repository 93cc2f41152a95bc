import ServiceManifest.Proofs.Project.Alike
import ServiceManifest.Proofs.Project.Sites

/-!
# A module without a class statement

A statement is left out of a module by putting one in its place that does nothing, so all other statements
stay where they are. If the statement declares a class and does not run when the module is imported, then
the module without it imports, defines and renames the same as before, and of its classes only those of
that name may be missing; none is if the statement is inside of a function. So the project without it is
like the whole one.
-/

namespace ServiceManifest

namespace Source.Statement

/-- A statement with another body, if it has one. -/
def withBody (change : List Statement → List Statement) : Statement → Statement
  | .classDef line name decorators bases body => .classDef line name decorators bases (change body)
  | .functionDef line name decorators body => .functionDef line name decorators (change body)
  | .compound atImport body => .compound atImport (change body)
  | statement => statement

/-- A statement without the statements in it. -/
def bare (statement : Statement) : Statement := statement.withBody fun _ => []

/-- Whether the statements directly inside of a statement run when those beside it are imported. -/
def isImportBlock : Statement → Bool
  | .compound true _ => true
  | _ => false

/-- A statement without the one that stands at a place in it; that is the whole one at the empty place. -/
def without : List Nat → Statement → Statement
  | [], _ => .other
  | n :: rest, outer => outer.withBody fun body => body.modify n (without rest)

end Source.Statement

namespace Project

open ServiceManifest.Source

/-- Statements without the one at a place. -/
def without (place : List Nat) (statements : List Statement) : List Statement :=
  match place with
  | [] => statements
  | n :: rest => statements.modify n (Statement.without rest)

/-- A source without the statement at a place. -/
def Source.without (place : List Nat) (source : Source) : Source :=
  { source with statements := Project.without place source.statements }

/-- Sources, one of which is without the statement at a place. -/
def sourcesWithout (source : Source) (place : List Nat) (sources : List Source) : List Source :=
  sources.map fun other =>
    if other.unit.module = source.unit.module then other.without place else other

/-- Whether what stands at a site runs when the module is imported and is read for definitions. -/
def Site.atImport (site : Site) : Bool := site.around.all Statement.isImportBlock

section Statements

variable {statements : List Statement} {site : Site}

/-- A list is split at an element of a number, also where that element is changed. -/
theorem exists_split_of_getElem? {α : Type} {items : List α} {n : Nat} {item : α}
    (h : items[n]? = some item) : ∃ before after, items = before ++ item :: after ∧
      ∀ f : α → α, items.modify n f = before ++ f item :: after := by
  obtain ⟨hn, rfl⟩ := List.getElem?_eq_some_iff.mp h
  refine ⟨items.take n, items.drop (n + 1), ?_, fun f => List.modify_eq_take_cons_drop hn⟩
  have hsame := List.modify_eq_take_cons_drop (f := id) hn
  rwa [List.modify_id] at hsame

/-- The place of a site is not empty. -/
theorem Stands.place_ne_nil (h : Stands statements site) : site.place ≠ [] := by
  cases h <;> exact List.cons_ne_nil _ _

/-- A place in the body of a statement is one in the statement. -/
theorem Statement.without_eq_withBody {place : List Nat} (h : place ≠ []) (outer : Statement) :
    outer.without place = outer.withBody (Project.without place) := by
  cases place with
  | nil => exact absurd rfl h
  | cons n rest => rfl

/-- In no statements, nothing stands that could be left out. -/
theorem without_nil (place : List Nat) : without place [] = [] := by
  cases place with
  | nil => rfl
  | cons n rest => exact List.modify_nil _ _

end Statements

section ImportTime

variable {statements : List Statement} {site : Site}

/-- The statements of a list that run at import are those of each of its statements. -/
theorem importTimeAll_eq_flatMap (statements : List Statement) :
    importTimeAll statements = statements.flatMap importTime := by
  induction statements with
  | nil => rfl
  | cons first rest ih => rw [importTimeAll, List.flatMap_cons, ih]

/-- A statement runs when it is imported. -/
theorem mem_importTime_self (statement : Statement) : statement ∈ importTime statement := by
  unfold importTime
  split
  · exact List.mem_cons_self
  · exact List.mem_singleton_self _

/-- What stands at a site that runs at import is among the statements that do. -/
theorem Stands.mem_importTimeAll (h : Stands statements site) (himport : site.atImport = true) :
    site.statement ∈ importTimeAll statements := by
  rw [importTimeAll_eq_flatMap, List.mem_flatMap]
  induction h with
  | here hat => exact ⟨_, List.mem_of_getElem? hat, mem_importTime_self _⟩
  | @inside statements n outer site hat hsite ih =>
    obtain ⟨houter, hinner⟩ := Bool.and_eq_true_iff.mp himport
    refine ⟨outer, List.mem_of_getElem? hat, ?_⟩
    cases outer with
    | compound atImport body =>
      cases atImport with
      | true =>
        rw [importTime, importTimeAll_eq_flatMap]
        exact List.mem_cons_of_mem _ (List.mem_flatMap.mpr (ih hinner))
      | false => cases houter
    | _ => cases houter

/-- What is declared at a site that runs at import is defined by its source. -/
theorem Declares.defines {source : Source} (h : Declares source.statements site)
    (himport : site.atImport = true) : source.Defines site.name := by
  refine ⟨site.statement, h.1.mem_importTimeAll himport, ?_⟩
  obtain ⟨-, hdeclared⟩ := h
  unfold Site.name
  cases hstatement : site.statement with
  | classDef | functionDef => rfl
  | _ =>
    rw [hstatement] at hdeclared
    cases hdeclared

/-- What stands inside of a function does not run at import. -/
theorem atImport_of_localClass (h : site.kind = .localClass) : site.atImport = false := by
  have hfunction : site.inFunction = true := by
    unfold Site.kind at h
    split at h
    · cases h
    · split at h
      · assumption
      · cases h
  obtain ⟨outer, houter, hfunction⟩ := List.any_eq_true.mp hfunction
  refine List.all_eq_false.mpr ⟨outer, houter, ?_⟩
  cases outer with
  | functionDef => exact Bool.false_ne_true
  | _ => cases hfunction

/-- An import statement is read without what is in it. -/
theorem ModuleIndex.addImport_bare (index : ModuleIndex) (statement : Statement) :
    index.addImport statement.bare = index.addImport statement := by
  cases statement <;> rfl

/-- A definition is read without what is in it. -/
theorem ModuleIndex.addDefinition_bare (index : ModuleIndex) (statement : Statement) :
    index.addDefinition statement.bare = index.addDefinition statement := by
  cases statement <;> rfl

/-- At the top level, modules are the same if the statements that run at import are, but for what is in
them. -/
theorem topLevel_congr {others : List Statement}
    (h : (importTimeAll others).map Statement.bare = (importTimeAll statements).map Statement.bare)
    (unit : SourceUnit) (isPackage : Bool) :
    topLevel unit isPackage others = topLevel unit isPackage statements := by
  have hread {step : ModuleIndex → Statement → ModuleIndex}
      (hstep : ∀ index statement, step index statement.bare = step index statement)
      (index : ModuleIndex) :
      (importTimeAll others).foldl step index = (importTimeAll statements).foldl step index := by
    have hbare (read : List Statement) :
        read.foldl step index = (read.map Statement.bare).foldl step index := by
      simp only [List.foldl_map, hstep]
    rw [hbare, h, ← hbare]
  rw [topLevel, topLevel, hread ModuleIndex.addImport_bare, hread ModuleIndex.addDefinition_bare]

/-- A statement with another body runs the same at import, but for what is in statements, if the body
does. -/
theorem map_bare_importTime_withBody {change : List Statement → List Statement} (outer : Statement)
    (h : outer.isImportBlock = true → (importTimeAll (change outer.body)).map Statement.bare =
      (importTimeAll outer.body).map Statement.bare) :
    (importTime (outer.withBody change)).map Statement.bare = (importTime outer).map Statement.bare := by
  cases outer with
  | compound atImport body =>
    cases atImport with
    | true =>
      simp only [Statement.withBody, importTime, List.map_cons]
      exact congrArg _ (h rfl)
    | false => rfl
  | _ => rfl

/-- Without a statement that does not run at import, those that do are the same, but for what is in
them. -/
theorem Stands.map_bare_importTimeAll (h : Stands statements site) (himport : site.atImport = false) :
    (importTimeAll (without site.place statements)).map Statement.bare =
      (importTimeAll statements).map Statement.bare := by
  induction h with
  | here hat => cases himport
  | @inside statements n outer site hat hsite ih =>
    obtain ⟨before, after, hsplit, hmodify⟩ := exists_split_of_getElem? hat
    have hbody : (importTime (outer.without site.place)).map Statement.bare =
        (importTime outer).map Statement.bare := by
      rw [Statement.without_eq_withBody hsite.place_ne_nil]
      refine map_bare_importTime_withBody outer fun hblock => ih ?_
      simpa [Site.atImport, Site.inside, hblock] using himport
    rw [Site.inside, without, hmodify, hsplit]
    simp only [importTimeAll_eq_flatMap, List.flatMap_append, List.flatMap_cons, List.map_append, hbody]

end ImportTime

section Declared

variable {statements : List Statement} {site : Site} {scope : ClassPath} {outer : List String}
  {inFunction : Bool}

/-- The declarations in statements are those in each of them. -/
theorem declaredInAll_eq_flatMap (statements : List Statement) :
    declaredInAll scope outer inFunction statements =
      statements.flatMap (declaredIn scope outer inFunction) := by
  induction statements with
  | nil => rfl
  | cons first rest ih => rw [declaredInAll, List.flatMap_cons, ih]

/-- The declarations in a statement are those in its body, whichever that is, behind what is declared by
the statement itself. -/
theorem exists_declaredIn_withBody (hscope : inFunction = false → scope = outer)
    (statement : Statement) : ∃ front inner,
      ((inFunction || statement.isFunction) = false → inner = outer ++ statement.innerParts) ∧
      ∀ change, change [] = [] → declaredIn scope outer inFunction (statement.withBody change) =
        front ++ declaredInAll inner (outer ++ statement.innerParts)
          (inFunction || statement.isFunction) (change statement.body) := by
  cases statement with
  | classDef line name decorators bases body =>
    refine ⟨[⟨outer ++ [name], scope, if inFunction then .localClass else .topClass, bases, decorators,
      line⟩], if inFunction then scope else outer ++ [name], fun hout => ?_, fun change _ => ?_⟩
    · rw [(Bool.or_eq_false_iff.mp hout).1]
      rfl
    · simp [Statement.withBody, Statement.body, Statement.innerParts, Statement.isFunction, declaredIn]
  | functionDef line name decorators body =>
    refine ⟨[⟨outer ++ [name], scope, .function, [], decorators, line⟩], scope, fun hout => ?_,
      fun change _ => ?_⟩
    · cases (Bool.or_eq_false_iff.mp hout).2
    · simp [Statement.withBody, Statement.body, Statement.innerParts, Statement.isFunction, declaredIn]
  | compound atImport body =>
    refine ⟨[], scope, fun hout => ?_, fun change _ => ?_⟩
    · rw [hscope (Bool.or_eq_false_iff.mp hout).1]
      exact (List.append_nil _).symm
    · simp [Statement.withBody, Statement.body, Statement.innerParts, Statement.isFunction, declaredIn]
  | importModules | importFrom | assign | annotate | other =>
    refine ⟨[], scope, fun hout => ?_, fun change hchange => ?_⟩
    · rw [hscope (Bool.or_eq_false_iff.mp hout).1]
      exact (List.append_nil _).symm
    · simp [Statement.withBody, Statement.body, declaredIn, declaredInAll, hchange]

/-- Without a statement, the declarations are the same but for those in the statement. -/
theorem Stands.exists_declared_without (h : Stands statements site)
    (hscope : inFunction = false → scope = outer) : ∃ before after inner,
      ((inFunction || site.inFunction) = false →
        inner = outer ++ site.around.flatMap Statement.innerParts) ∧
      declaredInAll scope outer inFunction statements =
        before ++ (declaredIn inner (outer ++ site.around.flatMap Statement.innerParts)
          (inFunction || site.inFunction) site.statement ++ after) ∧
      declaredInAll scope outer inFunction (without site.place statements) = before ++ after := by
  induction h generalizing scope outer inFunction with
  | @here statements n statement hat =>
    obtain ⟨before, after, hsplit, hmodify⟩ := exists_split_of_getElem? hat
    refine ⟨declaredInAll scope outer inFunction before, declaredInAll scope outer inFunction after,
      scope, fun hout => ?_, ?_, ?_⟩
    · rw [hscope (Bool.or_eq_false_iff.mp hout).1]
      exact (List.append_nil _).symm
    · simp [hsplit, declaredInAll_eq_flatMap, Site.inFunction]
    · simp [without, hmodify, declaredInAll_eq_flatMap, Statement.without, declaredIn]
  | @inside statements n statement site hat hsite ih =>
    obtain ⟨before, after, hsplit, hmodify⟩ := exists_split_of_getElem? hat
    obtain ⟨front, inner, hinner, hbody⟩ := exists_declaredIn_withBody hscope statement
    obtain ⟨first, last, innermost, hinnermost, hwhole, hwithout⟩ := ih hinner
    have hid : statement.withBody id = statement := by cases statement <;> rfl
    have hstatement := hbody id rfl
    have hchanged := hbody (without site.place) (without_nil _)
    rw [hid, id_eq, hwhole] at hstatement
    rw [← Statement.without_eq_withBody hsite.place_ne_nil, hwithout] at hchanged
    refine ⟨declaredInAll scope outer inFunction before ++ (front ++ first),
      last ++ declaredInAll scope outer inFunction after, innermost, ?_, ?_, ?_⟩
    · simpa [Site.inside, Site.inFunction, Bool.or_assoc] using hinnermost
    · simp [hsplit, declaredInAll_eq_flatMap, hstatement, Site.inside, Site.inFunction, Bool.or_assoc]
    · simp [Site.inside, without, hmodify, declaredInAll_eq_flatMap, hchanged]

/-- The classes outside of functions that are declared in a class statement are those of its name and of
names behind it. -/
theorem prefix_of_mem_declaredIn (hscope : inFunction = false → scope = outer) {statement : Statement}
    {name : String} (hname : statement.declaredName? = some name)
    (hfunction : statement.isFunction = false) {declared : Declared}
    (hmem : declared ∈ declaredIn scope outer inFunction statement) (hkind : declared.kind = .topClass) :
    inFunction = false ∧ outer ++ [name] <+: declared.path := by
  rw [declaredIn_eq_map hscope 0] at hmem
  obtain ⟨site, hsite, rfl⟩ := List.mem_map.mp hmem
  have hout : inFunction = false := by
    cases inFunction with
    | false => rfl
    | true => cases hstatement : site.statement.isFunction <;> simp [Site.declaredWithin, hstatement] at hkind
  have hfront : [name] <+: site.path := by
    rcases List.mem_append.mp hsite with hself | hinner
    · obtain ⟨-, hself⟩ := List.mem_ite_nil_right.mp hself
      obtain rfl := List.mem_singleton.mp hself
      simp [Site.path, Site.name, hname]
    · obtain ⟨inner, -, rfl⟩ := List.mem_map.mp hinner
      rw [Site.path_inside]
      cases statement with
      | classDef =>
        obtain rfl := Option.some.inj hname
        exact List.prefix_append _ _
      | functionDef => cases hfunction
      | _ => cases hname
  exact ⟨hout, List.prefix_append_right_inj _ |>.mpr hfront⟩

end Declared

section Index

variable {markers : List String} {source : Source} {site : Site}

/-- A class statement has a name and is no function. -/
theorem Declares.isClass {statements : List Statement} (h : Declares statements site)
    (hkind : site.kind ≠ .function) :
    site.statement.declaredName? = some site.name ∧ site.statement.isFunction = false := by
  obtain ⟨name, hname⟩ := Option.isSome_iff_exists.mp h.2
  refine ⟨by rw [Site.name, hname]; rfl, ?_⟩
  by_contra hfunction
  exact hkind (if_pos (Bool.not_eq_false _ ▸ hfunction))

/-- Without a class statement, a source has the same classes but for that one and those in it; and all the
same if the statement is inside of a function. -/
theorem Declares.hasClass_without (h : Declares source.statements site) (hkind : site.kind ≠ .function)
    {path : ClassPath} (hpath : site.kind = .localClass ∨ ¬site.path <+: path) :
    ((source.without site.place).index markers).hasClass path =
      (source.index markers).hasClass path := by
  obtain ⟨hname, hfunction⟩ := h.isClass hkind
  obtain ⟨before, after, inner, hinner, hwhole, hwithout⟩ :=
    @Stands.exists_declared_without _ _ [] [] false h.1 fun _ => rfl
  rw [Bool.eq_iff_iff, hasClass_index_iff, hasClass_index_iff]
  have hrest : declarations (source.without site.place).statements = before ++ after := hwithout
  rw [hrest, declarations, hwhole]
  refine exists_congr fun declared => and_congr_left fun ⟨htop, hdeclared⟩ => ?_
  simp only [List.mem_append]
  refine or_congr_right ⟨.inr, Or.rec (fun hmem => ?_) id⟩
  obtain ⟨hout, hfront⟩ := prefix_of_mem_declaredIn hinner hname hfunction hmem htop
  rcases hpath with hlocal | hpath
  · rw [Bool.false_or] at hout
    rw [Site.kind, hfunction, hout] at hlocal
    cases hlocal
  · exact absurd (hdeclared ▸ hfront) hpath

/-- Without a class statement that does not run at import, a source is like it was, but for the classes of
that name. -/
theorem Declares.isLike_without (h : Declares source.statements site) (hkind : site.kind ≠ .function)
    (himport : site.atImport = false) {differs : String → Prop}
    (hdiffers : ∀ first rest, ¬differs first →
      site.kind = .localClass ∨ ¬site.path <+: first :: rest) :
    (source.index markers).IsLike ((source.without site.place).index markers) differs := by
  have htop : topLevel source.unit source.isPackage (Project.without site.place source.statements) =
      topLevel source.unit source.isPackage source.statements :=
    topLevel_congr (h.1.map_bare_importTimeAll himport) _ _
  obtain ⟨classes, candidates, hindex⟩ := source.exists_index markers
  obtain ⟨others, more, hother⟩ := (source.without site.place).exists_index markers
  have hsame : (source.without site.place).index markers =
      { source.index markers with classes := others, candidates := more } := by
    rw [hother, hindex, Source.without, htop]
  refine ⟨?_, ?_, ?_, ?_, ?_, fun first rest hfirst => h.hasClass_without hkind (hdiffers first rest hfirst)⟩
  all_goals rw [hsame]

/-- A project without a class statement that does not run at import is like the whole one, but for the
classes of that name in its module. -/
theorem Declares.areLike_without {sources : List Source} (hnodup : (sources.map (·.unit.module)).Nodup)
    (hsource : source ∈ sources) (h : Declares source.statements site) (hkind : site.kind ≠ .function)
    (himport : site.atImport = false) {differs : Link → Prop}
    (hdiffers : ∀ first rest, ¬differs (source.unit.module, first) →
      site.kind = .localClass ∨ ¬site.path <+: first :: rest) :
    (modulesOf markers sources).AreLike
      (modulesOf markers (sourcesWithout source site.place sources)) differs := by
  simp only [Modules.AreLike, modulesOf, named, sourcesWithout, List.map_map,
    List.forall₂_map_left_iff, List.forall₂_map_right_iff, List.forall₂_same, Function.comp_apply]
  intro other hother
  split
  · rename_i hmodule
    obtain rfl := List.inj_on_of_nodup_map hnodup hother hsource hmodule
    refine ⟨?_, ?_⟩
    · rw [Source.name_index, Source.name_index]
      rfl
    · rw [Source.name_index]
      exact h.isLike_without hkind himport hdiffers
  · exact ⟨rfl, .refl _ _⟩

end Index

end Project

end ServiceManifest
