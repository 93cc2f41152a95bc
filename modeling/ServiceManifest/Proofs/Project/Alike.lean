import ServiceManifest.Proofs.Project.Closed

/-!
# Projects that differ in some classes

Two projects with the same modules, of which only some classes differ, make the same of every name that
does not lead through a name behind which the classes differ. What is compared is all that is found of a
name: the class or member, the arguments and what an alias stands for.
-/

namespace ServiceManifest.Project

open ServiceManifest.Source

/-- Modules of one unit with the same imports, definitions and aliases, and with the same classes but for
those whose outermost name is one that differs. -/
structure ModuleIndex.IsLike (index other : ModuleIndex) (differs : String → Prop) : Prop where
  unit : other.unit = index.unit
  imports : other.imports = index.imports
  importedModules : other.importedModules = index.importedModules
  defined : other.defined = index.defined
  aliases : other.aliases = index.aliases
  classes : ∀ first rest, ¬differs first →
    other.hasClass (first :: rest) = index.hasClass (first :: rest)

/-- Projects of the same modules, each of which has the same classes in both but for those whose outermost
name is a link that differs. -/
def Modules.AreLike (modules others : Modules) (differs : Link → Prop) : Prop :=
  List.Forall₂ (fun entry other => other.1 = entry.1 ∧
    entry.2.IsLike other.2 fun first => differs (entry.1, first)) modules others

section Index

variable {index other : ModuleIndex} {differs : String → Prop}

/-- A module is like itself. -/
theorem ModuleIndex.IsLike.refl (index : ModuleIndex) (differs : String → Prop) :
    index.IsLike index differs := ⟨rfl, rfl, rfl, rfl, rfl, fun _ _ _ => rfl⟩

/-- At the top level, modules that are alike make the same of a name. -/
theorem ModuleIndex.IsLike.absolute_nil (h : index.IsLike other differs) (dotted : String) :
    other.absolute [] dotted = index.absolute [] dotted := by
  simp [ModuleIndex.absolute, ModuleIndex.name, h.unit, h.imports, h.defined]

/-- Modules that are alike bind a name to the same, unless their classes of it differ. -/
theorem ModuleIndex.IsLike.binding (h : index.IsLike other differs) {first : String}
    (hfirst : ¬differs first) (nested : List String) :
    other.binding first nested = index.binding first nested := by
  simp only [ModuleIndex.binding, h.aliases, h.imports, h.classes first [] hfirst]

/-- The same names lead through classes of modules that are alike, unless those differ. -/
theorem ModuleIndex.IsLike.classDepth (h : index.IsLike other differs) {first : String}
    (hfirst : ¬differs first) (done rest : List String) :
    classDepth other (first :: done) rest = classDepth index (first :: done) rest := by
  induction rest generalizing done with
  | nil => rfl
  | cons name rest ih =>
    rw [Project.classDepth, Project.classDepth, List.cons_append, h.classes _ _ hfirst, ih]

/-- Names behind modules that are alike stand for the same, unless the classes of the first differ. -/
theorem ModuleIndex.IsLike.memberOf (h : index.IsLike other differs) {first : String}
    (hfirst : ¬differs first) (nested : List String) :
    memberOf other (first :: nested) = memberOf index (first :: nested) := by
  have hdepth : Project.classDepth other [] (first :: nested) =
      Project.classDepth index [] (first :: nested) := by
    rw [Project.classDepth, Project.classDepth, List.nil_append, h.classes _ _ hfirst,
      h.classDepth hfirst]
  simp only [Project.memberOf, hdepth, ModuleIndex.name, h.unit]

/-- Modules that have imported the same modules split names outside of the project alike. -/
theorem external_congr (h : other.importedModules = index.importedModules) (parts : List String) :
    external other parts = external index parts := by
  rw [external, external, h]

end Index

section Typed

variable {qualify others : Qualify} {index other : ModuleIndex}

/-- Ways of looking names up that find the same of each element of a subscript find the same of all. -/
theorem typeRefsBy_congr {elements : List Expr}
    (h : ∀ element ∈ elements,
      typeRefBy others other [] element = typeRefBy qualify index [] element) :
    typeRefsBy others other [] elements = typeRefsBy qualify index [] elements := by
  induction elements with
  | nil => rw [typeRefsBy, typeRefsBy]
  | cons element rest ih =>
    obtain ⟨helement, hrest⟩ := List.forall_mem_cons.mp h
    rw [typeRefsBy, typeRefsBy, helement, ih hrest]

/-- Ways of looking names up in modules that make the same of names find the same of an expression, if they
find the same of every name that is looked up for it. -/
theorem typeRefBy_congr (habsolute : ∀ dotted, other.absolute [] dotted = index.absolute [] dotted)
    {expr : Expr} (h : ∀ absolute, Mentions index expr absolute →
      others other absolute = qualify index absolute) :
    typeRefBy others other [] expr = typeRefBy qualify index [] expr := by
  induction hweight : weight expr using Nat.strongRecOn generalizing expr with
  | _ count ih =>
    subst hweight
    rcases hname : expr.dottedName? with _ | dotted
    · cases expr with
      | subscript value elements =>
        have hvalue := ih (weight value) (by simp only [weight]; omega)
          (fun absolute hmentions => h absolute (.value hmentions)) rfl
        have helements := typeRefsBy_congr fun element hmem =>
          ih (weight element) (by have := weight_lt_weightAll hmem; simp only [weight]; omega)
            (fun absolute hmentions => h absolute (.element hmem hmentions)) rfl
        rw [typeRefBy, typeRefBy, hvalue, helements]
      | text codes =>
        rw [typeRefBy, typeRefBy]
        split
        · rfl
        · rfl
        · rename_i parsed hparsed
          split
          · rename_i hlighter
            exact ih (weight parsed) (by simpa only [weight] using hlighter)
              (fun absolute hmentions => h absolute (.text hparsed hlighter hmentions)) rfl
          · rfl
      | name id => cases hname
      | _ =>
        rw [typeRefBy_of_no_name hname (by simp) (by simp),
          typeRefBy_of_no_name hname (by simp) (by simp)]
    · rw [typeRefBy_of_dottedName? hname, typeRefBy_of_dottedName? hname, habsolute,
        h _ (.dotted hname)]

end Typed

section Like

variable {modules others : Modules} {differs : Link → Prop} {name absolute : String}

/-- Projects that are alike have the same links. -/
theorem Modules.AreLike.links (h : modules.AreLike others differs) : others.links = modules.links := by
  induction h with
  | nil => rfl
  | @cons entry other modules others hentry _ ih =>
    simp only [Modules.links, List.flatMap_cons, hentry.1, hentry.2.aliases, hentry.2.imports] at ih ⊢
    rw [ih]

/-- A name is that of no module in projects that are alike, or that of modules that are alike. -/
theorem Modules.AreLike.get? (h : modules.AreLike others differs) (name : String) :
    Keyed.get? name modules = none ∧ Keyed.get? name others = none ∨
      ∃ index other, Keyed.get? name modules = some index ∧ Keyed.get? name others = some other ∧
        index.IsLike other fun first => differs (name, first) := by
  induction h with
  | nil => exact .inl ⟨rfl, rfl⟩
  | @cons entry other modules others hentry _ ih =>
    rw [Keyed.get?_cons, Keyed.get?_cons, hentry.1]
    split
    · rename_i hname
      exact .inr ⟨entry.2, other.2, rfl, rfl, hname ▸ hentry.2⟩
    · exact ih

/-- A name is split at no module in projects that are alike, or alike at modules that are alike. -/
theorem Modules.AreLike.splitAt (h : modules.AreLike others differs) (parts : List String)
    (count : Nat) :
    modules.splitAt parts count = none ∧ others.splitAt parts count = none ∨
      ∃ name index other rest, Keyed.get? name modules = some index ∧
        modules.splitAt parts count = some (index, rest) ∧
          others.splitAt parts count = some (other, rest) ∧
            index.IsLike other fun first => differs (name, first) := by
  induction count with
  | zero => exact .inl ⟨rfl, rfl⟩
  | succ count ih =>
    rw [Modules.splitAt, Modules.splitAt]
    rcases h.get? (".".intercalate (parts.take (count + 1))) with
      ⟨hnone, hnoneOther⟩ | ⟨index, other, hindex, hother, hlike⟩
    · rw [hnone, hnoneOther]
      exact ih
    · rw [hindex, hother]
      exact .inr ⟨_, index, other, _, hindex, rfl, rfl, hlike⟩

/-- A name is looked up at a link on the way from a name, with or without other names behind it. -/
def Modules.LooksUp (modules : Modules) (start : ModuleIndex × String) (link : Link) : Prop :=
  ∃ here target nested, Relation.ReflTransGen (LeadsOn Mentions modules) start here ∧
    modules.splitOf here.2 = some (target, link.2 :: nested) ∧ target.name = link.1

/-- Projects that are alike find the same of a name, if no link on the way from it differs. -/
theorem Modules.AreLike.qualified_eq (h : modules.AreLike others differs)
    (hnamed : ∀ name index, Keyed.get? name modules = some index → index.name = name)
    {index other : ModuleIndex} (himported : other.importedModules = index.importedModules)
    {open_ : List Link} (hlinks : ∀ link, modules.LooksUp (index, absolute) link → ¬differs link) :
    qualified others open_ other absolute = qualified modules open_ index absolute := by
  induction hlength : open_.length using Nat.strongRecOn generalizing open_ index other absolute with
  | _ count ih =>
    subst hlength
    -- What a name leads on to is found alike, with the link of the name closed.
    have hfollow {target targetOther : ModuleIndex} {link : Link} {next : String} (hopen : link ∈ open_)
        (hleads : LeadsOn Mentions modules (index, absolute) (target, next))
        (himported : targetOther.importedModules = target.importedModules) :
        qualified others (close link open_) targetOther next =
          qualified modules (close link open_) target next := by
      refine ih _ (length_close_lt hopen) himported (fun other hlooks => hlinks other ?_) rfl
      obtain ⟨here, aim, nested, hwalk, haim⟩ := hlooks
      exact ⟨here, aim, nested, .head hleads hwalk, haim⟩
    rcases h.splitAt (nameParts '.' absolute) (nameParts '.' absolute).length with
      ⟨hsplit, hsplitOther⟩ | ⟨name, target, targetOther, rest, htarget, hsplit, hsplitOther, hlike⟩
    · rw [qualified_of_outside hsplit, qualified_of_outside hsplitOther, external_congr himported]
    · cases rest with
      | nil => rw [qualified_of_module hsplit, qualified_of_module hsplitOther]
      | cons first nested =>
        obtain rfl := hnamed _ _ htarget
        have hname : targetOther.name = target.name := congrArg SourceUnit.module hlike.unit
        have hfirst : ¬differs (target.name, first) :=
          hlinks _ ⟨_, target, nested, .refl, hsplit, rfl⟩
        have hsame := hlike.binding hfirst nested
        cases hbinding : target.binding first nested with
        | aliased value =>
          rw [hbinding] at hsame
          rw [qualified_of_alias hsplit hbinding, qualified_of_alias hsplitOther hsame, hname]
          by_cases hopen : (target.name, first) ∈ open_
          · rw [if_pos hopen, if_pos hopen, typeRefBy_congr hlike.absolute_nil]
            exact fun next hmentions =>
              hfollow hopen (.aliased hsplit hbinding hmentions) hlike.importedModules
          · rw [if_neg hopen, if_neg hopen]
        | imported source =>
          rw [hbinding] at hsame
          rw [qualified_of_imported hsplit hbinding, qualified_of_imported hsplitOther hsame, hname]
          by_cases hopen : (target.name, first) ∈ open_
          · rw [if_pos hopen, if_pos hopen]
            exact hfollow hopen (.imported hsplit hbinding) hlike.importedModules
          · rw [if_neg hopen, if_neg hopen, hlike.memberOf hfirst]
        | own =>
          rw [hbinding] at hsame
          rw [qualified_of_own hsplit hbinding, qualified_of_own hsplitOther hsame,
            hlike.memberOf hfirst]

/-- Projects that are alike find the same of an expression that is a dotted name, if the modules that hold it
make the same of it and no link on the way differs. -/
theorem Modules.AreLike.resolve_eq (h : modules.AreLike others differs)
    (hnamed : ∀ name index, Keyed.get? name modules = some index → index.name = name)
    {index other : ModuleIndex} (himported : other.importedModules = index.importedModules)
    {scope : ClassPath} {expr : Expr} {dotted : String} (hdotted : expr.dottedName? = some dotted)
    (habsolute : other.absolute scope dotted = index.absolute scope dotted)
    (hlinks : ∀ link, modules.LooksUp (index, index.absolute scope dotted) link → ¬differs link) :
    resolve others other scope expr = resolve modules index scope expr := by
  rw [resolve, resolve, typeRefBy_of_dottedName? hdotted, typeRefBy_of_dottedName? hdotted, habsolute,
    h.links, h.qualified_eq hnamed himported hlinks]

end Like

end ServiceManifest.Project
