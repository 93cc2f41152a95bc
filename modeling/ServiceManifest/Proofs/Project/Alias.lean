import ServiceManifest.Proofs.Project.Alike
import ServiceManifest.Proofs.Project.Chain

/-!
# Names behind an alias

An alias is followed where its name stands alone. With other names behind it, the name is what it would be
without the alias: a class of the module, a name that the module has imported, or nothing that leads to a
class. So a class that is reached through an alias does not bring along the classes that are nested in it,
as a class that is handed on by imports does.
-/

namespace ServiceManifest

namespace Project

open ServiceManifest.Source

/-- The name of a link is an alias in a module, the value of which stands for a class, and following the
value does not come by the alias again. -/
structure Modules.AliasFor (modules : Modules) (link : Link) (target : ModuleIndex)
    (name : QualifiedName) : Prop where
  module : Keyed.get? link.1 modules = some target
  value : ∃ value, Keyed.get? link.2 target.aliases = some value ∧
    closestClassOf modules target [] value = .ok (some name) ∧
      ∀ absolute, Mentions target value absolute → ¬modules.LooksUp (target, absolute) link

section Alias

variable {modules : Modules} {open_ : List Link} {link : Link} {index target : ModuleIndex}
  {name : QualifiedName} {absolute first : String} {rest : List String}

/-- The only name that is looked up for a dotted expression is the absolute one. -/
theorem Mentions.eq_absolute {expr : Expr} (h : Mentions index expr absolute) {dotted : String}
    (hdotted : expr.dottedName? = some dotted) : absolute = index.absolute [] dotted := by
  cases h with
  | dotted hother => rw [Option.some.inj (hother.symm.trans hdotted)]
  | value | element | text => cases hdotted

/-- A name is found alike with a link followed already, if it does not come by the link. -/
theorem qualified_close (hlooks : ¬modules.LooksUp (index, absolute) link) :
    qualified modules (close link open_) index absolute = qualified modules open_ index absolute := by
  induction hlength : open_.length using Nat.strongRecOn generalizing open_ index absolute with
  | _ count ih =>
    subst hlength
    -- What a name leads on to is found alike, with the link of the name closed.
    have hfollow {aim : ModuleIndex} {other : Link} {next : String} (hopen : other ∈ open_)
        (hleads : LeadsOn Mentions modules (index, absolute) (aim, next)) :
        qualified modules (close other (close link open_)) aim next =
          qualified modules (close other open_) aim next := by
      rw [close_comm]
      refine ih _ (length_close_lt hopen) (fun ⟨here, last, nested, hwalk, hlast⟩ => hlooks ?_) rfl
      exact ⟨here, last, nested, .head hleads hwalk, hlast⟩
    rcases hsplit : modules.splitOf absolute with _ | ⟨aim, _ | ⟨start, nested⟩⟩
    · rw [qualified_of_outside hsplit, qualified_of_outside hsplit]
    · rw [qualified_of_module hsplit, qualified_of_module hsplit]
    · have hne : (aim.name, start) ≠ link := by
        rintro rfl
        exact hlooks ⟨_, aim, nested, .refl, hsplit, rfl⟩
      have hstill : (aim.name, start) ∈ close link open_ ↔ (aim.name, start) ∈ open_ :=
        mem_close_iff.trans (and_iff_left hne)
      cases hbinding : aim.binding start nested with
      | aliased value =>
        rw [qualified_of_alias hsplit hbinding, qualified_of_alias hsplit hbinding]
        by_cases hopen : (aim.name, start) ∈ open_
        · rw [if_pos hopen, if_pos (hstill.mpr hopen), typeRefBy_congr fun _ => rfl]
          exact fun next hmentions => hfollow hopen (.aliased hsplit hbinding hmentions)
        · rw [if_neg hopen, if_neg (hstill.not.mpr hopen)]
      | imported source =>
        rw [qualified_of_imported hsplit hbinding, qualified_of_imported hsplit hbinding]
        by_cases hopen : (aim.name, start) ∈ open_
        · rw [if_pos hopen, if_pos (hstill.mpr hopen)]
          exact hfollow hopen (.imported hsplit hbinding)
        · rw [if_neg hopen, if_neg (hstill.not.mpr hopen)]
      | own => rw [qualified_of_own hsplit hbinding, qualified_of_own hsplit hbinding]

/-- An alias is a link of the project. -/
theorem Modules.AliasFor.mem_links (h : modules.AliasFor link target name) : link ∈ modules.links := by
  obtain ⟨value, halias, -⟩ := h.value
  exact Project.mem_links.mpr ⟨target, Keyed.mem_of_get?_eq_some h.module,
    .inl (List.mem_map_of_mem (Keyed.mem_of_get?_eq_some halias))⟩

/-- Where names in modules are simple, an alias is a simple name. -/
theorem Modules.AliasFor.isSimple (h : modules.AliasFor link target name)
    (hmodules : modules.NamesAreSimple) : IsSimple link.2 := by
  obtain ⟨value, halias, -⟩ := h.value
  exact ((hmodules _ _ h.module).aliases _ _ halias).1

/-- The bare name of an alias has the class that the value of the alias stands for as its nearest. -/
theorem Modules.AliasFor.qualified (h : modules.AliasFor link target name)
    (hnamed : ∀ name index, Keyed.get? name modules = some index → index.name = name)
    (hfree : modules.LeavesFree link) (hname : '.' ∉ link.2.toList) (index : ModuleIndex) :
    ∃ ref, qualified modules modules.links index (link.absolute []) = .ok ref ∧
      ref.closestClass = some name := by
  have hopen := h.mem_links
  obtain ⟨hmodule, value, halias, hclass, hlooks⟩ := h
  obtain ⟨found, hfound, hnearest⟩ := map_eq_ok_iff.mp hclass
  obtain ⟨module, bound⟩ := link
  obtain rfl := hnamed _ _ hmodule
  have hbinding : target.binding bound [] = .aliased value := by
    unfold ModuleIndex.binding
    simp [halias]
  have hclosed : typeRefBy (Project.qualified modules (close (target.name, bound) modules.links))
      target [] value = .ok found := by
    rw [← hfound, resolve]
    exact typeRefBy_congr (fun _ => rfl) fun next hmentions => qualified_close (hlooks next hmentions)
  rw [qualified_of_alias (hfree.splitOf hmodule (List.forall_mem_singleton.mpr hname)) hbinding,
    if_pos hopen, hclosed]
  exact ⟨_, rfl, (closestClass_aliasRef _ _ _).trans hnearest⟩

/-- With names behind it, no alias counts for what a module binds a name to. -/
theorem ModuleIndex.binding_behind (index : ModuleIndex) (bound first : String) (rest : List String) :
    index.binding bound (first :: rest) =
      match if index.hasClass [bound] then none else Keyed.get? bound index.imports with
      | some source => .imported source
      | none => .own :=
  rfl

/-- With names behind it, the name of a class of a module stands for what is in the class. -/
theorem qualified_behind_class (hsplit : modules.splitOf (link.absolute (first :: rest)) =
      some (target, link.2 :: first :: rest))
    (hclass : target.hasClass [link.2] = true) (index : ModuleIndex) :
    qualified modules open_ index (link.absolute (first :: rest)) =
      .ok (memberOf target (link.2 :: first :: rest)) := by
  refine qualified_of_own hsplit ?_
  simp [ModuleIndex.binding_behind, hclass]

/-- With names behind it, a name that a module has imported and has no class of leads to where it was
imported from. -/
theorem qualified_behind_import (hnamed : target.name = link.1)
    (hsplit : modules.splitOf (link.absolute (first :: rest)) =
      some (target, link.2 :: first :: rest))
    (hclass : target.hasClass [link.2] = false) {source : String}
    (himport : Keyed.get? link.2 target.imports = some source) (hopen : link ∈ open_)
    (index : ModuleIndex) :
    qualified modules open_ index (link.absolute (first :: rest)) =
      qualified modules (close link open_) target (".".intercalate (source :: first :: rest)) := by
  have hbinding : target.binding link.2 (first :: rest) = .imported source := by
    simp [ModuleIndex.binding_behind, hclass, himport]
  have hlink : (target.name, link.2) = link := by rw [hnamed]
  rw [qualified_of_imported hsplit hbinding, hlink, if_pos hopen]

/-- With names behind it, any other name stands for a member that is no class, be it an alias or not. -/
theorem qualified_behind_other (hnamed : target.name = link.1)
    (hsplit : modules.splitOf (link.absolute (first :: rest)) =
      some (target, link.2 :: first :: rest))
    (hclass : target.hasClass [link.2] = false) (himport : Keyed.get? link.2 target.imports = none)
    (index : ModuleIndex) :
    qualified modules open_ index (link.absolute (first :: rest)) =
      .ok (memberRef ⟨link.1, [link.2]⟩) := by
  have hbinding : target.binding link.2 (first :: rest) = .own := by
    simp [ModuleIndex.binding_behind, hclass, himport]
  have hdepth : classDepth target [] (link.2 :: first :: rest) = 0 := by
    rw [classDepth, List.nil_append, hclass, if_neg Bool.false_ne_true]
  rw [qualified_of_own hsplit hbinding, memberOf, hdepth, ← hnamed]
  rfl

end Alias

end Project

open Project

/-- In what a scan keeps, let a name be an alias in its module for a class that its value stands for, and let
following the value not come by the alias again. No module is named like the alias or lies below it. Then
in whatever module it is seen, the bare name has that class as its nearest, but with names of nested classes
behind it, the name is never followed as an alias. If the module has a class of the name, the nested names
are looked up in that; if it has none but imports the name, they are looked up where the import leads to;
and if it does neither, the whole stands for no class. In that case the name with names behind it is the
nested class exactly if there are no names behind it. -/
theorem aliases_are_followed_by_bare_names {tree : Disk.Tree} {root : Path} {markers : List String}
    {sources : List Source} {found : Discovery} (hfound : discover tree root = .ok found)
    (hkeeps : Keeps tree root found.units sources) {link : Link} {target owner : ModuleIndex}
    {name : QualifiedName} (halias : (modulesOf markers sources).AliasFor link target name)
    (hfree : (modulesOf markers sources).LeavesFree link)
    (howner : Keyed.get? name.package (modulesOf markers sources) = some owner)
    (index : ModuleIndex) {nested : List String}
    (hnested : owner.hasClass (name.simpleNames ++ nested) = true) :
    (nested = [] → ∃ ref, qualified (modulesOf markers sources) (modulesOf markers sources).links index
        (link.absolute nested) = .ok ref ∧ ref.closestClass = some name) ∧
    (nested ≠ [] →
      (target.hasClass [link.2] = true →
        qualified (modulesOf markers sources) (modulesOf markers sources).links index
          (link.absolute nested) = .ok (memberOf target (link.2 :: nested))) ∧
      (target.hasClass [link.2] = false →
        (∀ source, Keyed.get? link.2 target.imports = some source →
          qualified (modulesOf markers sources) (modulesOf markers sources).links index
              (link.absolute nested) =
            qualified (modulesOf markers sources) (close link (modulesOf markers sources).links) target
              (".".intercalate (source :: nested))) ∧
        (Keyed.get? link.2 target.imports = none →
          qualified (modulesOf markers sources) (modulesOf markers sources).links index
            (link.absolute nested) = .ok (memberRef ⟨link.1, [link.2]⟩)))) ∧
    (target.hasClass [link.2] = false → Keyed.get? link.2 target.imports = none →
      ((∃ ref, qualified (modulesOf markers sources) (modulesOf markers sources).links index
          (link.absolute nested) = .ok ref ∧
        ref.closestClass = some ⟨name.package, name.simpleNames ++ nested⟩) ↔ nested = [])) := by
  have hfronted : (modulesOf markers sources).AreFronted := hkeeps.areFronted hfound
  have hnamed : target.name = link.1 := hfronted.name _ _ halias.module
  have hname : '.' ∉ link.2.toList := (halias.isSimple (hkeeps.namesAreSimple hfound)).not_mem
  have hbare := halias.qualified hfronted.name hfree hname index
  have hinner := (List.forall_mem_append.mp (hkeeps.not_mem_of_hasClass hfound howner hnested)).2
  have hsplit := hfree.splitOf halias.module (List.forall_mem_cons.mpr ⟨hname, hinner⟩)
  cases nested with
  | nil =>
    refine ⟨fun _ => hbare, fun hne => absurd rfl hne, fun _ _ => iff_of_true ?_ rfl⟩
    rw [List.append_nil]
    exact hbare
  | cons first rest =>
    refine ⟨nofun, fun _ => ⟨fun hclass => qualified_behind_class hsplit hclass index, fun hclass => ?_⟩,
      fun hclass himport => iff_of_false ?_ (List.cons_ne_nil _ _)⟩
    · exact ⟨fun source himport =>
          qualified_behind_import hnamed hsplit hclass himport halias.mem_links index,
        fun himport => qualified_behind_other hnamed hsplit hclass himport index⟩
    · rintro ⟨ref, href, hclosest⟩
      rw [qualified_behind_other hnamed hsplit hclass himport index] at href
      obtain rfl := Except.ok.inj href
      cases hclosest

/-- A module with a class and one in it, and one that imports the outer class and has an alias for it. -/
def nestedBehindAlias : Disk.Tree :=
  ⟨[(["base.py"], .file "class Outer:\n    class Inner: pass\n".toUTF8),
    (["m.py"], .file "from base import Outer\nHandle: TypeAlias = Outer\n".toUTF8)], []⟩

/-- The modules of the class and of the alias. -/
def aliasModules : Modules := modulesOf defaultMarkers (["base", "m"].map (sourceAt nestedBehindAlias))

/-- The bare alias has the outer class as its nearest, and with the name of the inner class behind it, it
stands for no class. -/
theorem nestedBehindAlias_has_no_class :
    (∃ ref, qualified aliasModules aliasModules.links
        ((sourceAt nestedBehindAlias "base").index defaultMarkers) "m.Handle" = .ok ref ∧
      ref.closestClass = some ⟨"base", ["Outer"]⟩) ∧
    qualified aliasModules aliasModules.links
        ((sourceAt nestedBehindAlias "base").index defaultMarkers) "m.Handle.Inner" =
      .ok (memberRef ⟨"m", ["Handle"]⟩) := by
  -- What is evaluated stands together, so that the modules are parsed once.
  obtain ⟨hpaths, hholds, hbound, habsolute, hvalue, hend, hsplit, hinner, houter, hclass, himport⟩ :
      sourcePaths nestedBehindAlias [] = [["base.py"], ["m.py"]] ∧
      ["base", "m"].all (holdsModule nestedBehindAlias) = true ∧
      ((Keyed.get? "Handle" ((sourceAt nestedBehindAlias "m").index defaultMarkers).aliases).bind
          Source.Expr.dottedName? = some "Outer") ∧
      ((sourceAt nestedBehindAlias "m").index defaultMarkers).absolute [] "Outer" = "base.Outer" ∧
      ((qualified aliasModules aliasModules.links ((sourceAt nestedBehindAlias "m").index defaultMarkers)
        "base.Outer").map TypeRef.closestClass).toOption = some (some ⟨"base", ["Outer"]⟩) ∧
      aliasModules.isEnd "base.Outer" = true ∧
      (aliasModules.splitOf "base.Outer").map (·.1.name) = some "base" ∧
      ((sourceAt nestedBehindAlias "base").index defaultMarkers).hasClass ["Outer", "Inner"] = true ∧
      ((sourceAt nestedBehindAlias "base").index defaultMarkers).hasClass ["Outer"] = true ∧
      ((sourceAt nestedBehindAlias "m").index defaultMarkers).hasClass ["Handle"] = false ∧
      Keyed.get? "Handle" ((sourceAt nestedBehindAlias "m").index defaultMarkers).imports = none := by
    decide +kernel
  obtain ⟨hfound, hkeeps⟩ := @discovers_and_keeps_at _ ["base", "m"] hpaths rfl (by decide) hholds
  have hmodule (module : String) (hmem : module ∈ ["base", "m"]) : Keyed.get? module aliasModules =
      some ((sourceAt nestedBehindAlias module).index defaultMarkers) :=
    (get?_modulesOf hkeeps.nodup).mpr ⟨_, List.mem_map_of_mem hmem, rfl, rfl⟩
  have halias : aliasModules.AliasFor ("m", "Handle")
      ((sourceAt nestedBehindAlias "m").index defaultMarkers) ⟨"base", ["Outer"]⟩ := by
    obtain ⟨value, halias, hdotted⟩ := Option.bind_eq_some_iff.mp hbound
    refine ⟨hmodule "m" (by decide), value, halias, ?_, ?_⟩
    · rw [closestClassOf_of_dottedName? hdotted, habsolute]
      exact eq_ok_of_toOption hvalue
    · rintro absolute hmentions ⟨here, aim, nested, hwalk, haim, hname⟩
      rw [hmentions.eq_absolute hdotted, habsolute] at hwalk
      rw [Modules.eq_of_isEnd hend hwalk] at haim
      rw [haim] at hsplit
      exact absurd (hname.symm.trans (Option.some.inj hsplit)) (by decide)
  have hfree : aliasModules.LeavesFree ("m", "Handle") := by
    have hkeys : Keyed.keys aliasModules = ["base", "m"] := keys_modulesOf _ _
    unfold Modules.LeavesFree
    rw [hkeys]
    decide +kernel
  have hbehind {nested : List String} := @aliases_are_followed_by_bare_names _ _ _ _ _ hfound hkeeps _ _
    _ _ halias hfree (hmodule "base" (by decide))
    ((sourceAt nestedBehindAlias "base").index defaultMarkers) nested
  exact ⟨(hbehind houter).1 rfl, (((hbehind hinner).2.1 (List.cons_ne_nil _ _)).2 hclass).2 himport⟩

end ServiceManifest
