import ServiceManifest.Proofs.Project.Depth
import ServiceManifest.Proofs.Project.External
import ServiceManifest.Proofs.Project.Failures

/-!
# Cycles of references

Resolving an expression, following a name and computing a closure come to an end in every project. A
name that an alias or an import binds is a link to another name. If the links from a name on come to a
link a second time, then whatever is found of the name has no class, so a marker that lists it is
rejected; otherwise the links are followed to where they end. What the arguments of a subscript refer
to plays no part in this.
-/

namespace ServiceManifest

namespace Project

open ServiceManifest.Source Relation

/-- The link by which an absolute name leads on, if it is bound by an alias or an import in the module
at which it is split. -/
def Modules.linkOf? (modules : Modules) (absolute : String) : Option Link :=
  match modules.splitOf absolute with
  | some (target, first :: nested) =>
    match target.binding first nested with
    | .own => none
    | _ => some (target.name, first)
  | _ => none

/-- The absolute name that one leads on to, with the module from which it is seen then. -/
def Modules.next? (modules : Modules) (absolute : String) : Option (ModuleIndex × String) :=
  match modules.splitOf absolute with
  | some (target, first :: nested) =>
    match target.binding first nested with
    | .aliased value => (reference? target [] value).map fun next => (target, next)
    | .imported source => some (target, ".".intercalate (source :: nested))
    | .own => none
  | _ => none

/-- The links from an absolute name on, seen from a module, come to some link and afterwards to the
same link again. -/
def Modules.Cycles (modules : Modules) (start : ModuleIndex × String) : Prop :=
  ∃ here there link, ReflTransGen (LeadsOn RefersTo modules) start here ∧
    TransGen (LeadsOn RefersTo modules) here there ∧
      modules.linkOf? here.2 = some link ∧ modules.linkOf? there.2 = some link

section Links

variable {modules : Modules} {open_ : List Link} {link : Link} {start next last : ModuleIndex × String}
  {index : ModuleIndex} {absolute : String} {ref : TypeRef}

/-- A name with a link is split behind a module that binds it by an alias or an import. -/
theorem Modules.linkOf?_eq_some (h : modules.linkOf? absolute = some link) :
    ∃ target first nested, modules.splitOf absolute = some (target, first :: nested) ∧
      target.binding first nested ≠ .own ∧ link = (target.name, first) := by
  unfold Modules.linkOf? at h
  split at h
  · rename_i target first nested hsplit
    split at h
    · cases h
    · rename_i hbinding
      exact ⟨target, first, nested, hsplit, hbinding, (Option.some.inj h).symm⟩
  · cases h

/-- A link is one of the project. -/
theorem Modules.AreFronted.mem_links (hfronted : modules.AreFronted)
    (h : modules.linkOf? absolute = some link) : link ∈ modules.links := by
  obtain ⟨target, first, nested, hsplit, hbinding, rfl⟩ := Modules.linkOf?_eq_some h
  obtain ⟨name, htarget⟩ := exists_get?_of_splitOf hsplit
  obtain rfl := hfronted.name _ _ htarget
  refine Project.mem_links.mpr ⟨target, Keyed.mem_of_get?_eq_some htarget, ?_⟩
  cases hbound : target.binding first nested with
  | aliased value =>
    have halias := alias_of_binding hbound
    split at halias
    · exact .inl (Keyed.get?_isSome_iff.mp (Option.isSome_of_eq_some halias))
    · cases halias
  | imported source =>
    exact .inr (Keyed.get?_isSome_iff.mp (Option.isSome_of_eq_some (hasClass_of_binding hbound).2))
  | own => exact absurd hbound hbinding

/-- A name whose link is being followed already has no class. -/
theorem closestClass_of_closed (hlink : modules.linkOf? absolute = some link) (hclosed : link ∉ open_)
    (h : qualified modules open_ index absolute = .ok ref) : ref.closestClass = none := by
  obtain ⟨target, first, nested, hsplit, hbinding, rfl⟩ := Modules.linkOf?_eq_some hlink
  cases hbound : target.binding first nested with
  | aliased value =>
    rw [qualified_of_alias hsplit hbound, if_neg hclosed] at h
    obtain rfl := Except.ok.inj h
    rfl
  | imported source =>
    rw [qualified_of_imported hsplit hbound, if_neg hclosed] at h
    obtain rfl := Except.ok.inj h
    exact closestClass_memberOf (hasClass_of_binding hbound).1 nested
  | own => exact absurd hbound hbinding

/-- A name that leads on does so by a link, and has the class of the name that it leads on to, with the
link closed. -/
theorem LeadsOn.exists_link (h : LeadsOn RefersTo modules start next) :
    ∃ link, modules.linkOf? start.2 = some link ∧ ∀ open_ ref, link ∈ open_ →
      qualified modules open_ start.1 start.2 = .ok ref → ∃ found,
        qualified modules (close link open_) next.1 next.2 = .ok found ∧
          ref.closestClass = found.closestClass := by
  cases h with
  | @aliased index target absolute first next nested value hsplit hbinding hreads =>
    refine ⟨(target.name, first), by simp only [Modules.linkOf?, hsplit, hbinding], ?_⟩
    intro open_ ref hopen hok
    rw [qualified_of_alias hsplit hbinding, if_pos hopen] at hok
    obtain ⟨found, hfound, rfl⟩ := map_eq_ok_iff.mp hok
    rcases typeRefBy_eq_ok hfound with ⟨hnone, -⟩ | ⟨other, aim, aimed, hother, haim, rfl, hsame⟩
    · cases hnone.symm.trans hreads
    · obtain rfl := Option.some.inj (hother.symm.trans hreads)
      exact ⟨aim, haim, (closestClass_aliasRef _ _ _).trans hsame⟩
  | @imported index target absolute first source nested hsplit hbinding =>
    refine ⟨(target.name, first), by simp only [Modules.linkOf?, hsplit, hbinding], ?_⟩
    intro open_ ref hopen hok
    rw [qualified_of_imported hsplit hbinding, if_pos hopen] at hok
    exact ⟨ref, hok, rfl⟩

/-- A name has no class if the one that it leads on to has none with the link closed. -/
theorem LeadsOn.closestClass (hleads : LeadsOn RefersTo modules start next)
    (hnext : ∀ link found, modules.linkOf? start.2 = some link →
      qualified modules (close link open_) next.1 next.2 = .ok found → found.closestClass = none)
    (h : qualified modules open_ start.1 start.2 = .ok ref) : ref.closestClass = none := by
  obtain ⟨link, hlink, hfollow⟩ := hleads.exists_link
  by_cases hopen : link ∈ open_
  · obtain ⟨found, hfound, hsame⟩ := hfollow _ _ hopen h
    exact hsame.trans (hnext link found hlink hfound)
  · exact closestClass_of_closed hlink hopen h

/-- A name that leads to one whose link is being followed already has no class. -/
theorem closestClass_of_reaches_closed (hwalk : ReflTransGen (LeadsOn RefersTo modules) start last)
    (hlink : modules.linkOf? last.2 = some link) (hclosed : link ∉ open_)
    (h : qualified modules open_ start.1 start.2 = .ok ref) : ref.closestClass = none := by
  induction hwalk using ReflTransGen.head_induction_on generalizing open_ ref with
  | refl => exact closestClass_of_closed hlink hclosed h
  | head hleads _ ih =>
    exact hleads.closestClass
      (fun _ _ _ hfound => ih (fun hmem => hclosed (mem_close_iff.mp hmem).1) hfound) h

/-- A name from which the links come to one of them again has no class, whichever links are open. -/
theorem Modules.Cycles.closestClass (hcycles : modules.Cycles start)
    (h : qualified modules open_ start.1 start.2 = .ok ref) : ref.closestClass = none := by
  obtain ⟨here, there, link, hwalk, hround, hhere, hthere⟩ := hcycles
  induction hwalk using ReflTransGen.head_induction_on generalizing open_ ref with
  | refl =>
    obtain ⟨next, hleads, hrest⟩ := TransGen.head'_iff.mp hround
    refine hleads.closestClass (fun first found hfirst hfound => ?_) h
    obtain rfl := Option.some.inj (hfirst.symm.trans hhere)
    exact closestClass_of_reaches_closed hrest hthere
      (fun hmem => (mem_close_iff.mp hmem).2 rfl) hfound
  | head hleads _ ih => exact hleads.closestClass (fun _ _ _ hfound => ih hfound) h

/-- A name without a link is found alike whichever links are open. -/
theorem qualified_of_linkOf?_eq_none (h : modules.linkOf? absolute = none) (others : List Link) :
    qualified modules open_ index absolute = qualified modules others index absolute := by
  rcases hsplit : modules.splitOf absolute with _ | ⟨target, _ | ⟨first, nested⟩⟩
  · rw [qualified_of_outside hsplit, qualified_of_outside hsplit]
  · rw [qualified_of_module hsplit, qualified_of_module hsplit]
  · cases hbinding : target.binding first nested with
    | own => rw [qualified_of_own hsplit hbinding, qualified_of_own hsplit hbinding]
    | aliased value => simp [Modules.linkOf?, hsplit, hbinding] at h
    | imported source => simp [Modules.linkOf?, hsplit, hbinding] at h

/-- A name from which no link is come to twice has the class of the name without a link that it leads
to, as long as all links on the way are open. -/
theorem exists_end_of_not_cycles (hwalk : ReflTransGen (LeadsOn RefersTo modules) start last)
    (hend : modules.linkOf? last.2 = none) (hcycles : ¬modules.Cycles start)
    (hopen : ∀ there link, ReflTransGen (LeadsOn RefersTo modules) start there →
      modules.linkOf? there.2 = some link → link ∈ open_)
    (h : qualified modules open_ start.1 start.2 = .ok ref) :
    ∃ found, qualified modules [] last.1 last.2 = .ok found ∧
      ref.closestClass = found.closestClass := by
  induction hwalk using ReflTransGen.head_induction_on generalizing open_ ref with
  | refl => exact ⟨ref, (qualified_of_linkOf?_eq_none hend _).symm.trans h, rfl⟩
  | @head start next hleads _ ih =>
    obtain ⟨link, hlink, hfollow⟩ := hleads.exists_link
    obtain ⟨found, hfound, hsame⟩ := hfollow _ _ (hopen _ _ .refl hlink) h
    obtain ⟨final, hfinal, hclass⟩ := @ih (close link open_) found
      (fun ⟨here, there, other, hhere, hround, hlinks⟩ =>
        hcycles ⟨here, there, other, .head hleads hhere, hround, hlinks⟩)
      (fun there other hthere hother => mem_close_iff.mpr
        ⟨hopen _ _ (.head hleads hthere) hother, fun heq => hcycles
          ⟨start, there, link, .refl, .head' hleads hthere, hlink, heq ▸ hother⟩⟩) hfound
    exact ⟨final, hfinal, hsame.trans hclass⟩

/-- A name from which no link is come to twice has the class of the name without a link that it leads
to, whose class needs no link to be open. -/
theorem Modules.AreFronted.exists_end (hfronted : modules.AreFronted)
    (hwalk : ReflTransGen (LeadsOn RefersTo modules) start last)
    (hend : modules.linkOf? last.2 = none) (hcycles : ¬modules.Cycles start)
    (h : qualified modules modules.links start.1 start.2 = .ok ref) :
    ∃ found, qualified modules [] last.1 last.2 = .ok found ∧
      ref.closestClass = found.closestClass :=
  exists_end_of_not_cycles hwalk hend hcycles (fun _ _ _ hlink => hfronted.mem_links hlink) h

/-- A name leads on to the one that is computed of it, and to no other. -/
theorem leadsOn_iff : LeadsOn RefersTo modules start next ↔ modules.next? start.2 = some next := by
  constructor
  · intro h
    cases h with
    | aliased hsplit hbinding hreads =>
      simp only [Modules.next?, hsplit, hbinding]
      exact congrArg (Option.map _) hreads
    | imported hsplit hbinding => simp only [Modules.next?, hsplit, hbinding]
  · intro h
    unfold Modules.next? at h
    split at h
    · rename_i target first nested hsplit
      cases hbinding : target.binding first nested with
      | aliased value =>
        rw [hbinding] at h
        obtain ⟨name, hreads, rfl⟩ := Option.map_eq_some_iff.mp h
        exact .aliased hsplit hbinding hreads
      | imported source =>
        rw [hbinding] at h
        obtain rfl := Option.some.inj h
        exact .imported hsplit hbinding
      | own =>
        rw [hbinding] at h
        cases h
    · cases h

end Links

end Project

open Project

/-- In what a scan keeps, the tasks that resolving any expression needs come to an end, and so do the
closures that computing the closure of any class needs: they are found in as many steps as there are
classes, and two more, whatever would be answered below. An expression from which the links come to one
of them again is resolved exactly if every text that it comes to can be read, and what it refers to then
has no class and is reported as an interface that was not resolved. -/
theorem resolution_ends_and_cycles_have_no_class {tree : Disk.Tree} {root : Path}
    {markers : List String} {sources : List Source} {found : Discovery}
    (hfound : discover tree root = .ok found) (hkeeps : Keeps tree root found.units sources) :
    (WellFounded fun next task => Task.Needs (modulesOf markers sources) task next) ∧
      (∀ below : ClosureOf, (closureStep (modulesOf markers sources))^[
        (modulesOf markers sources).classCount + 2] below = supertypes (modulesOf markers sources)) ∧
      ∀ index scope expr absolute, reference? index scope expr = some absolute →
        (modulesOf markers sources).Cycles (index, absolute) →
          ((∃ outcome, resolve (modulesOf markers sources) index scope expr = .ok outcome) ↔
              (modulesOf markers sources).CanRead index scope expr) ∧
            ∀ outcome, resolve (modulesOf markers sources) index scope expr = .ok outcome →
              ∃ ref, outcome = some ref ∧ ref.closestClass = none ∧
                ∀ verify declaration, registration verify declaration ref =
                  .error (.unresolvedInterface ref.name.dotted declaration.location) := by
  refine ⟨?_, iterate_closureStep_eq_supertypes (hkeeps.areFronted hfound).name, ?_⟩
  · exact Subrelation.wf (fun hneeds => hneeds.rank_lt) (InvImage.wf Task.rank wellFounded_lt)
  · intro index scope expr absolute hreference hcycles
    refine ⟨exists_resolve_iff, fun outcome hresolve => ?_⟩
    rcases typeRefBy_eq_ok hresolve with ⟨hnone, -⟩ | ⟨other, aim, ref, hother, haim, rfl, hsame⟩
    · cases hnone.symm.trans hreference
    · obtain rfl := Option.some.inj (hother.symm.trans hreference)
      have hclass : ref.closestClass = none := hsame.trans (hcycles.closestClass haim)
      exact ⟨ref, rfl, hclass, fun verify declaration => by rw [registration, hclass]⟩

/-- A module with a marker that lists what another module makes an alias of the same name in the
first. -/
def circularAlias : Disk.Tree :=
  ⟨[(["a.py"], .file ("from autoservice import auto_service\nfrom b import X\n" ++
      "@auto_service(X)\nclass A: pass\n").toUTF8),
    (["b.py"], .file "import a\nX: TypeAlias = 'a.X'\n".toUTF8)], []⟩

/-- The sources of the two modules. -/
def circularSources : List Source := [sourceAt circularAlias "a", sourceAt circularAlias "b"]

/-- The name that the marker lists comes back to itself through an import and a text, and is reported as
not resolved. -/
theorem circularAlias_has_no_class :
    ∃ absolute, reference? ((sourceAt circularAlias "a").index defaultMarkers) [] (.name "X") =
        some absolute ∧
      (modulesOf defaultMarkers circularSources).Cycles
        ((sourceAt circularAlias "a").index defaultMarkers, absolute) ∧
      ∃ ref, resolve (modulesOf defaultMarkers circularSources)
          ((sourceAt circularAlias "a").index defaultMarkers) [] (.name "X") = .ok (some ref) ∧
        ref.closestClass = none ∧ ∀ verify declaration, registration verify declaration ref =
          .error (.unresolvedInterface ref.name.dotted declaration.location) := by
  -- What is evaluated stands together, so that the modules are parsed once.
  obtain ⟨hpaths, hholds, hround, hlink, hreference, hresolves⟩ :
      sourcePaths circularAlias [] = [["a.py"], ["b.py"]] ∧
      ["a", "b"].all (holdsModule circularAlias) = true ∧
      (((modulesOf defaultMarkers circularSources).next? "b.X").bind fun next =>
        ((modulesOf defaultMarkers circularSources).next? next.2).map (·.2)) = some "b.X" ∧
      (modulesOf defaultMarkers circularSources).linkOf? "b.X" = some ("b", "X") ∧
      reference? ((sourceAt circularAlias "a").index defaultMarkers) [] (.name "X") = some "b.X" ∧
      (resolve (modulesOf defaultMarkers circularSources)
        ((sourceAt circularAlias "a").index defaultMarkers) [] (.name "X")).isOk = true := by
    decide +kernel
  obtain ⟨hfound, hkeeps⟩ := @discovers_and_keeps_at _ ["a", "b"] hpaths rfl (by decide) hholds
  obtain ⟨between, hfirst, hsecond⟩ := Option.bind_eq_some_iff.mp hround
  obtain ⟨there, hthere, hname⟩ := Option.map_eq_some_iff.mp hsecond
  have hcycles : (modulesOf defaultMarkers circularSources).Cycles
      ((sourceAt circularAlias "a").index defaultMarkers, "b.X") :=
    ⟨_, there, _, .refl, .head (leadsOn_iff.mpr hfirst) (.single (leadsOn_iff.mpr hthere)), hlink,
      hname ▸ hlink⟩
  cases hresolve : resolve (modulesOf defaultMarkers circularSources)
      ((sourceAt circularAlias "a").index defaultMarkers) [] (.name "X") with
  | error fault =>
    rw [hresolve] at hresolves
    cases hresolves
  | ok outcome =>
    obtain ⟨ref, rfl, hclass, hreported⟩ := ((resolution_ends_and_cycles_have_no_class hfound
      hkeeps).2.2 _ _ _ _ hreference hcycles).2 outcome hresolve
    exact ⟨_, hreference, hcycles, ref, rfl, hclass, hreported⟩

end ServiceManifest
