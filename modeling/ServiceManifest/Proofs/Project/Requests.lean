import ServiceManifest.Proofs.Project.Memo
import ServiceManifest.Proofs.Project.Placed

/-!
# Supertypes do not depend on what was asked for before

In the modules that a scan comes to, a settled class has the same supertypes whatever was asked for
before, so what is reported of a marked class does not hang on the other marked classes. For a class
on a cycle this fails: one that is asked for while the closure of another is in progress keeps the
closure that was provisional then.
-/

namespace ServiceManifest

namespace Project

open ServiceManifest.Source

/-- A class that the module of its package has can be looked up. -/
theorem exists_declaration? {modules : Modules} {name : QualifiedName} {owner : ModuleIndex}
    (howner : Keyed.get? name.package modules = some owner)
    (hclass : owner.hasClass name.simpleNames = true) :
    ∃ found, declaration? modules name = some found := by
  obtain ⟨bases, hbases⟩ := hasClass_iff.mp hclass
  have hsome : (owner.classes.find? fun entry => entry.1 = name.simpleNames).isSome = true :=
    List.find?_isSome.mpr ⟨_, hbases, by simp⟩
  obtain ⟨entry, hentry⟩ := Option.isSome_iff_exists.mp hsome
  exact ⟨(owner, entry.2), by simp [declaration?, howner, ModuleIndex.basesOf?, hentry]⟩

section Scan

variable {tree : Disk.Tree} {root : Path} {markers : List String} {sources : List Source}
  {found : Discovery}

/-- In what a scan keeps, every class statement that a base stands for can be looked up: what stands
inside of a function has a name under its module, but no reference leads there. -/
theorem Keeps.areKnown (hkeeps : Keeps tree root found.units sources)
    (hfound : discover tree root = .ok found) : AreKnown markers sources := by
  rintro name above _ hbase ⟨other, hother, inner, -, -, rfl⟩ rfl
  obtain ⟨source, hsource, -, declared, -, -, -, expr, -, hstands⟩ := hbase
  have hfronted := @Keeps.isFronted tree root markers sources found hkeeps hfound
  rcases (hkeeps.areFronted hfound).places_of_standsFor (hfronted hsource) hstands with
    ⟨owner, howner, hclass⟩ | houtside
  · exact exists_declaration? howner hclass
  · have hpackage := (hfronted hother).name.ne_empty
    have hnone := houtside _ (package_mem_dottedPrefixes hpackage)
    cases (hkeeps.get?_index hother).symm.trans hnone

/-- The occurrences that are reported are found one after the other, so before each of them only
supertypes of class statements were asked for. -/
theorem exists_requested {entries : List (ModuleIndex × Candidate)} {closures : Closures}
    (hentries : ∀ entry ∈ entries, entry.2.kind ≠ .function →
      States markers sources ⟨entry.1, entry.2.path, entry.2.bases⟩)
    (hclosures : Requested markers sources closures) {occurrences : List Occurrence}
    (h : occurrencesFrom (modulesOf markers sources) entries closures = .ok occurrences)
    {reported : Occurrence} (hreported : reported ∈ occurrences)
    (hkind : reported.declaration.kind ≠ .function) :
    ∃ before statement after, Requested markers sources before ∧
      States markers sources statement ∧ statement.name = reported.declaration.name ∧
        supertypesOf markers sources before statement =
          .ok (reported.declaration.supertypes, after) := by
  induction entries generalizing closures occurrences with
  | nil =>
    cases h
    cases hreported
  | cons entry rest ih =>
    obtain ⟨first, after, more, hfirst, hrest, rfl⟩ := occurrencesFrom_cons_eq_ok h
    obtain ⟨hreports, hclosed⟩ := occurrence_eq_ok hfirst
    obtain ⟨hentry, hothers⟩ := List.forall_mem_cons.mp hentries
    rcases List.mem_cons.mp hreported with rfl | hreported
    · rw [hreports.kind] at hkind
      rw [if_neg hkind] at hclosed
      exact ⟨closures, _, after, hclosures, hentry hkind, hreports.name.symm, hclosed⟩
    · refine ih hothers ?_ hrest hreported
      split at hclosed
      · obtain ⟨-, rfl⟩ := Prod.mk.inj (Except.ok.inj hclosed)
        exact hclosures
      · rename_i hclass
        exact hclosures.next (hentry hclass) hclosed

/-- The marked classes of sources are class statements of theirs. -/
theorem states_of_mem_candidates {index : ModuleIndex} {candidate : Candidate}
    (h : (index, candidate) ∈ (modulesOf markers sources).candidates)
    (hkind : candidate.kind ≠ .function) :
    States markers sources ⟨index, candidate.path, candidate.bases⟩ := by
  obtain ⟨hindex, hcandidate⟩ := Modules.mem_candidates.mp h
  obtain ⟨source, hsource, rfl⟩ := exists_mem_modulesOf.mp hindex
  obtain ⟨declared, decorator, ⟨before, after, heq, -⟩, rfl⟩ :=
    Source.mem_candidates_index.mp hcandidate
  exact ⟨source, hsource, declared, by simp [heq], hkind, rfl⟩

/-- Sources of different modules, as a tree has them, are all kept. -/
theorem keeps_of_distinct (hnodup : (sources.map (·.unit.module)).Nodup)
    (hisIn : ∀ source ∈ sources, source.IsIn tree root) :
    Keeps tree root (sources.map (·.unit)) sources where
  nodup := hnodup
  isIn := hisIn
  units unit := by
    constructor
    · intro hunit
      obtain ⟨before, after, heq⟩ := List.append_of_mem hunit
      refine ⟨before, after, heq, fun later hlater hmodule => ?_⟩
      have hmodules : ((sources.map (·.unit)).map (·.module)).Nodup := by rwa [List.map_map]
      rw [heq, List.map_append, List.map_cons, List.nodup_append] at hmodules
      exact (List.nodup_cons.mp hmodules.2.1).1 (List.mem_map.mpr ⟨later, hlater, hmodule⟩)
    · rintro ⟨before, after, heq, -⟩
      simp [heq]

/-- The class statements of sources. -/
def classStatements (markers : List String) (sources : List Source) : List ClassStatement :=
  sources.flatMap fun source =>
    ((declarations source.statements).filter (·.kind ≠ .function)).map fun declared =>
      ⟨source.index markers, declared.path, declared.bases⟩

/-- The class statements of sources are those that they state. -/
theorem mem_classStatements {statement : ClassStatement} :
    statement ∈ classStatements markers sources ↔ States markers sources statement := by
  constructor
  · intro h
    obtain ⟨source, hsource, hmap⟩ := List.mem_flatMap.mp h
    obtain ⟨declared, hdeclared, rfl⟩ := List.mem_map.mp hmap
    obtain ⟨hmem, hkind⟩ := List.mem_filter.mp hdeclared
    exact ⟨source, hsource, declared, hmem, of_decide_eq_true hkind, rfl⟩
  · rintro ⟨source, hsource, declared, hdeclared, hkind, rfl⟩
    refine List.mem_flatMap.mpr ⟨source, hsource, List.mem_map.mpr ⟨declared, ?_, rfl⟩⟩
    exact List.mem_filter.mpr ⟨hdeclared, decide_eq_true hkind⟩

/-- Whether every base of a class statement has a lower rank than the class. -/
def basesAreLower (rank : QualifiedName → Nat) (modules : Modules) (statement : ClassStatement) :
    Bool :=
  statement.bases.all fun expr =>
    match baseClass? modules statement.index statement.path expr with
    | .ok (some base) => rank base < rank statement.name
    | _ => true

/-- If every base has a lower rank than its class, then so has all that edges lead to. -/
theorem rank_lt_of_transGen (rank : QualifiedName → Nat)
    (hrank : (classStatements markers sources).all (basesAreLower rank (modulesOf markers sources)) =
      true) {low high : QualifiedName}
    (h : Relation.TransGen (HasBase markers sources) low high) : rank high < rank low := by
  have hstep {low high : QualifiedName} (hbase : HasBase markers sources low high) :
      rank high < rank low := by
    obtain ⟨statement, hstated, rfl, expr, hexpr, hclass⟩ := hasBase_iff.mp hbase
    have hlower := List.all_eq_true.mp
      (List.all_eq_true.mp hrank statement (mem_classStatements.mpr hstated)) expr hexpr
    simpa only [hclass, decide_eq_true_eq] using hlower
  induction h with
  | single hbase => exact hstep hbase
  | tail _ hbase ih => exact (hstep hbase).trans ih

/-- If no two class statements have one name and every base has a lower rank than its class, every
class is settled. -/
theorem isSettled_of_rank (rank : QualifiedName → Nat)
    (hnodup : ((classStatements markers sources).map (·.name)).Nodup)
    (hrank : (classStatements markers sources).all (basesAreLower rank (modulesOf markers sources)) =
      true) (name : QualifiedName) : IsSettled markers sources name where
  alone _ _ _ hfirst hsecond hname hother :=
    List.inj_on_of_nodup_map hnodup (mem_classStatements.mpr hfirst)
      (mem_classStatements.mpr hsecond) (hname.trans hother.symm)
  apart _ hup hdown :=
    absurd (rank_lt_of_transGen rank hrank (hup.trans hdown)) (Nat.lt_irrefl _)

end Scan

end Project

open Project

/-- In what a scan keeps, the supertypes of a settled class statement are found, whatever was asked for
before, exactly if they are found when nothing was, and are the same then. So the supertypes that are
reported of a settled class are those that are found for it alone. -/
theorem settled_supertypes_do_not_depend_on_requests {tree : Disk.Tree} {root : Path}
    {markers : List String} {sources : List Source} {found : Discovery}
    (hfound : discover tree root = .ok found) (hkeeps : Keeps tree root found.units sources) :
    (∀ closures, Requested markers sources closures → ∀ statement,
      States markers sources statement → IsSettled markers sources statement.name → ∀ closure,
        (∃ after, supertypesOf markers sources closures statement = .ok (closure, after)) ↔
          ∃ after, supertypesOf markers sources [] statement = .ok (closure, after)) ∧
      ∀ occurrences, (modulesOf markers sources).occurrences = .ok occurrences →
        ∀ occurrence ∈ occurrences, occurrence.declaration.kind ≠ .function →
          IsSettled markers sources occurrence.declaration.name →
            ∃ statement after, States markers sources statement ∧
              statement.name = occurrence.declaration.name ∧
                supertypesOf markers sources [] statement =
                  .ok (occurrence.declaration.supertypes, after) := by
  have hknown : AreKnown markers sources := hkeeps.areKnown hfound
  have hsame {closures other : Closures} (hclosures : Requested markers sources closures)
      (hother : Requested markers sources other) {statement : ClassStatement}
      (hstated : States markers sources statement)
      (hsettled : IsSettled markers sources statement.name) {closure : ClassSet} {after : Closures}
      (hanswer : supertypesOf markers sources closures statement = .ok (closure, after)) :
      ∃ after, supertypesOf markers sources other statement = .ok (closure, after) := by
    obtain ⟨hresolves, hspec⟩ := hclosures.supertypesOf_spec hknown hstated hsettled
    obtain ⟨hsuccess, hotherSpec⟩ := hother.supertypesOf_spec hknown hstated hsettled
    obtain ⟨⟨set, last⟩, hset⟩ := hsuccess.mpr (hresolves.mp ⟨_, hanswer⟩)
    obtain ⟨hascending, hmem⟩ := hspec closure after hanswer
    obtain ⟨hotherAscending, hotherMem⟩ := hotherSpec set last hset
    obtain rfl : set = closure := Ascending.eq_of_mem_iff Ascending.nameBefore_isOrder
      hotherAscending hascending fun above => (hotherMem above).trans (hmem above).symm
    exact ⟨last, hset⟩
  refine ⟨fun closures hclosures statement hstated hsettled closure => ⟨?_, ?_⟩, ?_⟩
  · rintro ⟨after, hanswer⟩
    exact hsame hclosures .start hstated hsettled hanswer
  · rintro ⟨after, hanswer⟩
    exact hsame .start hclosures hstated hsettled hanswer
  · intro occurrences hoccurrences occurrence hmem hkind hsettled
    obtain ⟨before, statement, after, hbefore, hstated, hname, hanswer⟩ :=
      exists_requested (fun _ hentry => states_of_mem_candidates hentry) .start hoccurrences hmem hkind
    rw [← hname] at hsettled
    obtain ⟨last, hfresh⟩ := hsame hbefore .start hstated hsettled hanswer
    exact ⟨statement, last, hstated, hname, hfresh⟩

/-- If all source paths at the root of a tree make the units of sources that the tree has, a scan discovers
and keeps these. -/
theorem discovers_and_keeps {tree : Disk.Tree} {sources : List Source} {paths : List (List String)}
    (hlookup : tree.lookup ⟨"/", []⟩ = .ok ([], .folder)) (hpaths : sourcePaths tree [] = paths)
    (hdiscovers : paths.map discoverPath = sources.map fun source => ⟨[source.unit], []⟩)
    (hnodup : (sources.map (·.unit.module)).Nodup)
    (hisIn : ∀ source ∈ sources, source.IsIn tree ⟨"/", []⟩) :
    discover tree ⟨"/", []⟩ = .ok ⟨sources.map (·.unit), []⟩ ∧
      Keeps tree ⟨"/", []⟩ (sources.map (·.unit)) sources := by
  refine ⟨?_, keeps_of_distinct hnodup hisIn⟩
  rw [discover, hlookup]
  simp only [hpaths, hdiscovers, List.flatMap_map, ← List.map_eq_flatMap]
  simp

/-- The source that a file at the top of a tree makes of a module. -/
def sourceAt (tree : Disk.Tree) (module : String) : Source :=
  ⟨⟨module ++ ".py", module⟩, false,
    ((tree.file? [module ++ ".py"]).bind fun bytes => Source.parseModule bytes.toList).getD []⟩

/-- Whether a file at the top of a tree is found under the name of a module, and holds one. -/
def holdsModule (tree : Disk.Tree) (module : String) : Bool :=
  let path := Path.join ⟨"/", []⟩ (Path.ofString (module ++ ".py"))
  decide (tree.locate path = .ok [module ++ ".py"]) && decide (path.name ≠ packageFile) &&
    ((tree.file? [module ++ ".py"]).bind fun bytes => Source.parseModule bytes.toList).isSome

/-- The source at the top of a tree is what its file holds, if that is a module. -/
theorem sourceAt_isIn {tree : Disk.Tree} {module : String} (h : holdsModule tree module = true) :
    (sourceAt tree module).IsIn tree ⟨"/", []⟩ := by
  simp only [holdsModule, Bool.and_eq_true, decide_eq_true_eq] at h
  obtain ⟨⟨hlocate, hname⟩, hparse⟩ := h
  obtain ⟨statements, hstatements⟩ := Option.isSome_iff_exists.mp hparse
  obtain ⟨bytes, hfile, hparsed⟩ := Option.bind_eq_some_iff.mp hstatements
  have hlookup := Disk.Tree.lookup_eq_ok_iff.mpr ⟨hlocate, Disk.Tree.entry?_of_file? hfile⟩
  refine ⟨bytes, ?_, ?_, ?_⟩
  · rw [Disk.Tree.read]
    exact hlookup ▸ rfl
  · simp [sourceAt, hfile, hparsed]
  · simp [sourceAt, hname]

/-- A scan of a tree that holds modules at its top, and no others anywhere, discovers and keeps the
sources of these. -/
theorem discovers_and_keeps_at {tree : Disk.Tree} {modules : List String}
    (hpaths : sourcePaths tree [] = modules.map fun module => [module ++ ".py"])
    (hdiscovers : (modules.map fun module => [module ++ ".py"]).map discoverPath =
      modules.map fun module => ⟨[⟨module ++ ".py", module⟩], []⟩)
    (hnodup : modules.Nodup) (hholds : modules.all (holdsModule tree) = true) :
    discover tree ⟨"/", []⟩ = .ok ⟨(modules.map (sourceAt tree)).map (·.unit), []⟩ ∧
      Keeps tree ⟨"/", []⟩ ((modules.map (sourceAt tree)).map (·.unit))
        (modules.map (sourceAt tree)) := by
  refine discovers_and_keeps rfl hpaths ?_ ?_ fun source hsource => ?_
  · rw [hdiscovers, List.map_map]
    rfl
  · rw [List.map_map]
    exact (List.map_id' modules).symm ▸ hnodup
  · obtain ⟨module, hmodule, rfl⟩ := List.mem_map.mp hsource
    exact sourceAt_isIn (List.all_eq_true.mp hholds module hmodule)

/-- A module with a class, and one with two marked classes, of which the second descends from it
through the first. -/
def chain : Disk.Tree :=
  ⟨[(["base.py"], .file "class Base: pass\n".toUTF8),
    (["m.py"], .file ("from autoservice import auto_service\nfrom base import Base\n" ++
      "@auto_service(Base)\nclass A(Base): pass\n@auto_service(Base)\nclass B(A): pass\n").toUTF8)],
    []⟩

/-- The sources of the chain. -/
def chainSources : List Source := [sourceAt chain "base", sourceAt chain "m"]

/-- How far up the base edges of the chain lead from a class. -/
def chainRank (name : QualifiedName) : Nat :=
  if name = ⟨"m", ["B"]⟩ then 2 else if name = ⟨"m", ["A"]⟩ then 1 else 0

/-- The answer for the class statement of a name among sources. -/
def answerFor (sources : List Source) (closures : Closures) (name : QualifiedName) :
    Option (ClassSet × Closures) :=
  ((classStatements defaultMarkers sources).find? (·.name = name)).bind fun statement =>
    (supertypesOf defaultMarkers sources closures statement).toOption

/-- An answer is one of supertypes that are asked for. -/
theorem exists_of_answerFor {sources : List Source} {closures : Closures} {name : QualifiedName}
    {found : ClassSet × Closures} (h : answerFor sources closures name = some found) :
    ∃ statement, States defaultMarkers sources statement ∧ statement.name = name ∧
      supertypesOf defaultMarkers sources closures statement = .ok found := by
  obtain ⟨statement, hfind, hanswer⟩ := Option.bind_eq_some_iff.mp h
  refine ⟨statement, mem_classStatements.mp (List.mem_of_find?_eq_some hfind),
    by simpa using List.find?_some hfind, ?_⟩
  cases hresult : supertypesOf defaultMarkers sources closures statement with
  | error fault =>
    rw [hresult] at hanswer
    cases hanswer
  | ok result =>
    rw [hresult] at hanswer
    exact congrArg Except.ok (Option.some.inj hanswer)

/-- After the first marked class was asked for, the second has the supertypes that it has alone. -/
theorem chain_supertypes_do_not_depend_on_requests :
    ∃ statement known, States defaultMarkers chainSources statement ∧
      statement.name = ⟨"m", ["B"]⟩ ∧ IsSettled defaultMarkers chainSources statement.name ∧
      Requested defaultMarkers chainSources known ∧ known ≠ [] ∧
      ∃ after, supertypesOf defaultMarkers chainSources [] statement =
        .ok ([⟨"base", ["Base"]⟩, .object, ⟨"m", ["A"]⟩], after) := by
  -- What is evaluated stands together, so that the modules are parsed once.
  obtain ⟨hpaths, hholds, hrank, hnodup, hanswers⟩ :
      sourcePaths chain [] = [["base.py"], ["m.py"]] ∧
      ["base", "m"].all (holdsModule chain) = true ∧
      (classStatements defaultMarkers chainSources).all
        (basesAreLower chainRank (modulesOf defaultMarkers chainSources)) = true ∧
      ((classStatements defaultMarkers chainSources).map (·.name)).Nodup ∧
      ((answerFor chainSources [] ⟨"m", ["A"]⟩).bind fun found =>
        (answerFor chainSources found.2 ⟨"m", ["B"]⟩).map fun last => (found.2.isEmpty, last.1)) =
          some (false, [⟨"base", ["Base"]⟩, .object, ⟨"m", ["A"]⟩]) := by
    decide +kernel
  obtain ⟨hfound, hkeeps⟩ := @discovers_and_keeps_at _ ["base", "m"] hpaths rfl (by decide) hholds
  have hsettled : ∀ name, IsSettled defaultMarkers chainSources name :=
    isSettled_of_rank chainRank hnodup hrank
  obtain ⟨⟨closure, known⟩, hfirst, hsecond⟩ := Option.bind_eq_some_iff.mp hanswers
  obtain ⟨⟨last, after⟩, hlast, hresult⟩ := Option.map_eq_some_iff.mp hsecond
  obtain ⟨hknown, rfl⟩ := Prod.mk.inj hresult
  obtain ⟨first, hstatedFirst, -, hanswerFirst⟩ := exists_of_answerFor hfirst
  obtain ⟨statement, hstated, hname, hanswer⟩ := exists_of_answerFor hlast
  have hrequested : Requested defaultMarkers chainSources known :=
    .next .start hstatedFirst hanswerFirst
  have htransparent := (settled_supertypes_do_not_depend_on_requests hfound hkeeps).1 known hrequested
    statement hstated (hsettled _)
  refine ⟨statement, known, hstated, hname, hsettled _, hrequested, ?_,
    (htransparent _).mp ⟨after, hanswer⟩⟩
  rintro rfl
  cases hknown

/-- A module in which a class descends from an imported class under the name that the class below it
takes afterwards, and from another one. -/
def renamedBase : Disk.Tree :=
  ⟨[(["m.py"], .file ("from base import Base as Plugin, Extra\n" ++
      "class Mixin(Plugin, Extra): pass\nclass Plugin(Mixin): pass\n").toUTF8)], []⟩

/-- On a cycle what is found depends on what was asked for: alone the class below has all that is
above it, but after the class above it was asked for its closure stays provisional. -/
theorem renamedBase_supertypes_depend_on_requests :
    (answerFor [sourceAt renamedBase "m"] [] ⟨"m", ["Plugin"]⟩).map (·.1) =
        some [⟨"base", ["Extra"]⟩, .object, ⟨"m", ["Mixin"]⟩, ⟨"m", ["Plugin"]⟩] ∧
      ((answerFor [sourceAt renamedBase "m"] [] ⟨"m", ["Mixin"]⟩).bind fun found =>
        (answerFor [sourceAt renamedBase "m"] found.2 ⟨"m", ["Plugin"]⟩).map (·.1)) =
          some [.object, ⟨"m", ["Mixin"]⟩] := by
  decide +kernel

end ServiceManifest
