import Mathlib.Data.List.Chain
import ServiceManifest.Proofs.Project.Inside
import ServiceManifest.Proofs.Project.Failures
import ServiceManifest.Proofs.Project.Sites

/-!
# Chains of names that are handed on

A module may hand on what it has imported from one that has imported it in turn, and so on up to the module
that has the class. Whatever the length of such a chain, the first name of it, with names nested in it or
without, stands for the class at its end. Aliases may be links of a chain as well, as long as nothing stands
behind the name: the reference is then one to the alias, of which the class at the end is the nearest.
-/

namespace ServiceManifest

namespace Project

open ServiceManifest.Source

/-- The absolute name of what a link is about, with names nested in it. -/
def Link.absolute (link : Link) (nested : List String) : String :=
  ".".intercalate (link.1 :: link.2 :: nested)

namespace Modules

/-- No module of a project is named like a link or lies below it. -/
def LeavesFree (modules : Modules) (link : Link) : Prop :=
  ∀ name ∈ Keyed.keys modules, ¬nameParts '.' (link.absolute []) <+: nameParts '.' name

/-- The module of a link has imported its name as that of another link, and has neither a class nor an
alias of the name. -/
def HandsOn (modules : Modules) (link next : Link) : Prop :=
  ∃ index, Keyed.get? link.1 modules = some index ∧
    Keyed.get? link.2 index.imports = some (next.absolute []) ∧
      index.hasClass [link.2] = false ∧ Keyed.get? link.2 index.aliases = none

/-- The name of a link is an alias in its module for a dotted name that is that of another link. -/
def Renames (modules : Modules) (link next : Link) : Prop :=
  ∃ index value dotted, Keyed.get? link.1 modules = some index ∧
    Keyed.get? link.2 index.aliases = some value ∧ value.dottedName? = some dotted ∧
      index.absolute [] dotted = next.absolute []

/-- A link leads to another if its name is handed on from there, or renames what is there. -/
def LeadsTo (modules : Modules) (link next : Link) : Prop :=
  modules.HandsOn link next ∨ modules.Renames link next

/-- The links of a project that are open while some are being followed. -/
def linksBut (modules : Modules) (seen : List Link) : List Link := seen.foldr close modules.links

end Modules

section Split

variable {modules : Modules} {link : Link} {target : ModuleIndex} {nested : List String}

/-- A name is split at a front part that is a module, if no longer one is. -/
theorem Modules.splitAt_eq {parts : List String} {n count : Nat} (hn : n < count)
    (htarget : Keyed.get? (".".intercalate (parts.take (n + 1))) modules = some target)
    (hlonger : ∀ m, n < m → m < count →
      Keyed.get? (".".intercalate (parts.take (m + 1))) modules = none) :
    modules.splitAt parts count = some (target, parts.drop (n + 1)) := by
  induction count with
  | zero => exact absurd hn (Nat.not_lt_zero n)
  | succ count ih =>
    rw [Modules.splitAt]
    rcases Nat.lt_succ_iff_lt_or_eq.mp hn with hless | rfl
    · rw [hlonger count hless (Nat.lt_succ_self count)]
      exact ih hless fun m hlow hhigh => hlonger m hlow (Nat.lt_succ_of_lt hhigh)
    · rw [htarget]

/-- The name of a link has the parts of its module and the names behind it. -/
theorem Link.nameParts_absolute (hnames : ∀ name ∈ link.2 :: nested, '.' ∉ name.toList) :
    nameParts '.' (link.absolute nested) = nameParts '.' link.1 ++ link.2 :: nested := by
  rw [Link.absolute, nameParts_intercalate_eq_flatMap (List.cons_ne_nil _ _), List.flatMap_cons,
    List.flatMap_congr fun name hname => nameParts_eq_singleton (hnames name hname),
    List.flatMap_singleton']

/-- The name of a link is split behind its module, if no module has it or lies below it. -/
theorem Modules.LeavesFree.splitOf (hfree : modules.LeavesFree link)
    (htarget : Keyed.get? link.1 modules = some target)
    (hnames : ∀ name ∈ link.2 :: nested, '.' ∉ name.toList) :
    modules.splitOf (link.absolute nested) = some (target, link.2 :: nested) := by
  obtain ⟨n, hn⟩ := Nat.exists_eq_add_one_of_ne_zero
    (List.length_pos_of_ne_nil (nameParts_ne_nil link.1)).ne'
  have hfront : nameParts '.' (link.absolute []) <+: nameParts '.' link.1 ++ link.2 :: nested := by
    rw [Link.nameParts_absolute (List.forall_mem_singleton.mpr (hnames _ List.mem_cons_self))]
    exact List.prefix_append_right_inj _ |>.mpr ⟨nested, rfl⟩
  have hlength : (nameParts '.' (link.absolute [])).length = n + 2 := by
    rw [Link.nameParts_absolute (List.forall_mem_singleton.mpr (hnames _ List.mem_cons_self))]
    simp [hn]
  have hnodot : ∀ part ∈ nameParts '.' link.1 ++ link.2 :: nested, '.' ∉ part.toList :=
    List.forall_mem_append.mpr ⟨fun part hpart => not_mem_of_mem_nameParts hpart, hnames⟩
  rw [Modules.splitOf, Link.nameParts_absolute hnames, Modules.splitAt_eq (n := n)]
  · rw [← hn, List.drop_left]
  · simp only [List.length_append, hn]
    omega
  · rw [← hn, List.take_left, intercalate_nameParts, htarget]
  · intro m hlow _
    rw [Keyed.get?_eq_none_iff]
    intro hmem
    -- A longer front part would be a module that has the name of the link or lies below it.
    refine hfree _ hmem ?_
    rw [nameParts_intercalate (by simp) fun part hpart => hnodot part (List.mem_of_mem_take hpart),
      List.prefix_take_iff]
    exact ⟨hfront, by omega⟩

end Split

section Step

variable {modules : Modules} {open_ : List Link} {link next : Link} {nested : List String}

/-- Names behind the name of a link are names behind the link. -/
theorem Link.absolute_eq_intercalate (link : Link) (nested : List String) :
    link.absolute nested = ".".intercalate (link.absolute [] :: nested) := by
  cases nested <;> simp [Link.absolute, String.intercalate_cons_cons, String.append_assoc]

/-- A name that is handed on stands for what the name stands for that it is handed on from. -/
theorem Modules.HandsOn.qualified (h : modules.HandsOn link next)
    (hnamed : ∀ name index, Keyed.get? name modules = some index → index.name = name)
    (hfree : modules.LeavesFree link) (hnames : ∀ name ∈ link.2 :: nested, '.' ∉ name.toList)
    (hopen : link ∈ open_) (index : ModuleIndex) :
    ∃ target, qualified modules open_ index (link.absolute nested) =
      qualified modules (close link open_) target (next.absolute nested) := by
  obtain ⟨target, htarget, himport, hclass, halias⟩ := h
  obtain ⟨module, name⟩ := link
  obtain rfl := hnamed _ _ htarget
  have hbinding : target.binding name nested = .imported (next.absolute []) := by
    unfold ModuleIndex.binding
    simp [halias, hclass, himport]
  rw [qualified_of_imported (hfree.splitOf htarget hnames) hbinding, if_pos hopen,
    ← Link.absolute_eq_intercalate]
  exact ⟨target, rfl⟩

/-- A name that is an alias has the nearest class of the name that it is an alias for. -/
theorem Modules.Renames.qualified (h : modules.Renames link next)
    (hnamed : ∀ name index, Keyed.get? name modules = some index → index.name = name)
    (hfree : modules.LeavesFree link) (hname : '.' ∉ link.2.toList)
    (hopen : link ∈ open_) (index : ModuleIndex) :
    ∃ target, qualified modules open_ index (link.absolute []) =
      (qualified modules (close link open_) target (next.absolute [])).map fun found =>
        aliasRef link.1 link.2 (some found) := by
  obtain ⟨target, value, dotted, htarget, halias, hdotted, habsolute⟩ := h
  obtain ⟨module, name⟩ := link
  obtain rfl := hnamed _ _ htarget
  have hbinding : target.binding name [] = .aliased value := by
    unfold ModuleIndex.binding
    simp [halias]
  rw [qualified_of_alias (hfree.splitOf htarget (List.forall_mem_singleton.mpr hname)) hbinding,
    if_pos hopen, typeRefBy_of_dottedName? hdotted, habsolute]
  refine ⟨target, ?_⟩
  cases Project.qualified modules (close (target.name, name) open_) target (next.absolute []) <;> rfl

/-- All names lead through classes if those up to each of them do. -/
theorem classDepth_eq_length {index : ModuleIndex} {done rest : List String}
    (h : ∀ front, front <+: rest → front ≠ [] → index.hasClass (done ++ front) = true) :
    classDepth index done rest = rest.length := by
  induction rest generalizing done with
  | nil => rfl
  | cons name rest ih =>
    have hname := h [name] ⟨rest, rfl⟩ (List.cons_ne_nil _ _)
    have hrest : ∀ front, front <+: rest → front ≠ [] →
        index.hasClass (done ++ [name] ++ front) = true := by
      intro front hfront _
      rw [List.append_assoc]
      exact h (name :: front) (List.cons_prefix_cons.mpr ⟨rfl, hfront⟩) (List.cons_ne_nil _ _)
    rw [classDepth, if_pos hname, ih hrest, List.length_cons]

/-- A module with a class has those around it. -/
def ModuleIndex.ClassesAreNested (index : ModuleIndex) : Prop :=
  ∀ path front, index.hasClass path = true → front <+: path → front ≠ [] →
    index.hasClass front = true

/-- The path of a class stands for the class. -/
theorem memberOf_eq_classRef {index : ModuleIndex} (hnested : index.ClassesAreNested)
    {path : ClassPath} (hclass : index.hasClass path = true) :
    memberOf index path = classRef ⟨index.name, path⟩ := by
  unfold memberOf
  simp only
  rw [if_pos (classDepth_eq_length fun front hfront hne => hnested path front hclass hfront hne)]

/-- A class is found by its absolute name, unless its outermost name is an alias and has none behind it. -/
theorem qualified_of_hasClass {owner : ModuleIndex} (howner : Keyed.get? link.1 modules = some owner)
    (hnamed : ∀ name index, Keyed.get? name modules = some index → index.name = name)
    (hnested : owner.ClassesAreNested) (hfree : modules.LeavesFree link)
    (hnames : ∀ name ∈ link.2 :: nested, '.' ∉ name.toList)
    (hclass : owner.hasClass (link.2 :: nested) = true)
    (halias : nested = [] → Keyed.get? link.2 owner.aliases = none) (index : ModuleIndex) :
    qualified modules open_ index (link.absolute nested) =
      .ok (classRef ⟨link.1, link.2 :: nested⟩) := by
  have houter : owner.hasClass [link.2] = true :=
    hnested _ [link.2] hclass ⟨nested, rfl⟩ (List.cons_ne_nil _ _)
  have hbinding : owner.binding link.2 nested = .own := by
    unfold ModuleIndex.binding
    cases nested with
    | nil => simp [halias rfl, houter]
    | cons => simp [houter]
  rw [qualified_of_own (hfree.splitOf howner hnames) hbinding, memberOf_eq_classRef hnested hclass,
    hnamed _ _ howner]

/-- A class at the top level of its module that is no alias there. -/
structure Modules.EndsAt (modules : Modules) (link : Link) (owner : ModuleIndex) : Prop where
  module : Keyed.get? link.1 modules = some owner
  isClass : owner.hasClass [link.2] = true
  noAlias : Keyed.get? link.2 owner.aliases = none

end Step

section Chain

variable {modules : Modules} {open_ links : List Link} {last : Link} {owner : ModuleIndex}
  {nested : List String}

/-- Links lead on from one to the next if the first does, to what is next, and the rest do. -/
theorem isChain_cons_concat {R : Link → Link → Prop} {link : Link} :
    List.IsChain R (link :: links ++ [last]) ↔
      R link (links.headD last) ∧ List.IsChain R (links ++ [last]) := by
  cases links <;> simp

/-- What links hand on from one to the next is the class at the end. -/
theorem qualified_of_isChain
    (hnamed : ∀ name index, Keyed.get? name modules = some index → index.name = name)
    (hchain : List.IsChain modules.HandsOn (links ++ [last])) (hnodup : links.Nodup)
    (hopen : ∀ link ∈ links, link ∈ open_) (hends : modules.EndsAt last owner)
    (hnested : owner.ClassesAreNested)
    (hfree : ∀ link ∈ links ++ [last], modules.LeavesFree link)
    (hnames : ∀ link ∈ links ++ [last], ∀ name ∈ link.2 :: nested, '.' ∉ name.toList)
    (hclass : owner.hasClass (last.2 :: nested) = true) (index : ModuleIndex) :
    qualified modules open_ index ((links.headD last).absolute nested) =
      .ok (classRef ⟨last.1, last.2 :: nested⟩) := by
  induction links generalizing open_ index with
  | nil =>
    exact qualified_of_hasClass hends.module hnamed hnested (hfree last List.mem_cons_self)
      (hnames last List.mem_cons_self) hclass (fun _ => hends.noAlias) index
  | cons link rest ih =>
    obtain ⟨hlink, hrest⟩ := isChain_cons_concat.mp hchain
    obtain ⟨hfirst, hnodup⟩ := List.nodup_cons.mp hnodup
    obtain ⟨hfreeFirst, hfree⟩ := List.forall_mem_cons.mp hfree
    obtain ⟨hnamesFirst, hnames⟩ := List.forall_mem_cons.mp hnames
    obtain ⟨hopenFirst, hopen⟩ := List.forall_mem_cons.mp hopen
    obtain ⟨target, hstep⟩ := hlink.qualified hnamed hfreeFirst hnamesFirst hopenFirst index
    rw [List.headD_cons, hstep]
    refine ih hrest hnodup (fun other hother => mem_close_iff.mpr ⟨hopen other hother, ?_⟩) hfree hnames
      target
    rintro rfl
    exact hfirst hother

/-- What links hand on or rename from one to the next has the class at the end as its nearest. -/
theorem closestClass_of_isChain
    (hnamed : ∀ name index, Keyed.get? name modules = some index → index.name = name)
    (hchain : List.IsChain modules.LeadsTo (links ++ [last])) (hnodup : links.Nodup)
    (hopen : ∀ link ∈ links, link ∈ open_)
    (hends : modules.EndsAt last owner) (hnested : owner.ClassesAreNested)
    (hfree : ∀ link ∈ links ++ [last], modules.LeavesFree link)
    (hnames : ∀ link ∈ links ++ [last], '.' ∉ link.2.toList) (index : ModuleIndex) :
    ∃ ref, qualified modules open_ index ((links.headD last).absolute []) = .ok ref ∧
      ref.closestClass = some ⟨last.1, [last.2]⟩ := by
  induction links generalizing open_ index with
  | nil =>
    have hname := hnames last List.mem_cons_self
    exact ⟨_, qualified_of_hasClass hends.module hnamed hnested (hfree last List.mem_cons_self)
      (List.forall_mem_singleton.mpr hname) hends.isClass (fun _ => hends.noAlias) index, rfl⟩
  | cons link rest ih =>
    obtain ⟨hlink, hrest⟩ := isChain_cons_concat.mp hchain
    obtain ⟨hfirst, hnodup⟩ := List.nodup_cons.mp hnodup
    obtain ⟨hfreeFirst, hfree⟩ := List.forall_mem_cons.mp hfree
    obtain ⟨hname, hnames⟩ := List.forall_mem_cons.mp hnames
    obtain ⟨hopenFirst, hopen⟩ := List.forall_mem_cons.mp hopen
    have hstill : ∀ other ∈ rest, other ∈ close link open_ := by
      refine fun other hother => mem_close_iff.mpr ⟨hopen other hother, ?_⟩
      rintro rfl
      exact hfirst hother
    rw [List.headD_cons]
    rcases hlink with hlink | hlink
    · obtain ⟨target, hstep⟩ := hlink.qualified hnamed hfreeFirst
        (List.forall_mem_singleton.mpr hname) hopenFirst index
      rw [hstep]
      exact ih hrest hnodup hstill hfree hnames target
    · obtain ⟨target, hstep⟩ := hlink.qualified hnamed hfreeFirst hname hopenFirst index
      obtain ⟨found, hfound, hclosest⟩ := ih hrest hnodup hstill hfree hnames target
      rw [hstep, hfound]
      refine ⟨_, rfl, ?_⟩
      rw [closestClass_aliasRef]
      exact hclosest

end Chain

section Scan

variable {tree : Disk.Tree} {root : Path} {markers : List String} {sources : List Source}
  {found : Discovery}

/-- A link that leads to another is a link of the project. -/
theorem Modules.LeadsTo.mem_links {modules : Modules} {link next : Link}
    (h : modules.LeadsTo link next) : link ∈ modules.links := by
  rcases h with ⟨index, hindex, himport, -⟩ | ⟨index, value, dotted, hindex, halias, -⟩
  · exact Project.mem_links.mpr ⟨index, Keyed.mem_of_get?_eq_some hindex,
      .inr (List.mem_map_of_mem (Keyed.mem_of_get?_eq_some himport))⟩
  · exact Project.mem_links.mpr ⟨index, Keyed.mem_of_get?_eq_some hindex,
      .inl (List.mem_map_of_mem (Keyed.mem_of_get?_eq_some halias))⟩

/-- Where names in modules are simple, what leads to another link is a simple name. -/
theorem Modules.LeadsTo.isSimple {modules : Modules} {link next : Link}
    (h : modules.LeadsTo link next) (hmodules : modules.NamesAreSimple) : IsSimple link.2 := by
  rcases h with ⟨index, hindex, himport, -⟩ | ⟨index, value, dotted, hindex, halias, -⟩
  · exact (hmodules _ _ hindex).dotted.bound _ _ himport
  · exact ((hmodules _ _ hindex).aliases _ _ halias).1

/-- All links of a chain but the last lead on to one. -/
theorem exists_next_of_isChain {R : Link → Link → Prop} {links : List Link} {last : Link}
    (h : List.IsChain R (links ++ [last])) : ∀ link ∈ links, ∃ next, R link next := by
  induction links with
  | nil => nofun
  | cons link rest ih =>
    obtain ⟨hlink, hrest⟩ := isChain_cons_concat.mp h
    exact List.forall_mem_cons.mpr ⟨⟨_, hlink⟩, ih hrest⟩

/-- The links that are open are those of the project but for the ones that are being followed. -/
theorem Modules.mem_linksBut {modules : Modules} {seen : List Link} {link : Link} :
    link ∈ modules.linksBut seen ↔ link ∈ modules.links ∧ link ∉ seen := by
  induction seen with
  | nil => simp [Modules.linksBut]
  | cons first rest ih =>
    rw [Modules.linksBut, List.foldr_cons, mem_close_iff, ← Modules.linksBut, ih, List.mem_cons, not_or]
    tauto

/-- The links of a chain are open if none of them is being followed. -/
theorem Modules.mem_linksBut_of_isChain {modules : Modules} {links seen : List Link} {last : Link}
    (h : List.IsChain modules.LeadsTo (links ++ [last])) (hseen : ∀ link ∈ links, link ∉ seen) :
    ∀ link ∈ links, link ∈ modules.linksBut seen := by
  intro link hlink
  obtain ⟨next, hnext⟩ := exists_next_of_isChain h link hlink
  exact Modules.mem_linksBut.mpr ⟨hnext.mem_links, hseen link hlink⟩

/-- A module that a scan keeps has the classes around each of its own. -/
theorem Keeps.classesAreNested (hkeeps : Keeps tree root found.units sources) {name : String}
    {owner : ModuleIndex} (howner : Keyed.get? name (modulesOf markers sources) = some owner) :
    owner.ClassesAreNested := by
  obtain ⟨source, -, -, rfl⟩ := (get?_modulesOf hkeeps.nodup).mp howner
  exact fun path front hclass => hasClass_of_prefix hclass

/-- Names in the modules that a scan keeps are simple. -/
theorem Keeps.namesAreSimple (hkeeps : Keeps tree root found.units sources)
    (hfound : discover tree root = .ok found) : (modulesOf markers sources).NamesAreSimple :=
  namesAreSimple_modulesOf fun source hsource => source.namesAreSimple (hkeeps.isIn source hsource)
    (isImportable_of_discover hfound (hkeeps.mem_units hsource))

/-- The names of the classes of a module that a scan keeps are without dots. -/
theorem Keeps.not_mem_of_hasClass (hkeeps : Keeps tree root found.units sources)
    (hfound : discover tree root = .ok found) {module : String} {owner : ModuleIndex}
    (howner : Keyed.get? module (modulesOf markers sources) = some owner) {path : ClassPath}
    (hclass : owner.hasClass path = true) : ∀ name ∈ path, '.' ∉ name.toList := by
  have hsimple := hkeeps.namesAreSimple hfound module owner howner
  obtain ⟨bases, hbases⟩ := hasClass_iff.mp hclass
  exact fun name hname => ((hsimple.classes _ hbases).1.2 name hname).not_mem

/-- The names of the links of a chain but the last are without dots. -/
theorem Keeps.not_mem_of_isChain (hkeeps : Keeps tree root found.units sources)
    (hfound : discover tree root = .ok found) {links : List Link} {last : Link}
    (h : List.IsChain (modulesOf markers sources).LeadsTo (links ++ [last])) :
    ∀ link ∈ links, '.' ∉ link.2.toList := by
  intro link hlink
  obtain ⟨next, hnext⟩ := exists_next_of_isChain h link hlink
  exact (hnext.isSimple (hkeeps.namesAreSimple hfound)).not_mem

end Scan

end Project

open Project

/-- In what a scan keeps, let links lead on from one to the next without coming back, to a class at the
top level of its module that is no alias there. No module is named like a link or lies below it. If each
link but the last is a name that its module imports as the next, having neither a class nor an alias of it,
then the name of the first, with names nested in it, stands for the class of these names at the end: in
whatever module it is seen, and whatever other links are being followed. If some of the links are aliases
for the next instead, the name of the first still has the class at the end as its nearest. -/
theorem chains_of_names_are_transparent {tree : Disk.Tree} {root : Path} {markers : List String}
    {sources : List Source} {found : Discovery} (hfound : discover tree root = .ok found)
    (hkeeps : Keeps tree root found.units sources) {links seen : List Link} {last : Link}
    {owner : ModuleIndex} (hends : (modulesOf markers sources).EndsAt last owner)
    (hnodup : links.Nodup) (hseen : ∀ link ∈ links, link ∉ seen)
    (hfree : ∀ link ∈ links ++ [last], (modulesOf markers sources).LeavesFree link)
    (index : ModuleIndex) :
    (List.IsChain (modulesOf markers sources).HandsOn (links ++ [last]) →
      ∀ nested, owner.hasClass (last.2 :: nested) = true →
        qualified (modulesOf markers sources) ((modulesOf markers sources).linksBut seen) index
          ((links.headD last).absolute nested) = .ok (classRef ⟨last.1, last.2 :: nested⟩)) ∧
    (List.IsChain (modulesOf markers sources).LeadsTo (links ++ [last]) →
      ∃ ref, qualified (modulesOf markers sources) ((modulesOf markers sources).linksBut seen) index
          ((links.headD last).absolute []) = .ok ref ∧
        ref.closestClass = some ⟨last.1, [last.2]⟩) := by
  have hfronted : (modulesOf markers sources).AreFronted := hkeeps.areFronted hfound
  have hnested : owner.ClassesAreNested := hkeeps.classesAreNested hends.module
  have hclassNames {path : ClassPath} (hclass : owner.hasClass path = true) :
      ∀ name ∈ path, '.' ∉ name.toList := hkeeps.not_mem_of_hasClass hfound hends.module hclass
  constructor
  · intro hchain nested hclass
    have hleads : List.IsChain (modulesOf markers sources).LeadsTo (links ++ [last]) :=
      hchain.imp fun _ _ => .inl
    refine qualified_of_isChain hfronted.name hchain hnodup
      (Modules.mem_linksBut_of_isChain hleads hseen) hends hnested hfree ?_ hclass index
    have hinner := (List.forall_mem_cons.mp (hclassNames hclass)).2
    refine List.forall_mem_append.mpr ⟨fun link hlink => ?_, ?_⟩
    · exact List.forall_mem_cons.mpr ⟨hkeeps.not_mem_of_isChain hfound hleads link hlink, hinner⟩
    · exact List.forall_mem_singleton.mpr (hclassNames hclass)
  · intro hchain
    refine closestClass_of_isChain hfronted.name hchain hnodup
      (Modules.mem_linksBut_of_isChain hchain hseen) hends hnested hfree ?_ index
    exact List.forall_mem_append.mpr ⟨hkeeps.not_mem_of_isChain hfound hchain,
      List.forall_mem_singleton.mpr (hclassNames hends.isClass _ List.mem_cons_self)⟩

/-- A module with a class and one in it, one that imports the class under another name, one that imports
it from there under a third, and one with an alias for that. -/
def relay : Disk.Tree :=
  ⟨[(["api.py"], .file "from core import Root as Service\n".toUTF8),
    (["box.py"], .file "from lib import Plugin\nBox: TypeAlias = Plugin\n".toUTF8),
    (["core.py"], .file "class Root:\n    class Inner: pass\n".toUTF8),
    (["lib.py"], .file "from api import Service as Plugin\n".toUTF8)], []⟩

/-- The modules of the relay. -/
def relayModules : Modules :=
  modulesOf defaultMarkers (["api", "box", "core", "lib"].map (sourceAt relay))

/-- While an import is being followed, the third name with the inner one stands for the inner class, and
the alias for it has the outer class as its nearest. -/
theorem relay_names_lead_to_the_classes :
    qualified relayModules (relayModules.linksBut [("box", "Plugin")])
        ((sourceAt relay "core").index defaultMarkers) "lib.Plugin.Inner" =
      .ok (classRef ⟨"core", ["Root", "Inner"]⟩) ∧
    ∃ ref, qualified relayModules (relayModules.linksBut [("box", "Plugin")])
        ((sourceAt relay "core").index defaultMarkers) "box.Box" = .ok ref ∧
      ref.closestClass = some ⟨"core", ["Root"]⟩ := by
  -- What is evaluated stands together, so that the modules are parsed once.
  obtain ⟨hpaths, hholds, hapi, hlib, hbox, hcore⟩ :
      sourcePaths relay [] = [["api.py"], ["box.py"], ["core.py"], ["lib.py"]] ∧
      ["api", "box", "core", "lib"].all (holdsModule relay) = true ∧
      (Keyed.get? "Service" ((sourceAt relay "api").index defaultMarkers).imports = some "core.Root" ∧
        ((sourceAt relay "api").index defaultMarkers).hasClass ["Service"] = false ∧
        Keyed.get? "Service" ((sourceAt relay "api").index defaultMarkers).aliases = none) ∧
      (Keyed.get? "Plugin" ((sourceAt relay "lib").index defaultMarkers).imports = some "api.Service" ∧
        ((sourceAt relay "lib").index defaultMarkers).hasClass ["Plugin"] = false ∧
        Keyed.get? "Plugin" ((sourceAt relay "lib").index defaultMarkers).aliases = none) ∧
      ((Keyed.get? "Box" ((sourceAt relay "box").index defaultMarkers).aliases).bind
          Source.Expr.dottedName? = some "Plugin" ∧
        ((sourceAt relay "box").index defaultMarkers).absolute [] "Plugin" = "lib.Plugin") ∧
      (((sourceAt relay "core").index defaultMarkers).hasClass ["Root"] = true ∧
        Keyed.get? "Root" ((sourceAt relay "core").index defaultMarkers).aliases = none ∧
        ((sourceAt relay "core").index defaultMarkers).hasClass ["Root", "Inner"] = true) := by
    decide +kernel
  obtain ⟨hfound, hkeeps⟩ :=
    @discovers_and_keeps_at _ ["api", "box", "core", "lib"] hpaths rfl (by decide) hholds
  have hmodule (module : String) (hmem : module ∈ ["api", "box", "core", "lib"]) :
      Keyed.get? module relayModules = some ((sourceAt relay module).index defaultMarkers) := by
    have hsource := List.mem_map_of_mem (f := sourceAt relay) hmem
    exact (get?_modulesOf hkeeps.nodup).mpr ⟨_, hsource, rfl, rfl⟩
  have hends : relayModules.EndsAt ("core", "Root") ((sourceAt relay "core").index defaultMarkers) :=
    ⟨hmodule "core" (by decide), hcore.1, hcore.2.1⟩
  have hservice : relayModules.HandsOn ("api", "Service") ("core", "Root") :=
    ⟨_, hmodule "api" (by decide), hapi⟩
  have hplugin : relayModules.HandsOn ("lib", "Plugin") ("api", "Service") :=
    ⟨_, hmodule "lib" (by decide), hlib⟩
  have hbox : relayModules.Renames ("box", "Box") ("lib", "Plugin") := by
    obtain ⟨value, halias, hdotted⟩ := Option.bind_eq_some_iff.mp hbox.1
    exact ⟨_, value, "Plugin", hmodule "box" (by decide), halias, hdotted, hbox.2⟩
  have hfree : ∀ link ∈ [("box", "Box"), ("lib", "Plugin"), ("api", "Service"), ("core", "Root")],
      relayModules.LeavesFree link := by
    have hkeys : Keyed.keys relayModules = ["api", "box", "core", "lib"] := keys_modulesOf _ _
    unfold Modules.LeavesFree
    rw [hkeys]
    decide +kernel
  refine ⟨?_, ?_⟩
  · have hchain : List.IsChain relayModules.HandsOn
        ([("lib", "Plugin"), ("api", "Service")] ++ [("core", "Root")]) := by
      simp [hplugin, hservice]
    exact (chains_of_names_are_transparent hfound hkeeps hends (by decide) (by decide)
      (List.forall_mem_cons.mp hfree).2 _).1 hchain ["Inner"] hcore.2.2
  · have hchain : List.IsChain relayModules.LeadsTo
        ([("box", "Box"), ("lib", "Plugin"), ("api", "Service")] ++ [("core", "Root")]) := by
      simp [Modules.LeadsTo, hbox, hplugin, hservice]
    exact (chains_of_names_are_transparent hfound hkeeps hends (by decide) (by decide) hfree _).2 hchain

end ServiceManifest
