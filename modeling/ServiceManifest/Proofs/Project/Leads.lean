import Mathlib.Logic.Relation
import ServiceManifest.Proofs.Project.Simple
import ServiceManifest.Proofs.Project.Walk

/-!
# Where absolute names lead

An absolute name is split at the longest front part that is a module. What that module binds the next
part to leads on: an alias to what its value refers to, an import to where the name was brought from.
A name that leads on no further is a class or member of the module; a name that is split at no module
leaves the project.
-/

namespace ServiceManifest.Project

open ServiceManifest.Source

section Members

variable {index : ModuleIndex} {done rest : List String}

/-- No more names lead through classes than there are. -/
theorem classDepth_le (index : ModuleIndex) (done rest : List String) :
    classDepth index done rest ≤ rest.length := by
  induction rest generalizing done with
  | nil => exact Nat.le_refl 0
  | cons name rest ih =>
    unfold classDepth
    split
    · exact Nat.succ_le_succ (ih _)
    · exact Nat.zero_le _

/-- The names that lead through classes lead to a class. -/
theorem hasClass_take_classDepth (h : classDepth index done rest ≠ 0) :
    index.hasClass (done ++ rest.take (classDepth index done rest)) = true := by
  induction rest generalizing done with
  | nil => exact absurd rfl h
  | cons name rest ih =>
    unfold classDepth at h ⊢
    split at h
    · rename_i hname
      rw [if_pos hname, List.take_succ_cons]
      by_cases hrest : classDepth index (done ++ [name]) rest = 0
      · rwa [hrest, List.take_zero]
      · simpa using ih hrest
    · exact absurd rfl h

/-- The class around a nested name has all names but the last. -/
theorem enclosing?_eq_some {name outer : QualifiedName} (h : name.enclosing? = some outer) :
    name.simpleNames.length ≠ 1 ∧ outer = ⟨name.package, name.simpleNames.dropLast⟩ := by
  unfold QualifiedName.enclosing? at h
  split at h
  · cases h
  · rename_i hnested
    refine ⟨fun hone => ?_, (Option.some.inj h).symm⟩
    obtain ⟨only, honly⟩ := List.length_eq_one_iff.mp hone
    exact hnested only honly

/-- What parts behind a module stand for is a class that the module has, if it is any. -/
theorem hasClass_of_memberOf {first : String} {nested : List String} {name : QualifiedName}
    (h : (memberOf index (first :: nested)).closestClass = some name) :
    name.package = index.name ∧ index.hasClass name.simpleNames = true := by
  have hle := classDepth_le index [] (first :: nested)
  have hclass := @hasClass_take_classDepth index [] (first :: nested)
  unfold memberOf at h
  simp only at h
  split at h
  · rename_i hdepth
    obtain rfl := Option.some.inj h
    rw [hdepth, List.take_length] at hclass
    exact ⟨rfl, hclass (Nat.succ_ne_zero _)⟩
  · rename_i hdepth
    obtain ⟨hlength, rfl⟩ := enclosing?_eq_some h
    have hpos : classDepth index [] (first :: nested) ≠ 0 := by
      rintro hzero
      rw [hzero] at hlength
      exact hlength rfl
    have hdrop : ((first :: nested).take (classDepth index [] (first :: nested) + 1)).dropLast =
        (first :: nested).take (classDepth index [] (first :: nested)) := by
      have hcount : min (min (classDepth index [] (first :: nested) + 1) (first :: nested).length - 1)
          (classDepth index [] (first :: nested) + 1) = classDepth index [] (first :: nested) := by
        omega
      rw [List.dropLast_eq_take, List.length_take, List.take_take, hcount]
    refine ⟨rfl, ?_⟩
    rw [hdrop]
    exact hclass hpos

/-- Parts behind a module stand for no class if the first of them is none. -/
theorem closestClass_memberOf {first : String} (hfirst : index.hasClass [first] = false)
    (nested : List String) : (memberOf index (first :: nested)).closestClass = none := by
  have hdepth : classDepth index [] (first :: nested) = 0 := by
    rw [classDepth, List.nil_append, hfirst, if_neg Bool.false_ne_true]
  unfold memberOf
  simp only [hdepth]
  rw [List.length_cons, if_neg (Nat.succ_ne_zero _).symm, List.take_succ_cons, List.take_zero]
  rfl

end Members

section Split

variable {modules : Modules}

/-- A name is split at no module if no front part of it is one. -/
theorem Modules.splitAt_eq_none_iff {parts : List String} {count : Nat} :
    modules.splitAt parts count = none ↔
      ∀ n < count, Keyed.get? (".".intercalate (parts.take (n + 1))) modules = none := by
  induction count with
  | zero => simp [Modules.splitAt]
  | succ count ih =>
    rw [Modules.splitAt, Nat.forall_lt_succ_right]
    split
    · rename_i hfront
      simp [hfront]
    · rename_i hfront
      rw [ih]
      exact (and_iff_left hfront).symm

/-- A name is split at the longest front part that is a module. -/
theorem Modules.splitAt_eq_some {parts rest : List String} {count : Nat} {target : ModuleIndex}
    (h : modules.splitAt parts count = some (target, rest)) :
    ∃ n < count, Keyed.get? (".".intercalate (parts.take (n + 1))) modules = some target ∧
      rest = parts.drop (n + 1) ∧ ∀ m, n < m → m < count →
        Keyed.get? (".".intercalate (parts.take (m + 1))) modules = none := by
  induction count with
  | zero => cases h
  | succ count ih =>
    rw [Modules.splitAt] at h
    split at h
    · rename_i index hindex
      obtain ⟨rfl, rfl⟩ := Prod.mk.inj (Option.some.inj h)
      exact ⟨count, Nat.lt_succ_self _, hindex, rfl, fun m hlow hhigh => by omega⟩
    · rename_i hfront
      obtain ⟨n, hn, htarget, hrest, hlonger⟩ := ih h
      refine ⟨n, Nat.lt_succ_of_lt hn, htarget, hrest, fun m hlow hhigh => ?_⟩
      rcases Nat.lt_succ_iff_lt_or_eq.mp hhigh with hless | rfl
      · exact hlonger m hlow hless
      · exact hfront

/-- The module at which an absolute name is split, and the parts behind it. -/
def Modules.splitOf (modules : Modules) (absolute : String) : Option (ModuleIndex × List String) :=
  modules.splitAt (nameParts '.' absolute) (nameParts '.' absolute).length

/-- An absolute name is split at no module exactly if no front part of it is one. -/
theorem Modules.splitOf_eq_none_iff {absolute : String} :
    modules.splitOf absolute = none ↔
      ∀ front ∈ ModuleIndex.dottedPrefixes absolute, Keyed.get? front modules = none := by
  simp [Modules.splitOf, Modules.splitAt_eq_none_iff, ModuleIndex.dottedPrefixes]

end Split

/-- What a module binds a name to that other names may stand behind. -/
inductive Binding
  | aliased (value : Expr)
  | imported (source : String)
  | own

/-- What a module binds a name to. With nothing behind it, its alias comes first; a class keeps the
name from being that of an import. -/
def ModuleIndex.binding (index : ModuleIndex) (first : String) (nested : List String) : Binding :=
  match if nested.isEmpty then Keyed.get? first index.aliases else none with
  | some value => .aliased value
  | none =>
    match if index.hasClass [first] then none else Keyed.get? first index.imports with
    | some source => .imported source
    | none => .own

section Inversion

variable {index : ModuleIndex} {first : String} {nested : List String}

/-- An alias stands for its value only with nothing behind it. -/
theorem alias_of_binding {value : Expr} (h : index.binding first nested = .aliased value) :
    (if nested.isEmpty then Keyed.get? first index.aliases else none) = some value := by
  unfold ModuleIndex.binding at h
  split at h
  · rename_i found hfound
    cases h
    exact hfound
  · split at h <;> cases h

/-- A name bound by an import is no alias, with what is behind it, and no class. -/
theorem import_of_binding {source : String} (h : index.binding first nested = .imported source) :
    (if nested.isEmpty then Keyed.get? first index.aliases else none) = none ∧
      (if index.hasClass [first] then none else Keyed.get? first index.imports) = some source := by
  unfold ModuleIndex.binding at h
  split at h
  · cases h
  · rename_i halias
    split at h
    · rename_i found hfound
      cases h
      exact ⟨halias, hfound⟩
    · cases h

/-- Any other name is no alias, with what is behind it, and not imported. -/
theorem eq_none_of_binding (h : index.binding first nested = .own) :
    (if nested.isEmpty then Keyed.get? first index.aliases else none) = none ∧
      (if index.hasClass [first] then none else Keyed.get? first index.imports) = none := by
  unfold ModuleIndex.binding at h
  split at h
  · cases h
  · rename_i halias
    split at h
    · cases h
    · rename_i himport
      exact ⟨halias, himport⟩

/-- A name that a module binds by an import is no class of it. -/
theorem hasClass_of_binding {source : String} (h : index.binding first nested = .imported source) :
    index.hasClass [first] = false ∧ Keyed.get? first index.imports = some source := by
  have himport := (import_of_binding h).2
  split at himport
  · cases himport
  · rename_i hclass
    exact ⟨Bool.eq_false_iff.mpr hclass, himport⟩

end Inversion

/-- An alias as a reference, given what its value refers to. -/
def aliasRef (module name : String) (found : Option TypeRef) : TypeRef :=
  ⟨⟨module, [name]⟩, [], found, found.isSome⟩

/-- An alias has the nearest class of what its value refers to. -/
theorem closestClass_aliasRef (module name : String) (found : Option TypeRef) :
    (aliasRef module name found).closestClass = found.bind TypeRef.closestClass := by
  cases found <;> rfl

section Qualified

variable {modules : Modules} {open_ : List Link} {index target : ModuleIndex} {absolute first : String}
  {nested : List String}

/-- A name that is split at no module is split at what the module that sees it has imported. -/
theorem qualified_of_outside (hsplit : modules.splitOf absolute = none) :
    qualified modules open_ index absolute = .ok (external index (nameParts '.' absolute)) := by
  rw [Modules.splitOf] at hsplit
  unfold qualified
  simp only [hsplit]

/-- The name of a module stands for no class. -/
theorem qualified_of_module (hsplit : modules.splitOf absolute = some (target, [])) :
    qualified modules open_ index absolute = .ok (memberRef (splitTail (nameParts '.' absolute))) := by
  rw [Modules.splitOf] at hsplit
  unfold qualified
  simp only [hsplit]

/-- A name that a module binds to an alias stands for what the value of the alias refers to, unless the
alias is being followed already. -/
theorem qualified_of_alias (hsplit : modules.splitOf absolute = some (target, first :: nested))
    {value : Expr} (hbinding : target.binding first nested = .aliased value) :
    qualified modules open_ index absolute =
      if (target.name, first) ∈ open_ then
        (typeRefBy (qualified modules (close (target.name, first) open_)) target [] value).map
          (aliasRef target.name first)
      else .ok (memberRef ⟨target.name, [first]⟩) := by
  rw [Modules.splitOf] at hsplit
  unfold qualified
  simp only [hsplit, alias_of_binding hbinding, dite_eq_ite]
  cases typeRefBy (qualified modules (close (target.name, first) open_)) target [] value <;> rfl

/-- A name that a module has imported stands for what the name stands for where it was imported from,
unless the import is being followed already. -/
theorem qualified_of_imported (hsplit : modules.splitOf absolute = some (target, first :: nested))
    {source : String} (hbinding : target.binding first nested = .imported source) :
    qualified modules open_ index absolute =
      if (target.name, first) ∈ open_ then
        qualified modules (close (target.name, first) open_) target
          (".".intercalate (source :: nested))
      else .ok (memberOf target (first :: nested)) := by
  rw [Modules.splitOf] at hsplit
  obtain ⟨halias, himport⟩ := import_of_binding hbinding
  rw [qualified]
  simp only [hsplit, halias, himport, dite_eq_ite]

/-- Any other name stands for a class or another member of the module. -/
theorem qualified_of_own (hsplit : modules.splitOf absolute = some (target, first :: nested))
    (hbinding : target.binding first nested = .own) :
    qualified modules open_ index absolute = .ok (memberOf target (first :: nested)) := by
  rw [Modules.splitOf] at hsplit
  obtain ⟨halias, himport⟩ := eq_none_of_binding hbinding
  unfold qualified
  simp only [hsplit, halias, himport]

/-- What an absolute name stands for, seen from a module while links are open: something outside of the
project, a module, what an open link leads to, the name of an alias that is being followed already, or
else a member of the module at which the name is split. -/
inductive Finds (modules : Modules) (open_ : List Link) (index : ModuleIndex) (absolute : String) :
    TypeRef → Prop
  | outside (hsplit : modules.splitOf absolute = none) :
      Finds modules open_ index absolute (external index (nameParts '.' absolute))
  | module {target : ModuleIndex} (hsplit : modules.splitOf absolute = some (target, [])) :
      Finds modules open_ index absolute (memberRef (splitTail (nameParts '.' absolute)))
  | aliased {target : ModuleIndex} {first : String} {nested : List String} {value : Expr}
      {found : Option TypeRef} (hsplit : modules.splitOf absolute = some (target, first :: nested))
      (hbinding : target.binding first nested = .aliased value)
      (hopen : (target.name, first) ∈ open_)
      (hfound : typeRefBy (qualified modules (close (target.name, first) open_)) target [] value =
        .ok found) : Finds modules open_ index absolute (aliasRef target.name first found)
  | followed {target : ModuleIndex} {first : String} {nested : List String}
      (hsplit : modules.splitOf absolute = some (target, first :: nested)) :
      Finds modules open_ index absolute (memberRef ⟨target.name, [first]⟩)
  | imported {target : ModuleIndex} {first source : String} {nested : List String} {ref : TypeRef}
      (hsplit : modules.splitOf absolute = some (target, first :: nested))
      (hbinding : target.binding first nested = .imported source)
      (hopen : (target.name, first) ∈ open_)
      (hfound : qualified modules (close (target.name, first) open_) target
        (".".intercalate (source :: nested)) = .ok ref) : Finds modules open_ index absolute ref
  | member {target : ModuleIndex} {first : String} {nested : List String}
      (hsplit : modules.splitOf absolute = some (target, first :: nested)) :
      Finds modules open_ index absolute (memberOf target (first :: nested))

/-- What is found of an absolute name is what the name stands for. -/
theorem finds_of_qualified {ref : TypeRef} (h : qualified modules open_ index absolute = .ok ref) :
    Finds modules open_ index absolute ref := by
  rcases hsplit : modules.splitOf absolute with _ | ⟨target, _ | ⟨first, nested⟩⟩
  · rw [qualified_of_outside hsplit] at h
    exact Except.ok.inj h ▸ .outside hsplit
  · rw [qualified_of_module hsplit] at h
    exact Except.ok.inj h ▸ .module hsplit
  · cases hbinding : target.binding first nested with
    | aliased value =>
      rw [qualified_of_alias hsplit hbinding] at h
      split at h
      · rename_i hopen
        obtain ⟨found, hfound, rfl⟩ := map_eq_ok_iff.mp h
        exact .aliased hsplit hbinding hopen hfound
      · exact Except.ok.inj h ▸ .followed hsplit
    | imported source =>
      rw [qualified_of_imported hsplit hbinding] at h
      split at h
      · rename_i hopen
        exact .imported hsplit hbinding hopen h
      · exact Except.ok.inj h ▸ .member hsplit
    | own =>
      rw [qualified_of_own hsplit hbinding] at h
      exact Except.ok.inj h ▸ .member hsplit

end Qualified

/-- One absolute name, seen from a module, leads on to another: from an alias to a name that is read off
its value, and from an imported name to the name that was imported. -/
inductive LeadsOn (reads : ModuleIndex → Expr → String → Prop) (modules : Modules) :
    ModuleIndex × String → ModuleIndex × String → Prop
  | aliased {index target : ModuleIndex} {absolute first next : String} {nested : List String}
      {value : Expr} (hsplit : modules.splitOf absolute = some (target, first :: nested))
      (hbinding : target.binding first nested = .aliased value) (hreads : reads target value next) :
      LeadsOn reads modules (index, absolute) (target, next)
  | imported {index target : ModuleIndex} {absolute first source : String} {nested : List String}
      (hsplit : modules.splitOf absolute = some (target, first :: nested))
      (hbinding : target.binding first nested = .imported source) :
      LeadsOn reads modules (index, absolute) (target, ".".intercalate (source :: nested))

/-- An expression at the top of a module refers to an absolute name. -/
def RefersTo (index : ModuleIndex) (expr : Expr) (absolute : String) : Prop :=
  reference? index [] expr = some absolute

/-- An absolute name, seen from a module, leaves the project in a module under a name: it leads there,
and no front part of the name is a module. -/
def Modules.LeavesAt (modules : Modules) (start last : ModuleIndex × String) : Prop :=
  Relation.ReflTransGen (LeadsOn RefersTo modules) start last ∧ modules.splitOf last.2 = none

/-- Modules under their names in which names start with a name. -/
structure Modules.AreFronted (modules : Modules) : Prop where
  name : ∀ name index, Keyed.get? name modules = some index → index.name = name
  fronted : ∀ name index, Keyed.get? name modules = some index → index.IsFronted

section Ends

variable {modules : Modules}

/-- The absolute name of an expression starts with a name. -/
theorem hasFront_of_reference? {index : ModuleIndex} (hindex : index.IsFronted) {scope : ClassPath}
    {expr : Expr} {absolute : String} (h : reference? index scope expr = some absolute) :
    HasFront absolute := by
  induction hweight : weight expr using Nat.strongRecOn generalizing expr with
  | _ count ih =>
    subst hweight
    unfold reference? at h
    split at h
    · rename_i value elements
      exact ih _ (by simp only [weight]; omega) h rfl
    · rename_i codes
      split at h
      · split at h
        · rename_i hlighter
          exact ih _ (by simpa only [weight] using hlighter) h rfl
        · cases h
      · cases h
    · obtain ⟨dotted, -, rfl⟩ := Option.map_eq_some_iff.mp h
      exact hindex.absolute scope dotted

/-- The module at which a name is split is one of the project. -/
theorem exists_get?_of_splitOf {absolute : String} {target : ModuleIndex} {rest : List String}
    (h : modules.splitOf absolute = some (target, rest)) :
    ∃ name, Keyed.get? name modules = some target := by
  obtain ⟨n, -, htarget, -⟩ := Modules.splitAt_eq_some h
  exact ⟨_, htarget⟩

/-- Names that start with a name lead on to such names. -/
theorem Modules.AreFronted.hasFront_of_leadsOn (h : modules.AreFronted)
    {start next : ModuleIndex × String} (hleads : LeadsOn RefersTo modules start next) :
    HasFront next.2 := by
  cases hleads with
  | aliased hsplit _ hreads =>
    obtain ⟨name, htarget⟩ := exists_get?_of_splitOf hsplit
    exact hasFront_of_reference? (h.fronted _ _ htarget) hreads
  | imported hsplit hbinding =>
    obtain ⟨name, htarget⟩ := exists_get?_of_splitOf hsplit
    exact hasFront_intercalate ((h.fronted _ _ htarget).imports _ _ (hasClass_of_binding hbinding).2)

/-- A name that starts with a name leaves the project under such a name. -/
theorem Modules.AreFronted.hasFront_of_leavesAt (h : modules.AreFronted)
    {start last : ModuleIndex × String} (hstart : HasFront start.2)
    (hleaves : modules.LeavesAt start last) : HasFront last.2 := by
  rcases Relation.ReflTransGen.cases_tail hleaves.1 with rfl | ⟨before, -, hleads⟩
  · exact hstart
  · exact h.hasFront_of_leadsOn hleads

/-- The class that an absolute name stands for is one that the module of its package has, or the name
leaves the project and the class is split at what the last module has imported. -/
theorem Modules.AreFronted.exists_end_of_qualified (h : modules.AreFronted) {index : ModuleIndex}
    {absolute : String} {open_ : List Link} {ref : TypeRef} {name : QualifiedName}
    (hqualified : qualified modules open_ index absolute = .ok ref)
    (hclosest : ref.closestClass = some name) :
    (∃ owner, Keyed.get? name.package modules = some owner ∧
        owner.hasClass name.simpleNames = true) ∨
      ∃ last final, modules.LeavesAt (index, absolute) (last, final) ∧
        external last (nameParts '.' final) = classRef name := by
  induction hlength : open_.length using Nat.strongRecOn
    generalizing open_ index absolute ref name with
  | _ count ih =>
    subst hlength
    have hlater {link : Link} (hlink : link ∈ open_) {next : ModuleIndex × String}
        (hleads : LeadsOn RefersTo modules (index, absolute) next) {found : TypeRef}
        (hfound : qualified modules (close link open_) next.1 next.2 = .ok found)
        (hclass : found.closestClass = some name) :
        (∃ owner, Keyed.get? name.package modules = some owner ∧
            owner.hasClass name.simpleNames = true) ∨
          ∃ last final, modules.LeavesAt (index, absolute) (last, final) ∧
            external last (nameParts '.' final) = classRef name := by
      refine (ih _ (length_close_lt hlink) hfound hclass rfl).imp_right ?_
      rintro ⟨last, final, ⟨hwalk, hend⟩, hname⟩
      exact ⟨last, final, ⟨.head hleads hwalk, hend⟩, hname⟩
    cases finds_of_qualified hqualified with
    | outside hsplit =>
      refine .inr ⟨index, absolute, ⟨.refl, hsplit⟩, ?_⟩
      rw [← Option.some.inj hclosest]
      rfl
    | module hsplit => cases hclosest
    | aliased hsplit hbinding hlink hfound =>
      rw [closestClass_aliasRef] at hclosest
      rcases typeRefBy_eq_ok hfound with
        ⟨-, rfl⟩ | ⟨next, aim, aimed, hreference, haim, rfl, hsame⟩
      · cases hclosest
      · exact hlater hlink (.aliased hsplit hbinding hreference) haim (hsame.symm.trans hclosest)
    | followed hsplit => cases hclosest
    | imported hsplit hbinding hlink hfound =>
      exact hlater hlink (.imported hsplit hbinding) hfound hclosest
    | @member target first nested hsplit =>
      obtain ⟨hpackage, hclass⟩ := hasClass_of_memberOf hclosest
      obtain ⟨found, htarget⟩ := exists_get?_of_splitOf hsplit
      exact .inl ⟨target, by rw [hpackage, h.name _ _ htarget, htarget], hclass⟩

end Ends

/-- The class that an expression stands for, if it is any. -/
def closestClassOf (modules : Modules) (index : ModuleIndex) (scope : ClassPath) (expr : Expr) :
    Except Fault (Option QualifiedName) :=
  (resolve modules index scope expr).map fun found => found.bind TypeRef.closestClass

end ServiceManifest.Project
