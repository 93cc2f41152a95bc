import ServiceManifest.Proofs.Project.Marked

/-!
# The modules that a reference leads through

An expression refers to one absolute name, whatever its subscripts and however it is quoted. Following
that name walks from module to module. Only these modules count: in a project that still has all of
them, with no other modules than before, the reference stands for the same class.
-/

namespace ServiceManifest.Project

open ServiceManifest.Source

/-- The absolute dotted name that an expression refers to: that of the outermost value, if it is
subscripted, and that of the expression in it, if it is a text. -/
def reference? (index : ModuleIndex) (scope : ClassPath) (expr : Expr) : Option String :=
  match expr with
  | .subscript value _ => reference? index scope value
  | .text codes =>
    match textExpression codes with
    | .ok (some parsed) =>
      if _lighter : weight parsed < codes.length + 1 then reference? index scope parsed else none
    | _ => none
  | expr => expr.dottedName?.map (index.absolute scope)
termination_by weight expr
decreasing_by
  · simp only [weight]; omega
  · simpa only [weight] using _lighter

/-- The names of the modules that an absolute name leads through, one after the other. -/
def walk (modules : Modules) (open_ : List Link) (absolute : String) : List String :=
  let parts := nameParts '.' absolute
  match modules.splitAt parts parts.length with
  | none => []
  | some (target, []) => [target.name]
  | some (target, first :: nested) =>
    let link : Link := (target.name, first)
    target.name ::
      match if nested.isEmpty then Keyed.get? first target.aliases else none with
      | some value =>
        if _followed : link ∈ open_ then
          ((reference? target [] value).map (walk modules (close link open_))).getD []
        else []
      | none =>
        match if target.hasClass [first] then none else Keyed.get? first target.imports with
        | some source =>
          if _followed : link ∈ open_ then
            walk modules (close link open_) (".".intercalate (source :: nested))
          else []
        | none => []
termination_by open_.length
decreasing_by
  · exact length_close_lt _followed
  · exact length_close_lt _followed

/-- The names of the modules that an expression leads through. -/
def Modules.walkOf (modules : Modules) (index : ModuleIndex) (scope : ClassPath) (expr : Expr) :
    List String :=
  ((reference? index scope expr).map (walk modules modules.links)).getD []

/-- Type arguments do not change the nearest class. -/
theorem closestClass_arguments (ref : TypeRef) (arguments : List TypeRef) :
    ({ ref with arguments := arguments } : TypeRef).closestClass = ref.closestClass := by
  obtain ⟨name, _, aliasOf, isClass⟩ := ref
  cases aliasOf <;> rfl

/-- What an expression refers to has the nearest class of what its absolute name refers to. -/
theorem typeRefBy_eq_ok {qualify : Qualify} {index : ModuleIndex} {scope : ClassPath} {expr : Expr}
    {found : Option TypeRef} (h : typeRefBy qualify index scope expr = .ok found) :
    (reference? index scope expr = none ∧ found = none) ∨
      ∃ absolute target ref, reference? index scope expr = some absolute ∧
        qualify index absolute = .ok target ∧ found = some ref ∧
          ref.closestClass = target.closestClass := by
  induction hweight : weight expr using Nat.strongRecOn generalizing expr found with
  | _ count ih =>
    subst hweight
    unfold typeRefBy at h
    unfold reference?
    split at h
    · rename_i value elements
      have hlighter : weight value < weight (.subscript value elements) := by
        simp only [weight]; omega
      cases hvalue : typeRefBy qualify index scope value with
      | error fault => simp [hvalue] at h
      | ok base =>
        rcases ih _ hlighter hvalue rfl with
          ⟨hnone, rfl⟩ | ⟨absolute, target, ref, hsome, htarget, rfl, hclass⟩
        · simp only [hvalue, Except.ok.injEq] at h
          exact Or.inl ⟨hnone, h.symm⟩
        · simp only [hvalue] at h
          cases harguments : typeRefsBy qualify index scope elements with
          | error fault => simp [harguments] at h
          | ok arguments =>
            simp only [harguments, Except.ok.injEq] at h
            exact Or.inr ⟨absolute, target, _, hsome, htarget, h.symm,
              (closestClass_arguments ref arguments).trans hclass⟩
    · rename_i codes
      split at h
      · cases h
      · rename_i hparse
        simp only [hparse, Except.ok.injEq] at h ⊢
        exact Or.inl ⟨trivial, h.symm⟩
      · rename_i parsed hparse
        simp only [hparse]
        split at h
        · rename_i hlighter
          rw [dif_pos hlighter]
          exact ih _ (by simpa only [weight] using hlighter) h rfl
        · rename_i hheavy
          rw [dif_neg hheavy]
          exact Or.inl ⟨rfl, (Except.ok.inj h).symm⟩
    · split at h
      · rename_i hname
        simp only [hname, Except.ok.injEq] at h ⊢
        exact Or.inl ⟨rfl, h.symm⟩
      · rename_i dotted hname
        simp only [hname]
        cases htarget : qualify index (index.absolute scope dotted) with
        | error fault => simp [htarget] at h
        | ok target =>
          simp only [htarget, Except.ok.injEq] at h
          exact Or.inr ⟨_, target, target, rfl, htarget, h.symm, rfl⟩

/-- If two ways to follow the absolute name of an expression lead to one class, the expression stands
for one class. -/
theorem closestClass_typeRefBy {qualify other : Qualify} {index : ModuleIndex} {scope : ClassPath}
    {expr : Expr} {found foundOther : Option TypeRef}
    (hsame : ∀ absolute ref refOther, reference? index scope expr = some absolute →
      qualify index absolute = .ok ref → other index absolute = .ok refOther →
        ref.closestClass = refOther.closestClass)
    (h : typeRefBy qualify index scope expr = .ok found)
    (hother : typeRefBy other index scope expr = .ok foundOther) :
    found.bind TypeRef.closestClass = foundOther.bind TypeRef.closestClass := by
  rcases typeRefBy_eq_ok h with ⟨hnone, rfl⟩ | ⟨absolute, target, ref, hsome, htarget, rfl, hclass⟩ <;>
    rcases typeRefBy_eq_ok hother with
      ⟨hnoneOther, rfl⟩ | ⟨absoluteOther, targetOther, refOther, hsomeOther, htargetOther, rfl, hclassOther⟩
  · rfl
  · rw [hnone] at hsomeOther
    cases hsomeOther
  · rw [hnoneOther] at hsome
    cases hsome
  · obtain rfl := Option.some.inj (hsome.symm.trans hsomeOther)
    exact hclass.trans ((hsame _ _ _ hsome htarget htargetOther).trans hclassOther.symm)

/-- An alias has the nearest class of what its value refers to. -/
theorem exists_found_of_alias {value : Except Fault (Option TypeRef)} {module name : String}
    {ref : TypeRef}
    (h : (match value with
      | .error fault => .error fault
      | .ok found => .ok ⟨⟨module, [name]⟩, [], found, found.isSome⟩) = Except.ok ref) :
    ∃ found, value = .ok found ∧ ref.closestClass = found.bind TypeRef.closestClass := by
  cases value with
  | error fault => cases h
  | ok found =>
    obtain rfl := Except.ok.inj h
    exact ⟨found, rfl, by cases found <;> rfl⟩

/-- The modules of a project among those of another: they are the same under their names. -/
structure Modules.IsWithin (modules others : Modules) : Prop where
  named : ∀ name index, Keyed.get? name others = some index → index.name = name
  kept : ∀ name index, Keyed.get? name modules = some index → Keyed.get? name others = some index
  nodup : (Keyed.keys modules).Nodup
  nodupOthers : (Keyed.keys others).Nodup

/-- Links are open for a project exactly if they are open for another, as far as they are those of
its modules. -/
def SameOpen (modules : Modules) (open_ others : List Link) : Prop :=
  ∀ link, link.1 ∈ Keyed.keys modules → (link ∈ open_ ↔ link ∈ others)

/-- Links of which the same are open stay so when one is followed. -/
theorem SameOpen.close {modules : Modules} {open_ others : List Link}
    (h : SameOpen modules open_ others) (link : Link) :
    SameOpen modules (Project.close link open_) (Project.close link others) := by
  intro other hother
  simp only [Project.close, List.mem_filter, h other hother]

section Within

variable {modules others : Modules}

/-- The links of a module. -/
theorem mem_links {link : Link} :
    link ∈ modules.links ↔ ∃ index, (link.1, index) ∈ modules ∧
      (link.2 ∈ Keyed.keys index.aliases ∨ link.2 ∈ Keyed.keys index.imports) := by
  obtain ⟨name, bound⟩ := link
  simp only [Modules.links, List.mem_flatMap, List.mem_map, List.mem_append, Prod.mk.injEq,
    Prod.exists]
  constructor
  · rintro ⟨_, index, hindex, _, hbound, rfl, rfl⟩
    exact ⟨index, hindex, hbound⟩
  · rintro ⟨index, hindex, hbound⟩
    exact ⟨name, index, hindex, bound, hbound, rfl, rfl⟩

/-- The links of a project within another are those that the other has of its modules. -/
theorem Modules.IsWithin.sameOpen_links (h : modules.IsWithin others) :
    SameOpen modules others.links modules.links := by
  rintro link hlink
  obtain ⟨index, hindex⟩ := Option.isSome_iff_exists.mp (Keyed.get?_isSome_iff.mpr hlink)
  have hother := h.kept _ _ hindex
  have hmem (found : ModuleIndex) : (link.1, found) ∈ modules ↔ found = index := by
    rw [← Keyed.get?_eq_some_iff h.nodup, hindex, Option.some.injEq, eq_comm]
  have hmemOther (found : ModuleIndex) : (link.1, found) ∈ others ↔ found = index := by
    rw [← Keyed.get?_eq_some_iff h.nodupOthers, hother, Option.some.injEq, eq_comm]
  simp only [mem_links, hmem, hmemOther]

/-- What is no module of a project is none of one within it. -/
theorem Modules.IsWithin.get?_eq_none (h : modules.IsWithin others) {name : String}
    (hnone : Keyed.get? name others = none) : Keyed.get? name modules = none := by
  by_contra hsome
  obtain ⟨index, hindex⟩ := Option.ne_none_iff_exists'.mp hsome
  rw [h.kept _ _ hindex] at hnone
  cases hnone

/-- Where no front part of a name is a module of a project, none is a module of one within it. -/
theorem Modules.IsWithin.splitAt_eq_none (h : modules.IsWithin others) {parts : List String}
    {count : Nat} (hnone : others.splitAt parts count = none) :
    modules.splitAt parts count = none := by
  induction count with
  | zero => rfl
  | succ count ih =>
    rw [Modules.splitAt] at hnone ⊢
    split at hnone
    · cases hnone
    · rename_i hfront
      rw [h.get?_eq_none hfront]
      exact ih hnone

/-- A name that is split at a module is split there in a project that still has the module. -/
theorem Modules.IsWithin.splitAt_eq_some (h : modules.IsWithin others) {parts rest : List String}
    {count : Nat} {target : ModuleIndex} (hsome : others.splitAt parts count = some (target, rest))
    (htarget : target.name ∈ Keyed.keys modules) :
    modules.splitAt parts count = some (target, rest) := by
  induction count with
  | zero => cases hsome
  | succ count ih =>
    rw [Modules.splitAt] at hsome ⊢
    split at hsome
    · rename_i index hindex
      obtain ⟨rfl, rfl⟩ := Prod.mk.inj (Option.some.inj hsome)
      obtain ⟨same, hsame⟩ := Option.isSome_iff_exists.mp (Keyed.get?_isSome_iff.mpr htarget)
      rw [h.named _ _ hindex] at hsame
      have hequal := h.kept _ _ hsame
      rw [hindex] at hequal
      rw [hsame, Option.some.inj hequal]
    · rename_i hfront
      rw [h.get?_eq_none hfront]
      exact ih hsome

/-- In a project within another, a name stands for the same class if the modules that it leads through
in the other are all there. -/
theorem Modules.IsWithin.closestClass_qualified (h : modules.IsWithin others)
    {index : ModuleIndex} {absolute : String} {open_ openOthers : List Link} {ref refOther : TypeRef}
    (hopen : SameOpen modules openOthers open_)
    (hwalk : ∀ name ∈ walk others openOthers absolute, name ∈ Keyed.keys modules)
    (hother : qualified others openOthers index absolute = .ok refOther)
    (hthis : qualified modules open_ index absolute = .ok ref) :
    ref.closestClass = refOther.closestClass := by
  induction hlength : openOthers.length using Nat.strongRecOn
    generalizing openOthers open_ index absolute ref refOther with
  | _ count ih =>
    subst hlength
    unfold qualified at hother hthis
    unfold walk at hwalk
    simp only at hother hthis hwalk
    cases hsplit : others.splitAt (nameParts '.' absolute) (nameParts '.' absolute).length with
    | none =>
      simp only [hsplit, h.splitAt_eq_none hsplit, Except.ok.injEq] at hother hthis
      rw [← hother, ← hthis]
    | some found =>
      obtain ⟨target, rest⟩ := found
      have htarget : target.name ∈ Keyed.keys modules := by
        refine hwalk target.name ?_
        cases rest <;> simp [hsplit]
      simp only [hsplit] at hother hwalk
      simp only [h.splitAt_eq_some hsplit htarget] at hthis
      cases rest with
      | nil =>
        simp only [Except.ok.injEq] at hother hthis
        rw [← hother, ← hthis]
      | cons first nested =>
        simp only at hother hthis hwalk
        have hlink := hopen (target.name, first) htarget
        have hclosed := hopen.close (target.name, first)
        split at hother
        · rename_i value hvalue
          simp only [hvalue] at hthis hwalk
          split at hother
          · rename_i hfollowed
            rw [dif_pos (hlink.mp hfollowed)] at hthis
            rw [dif_pos hfollowed] at hwalk
            obtain ⟨foundOther, hfoundOther, hclassOther⟩ := exists_found_of_alias hother
            obtain ⟨found, hfound, hclass⟩ := exists_found_of_alias hthis
            rw [hclass, hclassOther]
            refine closestClass_typeRefBy (fun absolute ref refOther hreference href hrefOther => ?_)
              hfound hfoundOther
            refine ih _ (length_close_lt hfollowed) hclosed (fun name hname => ?_) hrefOther href rfl
            refine hwalk name (List.mem_cons_of_mem _ ?_)
            rw [hreference]
            exact hname
          · rename_i hopened
            rw [dif_neg (hlink.not.mp hopened)] at hthis
            simp only [Except.ok.injEq] at hother hthis
            rw [← hother, ← hthis]
        · rename_i hvalue
          simp only [hvalue] at hthis hwalk
          split at hother
          · rename_i source hsource
            simp only [hsource] at hthis hwalk
            split at hother
            · rename_i hfollowed
              rw [dif_pos (hlink.mp hfollowed)] at hthis
              rw [dif_pos hfollowed] at hwalk
              exact ih _ (length_close_lt hfollowed) hclosed
                (fun name hname => hwalk name (List.mem_cons_of_mem _ hname)) hother hthis rfl
            · rename_i hopened
              rw [dif_neg (hlink.not.mp hopened)] at hthis
              simp only [Except.ok.injEq] at hother hthis
              rw [← hother, ← hthis]
          · rename_i hsource
            simp only [hsource, Except.ok.injEq] at hother hthis
            rw [← hother, ← hthis]

/-- In a project within another, an expression stands for the same class if the modules that it leads
through in the other are all there. -/
theorem Modules.IsWithin.eq_of_standsFor (h : modules.IsWithin others) {index : ModuleIndex}
    {scope : ClassPath} {expr : Expr} {name base : QualifiedName}
    (hwalk : ∀ module ∈ others.walkOf index scope expr, module ∈ Keyed.keys modules)
    (hthis : StandsFor modules index scope expr name)
    (hother : StandsFor others index scope expr base) : name = base := by
  obtain ⟨ref, href, hname⟩ := hthis
  obtain ⟨refOther, hrefOther, hbase⟩ := hother
  have hsame : (some ref).bind TypeRef.closestClass = (some refOther).bind TypeRef.closestClass := by
    refine closestClass_typeRefBy (fun absolute target targetOther hreference htarget htargetOther => ?_)
      href hrefOther
    refine h.closestClass_qualified h.sameOpen_links (fun module hmodule => hwalk module ?_) htargetOther
      htarget
    rw [Modules.walkOf, hreference]
    exact hmodule
  exact Option.some.inj (hname.symm.trans (hsame.trans hbase))

end Within

end ServiceManifest.Project
