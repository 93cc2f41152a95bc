import Mathlib.Data.Prod.Lex
import Mathlib.Logic.Relation
import ServiceManifest.Proofs.Project.Closed
import ServiceManifest.Proofs.Text.Lines

/-!
# What stops a reference from being followed

To find out what an expression refers to, a resolution has to find out what parts of it refer to, what
a text in it holds, and where the names in it lead. Each of these is a task that needs others, and all
tasks that one needs come to an end. A task fails exactly if it needs a text that cannot be read, one
with NUL or half of a surrogate pair. All that comes of others is spelled where names are simple.
-/

namespace ServiceManifest

/-- A class name as modules spell it: its package is a dotted name, unless there is none, and the names
that lead to it are simple. -/
structure QualifiedName.IsSpelled (name : QualifiedName) : Prop where
  package : name.package = "" ∨ Source.IsDotted name.package
  simpleNames : Project.IsSimplePath name.simpleNames

/-- A class name that is spelled is well-formed. -/
theorem QualifiedName.IsSpelled.wellFormed {name : QualifiedName} (h : name.IsSpelled) :
    name.wellFormed = true :=
  h.simpleNames.wellFormed name.package

/-- Simple names are left simple by taking some of them away, as long as some are left. -/
theorem Project.IsSimplePath.subset {parts names : List String} (h : IsSimplePath parts)
    (hne : names ≠ []) (hsubset : names ⊆ parts) : IsSimplePath names :=
  ⟨hne, fun name hname => h.2 name (hsubset hname)⟩

/-- The class around a class is spelled if that one is. -/
theorem QualifiedName.IsSpelled.of_enclosing? {name outer : QualifiedName} (h : name.IsSpelled)
    (houter : name.enclosing? = some outer) : outer.IsSpelled := by
  obtain ⟨hlength, rfl⟩ := Project.enclosing?_eq_some houter
  refine ⟨h.package, h.simpleNames.subset (fun hnil => ?_) (List.dropLast_subset _)⟩
  have hlast := congrArg List.length hnil
  have hpos := List.length_pos_of_ne_nil h.simpleNames.1
  rw [List.length_dropLast, List.length_nil] at hlast
  omega

namespace TypeRef

/-- A reference of which all names are well-formed: its own, those of its type arguments, and those of
what it is an alias of. -/
inductive IsWellFormed : TypeRef → Prop
  | intro {name : QualifiedName} {arguments : List TypeRef} {aliasOf : Option TypeRef} {isClass : Bool}
      (hname : name.wellFormed = true) (harguments : ∀ argument ∈ arguments, IsWellFormed argument)
      (halias : ∀ target, aliasOf = some target → IsWellFormed target) :
      IsWellFormed ⟨name, arguments, aliasOf, isClass⟩

/-- A reference of which all names are spelled. -/
inductive IsSpelled : TypeRef → Prop
  | intro {name : QualifiedName} {arguments : List TypeRef} {aliasOf : Option TypeRef} {isClass : Bool}
      (hname : name.IsSpelled) (harguments : ∀ argument ∈ arguments, IsSpelled argument)
      (halias : ∀ target, aliasOf = some target → IsSpelled target) :
      IsSpelled ⟨name, arguments, aliasOf, isClass⟩

variable {ref : TypeRef}

/-- A reference that is spelled is well-formed. -/
theorem IsSpelled.isWellFormed (h : ref.IsSpelled) : ref.IsWellFormed := by
  induction h with
  | intro hname _ _ iharguments ihalias => exact .intro hname.wellFormed iharguments ihalias

/-- Type arguments that are spelled may be given to a reference. -/
theorem IsSpelled.withArguments (h : ref.IsSpelled) {arguments : List TypeRef}
    (harguments : ∀ argument ∈ arguments, argument.IsSpelled) :
    ({ ref with arguments := arguments } : TypeRef).IsSpelled := by
  cases h with
  | intro hname _ halias => exact .intro hname harguments halias

/-- The class nearest to a reference is spelled if the reference is. -/
theorem IsSpelled.closestClass (h : ref.IsSpelled) {name : QualifiedName}
    (hname : ref.closestClass = some name) : name.IsSpelled := by
  induction h with
  | @intro own arguments aliasOf isClass hown _ _ _ ih =>
    cases aliasOf with
    | some target => exact ih target rfl hname
    | none =>
      rw [TypeRef.closestClass] at hname
      split at hname
      · obtain rfl := Option.some.inj hname
        exact hown
      · exact hown.of_enclosing? hname

end TypeRef

namespace Project

open ServiceManifest.Source Relation

section Texts

/-- Half of a surrogate pair is no white space. -/
theorem isBlankCode_of_isSurrogate {code : Nat} (h : isSurrogate code = true) :
    Text.isBlankCode code = false := by
  simp only [isSurrogate, Bool.and_eq_true, decide_eq_true_eq] at h
  simp [Text.isBlankCode]
  omega

/-- Code points that cannot be read at all: NUL is among them, or half of a surrogate pair. -/
def IsUnreadable (codes : List Nat) : Prop := 0 ∈ codes ∨ ∃ code ∈ codes, isSurrogate code = true

variable {codes : List Nat}

/-- Reading a text fails exactly if it cannot be read. -/
theorem textExpression_eq_error_iff :
    (∃ fault, textExpression codes = .error fault) ↔ IsUnreadable codes := by
  have hzero : 0 ∈ Text.trimList Text.isBlankCode codes ↔ 0 ∈ codes := Text.mem_trimList (by decide)
  have hsurrogate : (∃ code ∈ Text.trimList Text.isBlankCode codes, isSurrogate code = true) ↔
      ∃ code ∈ codes, isSurrogate code = true :=
    exists_congr fun code => and_congr_left fun hcode =>
      Text.mem_trimList (isBlankCode_of_isSurrogate hcode)
  rw [IsUnreadable, ← hzero, ← hsurrogate]
  clear hzero hsurrogate
  unfold textExpression
  simp only [List.span_eq_takeWhile_dropWhile]
  split
  · rename_i hrest
    simp only [Bool.not_eq_true', List.isEmpty_eq_false_iff, ne_eq, List.dropWhile_eq_nil_iff] at hrest
    simpa using Or.inr hrest
  · rename_i hrest
    have hnone : ∀ code ∈ Text.trimList Text.isBlankCode codes, isSurrogate code = false := by
      simpa using hrest
    split <;> simp_all

/-- A text that can be read holds what is parsed of it: an expression that is lighter than the text, and
in which names are simple. -/
theorem textExpression_spec {parsed : Expr} (h : textExpression codes = .ok (some parsed)) :
    weight parsed < codes.length + 1 ∧ parsed.NamesAreSimple := by
  unfold textExpression at h
  simp only at h
  have hlength := (Text.trimList_sublist Text.isBlankCode codes).length_le
  split at h
  · cases h
  · split at h
    · cases h
    · obtain ⟨hweight, hsimple⟩ := parseExpression_spec (Except.ok.inj h)
      rw [List.length_map] at hweight
      exact ⟨by omega, hsimple⟩

end Texts

/-- What a resolution has to find out: what an expression in a module refers to, or what an absolute
name refers to, seen from a module, while links are open. -/
inductive Task
  | refer (open_ : List Link) (index : ModuleIndex) (scope : ClassPath) (expr : Expr)
  | name (open_ : List Link) (index : ModuleIndex) (absolute : String)

section Equations

variable {qualify : Qualify} {index : ModuleIndex} {scope : ClassPath}

/-- A subscript refers to what its value does, with what its elements refer to as arguments. -/
theorem typeRefBy_subscript {value : Expr} {elements : List Expr} :
    typeRefBy qualify index scope (.subscript value elements) =
      (typeRefBy qualify index scope value).bind fun found => found.elim (.ok none) fun base =>
        (typeRefsBy qualify index scope elements).map fun arguments =>
          some { base with arguments := arguments } := by
  rw [typeRefBy]
  rcases typeRefBy qualify index scope value with _ | _ | base
  · rfl
  · rfl
  · cases typeRefsBy qualify index scope elements <;> rfl

/-- A text refers to what the expression that it holds does. -/
theorem typeRefBy_text {codes : List Nat} :
    typeRefBy qualify index scope (.text codes) =
      (textExpression codes).bind fun found =>
        found.elim (.ok none) (typeRefBy qualify index scope) := by
  rw [typeRefBy]
  rcases hcodes : textExpression codes with _ | _ | parsed
  · rfl
  · rfl
  · exact dif_pos (textExpression_spec hcodes).1

end Equations

namespace Task

/-- What comes of a task. -/
def result (modules : Modules) : Task → Except Fault (Option TypeRef)
  | .refer open_ index scope expr => typeRefBy (qualified modules open_) index scope expr
  | .name open_ index absolute => (qualified modules open_ index absolute).map some

/-- A task needs another one. The elements of a subscript are needed once its value refers to
something, and a link is followed only if it is open. -/
inductive Needs (modules : Modules) : Task → Task → Prop
  | value {open_ : List Link} {index : ModuleIndex} {scope : ClassPath} {value : Expr}
      {elements : List Expr} :
      Needs modules (.refer open_ index scope (.subscript value elements))
        (.refer open_ index scope value)
  | element {open_ : List Link} {index : ModuleIndex} {scope : ClassPath} {value element : Expr}
      {elements : List Expr} {base : TypeRef}
      (hvalue : typeRefBy (qualified modules open_) index scope value = .ok (some base))
      (helement : element ∈ elements) :
      Needs modules (.refer open_ index scope (.subscript value elements))
        (.refer open_ index scope element)
  | parsed {open_ : List Link} {index : ModuleIndex} {scope : ClassPath} {codes : List Nat}
      {parsed : Expr} (hparsed : textExpression codes = .ok (some parsed)) :
      Needs modules (.refer open_ index scope (.text codes)) (.refer open_ index scope parsed)
  | name {open_ : List Link} {index : ModuleIndex} {scope : ClassPath} {expr : Expr} {dotted : String}
      (hdotted : expr.dottedName? = some dotted) :
      Needs modules (.refer open_ index scope expr) (.name open_ index (index.absolute scope dotted))
  | aliased {open_ : List Link} {index target : ModuleIndex} {absolute first : String}
      {nested : List String} {value : Expr}
      (hsplit : modules.splitOf absolute = some (target, first :: nested))
      (hbinding : target.binding first nested = .aliased value)
      (hopen : (target.name, first) ∈ open_) :
      Needs modules (.name open_ index absolute)
        (.refer (close (target.name, first) open_) target [] value)
  | imported {open_ : List Link} {index target : ModuleIndex} {absolute first source : String}
      {nested : List String} (hsplit : modules.splitOf absolute = some (target, first :: nested))
      (hbinding : target.binding first nested = .imported source)
      (hopen : (target.name, first) ∈ open_) :
      Needs modules (.name open_ index absolute)
        (.name (close (target.name, first) open_) target (".".intercalate (source :: nested)))

/-- How much a task has before it: the links that are open, then the weight of the expression. -/
def rank : Task → Nat ×ₗ Nat
  | .refer open_ _ _ expr => toLex (open_.length, weight expr)
  | .name open_ _ _ => toLex (open_.length, 0)

/-- The task reads a text that cannot be read. -/
def Fails (fault : Fault) : Task → Prop
  | .refer _ _ _ (.text codes) => textExpression codes = .error fault
  | _ => False

section Step

variable {modules : Modules} {task next : Task} {fault : Fault}

/-- What a task needs has less before it. -/
theorem Needs.rank_lt (h : task.Needs modules next) : next.rank < task.rank := by
  cases h with
  | value =>
    refine Prod.Lex.toLex_lt_toLex.mpr (.inr ⟨rfl, ?_⟩)
    simp only [weight]
    omega
  | element hvalue helement =>
    refine Prod.Lex.toLex_lt_toLex.mpr (.inr ⟨rfl, ?_⟩)
    have hless := weight_lt_weightAll helement
    simp only [weight]
    omega
  | parsed hparsed =>
    refine Prod.Lex.toLex_lt_toLex.mpr (.inr ⟨rfl, ?_⟩)
    simpa only [weight] using (textExpression_spec hparsed).1
  | name hdotted => exact Prod.Lex.toLex_lt_toLex.mpr (.inr ⟨rfl, weight_pos _⟩)
  | aliased _ _ hopen | imported _ _ hopen =>
    exact Prod.Lex.toLex_lt_toLex.mpr (.inl (length_close_lt hopen))

/-- Elements cannot be resolved if one of them cannot. -/
theorem typeRefsBy_eq_error {qualify : Qualify} {index : ModuleIndex} {scope : ClassPath}
    {elements : List Expr} (h : typeRefsBy qualify index scope elements = .error fault) :
    ∃ element ∈ elements, typeRefBy qualify index scope element = .error fault := by
  induction elements with
  | nil =>
    rw [typeRefsBy] at h
    cases h
  | cons first rest ih =>
    rw [typeRefsBy] at h
    cases hfirst : typeRefBy qualify index scope first with
    | error other =>
      simp only [hfirst] at h
      exact ⟨first, List.mem_cons_self, by rw [hfirst, Except.error.inj h]⟩
    | ok found =>
      cases hrest : typeRefsBy qualify index scope rest with
      | error other =>
        simp only [hfirst, hrest] at h
        obtain ⟨element, helement, heq⟩ := ih (hrest.trans h)
        exact ⟨element, List.mem_cons_of_mem _ helement, heq⟩
      | ok more => simp [hfirst, hrest] at h

/-- Where elements are resolved, each of them is, and what it refers to is among what they do. -/
theorem typeRefsBy_eq_ok {qualify : Qualify} {index : ModuleIndex} {scope : ClassPath}
    {elements : List Expr} {refs : List TypeRef}
    (h : typeRefsBy qualify index scope elements = .ok refs) :
    (∀ element ∈ elements, ∃ found, typeRefBy qualify index scope element = .ok found) ∧
      ∀ ref ∈ refs, ∃ element ∈ elements, typeRefBy qualify index scope element = .ok (some ref) := by
  induction elements generalizing refs with
  | nil =>
    rw [typeRefsBy] at h
    cases h
    exact ⟨List.forall_mem_nil _, List.forall_mem_nil _⟩
  | cons first rest ih =>
    rw [typeRefsBy] at h
    cases hfirst : typeRefBy qualify index scope first with
    | error other => simp [hfirst] at h
    | ok found =>
      cases hrest : typeRefsBy qualify index scope rest with
      | error other => simp [hfirst, hrest] at h
      | ok more =>
        simp only [hfirst, hrest, Except.ok.injEq] at h
        obtain ⟨hall, hrefs⟩ := ih hrest
        refine ⟨List.forall_mem_cons.mpr ⟨⟨found, hfirst⟩, hall⟩, fun ref href => ?_⟩
        rw [← h, List.mem_append, Option.mem_toList] at href
        rcases href with rfl | href
        · exact ⟨first, List.mem_cons_self, hfirst⟩
        · obtain ⟨element, helement, heq⟩ := hrefs ref href
          exact ⟨element, List.mem_cons_of_mem _ helement, heq⟩

/-- An expression fails if it is a text that cannot be read, or needs a task that fails. -/
theorem exists_needs_of_refer_error {open_ : List Link} {index : ModuleIndex} {scope : ClassPath}
    {expr : Expr} (h : (refer open_ index scope expr).result modules = .error fault) :
    (refer open_ index scope expr).Fails fault ∨ ∃ next,
      (refer open_ index scope expr).Needs modules next ∧ next.result modules = .error fault := by
  simp only [result] at h
  rcases hdotted : expr.dottedName? with _ | dotted
  · cases expr with
    | subscript value elements =>
      rw [typeRefBy_subscript, bind_eq_error_iff] at h
      rcases h with hvalue | ⟨_ | base, hvalue, h⟩
      · exact .inr ⟨_, .value, hvalue⟩
      · cases h
      · obtain ⟨element, hmem, heq⟩ := typeRefsBy_eq_error (map_eq_error_iff.mp h)
        exact .inr ⟨_, .element hvalue hmem, heq⟩
    | text codes =>
      rw [typeRefBy_text, bind_eq_error_iff] at h
      rcases h with hcodes | ⟨_ | parsed, hparsed, h⟩
      · exact .inl hcodes
      · cases h
      · exact .inr ⟨_, .parsed hparsed, h⟩
    | name id => cases hdotted
    | _ =>
      rw [typeRefBy_of_no_name hdotted (by simp) (by simp)] at h
      cases h
  · rw [typeRefBy_of_dottedName? hdotted] at h
    exact .inr ⟨_, .name hdotted, h⟩

/-- A name fails only if it needs a task that fails. -/
theorem exists_needs_of_name_error {open_ : List Link} {index : ModuleIndex} {absolute : String}
    (h : qualified modules open_ index absolute = .error fault) :
    ∃ next, (name open_ index absolute).Needs modules next ∧ next.result modules = .error fault := by
  rcases hsplit : modules.splitOf absolute with _ | ⟨target, _ | ⟨first, nested⟩⟩
  · rw [qualified_of_outside hsplit] at h
    cases h
  · rw [qualified_of_module hsplit] at h
    cases h
  · cases hbinding : target.binding first nested with
    | aliased value =>
      rw [qualified_of_alias hsplit hbinding] at h
      split at h
      · rename_i hopen
        exact ⟨_, .aliased hsplit hbinding hopen, map_eq_error_iff.mp h⟩
      · cases h
    | imported source =>
      rw [qualified_of_imported hsplit hbinding] at h
      split at h
      · rename_i hopen
        exact ⟨_, .imported hsplit hbinding hopen, map_eq_error_iff.mpr h⟩
      · cases h
    | own =>
      rw [qualified_of_own hsplit hbinding] at h
      cases h

/-- A task that fails reads a text that cannot be read, or needs a task that fails. -/
theorem exists_needs_of_error (h : task.result modules = .error fault) :
    task.Fails fault ∨ ∃ next, task.Needs modules next ∧ next.result modules = .error fault := by
  -- An expression may be the text itself, while a name has no text of its own.
  cases task with
  | refer open_ index scope expr => exact exists_needs_of_refer_error h
  | name open_ index absolute => exact .inr (exists_needs_of_name_error (map_eq_error_iff.mp h))

/-- A task fails if one that it needs does. -/
theorem Needs.exists_error (h : task.Needs modules next) (hnext : next.result modules = .error fault) :
    ∃ other, task.result modules = .error other := by
  cases h with
  | value =>
    refine ⟨fault, ?_⟩
    rw [result, typeRefBy_subscript, bind_eq_error_iff]
    exact .inl hnext
  | @element open_ index scope value element elements base hvalue helement =>
    simp only [result, typeRefBy_subscript, bind_eq_error_iff]
    -- An element in front of this one may have failed before, with another fault.
    cases helements : typeRefsBy (qualified modules open_) index scope elements with
    | error other => exact ⟨other, .inr ⟨_, hvalue, rfl⟩⟩
    | ok refs =>
      obtain ⟨found, hfound⟩ := (typeRefsBy_eq_ok helements).1 _ helement
      cases hfound.symm.trans hnext
  | parsed hparsed =>
    refine ⟨fault, ?_⟩
    rw [result, typeRefBy_text, hparsed]
    exact hnext
  | name hdotted =>
    refine ⟨fault, ?_⟩
    rw [result, typeRefBy_of_dottedName? hdotted]
    exact hnext
  | aliased hsplit hbinding hopen =>
    refine ⟨fault, map_eq_error_iff.mpr ?_⟩
    rw [qualified_of_alias hsplit hbinding, if_pos hopen]
    exact map_eq_error_iff.mpr hnext
  | imported hsplit hbinding hopen =>
    refine ⟨fault, map_eq_error_iff.mpr ?_⟩
    rw [qualified_of_imported hsplit hbinding, if_pos hopen]
    exact map_eq_error_iff.mp hnext

end Step

section Run

variable {modules : Modules} {task last : Task} {fault : Fault}

/-- All tasks that a task needs are done before it. -/
theorem induct (modules : Modules) {motive : Task → Prop}
    (step : ∀ task, (∀ next, task.Needs modules next → motive next) → motive task) (task : Task) :
    motive task :=
  (InvImage.wf rank wellFounded_lt).induction task fun task ih =>
    step task fun next hneeds => ih next hneeds.rank_lt

/-- A task that fails has come to a text that cannot be read, with the fault of that text. -/
theorem exists_fails_of_error (h : task.result modules = .error fault) :
    ∃ last, ReflTransGen (Needs modules) task last ∧ last.Fails fault := by
  induction task using induct modules with
  | step task ih =>
    rcases exists_needs_of_error h with hfails | ⟨next, hneeds, hnext⟩
    · exact ⟨task, .refl, hfails⟩
    · obtain ⟨last, hlast, hfails⟩ := ih next hneeds hnext
      exact ⟨last, .head hneeds hlast, hfails⟩

/-- A task that comes to a text that cannot be read fails, perhaps with the fault of another text. -/
theorem exists_error_of_fails (h : ReflTransGen (Needs modules) task last)
    (hfails : last.Fails fault) : ∃ other, task.result modules = .error other := by
  induction h using ReflTransGen.head_induction_on with
  | refl =>
    refine ⟨fault, ?_⟩
    unfold Fails at hfails
    split at hfails
    · rw [result, typeRefBy_text, hfails]
      rfl
    · cases hfails
  | head hneeds _ ih =>
    obtain ⟨other, hother⟩ := ih
    exact hneeds.exists_error hother

end Run

end Task

/-- All names in the modules of a project are simple. -/
def Modules.NamesAreSimple (modules : Modules) : Prop :=
  ∀ name index, Keyed.get? name modules = some index → index.NamesAreSimple

section Spelled

variable {modules : Modules} {index : ModuleIndex} {parts : List String}

/-- A class or member at a path of simple names is spelled if its package is. -/
theorem isSpelled_of_isSimplePath {package : String} (hpackage : package = "" ∨ IsDotted package)
    {names : List String} (h : IsSimplePath names) (isClass : Bool) :
    (⟨⟨package, names⟩, [], none, isClass⟩ : TypeRef).IsSpelled :=
  .intro ⟨hpackage, h⟩ (List.forall_mem_nil _) nofun

/-- The parts of a dotted name are a path of simple names. -/
theorem isSimplePath_nameParts {dotted : String} (h : IsDotted dotted) :
    IsSimplePath (nameParts '.' dotted) :=
  ⟨nameParts_ne_nil dotted, h⟩

/-- The parts behind the module at which a dotted name is split are simple. -/
theorem isSimplePath_of_splitOf {absolute first : String} {nested : List String} {target : ModuleIndex}
    (h : IsDotted absolute) (hsplit : modules.splitOf absolute = some (target, first :: nested)) :
    IsSimplePath (first :: nested) := by
  obtain ⟨n, -, -, hrest, -⟩ := Modules.splitAt_eq_some hsplit
  refine (isSimplePath_nameParts h).subset (List.cons_ne_nil _ _) ?_
  rw [hrest]
  exact List.drop_subset _ _

/-- Some of simple names spell a package, which is empty if there are none of them. -/
theorem isDotted_of_subset (h : IsSimplePath parts) {front : List String} (hfront : front ⊆ parts) :
    ".".intercalate front = "" ∨ IsDotted (".".intercalate front) := by
  rcases eq_or_ne front [] with rfl | hne
  · exact .inl rfl
  · exact .inr (isDotted_intercalate hne fun part hpart => (h.2 part (hfront hpart)).isDotted)

/-- The last of simple names, behind the others. -/
theorem isSpelled_splitTail (h : IsSimplePath parts) : (splitTail parts).IsSpelled := by
  obtain ⟨front, last, rfl⟩ := (List.eq_nil_or_concat' parts).resolve_left h.1
  exact ⟨isDotted_of_subset h (List.dropLast_subset _),
    h.subset (List.cons_ne_nil _ _) (by simp [splitTail])⟩

/-- Simple names that are split behind a known module are spelled. -/
theorem isSpelled_externalAt (h : IsSimplePath parts) (known : List String) {count : Nat}
    (hcount : count < parts.length) : (externalAt known parts count).IsSpelled := by
  induction count with
  | zero => exact isSpelled_splitTail h
  | succ count ih =>
    rw [externalAt]
    split
    · refine ⟨isDotted_of_subset h (List.take_subset _ _),
        h.subset (fun hnil => ?_) (List.drop_subset _ _)⟩
      rw [List.drop_eq_nil_iff] at hnil
      omega
    · exact ih (Nat.lt_of_succ_lt hcount)

/-- What leaves the project is spelled. -/
theorem isSpelled_external (h : IsSimplePath parts) : (external index parts).IsSpelled := by
  have hlength := List.length_pos_of_ne_nil h.1
  exact .intro (isSpelled_externalAt h _ (by omega)) (List.forall_mem_nil _) nofun

/-- A class or member of a module is spelled. -/
theorem isSpelled_memberOf (hindex : index.NamesAreSimple) (h : IsSimplePath parts) :
    (memberOf index parts).IsSpelled := by
  unfold memberOf
  simp only
  split
  · exact isSpelled_of_isSimplePath (.inr hindex.dotted.name) h true
  · refine isSpelled_of_isSimplePath (.inr hindex.dotted.name)
      (h.subset ?_ (List.take_subset _ _)) false
    simpa using h.1

namespace Task

/-- All names in a task are simple. -/
def NamesAreSimple : Task → Prop
  | .refer _ index scope expr =>
    index.NamesAreSimple ∧ (∀ name ∈ scope, IsSimple name) ∧ expr.NamesAreSimple
  | .name _ _ absolute => IsDotted absolute

variable {task next : Task}

/-- Where names in modules are simple, those in what a task needs are if its own are. -/
theorem Needs.namesAreSimple (hmodules : modules.NamesAreSimple) (h : task.Needs modules next)
    (hnames : task.NamesAreSimple) : next.NamesAreSimple := by
  cases h with
  | value =>
    obtain ⟨hindex, hscope, hexpr⟩ := hnames
    exact ⟨hindex, hscope, (Expr.namesAreSimple_subscript.mp hexpr).1⟩
  | element _ helement =>
    obtain ⟨hindex, hscope, hexpr⟩ := hnames
    exact ⟨hindex, hscope, (Expr.namesAreSimple_subscript.mp hexpr).2 _ helement⟩
  | parsed hparsed =>
    obtain ⟨hindex, hscope, -⟩ := hnames
    exact ⟨hindex, hscope, (textExpression_spec hparsed).2⟩
  | name hdotted =>
    obtain ⟨hindex, hscope, hexpr⟩ := hnames
    exact hindex.dotted.absolute hscope (hexpr.isDotted hdotted)
  | @aliased open_ index target absolute first nested value hsplit hbinding hopen =>
    obtain ⟨name, htarget⟩ := exists_get?_of_splitOf hsplit
    have halias := alias_of_binding hbinding
    rw [Option.ite_none_right_eq_some] at halias
    exact ⟨hmodules name _ htarget, List.forall_mem_nil _,
      ((hmodules name _ htarget).aliases _ _ halias.2).2⟩
  | imported hsplit hbinding hopen =>
    obtain ⟨name, htarget⟩ := exists_get?_of_splitOf hsplit
    have hnested := (isSimplePath_of_splitOf hnames hsplit).2
    refine isDotted_intercalate (List.cons_ne_nil _ _) (List.forall_mem_cons.mpr ⟨?_, ?_⟩)
    · exact (hmodules name _ htarget).dotted.imports _ _ (hasClass_of_binding hbinding).2
    · exact fun part hpart => (hnested part (List.mem_cons_of_mem _ hpart)).isDotted

/-- What an expression refers to is spelled if what it needs is. -/
theorem isSpelled_of_refer {open_ : List Link} {index : ModuleIndex} {scope : ClassPath}
    {expr : Expr} (hneeds : ∀ next, (refer open_ index scope expr).Needs modules next → ∀ ref,
      next.result modules = .ok (some ref) → ref.IsSpelled)
    {ref : TypeRef} (h : (refer open_ index scope expr).result modules = .ok (some ref)) :
    ref.IsSpelled := by
  simp only [result] at h
  rcases hdotted : expr.dottedName? with _ | dotted
  · cases expr with
    | subscript value elements =>
      rw [typeRefBy_subscript, bind_eq_ok_iff] at h
      obtain ⟨_ | base, hvalue, h⟩ := h
      · cases h
      · obtain ⟨arguments, helements, hsome⟩ := map_eq_ok_iff.mp h
        obtain rfl := Option.some.inj hsome
        refine (hneeds _ .value base hvalue).withArguments fun argument hargument => ?_
        obtain ⟨element, hmem, helement⟩ := (typeRefsBy_eq_ok helements).2 argument hargument
        exact hneeds _ (.element hvalue hmem) argument helement
    | text codes =>
      rw [typeRefBy_text, bind_eq_ok_iff] at h
      obtain ⟨_ | parsed, hparsed, h⟩ := h
      · cases h
      · exact hneeds _ (.parsed hparsed) ref h
    | name id => cases hdotted
    | _ =>
      rw [typeRefBy_of_no_name hdotted (by simp) (by simp)] at h
      cases h
  · rw [typeRefBy_of_dottedName? hdotted] at h
    exact hneeds _ (.name hdotted) ref h

/-- What a dotted name refers to is spelled if what it needs is. -/
theorem isSpelled_of_name (hmodules : modules.NamesAreSimple) {open_ : List Link}
    {index : ModuleIndex} {absolute : String} (habsolute : IsDotted absolute)
    (hneeds : ∀ next, (name open_ index absolute).Needs modules next → ∀ ref,
      next.result modules = .ok (some ref) → ref.IsSpelled)
    {ref : TypeRef} (h : qualified modules open_ index absolute = .ok ref) : ref.IsSpelled := by
  have hparts := isSimplePath_nameParts habsolute
  have hmember {target : ModuleIndex} {first : String} {nested : List String}
      (hsplit : modules.splitOf absolute = some (target, first :: nested)) :
      target.NamesAreSimple ∧ IsSimplePath (first :: nested) ∧ IsSimplePath [first] := by
    obtain ⟨module, htarget⟩ := exists_get?_of_splitOf hsplit
    have hpath := isSimplePath_of_splitOf habsolute hsplit
    exact ⟨hmodules module _ htarget, hpath, hpath.subset (List.cons_ne_nil first []) (by simp)⟩
  cases finds_of_qualified h with
  | outside hsplit => exact isSpelled_external hparts
  | module hsplit => exact .intro (isSpelled_splitTail hparts) (List.forall_mem_nil _) nofun
  | aliased hsplit hbinding hopen hfound =>
    obtain ⟨hindex, -, hfirst⟩ := hmember hsplit
    refine .intro ⟨.inr hindex.dotted.name, hfirst⟩ (List.forall_mem_nil _)
      fun reached hreached => ?_
    exact hneeds _ (.aliased hsplit hbinding hopen) reached (hreached ▸ hfound)
  | followed hsplit =>
    obtain ⟨hindex, -, hfirst⟩ := hmember hsplit
    exact isSpelled_of_isSimplePath (.inr hindex.dotted.name) hfirst false
  | imported hsplit hbinding hopen hfound =>
    exact hneeds _ (.imported hsplit hbinding hopen) ref (map_eq_ok_iff.mpr ⟨_, hfound, rfl⟩)
  | member hsplit =>
    obtain ⟨hindex, hpath, -⟩ := hmember hsplit
    exact isSpelled_memberOf hindex hpath

/-- Where names are simple, what a task refers to is spelled. -/
theorem isSpelled_of_result (hmodules : modules.NamesAreSimple) (hnames : task.NamesAreSimple)
    {ref : TypeRef} (h : task.result modules = .ok (some ref)) : ref.IsSpelled := by
  induction task using induct modules generalizing ref with
  | step task ih =>
    have hneeds : ∀ next, task.Needs modules next → ∀ ref,
        next.result modules = .ok (some ref) → ref.IsSpelled :=
      fun next hnext ref => ih next hnext (hnext.namesAreSimple hmodules hnames)
    cases task with
    | refer open_ index scope expr => exact isSpelled_of_refer hneeds h
    | name open_ index absolute =>
      obtain ⟨found, hfound, hsome⟩ := map_eq_ok_iff.mp h
      exact isSpelled_of_name hmodules hnames hneeds (Option.some.inj hsome ▸ hfound)

end Task

end Spelled

end Project

end ServiceManifest
