import ServiceManifest.Proofs.Project.Ancestors

/-!
# What is remembered of settled classes

A closure that is computed while that of another class is in progress may be provisional, and stays
so. This does no harm to a class if no two classes that are reached from it lie above each other and
no class statement shares its name, or that of a class reached, with a different one: whatever was
asked for before, what is remembered of it is then all that is above it. The invariant leaves out the
classes in progress, all of which lie below the class that is asked for.
-/

namespace ServiceManifest.Project

open ServiceManifest.Source Relation

/-- A class statement of a module: the path to it and its bases. -/
structure ClassStatement where
  index : ModuleIndex
  path : List String
  bases : List Expr

/-- The qualified name of the class. -/
def ClassStatement.name (statement : ClassStatement) : QualifiedName :=
  ⟨statement.index.name, statement.path⟩

/-- A class statement of one of some sources, inside of a function or not. -/
def States (markers : List String) (sources : List Source) (statement : ClassStatement) : Prop :=
  ∃ source ∈ sources, ∃ declared ∈ declarations source.statements, declared.kind ≠ .function ∧
    statement = ⟨source.index markers, declared.path, declared.bases⟩

/-- A class about which nothing depends on the order of questions: no two class statements with its
name, or with that of a class reached from it, differ, and no two classes among these are above each
other. -/
structure IsSettled (markers : List String) (sources : List Source) (name : QualifiedName) : Prop where
  alone : ∀ {above}, ReflTransGen (HasBase markers sources) name above → ∀ {first second},
    States markers sources first → States markers sources second → first.name = above →
      second.name = above → first = second
  apart : ∀ {above other}, ReflTransGen (HasBase markers sources) name above →
    TransGen (HasBase markers sources) above other →
      TransGen (HasBase markers sources) other above → other = above

/-- Every base of a class, and of the classes reached from it, can be resolved. -/
def Resolves (markers : List String) (sources : List Source) (name : QualifiedName) : Prop :=
  ∀ above, ReflTransGen (HasBase markers sources) name above → ∀ statement,
    States markers sources statement → statement.name = above → ∀ expr ∈ statement.bases, ∃ base,
      baseClass? (modulesOf markers sources) statement.index statement.path expr = .ok base

/-- A set with every class that is reached from a name. -/
def ClassSet.HasReached (markers : List String) (sources : List Source) (name : QualifiedName)
    (classes : ClassSet) : Prop :=
  ∀ above, TransGen (HasBase markers sources) name above → above ∈ classes

section Edges

variable {markers : List String} {sources : List Source} {name above : QualifiedName}

/-- A base edge is a base of a class statement with the name. -/
theorem hasBase_iff : HasBase markers sources name above ↔
    ∃ statement, States markers sources statement ∧ statement.name = name ∧
      ∃ expr ∈ statement.bases, baseClass? (modulesOf markers sources) statement.index
        statement.path expr = .ok (some above) := by
  simp only [baseClass?_eq_some_iff]
  constructor
  · rintro ⟨source, hsource, hmodule, declared, hdeclared, hkind, hpath, hbase⟩
    refine ⟨_, ⟨source, hsource, declared, hdeclared, hkind, rfl⟩, ?_, hbase⟩
    rw [ClassStatement.name, source.name_index, hmodule, hpath]
  · rintro ⟨_, ⟨source, hsource, declared, hdeclared, hkind, rfl⟩, rfl, hbase⟩
    exact ⟨source, hsource, source.name_index.symm, declared, hdeclared, hkind, rfl, hbase⟩

/-- The bases of a settled class are settled. -/
theorem IsSettled.of_hasBase (h : IsSettled markers sources name)
    (hbase : HasBase markers sources name above) : IsSettled markers sources above where
  alone habove := h.alone (.head hbase habove)
  apart habove := h.apart (.head hbase habove)

/-- What resolves for a class resolves for its bases. -/
theorem Resolves.of_hasBase (h : Resolves markers sources name)
    (hbase : HasBase markers sources name above) : Resolves markers sources above :=
  fun other hother => h other (.head hbase hother)

/-- A class that the project knows is that of a class statement with its name. -/
theorem states_of_declaration? {owner : ModuleIndex} {bases : List Expr}
    (h : declaration? (modulesOf markers sources) name = some (owner, bases)) :
    States markers sources ⟨owner, name.simpleNames, bases⟩ ∧ owner.name = name.package := by
  obtain ⟨source, hsource, hmodule, rfl, declared, hdeclared, hkind, hpath, rfl⟩ :=
    exists_declared_of_declaration? h
  exact ⟨⟨source, hsource, declared, hdeclared, hkind.trans_ne (by decide), by rw [← hpath]⟩,
    source.name_index.trans hmodule⟩

end Edges

section Remembered

variable {name other : QualifiedName} {closure : ClassSet} {closures after last : Closures}

/-- What is remembered of a name after something was remembered. -/
theorem Closures.get?_put : (closures.put name closure).get? other =
    if other = name then some closure else closures.get? other := by
  unfold Closures.get? Closures.put
  rw [List.find?_cons]
  by_cases heq : other = name
  · simp [heq]
  · simp only [decide_eq_false (Ne.symm heq), List.find?_filter, if_neg heq]
    congr 2
    funext entry
    by_cases hentry : entry.1 = other
    · simp [hentry, heq]
    · simp [hentry]

/-- Everything that is remembered in the first closures is remembered in the second ones. -/
def Closures.Within (closures after : Closures) : Prop :=
  ∀ name, closures.get? name ≠ none → after.get? name ≠ none

/-- Nothing is forgotten in two steps either. -/
theorem Closures.Within.trans (h : closures.Within after) (hlast : after.Within last) :
    closures.Within last :=
  fun name hname => hlast name (h name hname)

/-- Remembering something forgets nothing. -/
theorem Closures.within_put : closures.Within (closures.put name closure) := by
  intro other hother
  rw [get?_put]
  split
  · nofun
  · exact hother

/-- The names of the classes that modules know. -/
def Modules.classNames (modules : Modules) : List QualifiedName :=
  modules.flatMap fun entry => entry.2.classes.map fun found => ⟨entry.1, found.1⟩

/-- There are as many names as classes. -/
theorem Modules.length_classNames (modules : Modules) :
    modules.classNames.length = modules.classCount := by
  induction modules with
  | nil => rfl
  | cons entry rest ih =>
    rw [Modules.classNames, List.flatMap_cons, List.length_append, List.length_map]
    exact congrArg _ ih

/-- A class with a declaration is among the names of the classes. -/
theorem Modules.mem_classNames {modules : Modules} {found : ModuleIndex × List Expr}
    (h : declaration? modules name = some found) : name ∈ modules.classNames := by
  obtain ⟨owner, howner, hbases⟩ := Option.bind_eq_some_iff.mp h
  obtain ⟨bases, hstated, -⟩ := Option.map_eq_some_iff.mp hbases
  obtain ⟨entry, hentry, -⟩ := Option.map_eq_some_iff.mp hstated
  have hpath : entry.1 = name.simpleNames := by simpa using List.find?_some hentry
  exact List.mem_flatMap.mpr ⟨_, Keyed.mem_of_get?_eq_some howner,
    List.mem_map.mpr ⟨entry, List.mem_of_find?_eq_some hentry, by rw [hpath]⟩⟩

/-- The classes of a project of which nothing is remembered. -/
def Closures.unknown (modules : Modules) (closures : Closures) : List QualifiedName :=
  modules.classNames.filter fun name => (closures.get? name).isNone

/-- The more is remembered, the less is unknown. -/
theorem Closures.length_unknown_le {modules : Modules} (h : closures.Within after) :
    (after.unknown modules).length ≤ (closures.unknown modules).length := by
  refine List.Sublist.length_le (List.monotone_filter_right _ fun name hname => ?_)
  by_contra hknown
  rw [Option.isNone_iff_eq_none] at hname hknown
  exact h name hknown hname

/-- Remembering a class that was unknown leaves less unknown. -/
theorem Closures.length_unknown_put_lt {modules : Modules} (hname : name ∈ modules.classNames)
    (hnone : closures.get? name = none) :
    ((closures.put name closure).unknown modules).length < (closures.unknown modules).length := by
  have hput : (closures.put name closure).unknown modules =
      (closures.unknown modules).filter (· ≠ name) := by
    unfold Closures.unknown
    rw [List.filter_filter]
    refine List.filter_congr fun other _ => ?_
    rw [Closures.get?_put]
    by_cases heq : other = name <;> simp [heq]
  rw [hput, List.length_filter_lt_length_iff_exists]
  exact ⟨name, List.mem_filter.mpr ⟨hname, by rw [hnone]; rfl⟩, by simp⟩

end Remembered

section Invariant

variable (markers : List String) (sources : List Source)

/-- Closures that remember every class in progress, and are right about every settled class that is
remembered and not in progress: all that is reached from it is remembered, and could be resolved. -/
structure Closures.IsRight (busy : List QualifiedName) (closures : Closures) : Prop where
  remembered : ∀ name ∈ busy, closures.get? name ≠ none
  right : ∀ {name closure}, closures.get? name = some closure → name ∉ busy →
    IsSettled markers sources name →
      closure.HasReached markers sources name ∧ Resolves markers sources name

/-- Every class statement that a base stands for can be looked up. -/
def AreKnown : Prop :=
  ∀ {name above statement}, HasBase markers sources name above → States markers sources statement →
    statement.name = above → ∃ found, declaration? (modulesOf markers sources) above = some found

/-- A depth that suffices for the closure of a class: one look at what is remembered, or one step for
the class and for each class that is unknown still. -/
structure Suffices (closures : Closures) (name : QualifiedName) (depth : Nat) : Prop where
  pos : 0 < depth
  step : closures.get? name = none →
    ((closures.put name [.object]).unknown (modulesOf markers sources)).length + 2 ≤ depth

/-- What the computation of the closure of a class comes to while others are in progress. -/
structure Answers (busy : List QualifiedName) (closures : Closures) (name : QualifiedName)
    (result : Except Fault (ClassSet × Closures)) : Prop where
  within : ∀ {closure after}, result = .ok (closure, after) → closures.Within after
  right : ∀ {closure after}, result = .ok (closure, after) → after.IsRight markers sources busy
  complete : ∀ {closure after}, result = .ok (closure, after) → name ∉ busy →
    IsSettled markers sources name →
      closure.HasReached markers sources name ∧ Resolves markers sources name
  succeeds : IsSettled markers sources name → Resolves markers sources name →
    ∃ found, result = .ok found

/-- What adding bases of a class statement comes to while its closure, and others, are in
progress. -/
structure Adds (busy : List QualifiedName) (closures : Closures) (statement : ClassStatement)
    (bases : List Expr) (found : ClassSet) (result : Except Fault (ClassSet × Closures)) : Prop where
  within : ∀ {closure after}, result = .ok (closure, after) → closures.Within after
  right : ∀ {closure after}, result = .ok (closure, after) →
    after.IsRight markers sources (statement.name :: busy)
  keeps : ∀ {closure after}, result = .ok (closure, after) → ∀ name ∈ found, name ∈ closure
  complete : ∀ {closure after}, result = .ok (closure, after) →
    IsSettled markers sources statement.name → ∀ expr ∈ bases, ∃ base,
      baseClass? (modulesOf markers sources) statement.index statement.path expr = .ok base ∧
        ∀ above, base = some above → above ∈ closure ∧ (above ≠ statement.name →
          closure.HasReached markers sources above ∧ Resolves markers sources above)
  succeeds : IsSettled markers sources statement.name → Resolves markers sources statement.name →
    ∃ found, result = .ok found

/-- A computation of closures that answers for every class statement below those in progress. -/
def AnswersWithin (depth : Nat) (closureOf : ClosureOf) : Prop :=
  ∀ {busy closures statement}, States markers sources statement →
    closures.IsRight markers sources busy →
    (∀ name ∈ busy, TransGen (HasBase markers sources) name statement.name) →
    Suffices markers sources closures statement.name depth →
      Answers markers sources busy closures statement.name
        (closureOf closures statement.index statement.path statement.bases)

end Invariant

section Steps

variable {markers : List String} {sources : List Source} {busy : List QualifiedName}
  {closures : Closures} {statement : ClassStatement} {depth : Nat}

/-- The class that is asked for may be in progress with the object class alone. -/
theorem Closures.IsRight.begin (h : closures.IsRight markers sources busy) {name : QualifiedName}
    (closure : ClassSet) : (closures.put name closure).IsRight markers sources (name :: busy) where
  remembered other hother := by
    rw [get?_put]
    split
    · nofun
    · rename_i hne
      exact h.remembered other ((List.mem_cons.mp hother).resolve_left hne)
  right hget hbusy hsettled := by
    rw [List.mem_cons, not_or] at hbusy
    rw [get?_put, if_neg hbusy.1] at hget
    exact h.right hget hbusy.2 hsettled

/-- The class that was asked for is no longer in progress once all that is reached from it is
remembered. -/
theorem Closures.IsRight.finish {name : QualifiedName} {closure : ClassSet}
    (h : closures.IsRight markers sources (name :: busy))
    (hclosure : IsSettled markers sources name →
      closure.HasReached markers sources name ∧ Resolves markers sources name) :
    (closures.put name closure).IsRight markers sources busy where
  remembered other hother := by
    rw [get?_put]
    split
    · nofun
    · exact h.remembered other (List.mem_cons_of_mem name hother)
  right {other found} hget hbusy hsettled := by
    rw [get?_put] at hget
    split at hget
    · rename_i heq
      subst heq
      cases hget
      exact hclosure hsettled
    · rename_i hne
      exact h.right hget (fun hmem => (List.mem_cons.mp hmem).elim hne hbusy) hsettled

/-- Without a class statement of the name nothing is reached from it. -/
theorem hasReached_of_not_stated {name : QualifiedName}
    (h : ∀ statement, States markers sources statement → statement.name ≠ name)
    (closure : ClassSet) :
    closure.HasReached markers sources name ∧ Resolves markers sources name := by
  have hedge {above : QualifiedName} : ¬HasBase markers sources name above := by
    intro hbase
    obtain ⟨statement, hstated, hname, -⟩ := hasBase_iff.mp hbase
    exact h statement hstated hname
  refine ⟨fun above hreached => ?_, fun above hreached statement hstated hname => ?_⟩
  · obtain ⟨_, hbase, -⟩ := TransGen.head'_iff.mp hreached
    exact absurd hbase hedge
  · rcases ReflTransGen.cases_head hreached with rfl | ⟨_, hbase, -⟩
    · exact absurd hname (h statement hstated)
    · exact absurd hbase hedge

/-- A set that has each base of a settled class, and what is reached from those other than the class
itself, has all that is reached from the class. -/
theorem hasReached_of_bases (hstated : States markers sources statement)
    (hsettled : IsSettled markers sources statement.name) {closure : ClassSet}
    (hbases : ∀ expr ∈ statement.bases, ∃ base,
      baseClass? (modulesOf markers sources) statement.index statement.path expr = .ok base ∧
        ∀ above, base = some above → above ∈ closure ∧ (above ≠ statement.name →
          closure.HasReached markers sources above ∧ Resolves markers sources above)) :
    closure.HasReached markers sources statement.name ∧
      Resolves markers sources statement.name := by
  have hedge {above : QualifiedName} (h : HasBase markers sources statement.name above) :
      above ∈ closure ∧ (above ≠ statement.name →
        closure.HasReached markers sources above ∧ Resolves markers sources above) := by
    obtain ⟨other, hother, hname, expr, hexpr, hbase⟩ := hasBase_iff.mp h
    obtain rfl := hsettled.alone .refl hother hstated hname rfl
    obtain ⟨base, hok, habove⟩ := hbases expr hexpr
    rw [hbase] at hok
    exact habove above (Except.ok.inj hok).symm
  -- On a path from the class, what counts is the last edge that starts at the class itself.
  constructor
  · intro above hreached
    have hpath : ∀ {start}, TransGen (HasBase markers sources) start above →
        start = statement.name → above ∈ closure := by
      intro start hstart
      induction hstart using TransGen.head_induction_on with
      | single hbase =>
        rintro rfl
        exact (hedge hbase).1
      | @head start next hbase hrest ih =>
        rintro rfl
        by_cases hnext : next = statement.name
        · exact ih hnext
        · exact ((hedge hbase).2 hnext).1 above hrest
    exact hpath hreached rfl
  · intro above hreached other hother hname expr hexpr
    have hpath : ∀ {start}, ReflTransGen (HasBase markers sources) start above →
        start = statement.name →
          ∃ base, baseClass? (modulesOf markers sources) other.index other.path expr = .ok base := by
      intro start hstart
      induction hstart using ReflTransGen.head_induction_on with
      | refl =>
        rintro rfl
        obtain rfl := hsettled.alone .refl hother hstated hname rfl
        obtain ⟨base, hok, -⟩ := hbases expr hexpr
        exact ⟨base, hok⟩
      | @head start next hbase hrest ih =>
        rintro rfl
        by_cases hnext : next = statement.name
        · exact ih hnext
        · exact ((hedge hbase).2 hnext).2 above hrest other hother hname expr hexpr
    exact hpath hreached rfl

/-- Adding one base more, after which the set has it, and all that is reached from it unless it is
the class itself. -/
theorem Adds.cons {known : Closures} {expr : Expr} {rest : List Expr} {found more : ClassSet}
    {result : Except Fault (ClassSet × Closures)}
    (h : Adds markers sources busy known statement rest more result) (hknown : closures.Within known)
    (hfound : ∀ name ∈ found, name ∈ more)
    (hexpr : IsSettled markers sources statement.name → ∃ base,
      baseClass? (modulesOf markers sources) statement.index statement.path expr = .ok base ∧
        ∀ above, base = some above → above ∈ more ∧ (above ≠ statement.name →
          more.HasReached markers sources above ∧ Resolves markers sources above)) :
    Adds markers sources busy closures statement (expr :: rest) found result where
  within hok := hknown.trans (h.within hok)
  right := h.right
  keeps hok name hname := h.keeps hok name (hfound name hname)
  complete hok hsettled := by
    obtain ⟨base, hbase, hmore⟩ := hexpr hsettled
    refine List.forall_mem_cons.mpr ⟨⟨base, hbase, fun above habove => ?_⟩, h.complete hok hsettled⟩
    obtain ⟨hmem, hreached⟩ := hmore above habove
    exact ⟨h.keeps hok above hmem, fun hne =>
      ⟨fun name hname => h.keeps hok name ((hreached hne).1 name hname), (hreached hne).2⟩⟩
  succeeds := h.succeeds

/-- Adding bases that comes to a fault, because a settled class on the way cannot be resolved. -/
theorem adds_error {bases : List Expr} {found : ClassSet} {fault : Fault}
    (h : IsSettled markers sources statement.name → ¬Resolves markers sources statement.name) :
    Adds markers sources busy closures statement bases found (.error fault) :=
  ⟨nofun, nofun, nofun, nofun, fun hsettled hresolves => absurd hresolves (h hsettled)⟩

/-- The closure of a base that is declared is answered while that of the class is in progress. -/
theorem answers_declared {below : ClosureOf} (hbelow : AnswersWithin markers sources depth below)
    (hright : closures.IsRight markers sources (statement.name :: busy))
    (hbusy : ∀ name ∈ busy, TransGen (HasBase markers sources) name statement.name)
    {above : QualifiedName} (hedge : HasBase markers sources statement.name above)
    {owner : ModuleIndex} {bases : List Expr}
    (hdeclared : declaration? (modulesOf markers sources) above = some (owner, bases))
    (hdepth : (closures.unknown (modulesOf markers sources)).length + 1 ≤ depth) :
    Answers markers sources (statement.name :: busy) closures above
      (below closures owner above.simpleNames bases) := by
  obtain ⟨hstated, howner⟩ := states_of_declaration? hdeclared
  have hname : ClassStatement.name ⟨owner, above.simpleNames, bases⟩ = above := by
    rw [ClassStatement.name, howner]
  have hanswers := @hbelow (statement.name :: busy) closures _ hstated hright
  rw [hname] at hanswers
  refine hanswers ?_ ⟨by omega, fun hnone => ?_⟩
  · exact List.forall_mem_cons.mpr ⟨.single hedge, fun name hmem => (hbusy name hmem).tail hedge⟩
  · have hless := @Closures.length_unknown_put_lt _ [.object] _ _
      (Modules.mem_classNames hdeclared) hnone
    omega

/-- If the closures of bases are answered, then so is what adding them comes to. -/
theorem adds_addBases (hknown : AreKnown markers sources) {below : ClosureOf}
    (hbelow : AnswersWithin markers sources depth below) (hstated : States markers sources statement)
    (hbusy : ∀ name ∈ busy, TransGen (HasBase markers sources) name statement.name)
    {bases : List Expr} (hbases : ∀ expr ∈ bases, expr ∈ statement.bases) {found : ClassSet}
    (hright : closures.IsRight markers sources (statement.name :: busy))
    (hdepth : (closures.unknown (modulesOf markers sources)).length + 1 ≤ depth) :
    Adds markers sources busy closures statement bases found (addBases (modulesOf markers sources)
      below statement.index statement.path bases found closures) := by
  induction bases generalizing found closures with
  | nil =>
    rw [addBases]
    refine ⟨?_, ?_, ?_, fun _ _ => List.forall_mem_nil _, fun _ _ => ⟨_, rfl⟩⟩
    · rintro closure after ⟨⟩
      exact fun _ => id
    · rintro closure after ⟨⟩
      exact hright
    · rintro closure after ⟨⟩
      exact fun _ => id
  | cons expr rest ih =>
    obtain ⟨hexpr, hrest⟩ := List.forall_mem_cons.mp hbases
    rw [addBases]
    cases hbase : baseClass? (modulesOf markers sources) statement.index statement.path expr with
    | error fault =>
      refine adds_error fun _ hresolves => ?_
      obtain ⟨base, hok⟩ := hresolves _ .refl statement hstated rfl expr hexpr
      cases hbase.symm.trans hok
    | ok base =>
      cases base with
      | none =>
        refine (ih hrest hright hdepth).cons (fun _ => id) (fun _ => id) fun _ => ⟨none, hbase, ?_⟩
        rintro _ ⟨⟩
      | some above =>
        have hedge : HasBase markers sources statement.name above :=
          hasBase_iff.mpr ⟨statement, hstated, rfl, expr, hexpr, hbase⟩
        have hkept (name : QualifiedName) (hname : name ∈ found) : name ∈ ClassSet.insert above found :=
          ClassSet.mem_insert.mpr (Or.inr hname)
        have hitself : above ∈ ClassSet.insert above found := ClassSet.mem_insert.mpr (Or.inl rfl)
        cases hdeclared : declaration? (modulesOf markers sources) above with
        | none =>
          simp only [hdeclared]
          refine (ih hrest hright hdepth).cons (fun _ => id) hkept fun _ => ⟨some above, hbase, ?_⟩
          rintro _ ⟨⟩
          refine ⟨hitself, fun _ => hasReached_of_not_stated (fun other hother hname => ?_) _⟩
          obtain ⟨known, hsome⟩ := hknown hedge hother hname
          cases hdeclared.symm.trans hsome
        | some declared =>
          obtain ⟨owner, others⟩ := declared
          have hanswers := answers_declared hbelow hright hbusy hedge hdeclared hdepth
          simp only [hdeclared]
          cases hmore : below closures owner above.simpleNames others with
          | error fault =>
            rw [hmore] at hanswers
            refine adds_error fun hsettled hresolves => ?_
            obtain ⟨result, hok⟩ := hanswers.succeeds (hsettled.of_hasBase hedge)
              (hresolves.of_hasBase hedge)
            cases hok
          | ok result =>
            obtain ⟨more, known⟩ := result
            have hwithin := hanswers.within hmore
            have hless := @Closures.length_unknown_le _ _ (modulesOf markers sources) hwithin
            refine (ih hrest (hanswers.right hmore) (by omega)).cons hwithin
              (fun name hname => ClassSet.mem_union.mpr (Or.inl (hkept name hname)))
              fun hsettled => ⟨some above, hbase, ?_⟩
            rintro _ ⟨⟩
            refine ⟨ClassSet.mem_union.mpr (Or.inl hitself), fun hne => ?_⟩
            -- A class in progress lies below this one, so above it there is none but itself.
            have hidle : above ∉ statement.name :: busy := by
              rw [List.mem_cons, not_or]
              exact ⟨hne, fun hmem => hne (hsettled.apart .refl (.single hedge) (hbusy above hmem))⟩
            obtain ⟨hreached, hresolves⟩ :=
              hanswers.complete hmore hidle (hsettled.of_hasBase hedge)
            exact ⟨fun name hname => ClassSet.mem_union.mpr (Or.inr (hreached name hname)), hresolves⟩

/-- What is remembered of a class is its closure. -/
theorem closureStep_of_known {modules : Modules} (below : ClosureOf) {closure : ClassSet}
    (hknown : closures.get? statement.name = some closure) :
    closureStep modules below closures statement.index statement.path statement.bases =
      .ok (closure, closures) := by
  rw [ClassStatement.name] at hknown
  simp only [closureStep, hknown]

/-- A class that is not remembered is, once its bases are added. -/
theorem closureStep_of_unknown {modules : Modules} (below : ClosureOf)
    (hnone : closures.get? statement.name = none) :
    closureStep modules below closures statement.index statement.path statement.bases =
      (addBases modules below statement.index statement.path statement.bases [.object]
        (closures.put statement.name [.object])).map
          fun found => (found.1, found.2.put statement.name found.1) := by
  rw [ClassStatement.name] at hnone
  simp only [closureStep, hnone, ClassStatement.name]
  cases addBases modules below statement.index statement.path statement.bases [.object]
    (closures.put ⟨statement.index.name, statement.path⟩ [.object]) <;> rfl

/-- If the closures of bases are answered, then so is that of a class, at a depth of one more. -/
theorem answersWithin_closureStep (hknown : AreKnown markers sources) {below : ClosureOf}
    (hbelow : AnswersWithin markers sources depth below) :
    AnswersWithin markers sources (depth + 1) (closureStep (modulesOf markers sources) below) := by
  intro busy closures statement hstated hright hbusy hsuffices
  cases hget : closures.get? statement.name with
  | some known =>
    rw [closureStep_of_known below hget]
    refine ⟨?_, ?_, ?_, fun _ _ => ⟨_, rfl⟩⟩
    · rintro closure after ⟨⟩
      exact fun _ => id
    · rintro closure after ⟨⟩
      exact hright
    · rintro closure after ⟨⟩
      exact hright.right hget
  | none =>
    have hadds := @adds_addBases markers sources busy
      (closures.put statement.name [.object]) statement depth hknown below hbelow hstated hbusy
      statement.bases (fun _ => id) [.object] (hright.begin _)
      (by have hstep := hsuffices.step hget; omega)
    rw [closureStep_of_unknown below hget]
    have hbases {closure : ClassSet} {after : Closures}
        (hok : addBases (modulesOf markers sources) below statement.index statement.path
          statement.bases [.object] (closures.put statement.name [.object]) = .ok (closure, after))
        (hsettled : IsSettled markers sources statement.name) :
        closure.HasReached markers sources statement.name ∧
          Resolves markers sources statement.name :=
      hasReached_of_bases hstated hsettled (hadds.complete hok hsettled)
    cases hok : addBases (modulesOf markers sources) below statement.index statement.path
      statement.bases [.object] (closures.put statement.name [.object]) with
    | error fault =>
      refine ⟨by rintro _ _ ⟨⟩, by rintro _ _ ⟨⟩, by rintro _ _ ⟨⟩, fun hsettled hresolves => ?_⟩
      obtain ⟨found, hfound⟩ := hadds.succeeds hsettled hresolves
      cases hok.symm.trans hfound
    | ok found =>
      obtain ⟨closure, after⟩ := found
      refine ⟨?_, ?_, ?_, fun _ _ => ⟨_, rfl⟩⟩
      · rintro _ _ ⟨⟩
        exact (Closures.within_put.trans (hadds.within hok)).trans Closures.within_put
      · rintro _ _ ⟨⟩
        exact (hadds.right hok).finish (hbases hok)
      · rintro _ _ ⟨⟩ _ hsettled
        exact hbases hok hsettled

/-- Closures are answered at every depth that suffices. -/
theorem answersWithin_closureWithin (hknown : AreKnown markers sources) (depth : Nat) :
    AnswersWithin markers sources depth (closureWithin (modulesOf markers sources) depth) := by
  induction depth with
  | zero =>
    intro busy closures statement _ _ _ hsuffices
    exact absurd hsuffices.pos (Nat.lt_irrefl 0)
  | succ depth ih => exact answersWithin_closureStep hknown ih

end Steps

section Requests

variable {markers : List String} {sources : List Source} {closures after : Closures}
  {statement : ClassStatement} {closure : ClassSet}

/-- The supertypes of a class statement, with what is remembered before and after. -/
def supertypesOf (markers : List String) (sources : List Source) (closures : Closures)
    (statement : ClassStatement) : Except Fault (ClassSet × Closures) :=
  supertypes (modulesOf markers sources) closures statement.index statement.path statement.bases

/-- What is remembered after the supertypes of some class statements were asked for, one after the
other. -/
inductive Requested (markers : List String) (sources : List Source) : Closures → Prop
  | start : Requested markers sources []
  | next {closures after : Closures} {statement : ClassStatement} {closure : ClassSet}
      (hclosures : Requested markers sources closures) (hstated : States markers sources statement)
      (hfound : supertypesOf markers sources closures statement = .ok (closure, after)) :
      Requested markers sources after

/-- The depth that closures are computed with suffices, since no more classes are unknown than there
are. -/
theorem suffices_supertypes (closures : Closures) (name : QualifiedName) :
    Suffices markers sources closures name ((modulesOf markers sources).classCount + 2) := by
  refine ⟨Nat.succ_pos _, fun _ => Nat.add_le_add_right ?_ 2⟩
  rw [← Modules.length_classNames]
  exact List.length_filter_le _ _

/-- The supertypes of a class statement are answered when nothing is in progress. -/
theorem answers_supertypesOf (hknown : AreKnown markers sources)
    (hstated : States markers sources statement) (hright : closures.IsRight markers sources []) :
    Answers markers sources [] closures statement.name
      (supertypesOf markers sources closures statement) :=
  answersWithin_closureWithin hknown _ hstated hright nofun (suffices_supertypes _ _)

/-- Whatever was asked for, what is remembered is right. -/
theorem Requested.isRight (hknown : AreKnown markers sources)
    (h : Requested markers sources closures) : closures.IsRight markers sources [] := by
  induction h with
  | start => exact ⟨nofun, nofun⟩
  | next _ hstated hfound ih => exact (answers_supertypesOf hknown hstated ih).right hfound

/-- Computing closures finds sets that have the object class and are ascending. -/
theorem isKept_ascending : IsKept (HasBase markers sources) fun _ classes =>
    .object ∈ classes ∧ classes.Pairwise (QualifiedName.before · · = true) where
  object _ := ⟨List.mem_singleton_self _, List.pairwise_singleton _ _⟩
  insert _ hclasses := ⟨ClassSet.mem_insert.mpr (Or.inr hclasses.1),
    Ascending.pairwise_insert Ascending.nameBefore_isOrder hclasses.2⟩
  union _ hclasses _ := ⟨ClassSet.mem_union.mpr (Or.inl hclasses.1),
    Ascending.pairwise_foldl_insert Ascending.nameBefore_isOrder _ _ hclasses.2⟩

/-- A property that computing closures keeps holds of what is remembered, whatever was asked for, and
of what is found. -/
theorem Requested.holds {holds : QualifiedName → ClassSet → Prop}
    (hkept : IsKept (HasBase markers sources) holds) (h : Requested markers sources closures) :
    closures.Hold holds ∧ (States markers sources statement →
      supertypesOf markers sources closures statement = .ok (closure, after) →
        holds statement.name closure) := by
  have hstep {closures after : Closures} {statement : ClassStatement} {closure : ClassSet}
      (hclosures : closures.Hold holds) (hstated : States markers sources statement)
      (hfound : supertypesOf markers sources closures statement = .ok (closure, after)) :
      holds statement.name closure ∧ after.Hold holds := by
    obtain ⟨source, hsource, declared, hdeclared, hkind, rfl⟩ := hstated
    exact closuresHold_closureWithin hkept hasEdges_modulesOf _ hclosures
      (hasEdges_of_declared hsource hdeclared hkind) hfound
  have hhold : closures.Hold holds := by
    induction h with
    | start => exact nofun
    | next _ hstated hfound ih => exact (hstep ih hstated hfound).2
  exact ⟨hhold, fun hstated hfound => (hstep hhold hstated hfound).1⟩

/-- Whatever was asked for before, the supertypes of a settled class are found exactly if they can be
resolved, and are then the object class and all classes that are reached from it. -/
theorem Requested.supertypesOf_spec (hknown : AreKnown markers sources)
    (h : Requested markers sources closures) (hstated : States markers sources statement)
    (hsettled : IsSettled markers sources statement.name) :
    ((∃ found, supertypesOf markers sources closures statement = .ok found) ↔
        Resolves markers sources statement.name) ∧
      ∀ closure after, supertypesOf markers sources closures statement = .ok (closure, after) →
        closure.Pairwise (QualifiedName.before · · = true) ∧
          ∀ above, above ∈ closure ↔ IsAbove (HasBase markers sources) statement.name above := by
  have hanswers := answers_supertypesOf hknown hstated (h.isRight hknown)
  refine ⟨⟨?_, hanswers.succeeds hsettled⟩, fun closure after hfound => ?_⟩
  · rintro ⟨⟨closure, after⟩, hfound⟩
    exact (hanswers.complete hfound List.not_mem_nil hsettled).2
  · obtain ⟨hobject, hascending⟩ := (h.holds isKept_ascending).2 hstated hfound
    have habove := (h.holds isKept_isAbove).2 hstated hfound
    have hreached := (hanswers.complete hfound List.not_mem_nil hsettled).1
    refine ⟨hascending, fun above => ⟨habove above, ?_⟩⟩
    rintro (rfl | hpath)
    · exact hobject
    · exact hreached above hpath

end Requests

end ServiceManifest.Project
