import ServiceManifest.Proofs.Project.Follow
import ServiceManifest.Proofs.Project.Requests
import ServiceManifest.Proofs.Store.Manifests

/-!
# How a search for the marker ends

A search asks what the arguments of markers refer to, and what the bases of marked classes and of the
classes above them do. So it ends without a result only where a module cannot be parsed, where a path
is too long for the system, or where a text that is met on the way cannot be read.
-/

namespace ServiceManifest

/-- An argument of a marker of which all names are well-formed. -/
inductive Argument.IsWellFormed : Argument → Prop
  | type {ref : TypeRef} (href : ref.IsWellFormed) : IsWellFormed (.type ref)
  | expression {form : ExpressionForm} : IsWellFormed (.expression form)
  | sequence {items : List Argument} (hitems : ∀ item ∈ items, IsWellFormed item) :
      IsWellFormed (.sequence items)
  | other : IsWellFormed .other

/-- An occurrence of which all names are well-formed: that of the class, those of its supertypes, and
those in the arguments of the marker. -/
structure Occurrence.IsWellFormed (occurrence : Occurrence) : Prop where
  name : occurrence.declaration.name.wellFormed = true
  supertypes : ∀ name ∈ occurrence.declaration.supertypes, name.wellFormed = true
  arguments : ∀ arguments, occurrence.arguments = some arguments →
    ∀ entry ∈ arguments, entry.2.IsWellFormed

namespace Project

open ServiceManifest.Source Relation

section Closures

variable {modules : Modules} {fault : Fault}

/-- A class statement leads up to that of a class which one of its bases stands for. -/
def LeadsUp (modules : Modules) (statement above : ClassStatement) : Prop :=
  ∃ expr ∈ statement.bases, ∃ name,
    StandsFor modules statement.index statement.path.dropLast expr name ∧
      declaration? modules name = some (above.index, above.bases) ∧ above.path = name.simpleNames

/-- A base of a class statement cannot be resolved. -/
def HasFailingBase (modules : Modules) (fault : Fault) (statement : ClassStatement) : Prop :=
  ∃ expr ∈ statement.bases,
    resolve modules statement.index statement.path.dropLast expr = .error fault

/-- Bases cannot be added if one of them cannot be resolved, or if the closure of one cannot be
computed. -/
theorem exists_of_addBases_error {below : ClosureOf} {statement : ClassStatement} {bases : List Expr}
    (hbases : ∀ expr ∈ bases, expr ∈ statement.bases) {found : ClassSet} {closures : Closures}
    (h : addBases modules below statement.index statement.path bases found closures = .error fault) :
    HasFailingBase modules fault statement ∨ ∃ above closures, LeadsUp modules statement above ∧
      below closures above.index above.path above.bases = .error fault := by
  induction bases generalizing found closures with
  | nil => cases h
  | cons expr rest ih =>
    obtain ⟨hexpr, hrest⟩ := List.forall_mem_cons.mp hbases
    rw [addBases] at h
    cases hbase : baseClass? modules statement.index statement.path expr with
    | error other =>
      simp only [hbase, Except.error.injEq] at h
      exact .inl ⟨expr, hexpr, h ▸ map_eq_error_iff.mp hbase⟩
    | ok base =>
      cases base with
      | none =>
        simp only [hbase] at h
        exact ih hrest h
      | some name =>
        cases hdeclared : declaration? modules name with
        | none =>
          simp only [hbase, hdeclared] at h
          exact ih hrest h
        | some declared =>
          obtain ⟨owner, bases⟩ := declared
          cases hbelow : below closures owner name.simpleNames bases with
          | error other =>
            simp only [hbase, hdeclared, hbelow, Except.error.injEq] at h
            exact .inr ⟨⟨owner, name.simpleNames, bases⟩, closures,
              ⟨expr, hexpr, name, baseClass?_eq_some_iff.mp hbase, hdeclared, rfl⟩, h ▸ hbelow⟩
          | ok more =>
            simp only [hbase, hdeclared, hbelow] at h
            exact ih hrest h

/-- The closure of a class cannot be computed only if a base of it cannot be resolved, or a base of a
class above it. -/
theorem exists_of_closureWithin_error {depth : Nat} {closures : Closures} {statement : ClassStatement}
    (h : closureWithin modules depth closures statement.index statement.path statement.bases =
      .error fault) :
    ∃ above, ReflTransGen (LeadsUp modules) statement above ∧ HasFailingBase modules fault above := by
  -- What is remembered of a class cannot fail, so a failure is at a base or further up.
  induction depth generalizing closures statement with
  | zero => cases h
  | succ depth ih =>
    rw [closureWithin] at h
    cases hknown : closures.get? statement.name with
    | some closure =>
      rw [closureStep_of_known _ hknown] at h
      cases h
    | none =>
      rw [closureStep_of_unknown _ hknown, map_eq_error_iff] at h
      rcases exists_of_addBases_error (fun _ hexpr => hexpr) h with
        hfails | ⟨above, closures, hup, habove⟩
      · exact ⟨statement, .refl, hfails⟩
      · obtain ⟨top, htop, hfails⟩ := ih habove
        exact ⟨top, .head hup htop, hfails⟩

end Closures

section Search

variable {modules : Modules} {index : ModuleIndex} {scope : ClassPath} {fault : Fault}

/-- Arguments cannot be read if one of the expressions cannot be resolved. -/
theorem exists_of_interfaceArguments_error {exprs : List Expr}
    (h : interfaceArguments modules index scope exprs = .error fault) :
    ∃ expr ∈ exprs, resolve modules index scope expr = .error fault := by
  induction exprs with
  | nil => cases h
  | cons expr rest ih =>
    rw [interfaceArguments] at h
    cases hfirst : interfaceArgument modules index scope expr with
    | error other =>
      simp only [hfirst, Except.error.injEq] at h
      exact ⟨expr, List.mem_cons_self, h ▸ map_eq_error_iff.mp hfirst⟩
    | ok first =>
      cases hrest : interfaceArguments modules index scope rest with
      | error other =>
        simp only [hfirst, hrest, Except.error.injEq] at h
        obtain ⟨found, hfound, heq⟩ := ih (h ▸ hrest)
        exact ⟨found, List.mem_cons_of_mem _ hfound, heq⟩
      | ok more => simp [hfirst, hrest] at h

/-- The arguments of a marker cannot be read if an interface expression of it cannot be resolved. -/
theorem exists_of_markerArguments_error {decorator : Expr}
    (h : markerArguments modules index scope decorator = .error fault) :
    ∃ expr ∈ interfaceExpressions decorator, resolve modules index scope expr = .error fault := by
  unfold markerArguments at h
  split at h
  · simp only at h
    split at h
    · cases h
    · exact exists_of_interfaceArguments_error (map_eq_error_iff.mp h)
  · cases h

/-- What a search asks for: what the interface expressions of markers refer to, seen from where the
marked declaration stands, and what the bases of marked classes do, and of all classes above these. -/
inductive Modules.Asks (modules : Modules) : ModuleIndex → ClassPath → Expr → Prop
  | argument {index : ModuleIndex} {candidate : Candidate} {expr : Expr}
      (hcandidate : (index, candidate) ∈ modules.candidates)
      (hexpr : expr ∈ interfaceExpressions candidate.decorator) :
      Asks modules index candidate.scope expr
  | base {index : ModuleIndex} {candidate : Candidate} {above : ClassStatement} {expr : Expr}
      (hcandidate : (index, candidate) ∈ modules.candidates) (hkind : candidate.kind ≠ .function)
      (habove : ReflTransGen (LeadsUp modules) ⟨index, candidate.path, candidate.bases⟩ above)
      (hexpr : expr ∈ above.bases) : Asks modules above.index above.path.dropLast expr

/-- The occurrence on a candidate cannot be reported only if something that is asked for it cannot be
resolved. -/
theorem exists_asks_of_occurrence_error {closures : Closures} {candidate : Candidate}
    (hcandidate : (index, candidate) ∈ modules.candidates)
    (h : occurrence modules closures index candidate = .error fault) :
    ∃ other scope expr, modules.Asks other scope expr ∧
      resolve modules other scope expr = .error fault := by
  have hcases : (candidate.kind ≠ .function ∧
      supertypes modules closures index candidate.path candidate.bases = .error fault) ∨
        markerArguments modules index candidate.scope candidate.decorator = .error fault := by
    unfold occurrence at h
    by_cases hkind : candidate.kind = .function
    · rw [if_pos hkind] at h
      exact .inr (map_eq_error_iff.mp h)
    · rw [if_neg hkind] at h
      cases hclosed : supertypes modules closures index candidate.path candidate.bases with
      | error other =>
        simp only [hclosed, Except.error.injEq] at h
        exact .inl ⟨hkind, congrArg _ h⟩
      | ok found =>
        simp only [hclosed] at h
        exact .inr (map_eq_error_iff.mp h)
  rcases hcases with ⟨hkind, hclosed⟩ | harguments
  · obtain ⟨above, habove, expr, hexpr, hfails⟩ :=
      @exists_of_closureWithin_error modules fault _ closures
        ⟨index, candidate.path, candidate.bases⟩ hclosed
    exact ⟨_, _, expr, .base hcandidate hkind habove hexpr, hfails⟩
  · obtain ⟨expr, hexpr, hfails⟩ := exists_of_markerArguments_error harguments
    exact ⟨_, _, expr, .argument hcandidate hexpr, hfails⟩

/-- Occurrences cannot be reported only if something that is asked for cannot be resolved. -/
theorem exists_asks_of_occurrencesFrom_error {entries : List (ModuleIndex × Candidate)}
    (hentries : ∀ entry ∈ entries, entry ∈ modules.candidates) {closures : Closures}
    (h : occurrencesFrom modules entries closures = .error fault) :
    ∃ index scope expr, modules.Asks index scope expr ∧
      resolve modules index scope expr = .error fault := by
  induction entries generalizing closures with
  | nil => cases h
  | cons entry rest ih =>
    obtain ⟨hentry, hrest⟩ := List.forall_mem_cons.mp hentries
    rw [occurrencesFrom] at h
    cases hfirst : occurrence modules closures entry.1 entry.2 with
    | error other =>
      simp only [hfirst, Except.error.injEq] at h
      exact exists_asks_of_occurrence_error hentry (h ▸ hfirst)
    | ok first =>
      obtain ⟨reported, after⟩ := first
      cases hmore : occurrencesFrom modules rest after with
      | error other =>
        simp only [hfirst, hmore, Except.error.injEq] at h
        exact ih hrest (h ▸ hmore)
      | ok more => simp [hfirst, hmore] at h

/-- Where arguments are read, every one of the expressions is resolved. -/
theorem exists_resolve_of_interfaceArguments {exprs : List Expr} {items : List Argument}
    (h : interfaceArguments modules index scope exprs = .ok items) :
    ∀ expr ∈ exprs, ∃ found, resolve modules index scope expr = .ok found := by
  intro expr hexpr
  obtain ⟨item, -, hitem⟩ := exists_right_of_forall₂ (interfaceArguments_eq_ok_iff.mp h) hexpr
  obtain ⟨found, hfound, -⟩ := map_eq_ok_iff.mp hitem
  exact ⟨found, hfound⟩

/-- Where the arguments of a marker are read, every interface expression of it is resolved. -/
theorem exists_resolve_of_markerArguments {decorator : Expr} {arguments : Option (Keyed Argument)}
    (h : markerArguments modules index scope decorator = .ok arguments) :
    ∀ expr ∈ interfaceExpressions decorator, ∃ found, resolve modules index scope expr = .ok found := by
  cases decorator with
  | call function positional keywords =>
    simp only [markerArguments] at h
    split at h
    · rename_i hnone
      simp only [Bool.and_eq_true, List.isEmpty_iff] at hnone
      rw [interfaceExpressions, hnone.1.1]
      exact List.forall_mem_nil _
    · obtain ⟨items, hitems, -⟩ := map_eq_ok_iff.mp h
      exact exists_resolve_of_interfaceArguments hitems
  | _ => exact List.forall_mem_nil _

end Search

section Texts

variable {modules : Modules} {index : ModuleIndex} {scope : ClassPath} {expr : Expr} {codes : List Nat}

/-- What an expression refers to comes to a text: it is the text, or cannot be told without it. -/
def Modules.ComesTo (modules : Modules) (index : ModuleIndex) (scope : ClassPath) (expr : Expr)
    (codes : List Nat) : Prop :=
  ∃ open_ last inner, ReflTransGen (Task.Needs modules) (.refer modules.links index scope expr)
    (.refer open_ last inner (.text codes))

/-- A task that fails is about a text. -/
theorem Task.Fails.exists_text {task : Task} {fault : Fault} (h : task.Fails fault) :
    ∃ open_ index scope codes, task = .refer open_ index scope (.text codes) ∧
      textExpression codes = .error fault := by
  unfold Fails at h
  split at h
  · exact ⟨_, _, _, _, rfl, h⟩
  · cases h

/-- An expression that cannot be resolved comes to a text that cannot be read, and has its fault. -/
theorem exists_comesTo_of_error {fault : Fault} (h : resolve modules index scope expr = .error fault) :
    ∃ codes, modules.ComesTo index scope expr codes ∧ textExpression codes = .error fault := by
  obtain ⟨last, hlast, hfails⟩ :=
    @Task.exists_fails_of_error modules (.refer modules.links index scope expr) fault h
  obtain ⟨open_, inner, around, codes, rfl, hcodes⟩ := hfails.exists_text
  exact ⟨codes, ⟨open_, inner, around, hlast⟩, hcodes⟩

/-- Every text that what an expression refers to comes to can be read. -/
def Modules.CanRead (modules : Modules) (index : ModuleIndex) (scope : ClassPath) (expr : Expr) :
    Prop :=
  ∀ codes, modules.ComesTo index scope expr codes → ¬IsUnreadable codes

/-- An expression refers to something or to nothing exactly if all texts that it comes to can be
read. -/
theorem exists_resolve_iff :
    (∃ found, resolve modules index scope expr = .ok found) ↔ modules.CanRead index scope expr := by
  constructor
  · rintro ⟨found, hfound⟩ codes ⟨open_, last, inner, hlast⟩ hunreadable
    obtain ⟨fault, hfault⟩ := textExpression_eq_error_iff.mpr hunreadable
    obtain ⟨other, hother⟩ := Task.exists_error_of_fails hlast hfault
    cases hfound.symm.trans hother
  · intro hreadable
    cases hresolve : resolve modules index scope expr with
    | ok found => exact ⟨found, rfl⟩
    | error fault =>
      obtain ⟨codes, hcomes, hfault⟩ := exists_comesTo_of_error hresolve
      exact absurd (textExpression_eq_error_iff.mp ⟨fault, hfault⟩) (hreadable codes hcomes)

/-- A search ends with the fault of a text that something it asks for comes to. -/
theorem exists_asks_of_occurrences_error {fault : Fault} (h : modules.occurrences = .error fault) :
    ∃ index scope expr, modules.Asks index scope expr ∧ ∃ codes,
      modules.ComesTo index scope expr codes ∧ textExpression codes = .error fault := by
  obtain ⟨index, scope, expr, hasks, hresolve⟩ :=
    exists_asks_of_occurrencesFrom_error (fun _ hentry => hentry) h
  exact ⟨index, scope, expr, hasks, exists_comesTo_of_error hresolve⟩

end Texts

section Disk

variable {tree : Disk.Tree} {root : Path} {folder : Disk.Place} {parts : List String}

/-- The name of a module has the parts of all that it is made of. -/
theorem nameParts_intercalate_eq_flatMap {names : List String} (hne : names ≠ []) :
    nameParts '.' (".".intercalate names) = names.flatMap (nameParts '.') := by
  induction names with
  | nil => exact absurd rfl hne
  | cons first rest ih =>
    rcases eq_or_ne rest [] with rfl | hmore
    · simp
    · rw [String.intercalate_cons_of_ne_nil hmore, nameParts_append, ih hmore, List.flatMap_cons]

/-- The parts of a path that makes a unit are names that files can have. -/
theorem isName_of_makesUnit (hsource : isSourcePath parts = true) (hmakes : makesUnit parts = true) :
    ∀ part ∈ parts, Path.IsName part := by
  simp only [makesUnit, Bool.and_eq_true, List.all_eq_true] at hmakes
  obtain ⟨hfolders, himportable⟩ := hmakes
  have hslash := not_mem_of_discovered hsource himportable (.inl rfl)
  obtain ⟨front, last, stem, rfl, hstem⟩ := exists_concat_of_isSourcePath hsource
  rw [List.dropLast_concat] at hfolders
  rw [List.forall_mem_append, List.forall_mem_singleton] at hslash ⊢
  -- A folder of the source root has no full stop in front, and a name of a module has no empty part.
  refine ⟨fun part hpart => ?_, ?_⟩
  · have hdot : part.toList.head? ≠ some '.' := by
      have hfolder := hfolders part hpart
      simp only [isSourceFolder, Bool.and_eq_true, decide_eq_true_eq] at hfolder
      exact hfolder.1
    refine ⟨?_, ?_, ?_, hslash.1 part hpart⟩
    · rintro rfl
      have hmodule : "" ∈ moduleParts (front ++ [last]) := by
        rw [moduleParts_concat]
        split
        · exact hpart
        · exact List.mem_append_left _ hpart
      refine (isDotted_of_isImportable himportable "" ?_).1 rfl
      rw [nameParts_intercalate_eq_flatMap (List.ne_nil_of_mem hmodule)]
      exact List.mem_flatMap.mpr ⟨"", hmodule, by decide⟩
    · rintro rfl
      exact hdot (by decide)
    · rintro rfl
      exact hdot (by decide)
  · refine ⟨?_, ?_, ?_, hslash.2⟩
    all_goals
      rintro rfl
      have hlength := congrArg List.length hstem
      rw [List.length_append] at hlength
      simp [sourceEnding] at hlength

/-- A path that makes a unit is that of something in the tree. -/
theorem entry?_ne_none_of_mem_unitPaths (hparts : parts ∈ unitPaths tree folder) :
    tree.entry? (folder ++ parts) ≠ none := by
  obtain ⟨hmem, -⟩ := List.mem_filter.mp hparts
  rw [sourcePaths, (Ascending.sort_perm _ _).mem_iff, List.mem_filter] at hmem
  obtain ⟨⟨found, entry⟩, hbelow, rfl⟩ := List.mem_map.mp hmem.1
  obtain ⟨⟨place, other⟩, hentry, hseen⟩ := List.mem_filterMap.mp hbelow
  simp only [Option.ite_none_right_eq_some, Option.some.injEq, Prod.mk.injEq, Bool.and_eq_true,
    List.isPrefixOf_iff_prefix, decide_eq_true_eq] at hseen
  obtain ⟨⟨⟨rest, rfl⟩, hlength⟩, rfl, rfl⟩ := hseen
  rw [List.drop_left] at hmem ⊢
  have hne : folder ++ rest ≠ [] := fun hnil => by simp [hnil] at hlength
  have hfound : (tree.entries.find? fun found => found.1 = folder ++ rest).isSome = true :=
    List.find?_isSome.mpr ⟨_, hentry, by simp⟩
  rw [Disk.Tree.entry?, if_neg (by simpa using hne)]
  simpa [Option.isSome_iff_ne_none] using hfound

/-- The path of a unit, below a root, has the parts that make the unit behind those of the root. -/
theorem join_unitAt (hsource : isSourcePath parts = true) (hmakes : makesUnit parts = true)
    (root : Path) :
    root.join (Path.ofString (unitAt parts).path) = ⟨root.anchor, root.parts ++ parts⟩ := by
  have hpath : Path.ofString (unitAt parts).path = ⟨"", parts⟩ :=
    Path.ofString_intercalate (ne_nil_of_isSourcePath hsource) (isName_of_makesUnit hsource hmakes)
  rw [hpath]
  exact if_pos rfl

/-- At the path of a unit there is a file, unless there is a folder. -/
theorem exists_file_of_mem_unitPaths (hparts : parts ∈ unitPaths tree folder)
    (hfile : tree.entry? (folder ++ parts) ≠ some .folder) :
    ∃ bytes, tree.entry? (folder ++ parts) = some (.file bytes) := by
  cases hentry : tree.entry? (folder ++ parts) with
  | none => exact absurd hentry (entry?_ne_none_of_mem_unitPaths hparts)
  | some entry =>
    cases entry with
    | file bytes => exact ⟨bytes, rfl⟩
    | folder => exact absurd hentry hfile

/-- The file of a unit can be read, unless its path is too long. -/
theorem read_of_mem_unitPaths (hsound : tree.IsSound)
    (hroot : tree.lookup (root.absolute tree.here) = .ok (folder, .folder))
    (hparts : parts ∈ unitPaths tree folder)
    (hfile : tree.entry? (folder ++ parts) ≠ some .folder) :
    (∃ bytes, tree.read ((root.absolute tree.here).join (Path.ofString (unitAt parts).path)) =
      .ok bytes) ∨
    tree.lookup ((root.absolute tree.here).join (Path.ofString (unitAt parts).path)) =
      .error .nameTooLong := by
  obtain ⟨hsource, hmakes⟩ := makesUnit_of_mem hparts
  obtain ⟨bytes, hentry⟩ := exists_file_of_mem_unitPaths hparts hfile
  obtain ⟨hlocate, -⟩ := Disk.Tree.lookup_eq_ok_iff.mp hroot
  obtain ⟨hnulRoot, -, -⟩ := Disk.Tree.locate_eq_ok_iff.mp hlocate
  obtain ⟨rfl, -⟩ := hsound.locate_spec hlocate
  rw [Path.absolute_absolute] at hentry
  rw [join_unitAt hsource hmakes]
  -- The path has no NUL and does not lead upwards, so only its length can be in the way.
  have hup : ".." ∉ (root.absolute tree.here).parts ++ parts := by
    rw [List.mem_append, not_or]
    exact ⟨Path.not_mem_parts_absolute root tree.here,
      fun hmem => (isName_of_makesUnit hsource hmakes ".." hmem).2.2.1 rfl⟩
  have hnul : (Path.mk (root.absolute tree.here).anchor
      ((root.absolute tree.here).parts ++ parts)).hasNul = false := by
    simp only [makesUnit, Bool.and_eq_true] at hmakes
    simp only [Path.hasNul, List.any_append, Bool.or_eq_false_iff] at hnulRoot ⊢
    exact ⟨hnulRoot, by simpa using not_mem_of_discovered hsource hmakes.2 (.inr rfl)⟩
  have hlookup := @Disk.Tree.IsSound.lookup_of_entry? tree hsound
    ⟨(root.absolute tree.here).anchor, (root.absolute tree.here).parts ++ parts⟩ _
    (Path.anchor_absolute_ne root tree.here) hup hnul hentry
  split at hlookup
  · exact .inl ⟨bytes, by rw [Disk.Tree.read, hlookup]⟩
  · exact .inr hlookup

/-- What is discovered below a root is there only if that is a folder, and at a path that makes a
unit. -/
theorem exists_unitPaths_of_discover {found : Discovery} (h : discover tree root = .ok found)
    {unit : SourceUnit} (hunit : unit ∈ found.units) :
    ∃ folder, tree.lookup root = .ok (folder, .folder) ∧
      ∃ parts ∈ unitPaths tree folder, unit = unitAt parts := by
  unfold discover at h
  split at h
  · rename_i folder hlookup
    obtain rfl := Except.ok.inj h
    rw [units_eq_map] at hunit
    obtain ⟨parts, hparts, rfl⟩ := List.mem_map.mp hunit
    exact ⟨folder, hlookup, parts, hparts, rfl⟩
  · cases h
  · obtain rfl := Except.ok.inj h
    cases hunit

/-- The module of a unit cannot be read if its file cannot be, or if that holds no module. -/
theorem readModule_eq_error {markers : List String} {unit : SourceUnit} {failure : Failure}
    (h : readModule tree root markers unit = .error failure) :
    (∃ fault, tree.read (root.join (Path.ofString unit.path)) = .error fault ∧
      failure = .fault (.disk fault)) ∨
    ∃ bytes, tree.read (root.join (Path.ofString unit.path)) = .ok bytes ∧
      parseModule bytes.toList = none ∧
        failure = .round (.sourceParse unit.path "invalid syntax") := by
  unfold readModule at h
  cases hread : tree.read (root.join (Path.ofString unit.path)) with
  | error fault =>
    simp only [hread, Except.error.injEq] at h
    exact .inl ⟨fault, rfl, h.symm⟩
  | ok bytes =>
    cases hparse : parseModule bytes.toList with
    | none =>
      simp only [hread, hparse, Except.error.injEq] at h
      exact .inr ⟨bytes, rfl, hparse, h.symm⟩
    | some statements => simp [hread, hparse] at h

/-- Modules cannot be read if that of a unit cannot be. -/
theorem exists_of_readModules_error {markers : List String} {units : List SourceUnit}
    {modules : Modules} {failure : Failure}
    (h : readModules tree root markers units modules = .error failure) :
    ∃ unit ∈ units, readModule tree root markers unit = .error failure := by
  induction units generalizing modules with
  | nil => cases h
  | cons unit rest ih =>
    rw [readModules] at h
    cases hread : readModule tree root markers unit with
    | error other =>
      simp only [hread, Except.error.injEq] at h
      exact ⟨unit, List.mem_cons_self, h ▸ hread⟩
    | ok index =>
      simp only [hread] at h
      obtain ⟨found, hfound, heq⟩ := ih h
      exact ⟨found, List.mem_cons_of_mem _ hfound, heq⟩

/-- A unit that a tree has, the file of which holds no module. -/
def Misparses (tree : Disk.Tree) (root : Path) (unit : SourceUnit) : Prop :=
  (∃ found, discover tree root = .ok found ∧ unit ∈ found.units) ∧
    ∃ bytes, tree.read (root.join (Path.ofString unit.path)) = .ok bytes ∧
      parseModule bytes.toList = none

/-- In a tree without folders that are named like source files, units are read unless one of them holds
no module or a path is too long. -/
theorem scan_outcome_eq_error (hsound : tree.IsSound)
    (hfiles : ∀ parts, isSourcePath parts = true →
      tree.entry? ((root.absolute tree.here).parts ++ parts) ≠ some .folder)
    {markers : List String} {failure : Failure}
    (h : (scan tree root markers).outcome = .error failure) :
    (∃ unit, Misparses tree (root.absolute tree.here) unit ∧
      failure = .round (.sourceParse unit.path "invalid syntax")) ∨
    ∃ path, tree.lookup path = .error .nameTooLong ∧
      failure = .fault (.disk (Disk.Tree.refuse path .nameTooLong)) := by
  cases hfound : discover tree (root.absolute tree.here) with
  | error fault =>
    simp only [scan, hfound, Except.error.injEq] at h
    unfold discover at hfound
    split at hfound
    · cases hfound
    · rename_i hlookup
      exact .inr ⟨_, hlookup, by rw [← h, ← Except.error.inj hfound]⟩
    · cases hfound
  | ok found =>
    simp only [scan, hfound] at h
    obtain ⟨unit, hunit, hread⟩ := exists_of_readModules_error h
    rcases readModule_eq_error hread with ⟨fault, hfault, rfl⟩ | ⟨bytes, hbytes, hparse, rfl⟩
    · obtain ⟨folder, hroot, parts, hparts, rfl⟩ := exists_unitPaths_of_discover hfound hunit
      have hfolder := (hsound.locate_spec (Disk.Tree.lookup_eq_ok_iff.mp hroot).1).1
      rw [Path.absolute_absolute] at hfolder
      have hfile := hfiles parts (makesUnit_of_mem hparts).1
      rw [← hfolder] at hfile
      rcases read_of_mem_unitPaths hsound hroot hparts hfile with ⟨bytes, hbytes⟩ | hlong
      · cases hbytes.symm.trans hfault
      · rw [Disk.Tree.read, hlong] at hfault
        exact .inr ⟨_, hlong, by rw [← Except.error.inj hfault]⟩
    · exact .inl ⟨unit, ⟨⟨found, hfound, hunit⟩, bytes, hbytes, hparse⟩, rfl⟩

end Disk

section Names

variable {modules : Modules} {index : ModuleIndex} {scope : ClassPath}

/-- What an expression refers to is spelled where names are simple. -/
theorem isSpelled_of_resolve (hmodules : modules.NamesAreSimple) (hindex : index.NamesAreSimple)
    (hscope : ∀ name ∈ scope, IsSimple name) {expr : Expr} (hexpr : expr.NamesAreSimple)
    {ref : TypeRef} (h : resolve modules index scope expr = .ok (some ref)) : ref.IsSpelled :=
  @Task.isSpelled_of_result modules (.refer modules.links index scope expr) hmodules
    ⟨hindex, hscope, hexpr⟩ ref h

/-- Arguments are well-formed where names in their expressions are simple. -/
theorem isWellFormed_of_interfaceArguments (hmodules : modules.NamesAreSimple)
    (hindex : index.NamesAreSimple) (hscope : ∀ name ∈ scope, IsSimple name) {exprs : List Expr}
    (hexprs : ∀ expr ∈ exprs, expr.NamesAreSimple) {items : List Argument}
    (h : interfaceArguments modules index scope exprs = .ok items) :
    ∀ item ∈ items, item.IsWellFormed := by
  intro item hitem
  obtain ⟨expr, hexpr, hmade⟩ := exists_left_of_forall₂ (interfaceArguments_eq_ok_iff.mp h) hitem
  obtain ⟨found, hfound, rfl⟩ := map_eq_ok_iff.mp hmade
  split
  · exact .type
      (isSpelled_of_resolve hmodules hindex hscope (hexprs expr hexpr) hfound).isWellFormed
  · exact .expression

/-- Names in the interface expressions of a decorator are simple if those in the decorator are. -/
theorem namesAreSimple_interfaceExpressions {decorator : Expr} (h : decorator.NamesAreSimple) :
    ∀ expr ∈ interfaceExpressions decorator, expr.NamesAreSimple := by
  cases decorator with
  | call function positional keywords =>
    obtain ⟨-, hpositional, hkeywords⟩ := Expr.namesAreSimple_call.mp h
    refine List.forall_mem_append.mpr ⟨hpositional, List.forall_mem_flatMap.mpr fun value hvalue => ?_⟩
    obtain ⟨keyword, hkeyword, rfl⟩ := List.mem_map.mp hvalue
    have hsimple := hkeywords keyword (List.mem_filter.mp hkeyword).1
    unfold listedExpressions
    split
    · rename_i form items hitems
      rw [hitems] at hsimple
      exact Expr.namesAreSimple_sequence.mp hsimple
    · exact List.forall_mem_singleton.mpr hsimple
  | _ => exact List.forall_mem_nil _

/-- The arguments of a marker are well-formed where names in the decorator are simple. -/
theorem isWellFormed_of_markerArguments (hmodules : modules.NamesAreSimple)
    (hindex : index.NamesAreSimple) (hscope : ∀ name ∈ scope, IsSimple name) {decorator : Expr}
    (hdecorator : decorator.NamesAreSimple) {arguments : Keyed Argument}
    (h : markerArguments modules index scope decorator = .ok (some arguments)) :
    ∀ entry ∈ arguments, entry.2.IsWellFormed := by
  have hexprs := namesAreSimple_interfaceExpressions hdecorator
  cases decorator with
  | call function positional keywords =>
    simp only [markerArguments] at h
    split at h
    · obtain rfl := Option.some.inj (Except.ok.inj h)
      exact List.forall_mem_nil _
    · obtain ⟨items, hitems, hmade⟩ := map_eq_ok_iff.mp h
      obtain rfl := Option.some.inj hmade
      exact List.forall_mem_singleton.mpr
        (.sequence (isWellFormed_of_interfaceArguments hmodules hindex hscope hexprs hitems))
  | _ => cases h

/-- A class statement of which all names are simple. -/
structure ClassStatement.NamesAreSimple (statement : ClassStatement) : Prop where
  index : statement.index.NamesAreSimple
  path : IsSimplePath statement.path
  bases : ∀ base ∈ statement.bases, base.NamesAreSimple

/-- Names in the scope of the bases of a class statement are simple. -/
theorem ClassStatement.NamesAreSimple.isSimple_scope {statement : ClassStatement}
    (h : statement.NamesAreSimple) : ∀ name ∈ statement.path.dropLast, IsSimple name :=
  fun name hname => h.path.2 name (List.dropLast_subset _ hname)

/-- Names in a class that modules know are simple. -/
theorem namesAreSimple_of_declaration? (hmodules : modules.NamesAreSimple) {name : QualifiedName}
    {owner : ModuleIndex} {bases : List Expr}
    (h : declaration? modules name = some (owner, bases)) :
    ClassStatement.NamesAreSimple ⟨owner, name.simpleNames, bases⟩ := by
  obtain ⟨found, hfound, hbases⟩ := Option.bind_eq_some_iff.mp h
  obtain ⟨stated, hstated, heq⟩ := Option.map_eq_some_iff.mp hbases
  cases heq
  obtain ⟨entry, hentry, rfl⟩ := Option.map_eq_some_iff.mp hstated
  have hpath : entry.1 = name.simpleNames := by simpa using List.find?_some hentry
  have howner := hmodules _ _ hfound
  obtain ⟨hnested, hsimple⟩ := howner.classes entry (List.mem_of_find?_eq_some hentry)
  exact ⟨howner, hpath ▸ hnested, hsimple⟩

/-- Names in the class statements above one are simple if they are in that one. -/
theorem ClassStatement.NamesAreSimple.above (hmodules : modules.NamesAreSimple)
    {statement above : ClassStatement} (h : statement.NamesAreSimple)
    (habove : ReflTransGen (LeadsUp modules) statement above) : above.NamesAreSimple := by
  induction habove with
  | refl => exact h
  | tail _ hup ih =>
    obtain ⟨_, _, name, _, hdeclared, hpath⟩ := hup
    have hsimple := namesAreSimple_of_declaration? hmodules hdeclared
    rw [← hpath] at hsimple
    exact hsimple

/-- The classes that bases stand for are well-formed where names in a class statement are simple. -/
theorem ClassStatement.NamesAreSimple.hasEdges (hmodules : modules.NamesAreSimple)
    {statement : ClassStatement} (h : statement.NamesAreSimple) :
    HasEdges (fun _ base => base.wellFormed = true) modules statement.index statement.path
      statement.bases := by
  rintro expr hexpr base ⟨ref, href, hclosest⟩
  have hsimple := h.bases expr hexpr
  have hspelled := isSpelled_of_resolve hmodules h.index h.isSimple_scope hsimple href
  exact (hspelled.closestClass hclosest).wellFormed

section Sources

variable {markers : List String} {sources : List Source}
  (hsimple : ∀ source ∈ sources, (source.index markers).NamesAreSimple)

include hsimple

/-- Names in the modules of sources are simple if they are in each. -/
theorem namesAreSimple_modulesOf : (modulesOf markers sources).NamesAreSimple := by
  intro name index h
  obtain ⟨source, hsource, -, rfl⟩ := exists_source_of_get? h
  exact hsimple source hsource

/-- Names in a marked declaration are simple if they are in the modules. -/
theorem namesAreSimple_of_mem_candidates {index : ModuleIndex} {candidate : Candidate}
    (h : (index, candidate) ∈ (modulesOf markers sources).candidates) :
    index.NamesAreSimple ∧ ∃ declared : Declared, declared.NamesAreSimple ∧
      ∃ decorator ∈ declared.decorators, candidate = declared.candidate decorator := by
  obtain ⟨hindex, hcandidate⟩ := Modules.mem_candidates.mp h
  obtain ⟨source, hsource, rfl⟩ := exists_mem_modulesOf.mp hindex
  exact ⟨hsimple source hsource, (hsimple source hsource).candidates candidate hcandidate⟩

/-- Names in a marked class are simple if they are in the modules. -/
theorem namesAreSimple_of_candidate {index : ModuleIndex} {candidate : Candidate}
    (h : (index, candidate) ∈ (modulesOf markers sources).candidates) :
    ClassStatement.NamesAreSimple ⟨index, candidate.path, candidate.bases⟩ := by
  obtain ⟨hindex, declared, hnames, decorator, -, rfl⟩ := namesAreSimple_of_mem_candidates hsimple h
  exact ⟨hindex, hnames.path, hnames.bases⟩

/-- What is asked for is well-formed where names are simple. -/
theorem isWellFormed_of_asks {index : ModuleIndex} {scope : ClassPath} {expr : Expr}
    (h : (modulesOf markers sources).Asks index scope expr) {ref : TypeRef}
    (href : resolve (modulesOf markers sources) index scope expr = .ok (some ref)) :
    ref.IsWellFormed := by
  have hmodules := namesAreSimple_modulesOf hsimple
  cases h with
  | argument hcandidate hexpr =>
    obtain ⟨hindex, declared, hnames, decorator, hdecorator, rfl⟩ :=
      namesAreSimple_of_mem_candidates hsimple hcandidate
    exact (isSpelled_of_resolve hmodules hindex hnames.scope
      (namesAreSimple_interfaceExpressions (hnames.decorators decorator hdecorator) expr hexpr)
      href).isWellFormed
  | base hcandidate _ habove hexpr =>
    have hnames := (namesAreSimple_of_candidate hsimple hcandidate).above hmodules habove
    exact (isSpelled_of_resolve hmodules hnames.index hnames.isSimple_scope
      (hnames.bases expr hexpr) href).isWellFormed

/-- The supertypes that are reported are well-formed where names are simple. -/
theorem wellFormed_supertypes {occurrences : List Occurrence}
    (h : (modulesOf markers sources).occurrences = .ok occurrences) {occurrence : Occurrence}
    (hmem : occurrence ∈ occurrences) :
    ∀ name ∈ occurrence.declaration.supertypes, name.wellFormed = true := by
  have hmodules := namesAreSimple_modulesOf hsimple
  have hdeclared : (modulesOf markers sources).HasEdges fun _ base => base.wellFormed = true :=
    fun name owner bases hdeclaration => ⟨(states_of_declaration? hdeclaration).2,
      (namesAreSimple_of_declaration? hmodules hdeclaration).hasEdges hmodules⟩
  -- A marked class may stand inside of a function, where no base of another class leads.
  have hcandidates : ∀ entry ∈ (modulesOf markers sources).candidates, entry.2.kind ≠ .function →
      HasEdges (fun _ base => base.wellFormed = true) (modulesOf markers sources) entry.1 entry.2.path
        entry.2.bases :=
    fun entry hentry _ => (namesAreSimple_of_candidate hsimple hentry).hasEdges hmodules
  have hempty : Closures.IsSound (fun _ base => base.wellFormed = true) [] := List.forall_mem_nil _
  intro name hname
  rcases isAbove_of_occurrencesFrom hdeclared hcandidates hempty h occurrence hmem name hname with
    rfl | habove
  · decide
  · cases habove with
    | single hbase => exact hbase
    | tail _ hbase => exact hbase

/-- What is reported in a project is well-formed where names are simple. -/
theorem isWellFormed_of_mem_occurrences {occurrences : List Occurrence}
    (h : (modulesOf markers sources).occurrences = .ok occurrences) :
    ∀ occurrence ∈ occurrences, occurrence.IsWellFormed := by
  intro occurrence hmem
  obtain ⟨⟨index, candidate⟩, hcandidate, hreports⟩ :=
    exists_left_of_forall₂ (reports_occurrencesFrom h) hmem
  obtain ⟨hindex, declared, hnames, decorator, hdecorator, rfl⟩ :=
    namesAreSimple_of_mem_candidates hsimple hcandidate
  refine ⟨?_, wellFormed_supertypes hsimple h hmem, fun arguments harguments => ?_⟩
  · rw [hreports.name]
    exact hnames.path.wellFormed _
  · exact isWellFormed_of_markerArguments (namesAreSimple_modulesOf hsimple) hindex hnames.scope
      (hnames.decorators decorator hdecorator) (harguments ▸ hreports.arguments)

end Sources

end Names

section Ends

variable {tree : Disk.Tree} {root : Path} {markers : List String}

/-- A reason for a search to end without a result, and the failure that it gives: a unit holds no
module, a path is too long for the system, or something that is asked for comes to a text that cannot
be read. -/
inductive SearchFails (tree : Disk.Tree) (root : Path) (markers : List String) : Failure → Prop
  | misparse {unit : SourceUnit} (hunit : Misparses tree (root.absolute tree.here) unit) :
      SearchFails tree root markers (.round (.sourceParse unit.path "invalid syntax"))
  | tooLong {path : Path} (hpath : tree.lookup path = .error .nameTooLong) :
      SearchFails tree root markers (.fault (.disk (Disk.Tree.refuse path .nameTooLong)))
  | unreadable {modules : Modules} (hscan : (scan tree root markers).outcome = .ok modules)
      {index : ModuleIndex} {scope : ClassPath} {expr : Expr} (hasks : modules.Asks index scope expr)
      {codes : List Nat} (hcomes : modules.ComesTo index scope expr codes) {fault : Fault}
      (hfault : textExpression codes = .error fault) : SearchFails tree root markers (.fault fault)

/-- A search that ends without a result has a reason for that. -/
theorem searchFails_of_outcome_eq_error (hsound : tree.IsSound)
    (hfiles : ∀ parts, isSourcePath parts = true →
      tree.entry? ((root.absolute tree.here).parts ++ parts) ≠ some .folder) {failure : Failure}
    (h : (scan tree root markers).resolution.outcome = .error failure) :
    SearchFails tree root markers failure := by
  unfold Scan.resolution at h
  cases hscan : (scan tree root markers).outcome with
  | error other =>
    simp only [hscan, Except.error.injEq] at h
    subst h
    rcases scan_outcome_eq_error hsound hfiles hscan with ⟨unit, hunit, rfl⟩ | ⟨path, hpath, rfl⟩
    · exact .misparse hunit
    · exact .tooLong hpath
  | ok modules =>
    cases hoccurrences : modules.occurrences with
    | ok occurrences => simp [hscan, hoccurrences] at h
    | error fault =>
      simp only [hscan, hoccurrences, Except.error.injEq] at h
      subst h
      obtain ⟨index, scope, expr, hasks, codes, hcomes, hfault⟩ :=
        exists_asks_of_occurrences_error hoccurrences
      exact .unreadable hscan hasks hcomes hfault

/-- The outcome of a search of modules is that of reporting the occurrences in them. -/
theorem resolution_outcome_of_scan {modules : Modules}
    (hscan : (scan tree root markers).outcome = .ok modules) {occurrences : List Occurrence} :
    (scan tree root markers).resolution.outcome = .ok occurrences ↔
      modules.occurrences = .ok occurrences := by
  unfold Scan.resolution
  cases hoccurrences : modules.occurrences with
  | ok found => simp [hscan, hoccurrences]
  | error fault => simp [hscan, hoccurrences]

/-- Where occurrences are reported, all texts can be read that the interface expressions of markers
come to. -/
theorem canRead_of_mem_candidates {modules : Modules} {occurrences : List Occurrence}
    (h : modules.occurrences = .ok occurrences) {index : ModuleIndex} {candidate : Candidate}
    (hcandidate : (index, candidate) ∈ modules.candidates) :
    ∀ expr ∈ interfaceExpressions candidate.decorator, modules.CanRead index candidate.scope expr := by
  intro expr hexpr
  obtain ⟨reported, -, hreports⟩ := exists_right_of_forall₂ (reports_occurrencesFrom h) hcandidate
  exact exists_resolve_iff.mp (exists_resolve_of_markerArguments hreports.arguments expr hexpr)

/-- Where occurrences are reported, the bases of settled marked classes can be resolved, and those of
the classes that are reached from them. -/
theorem resolves_of_mem_occurrences {sources : List Source} (hknown : AreKnown markers sources)
    {occurrences : List Occurrence} (h : (modulesOf markers sources).occurrences = .ok occurrences)
    {occurrence : Occurrence} (hmem : occurrence ∈ occurrences)
    (hkind : occurrence.declaration.kind ≠ .function)
    (hsettled : IsSettled markers sources occurrence.declaration.name) :
    Resolves markers sources occurrence.declaration.name := by
  obtain ⟨before, statement, after, hbefore, hstated, hname, hanswer⟩ :=
    exists_requested (fun _ hentry => states_of_mem_candidates hentry) .start h hmem hkind
  rw [← hname] at hsettled ⊢
  exact (hbefore.supertypesOf_spec hknown hstated hsettled).1.mp ⟨_, hanswer⟩

end Ends

end Project

open Project

/-- A search of a tree in which no folder is named like a source file ends with the occurrences of the
marker, with the failure to parse a module, with a path that is too long, or with the fault of a text
that cannot be read: half of a surrogate pair or NUL is in it. What is asked for refers to something or
to nothing exactly if all texts that it comes to can be read, and all names that it refers to are
well-formed.

A search that ends with occurrences reports well-formed ones. Then all texts could be read that the
interface expressions of markers come to, and the bases of settled marked classes could be resolved. -/
theorem searches_answer_or_fail_for_a_reason {tree : Disk.Tree} {root : Path} {markers : List String}
    (hsound : tree.IsSound)
    (hfiles : ∀ parts, isSourcePath parts = true →
      tree.entry? ((root.absolute tree.here).parts ++ parts) ≠ some .folder) :
    (∀ failure, (scan tree root markers).resolution.outcome = .error failure →
      SearchFails tree root markers failure) ∧
    ∀ modules, (scan tree root markers).outcome = .ok modules →
      (∀ index scope expr, modules.Asks index scope expr →
        ((∃ found, resolve modules index scope expr = .ok found) ↔
          modules.CanRead index scope expr) ∧
        ∀ ref, resolve modules index scope expr = .ok (some ref) → ref.IsWellFormed) ∧
      ∀ occurrences, (scan tree root markers).resolution.outcome = .ok occurrences →
        (∀ occurrence ∈ occurrences, occurrence.IsWellFormed) ∧
        (∀ entry ∈ modules.candidates, ∀ expr ∈ interfaceExpressions entry.2.decorator,
          modules.CanRead entry.1 entry.2.scope expr) ∧
        ∃ found sources, discover tree (root.absolute tree.here) = .ok found ∧
          Keeps tree (root.absolute tree.here) found.units sources ∧
          modules = modulesOf markers sources ∧
          ∀ occurrence ∈ occurrences, occurrence.declaration.kind ≠ .function →
            IsSettled markers sources occurrence.declaration.name →
              Resolves markers sources occurrence.declaration.name := by
  refine ⟨fun failure h => searchFails_of_outcome_eq_error hsound hfiles h, fun modules hscan => ?_⟩
  obtain ⟨found, sources, hfound, rfl, hkeeps⟩ := exists_keeps_of_scan hscan
  have hsimple : ∀ source ∈ sources, (source.index markers).NamesAreSimple := fun source hsource =>
    Source.namesAreSimple (hkeeps.isIn source hsource)
      (isImportable_of_discover hfound (hkeeps.mem_units hsource))
  refine ⟨fun index scope expr hasks => ⟨exists_resolve_iff, fun ref href => ?_⟩,
    fun occurrences houtcome => ?_⟩
  · exact isWellFormed_of_asks hsimple hasks href
  · have hoccurrences := (resolution_outcome_of_scan hscan).mp houtcome
    exact ⟨isWellFormed_of_mem_occurrences hsimple hoccurrences,
      fun entry hentry => canRead_of_mem_candidates hoccurrences hentry,
      found, sources, hfound, hkeeps, rfl, fun occurrence hmem hkind hsettled =>
        resolves_of_mem_occurrences (hkeeps.areKnown hfound) hoccurrences hmem hkind hsettled⟩

/-- A module with a class that is marked with a text in which NUL is. -/
def unreadableMarker : Disk.Tree :=
  ⟨[(["m.py"], .file ("from autoservice import auto_service\n@auto_service('a\\0b')\n" ++
      "class A: pass\n").toUTF8)], []⟩

/-- The text in the marker ends the search with a fault, although the module can be parsed. -/
theorem search_of_unreadable_marker_fails :
    unreadableMarker.IsSound ∧
      (∀ parts, isSourcePath parts = true → unreadableMarker.entry?
        ((Path.absolute ⟨"/", []⟩ unreadableMarker.here).parts ++ parts) ≠ some .folder) ∧
      (scan unreadableMarker ⟨"/", []⟩ defaultMarkers).resolution.outcome =
        .error (.fault (.value "source code string cannot contain null bytes")) ∧
      ∃ modules index scope expr codes,
        (scan unreadableMarker ⟨"/", []⟩ defaultMarkers).outcome = .ok modules ∧
          modules.Asks index scope expr ∧ modules.ComesTo index scope expr codes ∧
            IsUnreadable codes := by
  have hsound : unreadableMarker.IsSound := by decide
  have hfiles : ∀ parts, isSourcePath parts = true → unreadableMarker.entry?
      ((Path.absolute ⟨"/", []⟩ unreadableMarker.here).parts ++ parts) ≠ some .folder := by
    intro parts hsource hfolder
    have hne : parts ≠ [] := ne_nil_of_isSourcePath hsource
    rw [show (Path.absolute ⟨"/", []⟩ unreadableMarker.here).parts ++ parts = parts from rfl,
      Disk.Tree.entry?, if_neg (by simpa using hne)] at hfolder
    obtain ⟨entry, hentry, hkind⟩ := Option.map_eq_some_iff.mp hfolder
    obtain rfl := List.mem_singleton.mp (List.mem_of_find?_eq_some hentry)
    cases hkind
  have houtcome : (scan unreadableMarker ⟨"/", []⟩ defaultMarkers).resolution.outcome.map
      (fun _ => ()) = .error (.fault (.value "source code string cannot contain null bytes")) := by
    decide +kernel
  rw [map_eq_error_iff] at houtcome
  refine ⟨hsound, hfiles, houtcome, ?_⟩
  cases (searches_answer_or_fail_for_a_reason hsound hfiles).1 _ houtcome with
  | unreadable hscan hasks hcomes hfault =>
    exact ⟨_, _, _, _, _, hscan, hasks, hcomes, textExpression_eq_error_iff.mp ⟨_, hfault⟩⟩

end ServiceManifest
