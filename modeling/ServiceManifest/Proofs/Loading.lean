import Mathlib.Data.List.TakeDrop
import Mathlib.Data.List.TakeWhile
import ServiceManifest.Loading
import ServiceManifest.Proofs.Name
import ServiceManifest.Proofs.Round.Emit

/-!
# Binary names are read back

In a binary name the last dot ends the package, since no simple name has one, and then every `$` parts
two simple names. So binary names tell classes apart, and loading one imports the module that is the
package and goes on from member to member along the simple names.
-/

namespace ServiceManifest

/-- A class whose simple names show in its binary name: there are some, none is empty, and none has a
separator in it. -/
structure QualifiedName.IsPlain (name : QualifiedName) : Prop where
  wellFormed : name.wellFormed = true
  noDot : ∀ simple ∈ name.simpleNames, '.' ∉ simple.toList
  noDollar : ∀ simple ∈ name.simpleNames, '$' ∉ simple.toList

instance (name : QualifiedName) : Decidable name.IsPlain :=
  decidable_of_iff (name.wellFormed = true ∧ (∀ simple ∈ name.simpleNames, '.' ∉ simple.toList) ∧
      ∀ simple ∈ name.simpleNames, '$' ∉ simple.toList)
    ⟨fun ⟨hformed, hdot, hdollar⟩ => ⟨hformed, hdot, hdollar⟩,
      fun ⟨hformed, hdot, hdollar⟩ => ⟨hformed, hdot, hdollar⟩⟩

namespace Loading

section Split

variable {last : String} (h : '.' ∉ last.toList)
include h

/-- A name without a dot is read to its front end. -/
theorem isPart_of_mem_reverse : ∀ c ∈ last.toList.reverse, decide (c ≠ '.') = true := fun _ hc =>
  decide_eq_true fun heq => h (heq ▸ List.mem_reverse.mp hc)

/-- A name without a dot has nothing before its last part. -/
theorem splitLast_of_not_mem : splitLast last = ("", last) := by
  have hall := isPart_of_mem_reverse h
  rw [splitLast, List.span_eq_takeWhile_dropWhile, List.takeWhile_eq_self_iff.mpr hall,
    List.dropWhile_eq_nil_iff.mpr hall]
  simp

/-- A name is split at a dot with no other one behind it. -/
theorem splitLast_append (front : String) : splitLast (front ++ "." ++ last) = (front, last) := by
  have hall := isPart_of_mem_reverse h
  have hreverse : (front ++ "." ++ last).toList.reverse =
      last.toList.reverse ++ '.' :: front.toList.reverse := by
    simp
  rw [splitLast, hreverse, List.span_eq_takeWhile_dropWhile, List.takeWhile_append_of_pos hall,
    List.dropWhile_append_of_pos hall]
  simp

end Split

section Decode

variable {name other : QualifiedName}

/-- The simple names, joined by `$`, are the part behind the last dot, and the package is the part before
it. -/
theorem splitLast_binary (h : name.IsPlain) :
    splitLast name.binary = (name.package, "$".intercalate name.simpleNames) := by
  have hmember : '.' ∉ ("$".intercalate name.simpleNames).toList :=
    not_mem_intercalate (by decide) h.noDot
  rw [QualifiedName.binary, QualifiedName.spelled]
  split
  · rename_i hpackage
    rw [splitLast_of_not_mem hmember, hpackage]
  · exact splitLast_append hmember _

/-- The simple names are parted again at every `$`. -/
theorem nameParts_simpleNames (h : name.IsPlain) :
    nameParts '$' ("$".intercalate name.simpleNames) = name.simpleNames := by
  have hsome : name.simpleNames ≠ [] := by
    rintro heq
    simpa [QualifiedName.wellFormed, heq] using h.wellFormed
  exact nameParts_intercalate_singleton hsome h.noDollar

/-- Different classes have different binary names. -/
theorem eq_of_binary_eq (h : name.IsPlain) (hother : other.IsPlain)
    (heq : name.binary = other.binary) : name = other := by
  have hsplit := splitLast_binary h
  rw [heq, splitLast_binary hother, Prod.mk.injEq] at hsplit
  obtain ⟨hpackage, hmembers⟩ := hsplit
  have hnames := nameParts_simpleNames h
  rw [← hmembers, nameParts_simpleNames hother] at hnames
  cases name
  cases other
  exact QualifiedName.mk.injEq .. ▸ ⟨hpackage.symm, hnames.symm⟩

end Decode

section Import

variable {modules : ModuleTable}

/-- The module of a name, as importing the name gives it. -/
def importModule (modules : ModuleTable) (module : String) : Except LoadFault Object :=
  if module.toList.head? = some '.' then .error (.relative module)
  else (findModule modules (nameParts '.' module).reverse).map (.moduleObject module)

/-- Importing a name gives exactly the module of that name, if there is one. -/
theorem importModule_eq_ok_iff {module : String} {object : Object} :
    importModule modules module = .ok object ↔ module.toList.head? ≠ some '.' ∧
      ∃ classes, named? module modules = some classes ∧ object = .moduleObject module classes := by
  obtain ⟨last, above, hparts⟩ :=
    List.exists_cons_of_ne_nil (mt List.reverse_eq_nil_iff.mp (nameParts_ne_nil module))
  have hname : ".".intercalate (last :: above).reverse = module := by
    rw [← hparts, List.reverse_reverse, intercalate_nameParts]
  have hfind {classes : List (String × ClassTree)} :
      findModule modules (last :: above) = .ok classes ↔ named? module modules = some classes := by
    unfold findModule
    simp only [hname]
    split
    · rename_i found hfound
      simp [hfound]
    · rename_i hnone
      have herror : ∀ result : Except LoadFault (List (String × ClassTree)),
          (∀ found, result ≠ .ok found) → (result = .ok classes ↔ named? module modules = some classes) :=
        fun result hresult => ⟨fun h => absurd h (hresult classes), fun h => by simp [hnone] at h⟩
      refine herror _ fun found => ?_
      split
      · nofun
      · split <;> nofun
  unfold importModule
  split
  · rename_i hdot
    simp [hdot]
  · rename_i hdot
    rw [hparts]
    cases hfound : findModule modules (last :: above) with
    | error fault =>
      have hnone : ∀ classes, named? module modules ≠ some classes := fun classes hsome => by
        simp [hfind.mpr hsome] at hfound
      simp [Except.map, hnone]
    | ok classes => simp [Except.map, hdot, hfind.mp hfound, eq_comm]

/-- An object leads to another one by names, each that of a member of the object before. -/
inductive LeadsTo : Object → List String → Object → Prop
  | here (object : Object) : LeadsTo object [] object
  | member {object next found : Object} {name : String} {rest : List String}
      (hmember : object.member name = .ok next) (hrest : LeadsTo next rest found) :
      LeadsTo object (name :: rest) found

/-- Names are followed to the object that they lead to. -/
theorem follow_eq_ok_iff {object found : Object} {names : List String} :
    follow object names = .ok found ↔ LeadsTo object names found := by
  constructor
  · intro h
    induction names generalizing object with
    | nil =>
      cases h
      exact .here _
    | cons name rest ih =>
      rw [follow] at h
      split at h
      · cases h
      · exact .member ‹_› (ih h)
  · intro h
    induction h with
    | here object => rfl
    | member hmember _ ih =>
      rw [follow, hmember]
      exact ih

/-- A class in a package is loaded by importing the package and following its simple names. -/
theorem importClass_binary {name : QualifiedName} (h : name.IsPlain) (hpackage : name.package ≠ "") :
    importClass modules name.binary = (importModule modules name.package).bind fun module =>
      (follow module name.simpleNames).map Object.className? := by
  unfold importClass
  simp only [splitLast_binary h, if_neg hpackage, nameParts_simpleNames h]
  unfold importModule
  split
  · rfl
  · cases findModule modules (nameParts '.' name.package).reverse <;> rfl

/-- A class in a package is loaded exactly when its package is a module from which its simple names lead
to something. -/
theorem importClass_binary_eq_ok_iff {name : QualifiedName} (h : name.IsPlain)
    (hpackage : name.package ≠ "") {found : Option ClassName} :
    importClass modules name.binary = .ok found ↔ name.package.toList.head? ≠ some '.' ∧
      ∃ classes object, named? name.package modules = some classes ∧
        LeadsTo (.moduleObject name.package classes) name.simpleNames object ∧
        object.className? = found := by
  rw [importClass_binary h hpackage]
  constructor
  · intro hload
    cases hmodule : importModule modules name.package with
    | error fault => simp [hmodule, Except.bind] at hload
    | ok module =>
      obtain ⟨hrelative, classes, hclasses, rfl⟩ := importModule_eq_ok_iff.mp hmodule
      cases hobject : follow (.moduleObject name.package classes) name.simpleNames with
      | error fault => simp [hmodule, hobject, Except.bind, Except.map] at hload
      | ok object =>
        refine ⟨hrelative, classes, object, hclasses, follow_eq_ok_iff.mp hobject, ?_⟩
        simpa [hmodule, hobject, Except.bind, Except.map] using hload
  · rintro ⟨hrelative, classes, object, hclasses, hleads, hfound⟩
    rw [importModule_eq_ok_iff.mpr ⟨hrelative, classes, hclasses, rfl⟩, Except.bind,
      follow_eq_ok_iff.mpr hleads, Except.map, hfound]

/-- A class outside of all packages cannot be loaded. -/
theorem importClass_of_no_package {name : QualifiedName} (h : name.IsPlain)
    (hpackage : name.package = "") :
    importClass modules name.binary = .error (.noModule name.binary) := by
  unfold importClass
  simp only [splitLast_binary h, if_pos hpackage]

/-- Binary names and manifest paths tell classes apart, and loading a binary name imports the module that
is the package and follows the simple names from there; a name outside of all packages is an import
error. -/
theorem binary_identifies :
    (∀ name other : QualifiedName, name.IsPlain → other.IsPlain →
      (name.binary = other.binary → name = other) ∧
        (Manifest.path name.binary = Manifest.path other.binary → name = other)) ∧
    ∀ (modules : ModuleTable) (name : QualifiedName), name.IsPlain →
      (name.package = "" → importClass modules name.binary = .error (.noModule name.binary) ∧
        (LoadFault.noModule name.binary).title = "ImportError") ∧
      (name.package ≠ "" →
        importClass modules name.binary = ((importModule modules name.package).bind fun module =>
          (follow module name.simpleNames).map Object.className?) ∧
        ∀ found, importClass modules name.binary = .ok found ↔
          name.package.toList.head? ≠ some '.' ∧
            ∃ classes object, named? name.package modules = some classes ∧
              LeadsTo (.moduleObject name.package classes) name.simpleNames object ∧
              object.className? = found) := by
  refine ⟨fun name other h hother => ⟨eq_of_binary_eq h hother, fun hpath => ?_⟩,
    fun modules name h => ⟨fun hpackage => ⟨importClass_of_no_package h hpackage, rfl⟩,
      fun hpackage => ⟨importClass_binary h hpackage, fun found => ?_⟩⟩⟩
  · exact eq_of_binary_eq h hother (Manifest.path_injective hpath)
  · exact importClass_binary_eq_ok_iff h hpackage

/-- A nested class is loaded from its module, and not from a module that has the class itself. -/
theorem binary_identifies_nested :
    importClass [("shop.tills", [("Till", .node [("Drawer", .node [])])])]
        (QualifiedName.binary ⟨"shop.tills", ["Till", "Drawer"]⟩) =
      .ok (some ("shop.tills", ["Till", "Drawer"])) ∧
    QualifiedName.binary ⟨"shop.tills", ["Till", "Drawer"]⟩ ≠
      QualifiedName.binary ⟨"shop", ["tills", "Till", "Drawer"]⟩ :=
  ⟨((binary_identifies.2 _ ⟨"shop.tills", ["Till", "Drawer"]⟩ (by decide)).2 (by decide)).2 _ |>.mpr
      ⟨by decide, [("Till", .node [("Drawer", .node [])])], _, rfl,
        .member rfl (.member rfl (.here _)), rfl⟩,
    fun heq => absurd ((binary_identifies.1 _ _ (by decide) (by decide)).1 heq) (by decide)⟩

end Import

end Loading

end ServiceManifest
