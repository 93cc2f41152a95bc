import Mathlib.Data.List.Basic
import ServiceManifest.Proofs.Name
import ServiceManifest.Proofs.Project.Bound

/-!
# Relative imports

A relative import starts from the package that its module is in, and each dot behind the first goes one
package up. The parts that stay are counted by a bound that goes below zero when there are more dots than
packages, and a bound below zero counts from the end. So the dots run through the package twice: once to
nothing, as they should, and then again from all parts but one. From twice the number of parts on nothing
is left, and what is imported is read as an absolute name.
-/

namespace ServiceManifest.Project

open ServiceManifest.Source

/-- How many of so many parts stay if so many are to go: those that a bound leaves which counts from the
end once it is below zero. -/
def partsLeft (count gone : Nat) : Nat := if gone ≤ count then count - gone else 2 * count - gone

section Left

variable {count gone further : Nat}

theorem partsLeft_le (count gone : Nat) : partsLeft count gone ≤ count := by
  unfold partsLeft
  split <;> omega

/-- Nothing is left of exactly as many parts, and of at most half as many. -/
theorem partsLeft_eq_zero_iff : partsLeft count gone = 0 ↔ gone = count ∨ 2 * count ≤ gone := by
  unfold partsLeft
  split <;> omega

/-- The right number of parts is left unless more are to go than there are, but not twice as many. -/
theorem partsLeft_eq_sub_iff : partsLeft count gone = count - gone ↔ gone ≤ count ∨ 2 * count ≤ gone := by
  unfold partsLeft
  split <;> omega

/-- With more to go, more is left only if the bound has gone below zero in between. -/
theorem partsLeft_lt_iff (hmore : gone ≤ further) :
    partsLeft count gone < partsLeft count further ↔
      gone ≤ count ∧ count < further ∧ further < count + gone := by
  unfold partsLeft
  split <;> split <;> omega

end Left

namespace ModuleIndex

variable {index : ModuleIndex}

/-- The parts of the package that a module is in. A package is in itself. -/
def ownPackage (index : ModuleIndex) : List String :=
  if index.isPackage then nameParts '.' index.name else (nameParts '.' index.name).dropLast

/-- The parts of the package that is so many packages up from that of a module; beyond the outermost one
there are none. -/
def packageAbove (index : ModuleIndex) (up : Nat) : List String :=
  index.ownPackage.take (index.ownPackage.length - up)

/-- The parts of the base of a relative import with so many dots behind the first. -/
def relativeBase (index : ModuleIndex) (up : Nat) : List String :=
  index.ownPackage.take (partsLeft index.ownPackage.length up)

theorem length_relativeBase (index : ModuleIndex) (up : Nat) :
    (index.relativeBase up).length = partsLeft index.ownPackage.length up :=
  List.length_take_of_le (partsLeft_le _ _)

/-- The base package of a relative import is that of its parts. -/
theorem packageForLevel_eq (index : ModuleIndex) (up : Nat) :
    index.packageForLevel (up + 1) = ".".intercalate (index.relativeBase up) := by
  unfold packageForLevel relativeBase
  have hown : (if index.isPackage then nameParts '.' index.name
      else (nameParts '.' index.name).dropLast) = index.ownPackage := rfl
  simp only [hown]
  congr 1
  rcases Nat.eq_zero_or_pos up with rfl | hup
  · simp [partsLeft]
  · rw [if_neg (by omega)]
    congr 1
    unfold partsLeft
    split <;> split <;> omega

/-- The base is the package that the dots stand for exactly if as many parts are left as there should be. -/
theorem relativeBase_eq_packageAbove_iff {up : Nat} :
    index.relativeBase up = index.packageAbove up ↔
      partsLeft index.ownPackage.length up = index.ownPackage.length - up := by
  refine ⟨fun heq => ?_, fun heq => by rw [relativeBase, heq, packageAbove]⟩
  have hlength := congrArg List.length heq
  rwa [length_relativeBase, packageAbove, List.length_take_of_le (Nat.sub_le _ _)] at hlength

/-- A relative import is about its base and the name behind the dots, as far as they are not empty. -/
theorem importSource_succ (index : ModuleIndex) (up : Nat) (module : String) :
    index.importSource (up + 1) module =
      ".".intercalate ([index.packageForLevel (up + 1), module].filter (· ≠ "")) := by
  unfold importSource
  by_cases hbase : index.packageForLevel (up + 1) = "" <;> by_cases hmodule : module = "" <;>
    simp [hbase, hmodule, String.intercalate_cons_cons]

/-- **Relative imports run through the package of their module twice.** The base of an import with so
many dots behind the first has first parts of that package, and the import binds what the absolute one
from there binds. These are the parts of the package that is as many packages up, and none beyond the
outermost one, exactly if there are at most as many dots as parts or at least twice as many. In between
the base is a package again: more dots then give a longer base than fewer, exactly if the fewer still stay
within the package and differ from them by less than its parts. -/
theorem relative_imports_run_through_package_twice (index : ModuleIndex) (up : Nat) :
    index.packageForLevel (up + 1) = ".".intercalate (index.relativeBase up) ∧
    index.relativeBase up <+: index.ownPackage ∧
    (index.relativeBase up = index.packageAbove up ↔
      up ≤ index.ownPackage.length ∨ 2 * index.ownPackage.length ≤ up) ∧
    (index.relativeBase up = [] ↔
      up = index.ownPackage.length ∨ 2 * index.ownPackage.length ≤ up) ∧
    (∀ further, up ≤ further →
      ((index.relativeBase up).length < (index.relativeBase further).length ↔
        up ≤ index.ownPackage.length ∧ index.ownPackage.length < further ∧
          further < index.ownPackage.length + up)) ∧
    ∀ module names, index.addImport (.importFrom (up + 1) module names) =
      index.addImport (.importFrom 0
        (".".intercalate ([".".intercalate (index.relativeBase up), module].filter (· ≠ ""))) names) := by
  refine ⟨packageForLevel_eq index up, List.take_prefix _ _, ?_, ?_, fun further hmore => ?_,
    fun module names => ?_⟩
  · rw [relativeBase_eq_packageAbove_iff, partsLeft_eq_sub_iff]
  · rw [← List.length_eq_zero_iff, length_relativeBase, partsLeft_eq_zero_iff]
  · rw [length_relativeBase, length_relativeBase, partsLeft_lt_iff hmore]
  · have hsource := importSource_succ index up module
    rw [packageForLevel_eq] at hsource
    simp only [addImport, hsource]
    rfl

/-- A module in the package `a.b` that imports from `x` with four dots binds what is in `a.x`, though
there is nothing three packages up. With three dots it binds nothing below `a`. -/
theorem distant_import_is_bound_inside :
    let index := ModuleIndex.empty ⟨"a/b/__init__.py", "a.b"⟩ true
    index.packageAbove 3 = [] ∧
      (index.relativeBase 2).length < (index.relativeBase 3).length ∧
      (index.addImport (.importFrom 3 "x" [("I", none)])).imports = [("I", "x.I")] ∧
      (index.addImport (.importFrom 4 "x" [("I", none)])).imports = [("I", "a.x.I")] := by
  intro index
  obtain ⟨-, -, -, -, hlonger, hnear⟩ := relative_imports_run_through_package_twice index 2
  obtain ⟨-, -, -, -, -, hdistant⟩ := relative_imports_run_through_package_twice index 3
  rw [hlonger 3 (by decide), hnear, hdistant]
  decide +kernel

end ModuleIndex

end ServiceManifest.Project
