import ServiceManifest.Proofs.Project.Bound
import ServiceManifest.Proofs.Project.Requests

/-!
# One name outside of the project

A name outside of the project is split into package and class at what the module has imported in which
a reference to it leaves the project. Two references to one dotted name therefore stand for one class
exactly if these modules take the name to be in one package. They do so for a class of a module that
both import, but not if one of them imports the module as a member of the package around it.
-/

namespace ServiceManifest

namespace Project

open ServiceManifest.Source

section Scan

variable {tree : Disk.Tree} {root : Path} {markers : List String} {sources : List Source}

/-- A reference in a source leaves the project in a source under a name. -/
def Source.LeavesAt (markers : List String) (sources : List Source) (source : Source)
    (scope : ClassPath) (expr : Expr) (last : Source) (final : String) : Prop :=
  ∃ absolute, reference? (source.index markers) scope expr = some absolute ∧
    (modulesOf markers sources).LeavesAt (source.index markers, absolute) (last.index markers, final)

/-- What leads on does so to one name in one module. -/
theorem rightUnique_leadsOn (modules : Modules) : Relator.RightUnique (LeadsOn RefersTo modules) := by
  intro start next other hnext hother
  cases hnext with
  | aliased hsplit hbinding hreads =>
    cases hother with
    | aliased hsplitOther hbindingOther hreadsOther =>
      cases hsplit.symm.trans hsplitOther
      cases hbinding.symm.trans hbindingOther
      rw [Option.some.inj (hreads.symm.trans hreadsOther)]
    | imported hsplitOther hbindingOther =>
      cases hsplit.symm.trans hsplitOther
      cases hbinding.symm.trans hbindingOther
  | imported hsplit hbinding =>
    cases hother with
    | aliased hsplitOther hbindingOther =>
      cases hsplit.symm.trans hsplitOther
      cases hbinding.symm.trans hbindingOther
    | imported hsplitOther hbindingOther =>
      cases hsplit.symm.trans hsplitOther
      cases hbinding.symm.trans hbindingOther
      rfl

/-- A name that leaves the project leads on no further. -/
theorem Modules.LeavesAt.eq_of_reflTransGen {modules : Modules} {start last next : ModuleIndex × String}
    (h : modules.LeavesAt start last)
    (hnext : Relation.ReflTransGen (LeadsOn RefersTo modules) last next) : next = last := by
  rcases Relation.ReflTransGen.cases_head hnext with rfl | ⟨between, hleads, -⟩
  · rfl
  · have hend := h.2
    cases hleads with
    | aliased hsplit => cases hend.symm.trans hsplit
    | imported hsplit => cases hend.symm.trans hsplit

/-- A name leaves the project in one module and under one name. -/
theorem Modules.LeavesAt.unique {modules : Modules} {start last other : ModuleIndex × String}
    (h : modules.LeavesAt start last) (hother : modules.LeavesAt start other) : last = other := by
  rcases Relation.ReflTransGen.total_of_right_unique (rightUnique_leadsOn modules) h.1 hother.1 with
    hwalk | hwalk
  · exact (h.eq_of_reflTransGen hwalk).symm
  · exact hother.eq_of_reflTransGen hwalk

-- Splits of one dotted name behind different packages are classes of different binary names.
example : (splitBehind "a.b.C" 1).binary ≠ (splitBehind "a.b.C" 2).binary := by decide +kernel

end Scan

end Project

open Project

end ServiceManifest
