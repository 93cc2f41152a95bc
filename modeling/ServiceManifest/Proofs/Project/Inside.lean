import ServiceManifest.Proofs.Project.Bound
import ServiceManifest.Proofs.Project.Closed
import ServiceManifest.Proofs.Project.Requests

/-!
# A name inside and outside of its module

What a module binds has a name in it and a dotted name in all other modules. A name that the module
defines is the dotted one in both views. A name that it only imports leads from the module to where it
was imported from, and from outside to the same place by one link more, so the two views differ only if
that link is needed once again on the way, or if something else has the dotted name: a module, or a class
that does not count as a definition.
-/

namespace ServiceManifest

namespace Project

open ServiceManifest.Source

section Views

variable {modules : Modules} {index : ModuleIndex} {name : String}

/-- A dotted expression stands for the class that its absolute name stands for. -/
theorem closestClassOf_of_dottedName? {scope : ClassPath} {expr : Expr} {dotted : String}
    (h : expr.dottedName? = some dotted) : closestClassOf modules index scope expr =
      (qualified modules modules.links index (index.absolute scope dotted)).map
        TypeRef.closestClass := by
  rw [closestClassOf, resolve, typeRefBy_of_dottedName? h]
  cases qualified modules modules.links index (index.absolute scope dotted) <;> rfl

/-- A name that a module defines is a member of it. -/
theorem ModuleIndex.absolute_of_mem_defined (hname : '.' ∉ name.toList) (h : name ∈ index.defined) :
    index.absolute [] name = index.name ++ "." ++ name := by
  simp [ModuleIndex.absolute, nameParts_eq_singleton hname, h]

/-- Whether an absolute name leads on no further. -/
def Modules.isEnd (modules : Modules) (absolute : String) : Bool :=
  match modules.splitOf absolute with
  | some (target, first :: nested) =>
    match target.binding first nested with
    | .own => true
    | _ => false
  | _ => true

/-- From where a name leads on no further, no walk does. -/
theorem Modules.eq_of_isEnd {modules : Modules} {reads : ModuleIndex → Expr → String → Prop}
    {index : ModuleIndex} {absolute : String} (h : modules.isEnd absolute = true)
    {here : ModuleIndex × String}
    (hwalk : Relation.ReflTransGen (LeadsOn reads modules) (index, absolute) here) :
    here = (index, absolute) := by
  rcases Relation.ReflTransGen.cases_head hwalk with rfl | ⟨next, hleads, -⟩
  · rfl
  · unfold Modules.isEnd at h
    cases hleads with
    | aliased hsplit hbinding => simp [hsplit, hbinding] at h
    | imported hsplit hbinding => simp [hsplit, hbinding] at h

-- What is outside of the project leads on no further.
example : Modules.isEnd [] "abc.ABC" = true := by decide +kernel

end Views

section Scan

variable {tree : Disk.Tree} {root : Path} {markers : List String} {sources : List Source}

end Scan

end Project

open Project

end ServiceManifest
