import ServiceManifest.Project.Resolve

/-!
# Supertypes

A class descends from the object class, from what its bases refer to, and from all that those
classes descend from, as far as they belong to the project. Closures are remembered under the name
of the class. While the closure of a class is being computed, the object class alone is remembered
for it, so that cyclic bases come to an end.
-/

namespace ServiceManifest.Project

open ServiceManifest.Source

/-- A set of classes, ascending. -/
abbrev ClassSet := List QualifiedName

/-- The closures known so far, by the names of the classes. -/
abbrev Closures := List (QualifiedName × ClassSet)

namespace Closures

/-- What is known of a class. -/
def get? (name : QualifiedName) (closures : Closures) : Option ClassSet :=
  (closures.find? fun entry => entry.1 = name).map (·.2)

/-- Remember a closure in place of an earlier one. -/
def put (name : QualifiedName) (closure : ClassSet) (closures : Closures) : Closures :=
  (name, closure) :: closures.filter fun entry => entry.1 ≠ name

end Closures

/-- A set with one class more. -/
def ClassSet.insert (name : QualifiedName) (classes : ClassSet) : ClassSet :=
  Ascending.insert QualifiedName.before name classes

/-- The classes of either set. -/
def ClassSet.union (classes more : ClassSet) : ClassSet :=
  more.foldl (fun classes name => ClassSet.insert name classes) classes

/-- The class that a base refers to, seen from the class at a path. -/
def baseClass? (modules : Modules) (index : ModuleIndex) (path : List String) (base : Expr) :
    Except Fault (Option QualifiedName) :=
  (resolve modules index path.dropLast base).map fun found => found.bind TypeRef.closestClass

/-- The module of a class of the project with the bases of that class. -/
def declaration? (modules : Modules) (name : QualifiedName) :
    Option (ModuleIndex × List Expr) :=
  (Keyed.get? name.package modules).bind fun owner =>
    (owner.basesOf? name.simpleNames).map fun bases => (owner, bases)

/-- A computation of the closure of the class at a path of a module, whose bases are given. -/
abbrev ClosureOf :=
  Closures → ModuleIndex → List String → List Expr → Except Fault (ClassSet × Closures)

/-- Add what each base brings to the classes found; `below` computes the closures of bases. -/
def addBases (modules : Modules) (below : ClosureOf) (index : ModuleIndex) (path : List String) :
    List Expr → ClassSet → Closures → Except Fault (ClassSet × Closures)
  | [], found, closures => .ok (found, closures)
  | base :: rest, found, closures =>
    match baseClass? modules index path base with
    | .error fault => .error fault
    | .ok none => addBases modules below index path rest found closures
    | .ok (some name) =>
      match declaration? modules name with
      | none => addBases modules below index path rest (ClassSet.insert name found) closures
      | some (owner, bases) =>
        match below closures owner name.simpleNames bases with
        | .error fault => .error fault
        | .ok (more, closures) =>
          addBases modules below index path rest
            (ClassSet.union (ClassSet.insert name found) more) closures

/-- The closure of a class, unless it is known, in terms of the closures of its bases. -/
def closureStep (modules : Modules) (below : ClosureOf) : ClosureOf :=
  fun closures index path bases =>
    let name : QualifiedName := ⟨index.name, path⟩
    match closures.get? name with
    | some closure => .ok (closure, closures)
    | none =>
      let object : ClassSet := [.object]
      match addBases modules below index path bases object (closures.put name object) with
      | .error fault => .error fault
      | .ok (closure, closures) => .ok (closure, closures.put name closure)

/-- The closure of a class with bases nested at most so many times. -/
def closureWithin (modules : Modules) : Nat → ClosureOf
  | 0 => fun closures _ _ _ => .ok ([.object], closures)
  | depth + 1 => closureStep modules (closureWithin modules depth)

/-- The number of classes of a project. -/
def Modules.classCount (modules : Modules) : Nat :=
  modules.foldr (fun entry count => entry.2.classes.length + count) 0

/-- The closure of a class. No two classes on a chain of bases are the same, so the number of
classes bounds the length of the chain. -/
def supertypes (modules : Modules) : ClosureOf :=
  closureWithin modules (modules.classCount + 2)

end ServiceManifest.Project
