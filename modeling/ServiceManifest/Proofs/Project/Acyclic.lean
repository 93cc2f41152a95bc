import ServiceManifest.Proofs.Project.Requests

/-!
# Supertypes of classes below which no bases form a cycle

From a class on, base edges lead through the class statements of any module to classes of the project
and to classes outside of it; an edge follows a base through aliases, names that are handed on,
subscripts and texts. If no cycle is reached, and no two class statements of a module with a class
reached have one path, then the supertypes of the class are exactly the object class and all that one
or more edges lead to, whatever supertypes were found before.
-/

namespace ServiceManifest

namespace Project

open ServiceManifest.Source Relation

section Cycles

variable (markers : List String) (sources : List Source) (name : QualifiedName)

end Cycles

section Settled

variable {markers : List String} {sources : List Source} {name : QualifiedName}

end Settled

end Project

open Project

end ServiceManifest
