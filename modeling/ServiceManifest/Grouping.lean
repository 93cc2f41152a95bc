import ServiceManifest.Declaration

/-!
# Groupings

A grouping collects who provides what: under the binary name of an interface it has the
contributions, each the binary name of a provider and the unit that declares it. Keys and
contributions are kept ascending and without repetition, so the same contributions make the same
grouping in any order.
-/

namespace ServiceManifest

/-- A provider and the unit that declares it. -/
abbrev Contribution := String × SourceUnit

/-- The order of contributions by provider, then by unit. -/
def Contribution.before (a b : Contribution) : Bool :=
  Ascending.pairBefore Ascending.textBefore SourceUnit.before a b

/-- Contributions under the binary names of their interfaces. -/
structure Grouping where
  groups : List (String × List Contribution)
  deriving DecidableEq

namespace Grouping

/-- The grouping without any contribution. -/
def empty : Grouping := ⟨[]⟩

/-- File a contribution under a key in ascending groups. -/
def putGroup (interface : String) (entry : Contribution) :
    List (String × List Contribution) → List (String × List Contribution)
  | [] => [(interface, [entry])]
  | group :: rest =>
    if interface < group.1 then (interface, [entry]) :: group :: rest
    else if group.1 < interface then group :: putGroup interface entry rest
    else (group.1, Ascending.insert Contribution.before entry group.2) :: rest

/-- File a provider of a unit under an interface. -/
def put (grouping : Grouping) (interface provider : String) (unit : SourceUnit) : Grouping :=
  ⟨putGroup interface (provider, unit) grouping.groups⟩

/-- The interfaces in ascending order. -/
def keys (grouping : Grouping) : List String := grouping.groups.map (·.1)

/-- The number of interfaces. -/
def size (grouping : Grouping) : Nat := grouping.groups.length

/-- The contributions to an interface in ascending order. -/
def entries (grouping : Grouping) (interface : String) : List Contribution :=
  ((grouping.groups.find? fun group => group.1 = interface).map (·.2)).getD []

/-- Whether an interface has contributions. -/
def contains (grouping : Grouping) (interface : String) : Bool :=
  grouping.groups.any fun group => group.1 = interface

/-- A contribution in the form for inspection. -/
def inspectEntry (entry : Contribution) : String :=
  "(" ++ Text.quoted entry.1 ++ ", SourceUnit(path=" ++ Text.quoted entry.2.path ++ ", module=" ++
    Text.quoted entry.2.module ++ "))"

/-- The whole grouping in the form for inspection. -/
def inspect (grouping : Grouping) : String :=
  let group (entry : String × List Contribution) : String :=
    Text.quoted entry.1 ++ ": [" ++ ", ".intercalate (entry.2.map inspectEntry) ++ "]"
  "Grouping(\x7b" ++ ", ".intercalate (grouping.groups.map group) ++ "\x7d)"

end Grouping

end ServiceManifest
