import ServiceManifest.Build.Plan
import ServiceManifest.Json.Order

/-!
# Plans over any document

A plan can be asked for over a document that no build has written. What is recorded of the sources
may then be any set: it has names, but no digest can be looked up by name except in an object.
Members that are no texts are sources which nothing now can match.
-/

namespace ServiceManifest.Build

/-- A plan over a document: the plan as far as names go, and the members that are gone though they
are no names. -/
structure DocumentPlan where
  plan : Plan
  strangers : List Json.Value

namespace DocumentPlan

/-- What is gone, names and others. -/
def removed (found : DocumentPlan) : List Json.Value :=
  found.plan.removed.map .string ++ found.strangers

/-- Whether there is nothing to build. -/
def isUpToDate (found : DocumentPlan) : Bool :=
  found.plan.isUpToDate && found.strangers.isEmpty

end DocumentPlan

/-- The digests of sources by name, of which some are still there. -/
def digestsOf (sources : Json.Value) (names : List String) (shared : Bool) :
    Except Json.TypeFault (Keyed Json.Value) :=
  match sources with
  | .object entries => .ok entries
  | other => if shared then .error (.notNamed other.type) else .ok (names.map fun n => (n, .null))

/-- Whether an entry of the artifact section depends on one of some members. -/
def dependsOn (strangers : List Json.Value) (entry : Json.Value) : Bool :=
  match ((entry.entries?.bind (Keyed.get? "sources")).getD (.array [])).members with
  | .ok members => members.any fun member => strangers.any member.sameMember
  | .error _ => false

/-- The plan over the sections of a document. -/
def planSections (artifacts sources options : Json.Value) (current : Keyed Json.Value)
    (output : Option (Disk.Tree × Path)) (now : Option Json.Value) :
    Except Fault DocumentPlan := do
  let members ← sources.members.mapError .type
  let names := members.filterMap Json.Value.text?
  let (kept, gone) := names.partition fun name => Keyed.has name current
  let strangers := members.filter fun member => member.text?.isNone
  let removed ← (Json.sortedMembers (gone.map .string ++ strangers)).mapError .type
  let digests ← (digestsOf sources names (!kept.isEmpty)).mapError .type
  match artifacts with
  | .object entries =>
    let outdated (path : String) : Bool :=
      ((Keyed.get? path entries).map (dependsOn strangers)).getD false
    let plan ← planFrom entries digests (optionsDiffer options now) outdated current output
    return ⟨plan, removed.filter fun member => member.text?.isNone⟩
  | other => .error (.type (.noListing other.type))

/-- The plan over a document that should hold a state. A section that is left out is empty. -/
def planDocument (previous : Json.Value) (current : Keyed Json.Value)
    (output : Option (Disk.Tree × Path)) (now : Option Json.Value) : Except Fault DocumentPlan :=
  match previous with
  | .object entries =>
    let part (name : String) : Json.Value := (Keyed.get? name entries).getD (.object [])
    planSections (part "artifacts") (part "sources") (part "options") current output now
  | other => .error (.type (.noEntries other.type))

end ServiceManifest.Build
