import ServiceManifest.Build.Plan
import ServiceManifest.Console.Table

/-!
# What commands print

Every message for the user is markup on a console of two hundred cells: paragraphs, a heading in a
rule, and tables of manifests and of units that moved. Each piece either has a text or a fault in
its markup.
-/

namespace ServiceManifest.Console

/-- A piece of output. -/
abbrev Printed := Except MarkupFault String

/-- The width of the console. -/
def columns : Nat := 200

/-- A paragraph of markup. -/
def paragraph (markup : String) : Printed :=
  (visible markup).map fun text =>
    String.ofList ((wrap .fold columns text).flatMap (· ++ ['\n']))

/-- A rule across the console. -/
def plainRule : String := String.ofList (List.replicate columns '─' ++ ['\n'])

/-- A rule with a title in its middle. -/
def titledRule (title : String) : String :=
  let size := Text.width title.toList
  let before := (columns - size) / 2 - 1
  String.ofList (List.replicate before '─' ++ [' '] ++ title.toList ++ [' '] ++
    List.replicate (columns - before - size - 2) '─' ++ ['\n'])

/-- A message about something that needs attention. -/
def warning (message : String) : Printed := paragraph ("[warning]WARNING:[/warning] " ++ message)

/-- A message about something that is well. -/
def success (message : String) : Printed := paragraph ("[success]OK:[/success] " ++ message)

/-- The table of manifests with their providers and sources. -/
def artifactTable (artifacts : List Artifact) : Printed :=
  (table columns
    [⟨"Interface", artifacts.map (·.interface)⟩,
      ⟨"Providers", artifacts.map fun artifact => "\n".intercalate artifact.implementers⟩,
      ⟨"Sources", artifacts.map fun artifact =>
        "\n".intercalate (artifact.dependencies.sources.map (·.path))⟩]).map String.ofList

/-- The rows of the table of a plan. -/
def planRows (plan : Build.Plan) : List (String × String) :=
  plan.changed.map (("changed", ·)) ++ plan.added.map (("added", ·)) ++
    plan.removed.map (("removed", ·)) ++ plan.stale.map (("stale", ·)) ++
    plan.missing.map (("missing", ·)) ++
    if plan.optionsChanged then [("options", "verify or marker names differ from the last run")]
    else []

/-- The table of units that moved and of artifacts that are no longer right. -/
def planTable (plan : Build.Plan) : Printed :=
  (table columns
    [⟨"State", (planRows plan).map (·.1)⟩, ⟨"Path", (planRows plan).map (·.2)⟩]).map String.ofList

/-- The manifests that were written and those that were removed. -/
def writtenLines (artifacts : List Artifact) (removed : List String) : List Printed :=
  artifacts.map (fun artifact =>
      paragraph ("  [path]" ++ artifact.path ++ "[/path] [dim](" ++
        toString artifact.implementers.length ++ " provider(s))[/dim]")) ++
    removed.map fun path => paragraph ("  [dim]removed " ++ path ++ "[/dim]")

end ServiceManifest.Console
