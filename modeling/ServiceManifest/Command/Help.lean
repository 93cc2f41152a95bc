import ServiceManifest.Console.Report

/-!
# Help texts

What each command says about itself. The help of the program has an overview of its commands, which
is printed to the console, and the usage with its options.
-/

namespace ServiceManifest.Command

/-- Lines with their ends. -/
def unlines (lines : List String) : String := String.join (lines.map (· ++ "\n"))

/-- The commands by what they are for. -/
def commandLines : List String :=
  ["",
   "BUILD",
   "Manifest generation",
   "generate      Scan sources and write one manifest per service interface  RUN: before packaging, or from the build      ",
   "                                                                         system                                        ",
   "inspect       Dry-run a round and print the service grouping             USE: checking which providers a build would   ",
   "                                                                         register                                      ",
   "",
   "INCREMENTAL",
   "Dependency tracking between builds",
   "status        Compare sources against the last generate run  USE: deciding whether manifests must be       ",
   "                                                             regenerated                                   ",
   ""]

/-- The overview of the commands. -/
def overview : String :=
  "\n" ++ Console.titledRule "COMMANDS" ++ unlines commandLines ++ Console.plainRule ++
    "For detailed options: autoservice <command> --help\n"

/-- The usage of the program. -/
def programUsage : String := unlines
  ["Usage: autoservice [OPTIONS] COMMAND [ARGS]...",
   "",
   "  autoservice - ServiceLoader manifests for @auto_service classes",
   "",
   "  QUICK START:",
   "    autoservice generate            # Write META-INF/services manifests",
   "    autoservice inspect --verify    # Preview and check providers",
   "    autoservice status              # Are manifests stale?",
   "",
   "Options:",
   "  --version         Show the version and exit.",
   "  -h, --help        Show this message and exit.",
   "  --log-level TEXT  DEBUG|INFO|WARNING|ERROR (default: AUTOSERVICE_LOG_LEVEL",
   "                    or INFO)",
   "  --log-json        Emit NDJSON logs on stderr"]

/-- The help of the command that writes manifests. -/
def generateHelp : String := unlines
  ["Usage: autoservice generate [OPTIONS]",
   "",
   "  Scan sources and write one manifest per service interface.",
   "",
   "  Every class decorated with @auto_service(Interface, ...) is listed in META-",
   "  INF/services/<interface binary name> under the output root, one provider per",
   "  line, sorted. Nested classes use their binary form (pkg.mod.Outer$Inner).",
   "",
   "  A round is all or nothing: a missing or empty interface list, a local class,",
   "  or (with --verify) a provider that does not subclass its interface aborts",
   "  the build before any manifest is touched.",
   "",
   "  Examples:   autoservice generate                       # Scan ., write",
   "  build/generated/resources   autoservice generate --src src --verify    #",
   "  Check implementations too   autoservice generate --incremental         # No-",
   "  op when nothing changed",
   "",
   "  Output:   <out>/META-INF/services/<interface>   # Provider list",
   "  .autoservice/state.json               # Dependency index for --incremental",
   "",
   "Options:",
   "  --root TEXT             Project directory (config and state live here)",
   "  --src TEXT              Source root to scan (default: paths.source_root)",
   "  --out TEXT              Generated-resources root (default: paths.output_dir)",
   "  --verify / --no-verify  Check providers implement their interfaces",
   "  --verbose               Log every grouping decision",
   "  --incremental           Skip the round when no source changed",
   "  --marker TEXT           Extra fully qualified marker name",
   "  --help                  Show this message and exit."]

/-- The help of the command that shows manifests. -/
def inspectHelp : String := unlines
  ["Usage: autoservice inspect [OPTIONS]",
   "",
   "  Dry-run a round and print the service grouping.",
   "",
   "  Runs the same collection and validation as generate, but keeps the manifests",
   "  in memory and prints one row per service interface with its providers and",
   "  the source files it depends on.",
   "",
   "  Examples:   autoservice inspect   autoservice inspect --src src --verify",
   "",
   "Options:",
   "  --root TEXT             Project directory",
   "  --src TEXT              Source root to scan (default: paths.source_root)",
   "  --verify / --no-verify  Check providers implement their interfaces",
   "  --marker TEXT           Extra fully qualified marker name",
   "  --help                  Show this message and exit."]

/-- The help of the command that compares sources. -/
def statusHelp : String := unlines
  ["Usage: autoservice status [OPTIONS]",
   "",
   "  Compare sources against the last generate run.",
   "",
   "  Lists changed, added and removed source files and the manifests that an",
   "  incremental build would regenerate. Manifests are aggregating: any new or",
   "  changed file makes all of them stale, because it may contribute a provider.",
   "",
   "  Exit codes:   0  Up to date   3  Stale - run autoservice generate",
   "",
   "Options:",
   "  --root TEXT  Project directory",
   "  --src TEXT   Source root to scan (default: paths.source_root)",
   "  --out TEXT   Generated-resources root (default: paths.output_dir)",
   "  --help       Show this message and exit."]

/-- The version of the program. -/
def versionLine : String := "autoservice, version 1.0.0\n"

end ServiceManifest.Command
