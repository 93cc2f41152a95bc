import ServiceManifest.Json.Value

/-!
# The environment

A program is started with named texts. Those that it knows set defaults.
-/

namespace ServiceManifest

/-- Variables of the environment. -/
abbrev Environment := Keyed String

end ServiceManifest
