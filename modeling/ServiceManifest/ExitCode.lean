/-!
# Exit codes

A command ends with zero, with one when the round or the command failed, or with three when
manifests are stale.
-/

namespace ServiceManifest.ExitCode

/-- Everything is as it should be. -/
def success : Int := 0

/-- The round was aborted. -/
def roundFailed : Int := 1

/-- The arguments make no sense. -/
def usage : Int := 2

/-- The manifests are stale. -/
def stale : Int := 3

/-- What a code means. -/
def describe (code : Int) : String :=
  if code = success then "Success - manifests are up to date"
  else if code = roundFailed then "Round aborted - no manifests written"
  else if code = stale then "Manifests are stale and must be regenerated"
  else "Unknown exit code: " ++ toString code

end ServiceManifest.ExitCode
