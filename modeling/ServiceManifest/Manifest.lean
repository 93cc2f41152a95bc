import ServiceManifest.Text.Lines

/-!
# Manifests

The manifest of an interface lies in `META-INF/services` under the binary name of the interface and
lists its providers, one a line. A reader lets `#` start a comment, ignores blank lines and takes a
repeated name once.
-/

namespace ServiceManifest.Manifest

/-- The folder of all manifests. -/
def folder : String := "META-INF/services"

/-- The path of the manifest of an interface. -/
def path (interface : String) : String := folder ++ "/" ++ interface

/-- What ends a line. -/
def lineEnd : String := "\n"

/-- The text of a manifest: every name on a line of its own. -/
def render (names : List String) : String := String.join (names.map (· ++ lineEnd))

/-- The name on a line: what stands before a comment, without white space around it. -/
def nameOnLine (line : List Char) : List Char :=
  Text.trimList Text.isBlank (line.takeWhile (· ≠ '#'))

/-- Add a name at the end, unless it is empty or listed. -/
def addName (names : List String) (name : String) : List String :=
  if name = "" || names.contains name then names else names ++ [name]

/-- The names that a manifest lists. -/
def read (text : String) : List String :=
  (Text.lines text.toList).foldl
    (fun names line => addName names (String.ofList (nameOnLine line))) []

end ServiceManifest.Manifest
