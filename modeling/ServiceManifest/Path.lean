import ServiceManifest.Text.Quoted

/-!
# Paths

A path is an anchor, which is empty for a relative path, and the parts between the slashes. Empty
parts and single dots do not count; a part `..` stays, because what it means depends on the folders
there.
-/

namespace ServiceManifest

/-- A path as written, without the parts that mean nothing. -/
structure Path where
  anchor : String
  parts : List String
  deriving DecidableEq, Repr, Inhabited

namespace Path

/-- The anchor of a written path: exactly two slashes in front are kept, any other number is one. -/
def anchorOf : List Char → String
  | '/' :: '/' :: '/' :: _ => "/"
  | '/' :: '/' :: _ => "//"
  | '/' :: _ => "/"
  | _ => ""

/-- The parts of a written path that count. -/
def partsOf (text : List Char) : List String :=
  ((text.splitOn '/').map String.ofList).filter fun part => part ≠ "" && part ≠ "."

/-- A written path. -/
def ofString (text : String) : Path := ⟨anchorOf text.toList, partsOf text.toList⟩

/-- The written form: a single dot for the empty path. -/
def toString (path : Path) : String :=
  if path.anchor = "" && path.parts.isEmpty then "."
  else path.anchor ++ "/".intercalate path.parts

/-- The other path seen from this one; an anchored path stands for itself. -/
def join (path other : Path) : Path :=
  if other.anchor = "" then ⟨path.anchor, path.parts ++ other.parts⟩ else other

/-- The last part, empty if there is none. -/
def name (path : Path) : String := path.parts.getLastD ""

/-- Whether a part holds the character NUL, which no name on a disk can. -/
def hasNul (path : Path) : Bool := path.parts.any fun part => part.toList.contains '\x00'

/-- The path without its last part. -/
def parent (path : Path) : Path := ⟨path.anchor, path.parts.dropLast⟩

/-- The path with another last part. -/
def withName (path : Path) (name : String) : Path := ⟨path.anchor, path.parts.dropLast ++ [name]⟩

/-- A name without its suffix, which is what follows its last dot; a dot at either end of the name
starts no suffix. -/
def stem (name : String) : String :=
  let (suffix, front) := name.toList.reverse.span (· ≠ '.')
  match front with
  | _ :: rest => if suffix.isEmpty || rest.isEmpty then name else String.ofList rest.reverse
  | [] => name

/-- The anchor, if there is one, and the parts. -/
def segments (path : Path) : List String :=
  if path.anchor = "" then path.parts else path.anchor :: path.parts

/-- The parts with each `..` taken back together with the part before it. -/
def collapse (parts : List String) : List String :=
  parts.foldl (fun done part => if part = ".." then done.dropLast else done ++ [part]) []

/-- The anchored form of a path that is relative to a folder, without any `..`. -/
def absolute (path : Path) (here : List String) : Path :=
  if path.anchor = "" then ⟨"/", collapse (here ++ path.parts)⟩
  else ⟨path.anchor, collapse path.parts⟩

/-- Whether the path is the other one or lies below it. -/
def isWithin (path other : Path) : Bool :=
  path.anchor = other.anchor && other.parts.isPrefixOf path.parts

end Path

end ServiceManifest
