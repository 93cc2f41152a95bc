import ServiceManifest.Fault
import ServiceManifest.Project.Index
import ServiceManifest.Source.Parse

/-!
# Resolving references

A reference is made absolute in the module that holds it and then followed through the project: the
longest front part that names a module is looked up, aliases lead on to their targets, and names
that a module has imported lead on to where they were imported from. Such a step is a link; a link
that is being followed already is not followed again, so cycles end and resolve to no class. Names
outside of the project are split into package and class at a module that the referring module has
imported.
-/

namespace ServiceManifest.Project

open ServiceManifest.Source

/-- A name bound in a module that may lead on to another name. -/
abbrev Link := String × String

/-- The modules of a project by name. -/
abbrev Modules := Keyed ModuleIndex

namespace Modules

/-- The links of a project. -/
def links (modules : Modules) : List Link :=
  modules.flatMap fun (name, index) =>
    (Keyed.keys index.aliases ++ Keyed.keys index.imports).map fun bound => (name, bound)

/-- The longest front part of a dotted name that is a module, and the parts behind it; `count` parts
are tried first. -/
def splitAt (modules : Modules) (parts : List String) : Nat → Option (ModuleIndex × List String)
  | 0 => none
  | count + 1 =>
    match Keyed.get? (".".intercalate (parts.take (count + 1))) modules with
    | some index => some (index, parts.drop (count + 1))
    | none => modules.splitAt parts count

end Modules

/-- The number of names that lead from a module through its classes, one class inside the other. -/
def classDepth (index : ModuleIndex) (done : ClassPath) : List String → Nat
  | [] => 0
  | name :: rest =>
    if index.hasClass (done ++ [name]) then classDepth index (done ++ [name]) rest + 1 else 0

/-- A class as a reference to itself. -/
def classRef (name : QualifiedName) : TypeRef := ⟨name, [], none, true⟩

/-- A member that is no class. -/
def memberRef (name : QualifiedName) : TypeRef := ⟨name, [], none, false⟩

/-- All parts but the last as the package. -/
def splitTail (parts : List String) : QualifiedName :=
  ⟨".".intercalate parts.dropLast, [parts.getLastD ""]⟩

/-- What parts behind a module stand for: a class of it, or a member of the last class on the
way. -/
def memberOf (index : ModuleIndex) (rest : List String) : TypeRef :=
  let depth := classDepth index [] rest
  if depth = rest.length then classRef ⟨index.name, rest⟩
  else memberRef ⟨index.name, rest.take (depth + 1)⟩

/-- A name outside of the project, split at the longest known module in front of it; `count` parts
are tried first. -/
def externalAt (known : List String) (parts : List String) : Nat → QualifiedName
  | 0 => splitTail parts
  | count + 1 =>
    let package := ".".intercalate (parts.take (count + 1))
    if known.contains package then ⟨package, parts.drop (count + 1)⟩
    else externalAt known parts count

/-- A name outside of the project, as a module sees it. -/
def external (index : ModuleIndex) (parts : List String) : TypeRef :=
  classRef (externalAt (builtinModule :: index.importedModules) parts (parts.length - 1))

mutual

/-- How much of an expression a resolution can go through: each name, each subscript, and each
character of a text that is read as an expression. -/
def weight : Expr → Nat
  | .subscript value elements => weight value + weightAll elements + 1
  | .text codes => codes.length + 1
  | _ => 1

/-- The weight of all elements of a subscript. -/
def weightAll : List Expr → Nat
  | [] => 0
  | element :: rest => weight element + 1 + weightAll rest

end

/-- Every expression weighs something. -/
theorem weight_pos (expr : Expr) : 0 < weight expr := by
  unfold weight
  split <;> omega

/-- The links that are open still while one is followed. -/
def close (link : Link) (open_ : List Link) : List Link := open_.filter (· ≠ link)

/-- A link that is followed is no longer open. -/
theorem length_close_lt {link : Link} {open_ : List Link} (h : link ∈ open_) :
    (close link open_).length < open_.length :=
  List.length_filter_lt_length_iff_exists.2 ⟨link, h, by simp⟩

/-- Whether a code point is half of a surrogate pair. -/
def isSurrogate (code : Nat) : Bool := 0xD800 ≤ code && code < 0xE000

/-- The wording for code points that no text in UTF-8 can hold, the first of them at a position. -/
def surrogateMessage (position : Nat) (codes : List Nat) : String :=
  match codes with
  | [code] =>
    "\x27utf-8\x27 codec can\x27t encode character \x27\\u" ++
      String.ofList (Text.hexDigits 4 code) ++ "\x27 in position " ++ toString position ++
      ": surrogates not allowed"
  | codes =>
    "\x27utf-8\x27 codec can\x27t encode characters in position " ++ toString position ++ "-" ++
      toString (position + codes.length - 1) ++ ": surrogates not allowed"

/-- The expression that a text constant holds, if it holds one. A text with half of a surrogate pair
or with NUL cannot be read at all. -/
def textExpression (codes : List Nat) : Except Fault (Option Expr) :=
  let codes := Text.trimList Text.isBlankCode codes
  let (front, rest) := codes.span fun code => !isSurrogate code
  if !rest.isEmpty then
    .error (.encoding (surrogateMessage front.length (rest.takeWhile isSurrogate)))
  else if codes.contains 0 then .error (.value "source code string cannot contain null bytes")
  else .ok (parseExpression (codes.map Char.ofNat))

/-- What an absolute dotted name refers to, seen from a module. -/
abbrev Qualify := ModuleIndex → String → Except Fault TypeRef

mutual

/-- What an expression in a module refers to, in terms of what dotted names refer to. -/
def typeRefBy (qualify : Qualify) (index : ModuleIndex) (scope : ClassPath) (expr : Expr) :
    Except Fault (Option TypeRef) :=
  match expr with
  | .subscript value elements =>
    match typeRefBy qualify index scope value with
    | .error fault => .error fault
    | .ok none => .ok none
    | .ok (some base) =>
      match typeRefsBy qualify index scope elements with
      | .error fault => .error fault
      | .ok arguments => .ok (some { base with arguments := arguments })
  | .text codes =>
    match textExpression codes with
    | .error fault => .error fault
    | .ok none => .ok none
    | .ok (some parsed) =>
      if _lighter : weight parsed < codes.length + 1 then typeRefBy qualify index scope parsed
      else .ok none
  | expr =>
    match expr.dottedName? with
    | none => .ok none
    | some dotted =>
      match qualify index (index.absolute scope dotted) with
      | .error fault => .error fault
      | .ok ref => .ok (some ref)
termination_by weight expr
decreasing_by
  · simp only [weight]; omega
  · simp only [weight]; omega
  · simpa only [weight] using _lighter

/-- What the elements of a subscript refer to, those left out that refer to nothing. -/
def typeRefsBy (qualify : Qualify) (index : ModuleIndex) (scope : ClassPath)
    (elements : List Expr) : Except Fault (List TypeRef) :=
  match elements with
  | [] => .ok []
  | element :: rest =>
    match typeRefBy qualify index scope element with
    | .error fault => .error fault
    | .ok found =>
      match typeRefsBy qualify index scope rest with
      | .error fault => .error fault
      | .ok more => .ok (found.toList ++ more)
termination_by weightAll elements
decreasing_by
  · simp only [weightAll]; omega
  · simp only [weightAll]; omega

end

/-- What an absolute dotted name refers to, seen from a module, as long as the links that lead there
are among those still open. -/
def qualified (modules : Modules) (open_ : List Link) (index : ModuleIndex) (absolute : String) :
    Except Fault TypeRef :=
  let parts := nameParts '.' absolute
  match modules.splitAt parts parts.length with
  | none => .ok (external index parts)
  | some (_, []) => .ok (memberRef (splitTail parts))
  | some (target, first :: nested) =>
    let link : Link := (target.name, first)
    match if nested.isEmpty then Keyed.get? first target.aliases else none with
    | some value =>
      if _followed : link ∈ open_ then
        match typeRefBy (qualified modules (close link open_)) target [] value with
        | .error fault => .error fault
        | .ok found => .ok ⟨⟨target.name, [first]⟩, [], found, found.isSome⟩
      else .ok (memberRef ⟨target.name, [first]⟩)
    | none =>
      match if target.hasClass [first] then none else Keyed.get? first target.imports with
      | some source =>
        if _followed : link ∈ open_ then
          qualified modules (close link open_) target (".".intercalate (source :: nested))
        else .ok (memberOf target (first :: nested))
      | none => .ok (memberOf target (first :: nested))
termination_by open_.length
decreasing_by
  · exact length_close_lt _followed
  · exact length_close_lt _followed

/-- What an expression in a module refers to. -/
def resolve (modules : Modules) (index : ModuleIndex) (scope : ClassPath) (expr : Expr) :
    Except Fault (Option TypeRef) :=
  typeRefBy (qualified modules modules.links) index scope expr

end ServiceManifest.Project
