import ServiceManifest.Console.Picture
import ServiceManifest.Console.Style
import ServiceManifest.Source.Argument
import ServiceManifest.Text.Identifier

/-!
# Console markup

Text for the console may hold tags: `[bold]` opens a style and `[/bold]` closes it, `[/]` closes the
style opened last. A tag starts with a small letter or one of `#/@` after the bracket; any other
bracket is text, and so is one behind an odd number of backslashes. Styles do not show where there
is no colour, so reading markup keeps the text and checks the tags: a closing tag has something to
close, numbers in styles can be read, and what a handler like `[@click=open(1)]` is given are
constants.
-/

namespace ServiceManifest.Console

/-- What is wrong with markup: a closing tag without anything to close, with its place, the
parameters of a handler, or a number in a style. -/
inductive MarkupFault
  | noMatch (tag : String) (position : Nat)
  | nothingOpen (position : Nat)
  | handler (detail : String)
  | style (message : String)
  deriving DecidableEq, Repr

/-- The wording of a fault. -/
def MarkupFault.message : MarkupFault → String
  | .noMatch tag position =>
    "closing tag \x27[" ++ tag ++ "]\x27 at position " ++ toString position ++
      " doesn\x27t match any open tag"
  | .nothingOpen position =>
    "closing tag \x27[/]\x27 at position " ++ toString position ++ " has nothing to close"
  | .handler detail => "error parsing " ++ detail
  | .style message => message

/-- The kind of a fault: numbers have a kind of their own. -/
def MarkupFault.title : MarkupFault → String
  | .style _ => "ValueError"
  | _ => "MarkupError"

/-- A piece of markup: text, or a tag with its place. -/
inductive Piece
  | text (chars : List Char)
  | tag (position : Nat) (body : List Char)
  deriving DecidableEq, Repr

/-- Whether a character may begin the body of a tag. -/
def startsTag (c : Char) : Bool := ('a' ≤ c && c ≤ 'z') || c = '#' || c = '/' || c = '@'

/-- The body of a tag whose bracket was read, and what follows it. -/
def tagBody? : List Char → Option (List Char × List Char)
  | [] => none
  | c :: rest =>
    if startsTag c then
      let (body, after) := rest.span fun d => d ≠ ']' && d ≠ '['
      match after with
      | ']' :: after => some (c :: body, after)
      | _ => none
    else none

/-- The tag that a text begins with: the number of backslashes in front of it, its body and what
follows it. -/
def tagAt? (text : List Char) : Option (Nat × List Char × List Char) :=
  let (slashes, rest) := text.span (· = '\\')
  match rest with
  | '[' :: rest => (tagBody? rest).map fun (body, after) => (slashes.length, body, after)
  | _ => none

/-- Text without the backslashes in front of brackets. -/
def unescape : List Char → List Char
  | [] => []
  | '\\' :: '[' :: rest => '[' :: unescape rest
  | c :: rest => c :: unescape rest

/-- The pieces of markup from a position on; `done` is the text since the last tag, last character
first. The first argument bounds the number of steps. -/
def piecesFrom : Nat → Nat → List Char → List Char → List Piece
  | 0, _, done, _ => [.text (unescape done.reverse)]
  | _ + 1, _, done, [] => [.text (unescape done.reverse)]
  | fuel + 1, position, done, c :: rest =>
    match tagAt? (c :: rest) with
    | some (slashes, body, after) =>
      let next := position + slashes + body.length + 2
      let pairs := List.replicate (slashes / 2) '\\'
      let piece : Piece :=
        if slashes % 2 = 1 then .text ('[' :: body ++ [']'])
        else .tag (position + slashes) body
      .text (unescape done.reverse) :: .text pairs :: piece :: piecesFrom fuel next [] after
    | none =>
      let slashes := ((c :: rest).takeWhile (· = '\\'))
      if slashes.isEmpty then piecesFrom fuel (position + 1) (c :: done) rest
      else
        piecesFrom fuel (position + slashes.length) (slashes ++ done)
          ((c :: rest).drop slashes.length)

/-- The pieces of markup. -/
def pieces (markup : List Char) : List Piece := piecesFrom (markup.length + 1) 0 [] markup

/-- A tag that is open: its name in normal form and what follows the equals sign in it. -/
structure OpenTag where
  name : List Char
  parameters : Option (List Char)
  deriving DecidableEq, Repr

/-- The name of a tag and what follows the equals sign, if there is one. -/
def tagParts (body : List Char) : List Char × Option (List Char) :=
  let (name, rest) := body.span (· ≠ '=')
  (name, if rest.isEmpty then none else some (rest.drop 1))

/-- The open tag of a name that was opened last, and the others. -/
def closeTag? (name : List Char) : List OpenTag → Option (OpenTag × List OpenTag)
  | [] => none
  | tag :: rest =>
    if tag.name = name then some (tag, rest)
    else (closeTag? name rest).map fun (found, rest) => (found, tag :: rest)

/-- The arguments in the parameters of a handler: those in the parentheses behind its name, none if
there are no parentheses, and everything where the parameters do not have this form. -/
def handlerArguments (parameters : List Char) : List Char :=
  let rest := parameters.dropWhile fun c => c = '.' || Text.isIdentifierContinue c
  if rest.isEmpty then ['(', ')']
  else if 2 ≤ rest.length && rest.head? = some '(' && rest.getLast? = some ')' &&
      !rest.contains '\n' then
    rest
  else parameters

/-- What is wrong with the parameters of a handler whose tag is closed. -/
def handlerFault? (parameters : List Char) : Option MarkupFault :=
  let arguments := handlerArguments (Text.trimList Text.isBlank parameters)
  (Source.argumentFault? arguments).map fun
    | .unreadable message =>
      .handler (Text.quoted (String.ofList arguments) ++ " in " ++
        Text.quoted (String.ofList parameters) ++ "; " ++ message)
    | .noValue message => .handler (Text.quoted (String.ofList parameters) ++ "; " ++ message)

/-- What is wrong with the style that a tag gives to its text. -/
def styleFault? (tag : OpenTag) : Option MarkupFault :=
  match styleName (tag.name ++ (tag.parameters.elim [] (' ' :: ·))) with
  | .ok _ => none
  | .error message => some (.style message)

/-- A fault that closing a tag brings to light. -/
def closingFault? (tag : OpenTag) : Option MarkupFault :=
  match tag.name, tag.parameters with
  | '@' :: _, some (c :: rest) => handlerFault? (c :: rest)
  | _, _ => none

/-- Where the reading of markup stands: the open tags, the one opened last first, the text so far,
and the tags whose styles are in use. -/
structure Shown where
  opened : List OpenTag
  text : List Char
  styles : List OpenTag

namespace Shown

/-- Close a tag. -/
def close (shown : Shown) (tag : OpenTag) (others : List OpenTag) : Except MarkupFault Shown :=
  match closingFault? tag with
  | some fault => .error fault
  | none => .ok { shown with opened := others, styles := tag :: shown.styles }

/-- The next piece of markup. -/
def add (shown : Shown) : Piece → Except MarkupFault Shown
  | .text chars => .ok { shown with text := shown.text ++ withPictures chars }
  | .tag position body =>
    match tagParts body with
    | ('/' :: name, _) =>
      if (Text.trimList Text.isBlank name).isEmpty then
        match shown.opened with
        | [] => .error (.nothingOpen position)
        | tag :: others => shown.close tag others
      else do
        let name ← (styleName name).mapError .style
        match closeTag? name shown.opened with
        | none => .error (.noMatch (String.ofList body) position)
        | some (tag, others) => shown.close tag others
    | (name, parameters) => do
      let name ← (styleName name).mapError .style
      return { shown with opened := ⟨name, parameters⟩ :: shown.opened }

end Shown

/-- Whether a character is a control that no text on the console keeps. -/
def isDropped (c : Char) : Bool :=
  c.toNat = 7 || c.toNat = 8 || (11 ≤ c.toNat && c.toNat ≤ 13)

/-- The text that markup shows. Styles are looked up when all of the markup is read. -/
def visible (markup : String) : Except MarkupFault (List Char) := do
  let shown ← (pieces markup.toList).foldlM Shown.add ⟨[], [], []⟩
  match (shown.styles ++ shown.opened).findSome? styleFault? with
  | some fault => .error fault
  | none => return shown.text.filter fun c => !isDropped c

end ServiceManifest.Console
