import ServiceManifest.Source.Form

/-!
# Syntax trees

The trees keep what name resolution is about: names and the chains, subscripts and calls made of
them, text constants, and the sequences in which they are listed. Of any other expression only the
form is kept. Statements keep declarations, imports, assignments and the bodies in which more of
them stand.
-/

namespace ServiceManifest.Source

/-- The sequences that are written with their items. -/
inductive SequenceForm
  | list
  | tuple
  | set
  deriving DecidableEq, Repr

/-- An expression. The elements of a subscript are those of a tuple, or the subscript itself. -/
inductive Expr
  | name (id : String)
  | attribute (value : Expr) (member : String)
  | subscript (value : Expr) (elements : List Expr)
  | call (function : Expr) (arguments : List Expr) (keywords : List (Option String × Expr))
  | text (codes : List Nat)
  | sequence (form : SequenceForm) (items : List Expr)
  | starred (value : Expr)
  | other (form : ExpressionForm)
  deriving Inhabited, Repr

namespace Expr

/-- The form of an expression. -/
def form : Expr → ExpressionForm
  | .name _ => .name
  | .attribute _ _ => .attribute
  | .subscript _ _ => .subscript
  | .call _ _ _ => .call
  | .text _ => .constant
  | .sequence .list _ => .list
  | .sequence .tuple _ => .tuple
  | .sequence .set _ => .set
  | .starred _ => .starred
  | .other form => form

/-- The dotted name that a chain of attributes spells. -/
def dottedName? : Expr → Option String
  | .name id => some id
  | .attribute value member => (value.dottedName?).map fun base => base ++ "." ++ member
  | _ => none

/-- Whether the expression may stand for a type on the right of an assignment. -/
def isTypeLike : Expr → Bool
  | .name _ | .attribute _ _ | .subscript _ _ => true
  | _ => false

end Expr

/-- A statement. A compound statement that is no declaration keeps the statements of all its bodies
in order, and whether they run when the module is imported under all circumstances that count: those
under `if` and `try` do. -/
inductive Statement
  | classDef (line : Nat) (name : String) (decorators bases : List Expr) (body : List Statement)
  | functionDef (line : Nat) (name : String) (decorators : List Expr) (body : List Statement)
  | importModules (names : List (String × Option String))
  | importFrom (level : Nat) (module : String) (names : List (String × Option String))
  | assign (targets : List Expr) (value : Expr)
  | annotate (target hint : Expr) (value : Option Expr)
  | compound (atImport : Bool) (body : List Statement)
  | other
  deriving Inhabited, Repr

end ServiceManifest.Source
