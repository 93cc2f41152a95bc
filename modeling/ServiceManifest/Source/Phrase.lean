import ServiceManifest.Source.Syntax

/-!
# Phrases

What is kept of an expression in which a fault is looked for: enough to say what the expression is
called and whether it has a constant value.
-/

namespace ServiceManifest.Source

/-- The arguments of a call: how many have no name, how many have one, and whether two stars unpack
some. -/
structure Given where
  plain : Nat
  named : Nat
  unpacked : Bool
  deriving DecidableEq, Repr

/-- The arguments of both. -/
def Given.join (first second : Given) : Given :=
  ⟨first.plain + second.plain, first.named + second.named, first.unpacked || second.unpacked⟩

/-- An expression. A pair of a dictionary that is unpacked has no key, and arguments may stand by
themselves. -/
inductive Phrase
  | name (id : String)
  | number (imaginary : Bool)
  | text
  | octets
  | word (word : String)
  | ellipsis
  | sequence (form : SequenceForm) (items : List Phrase)
  | dictionary (pairs : List (Option Phrase × Phrase))
  | starred (value : Phrase)
  | signed (value : Phrase)
  | sum (left right : Phrase)
  | call (function : Phrase) (given : Given)
  | arguments (given : Given)
  | membership (item : Phrase)
  | other (form : ExpressionForm)
  deriving Inhabited, Repr

end ServiceManifest.Source

namespace ServiceManifest

/-- What expressions of a form are called. -/
def ExpressionForm.title : ExpressionForm → String
  | .attribute => "attribute"
  | .await => "await expression"
  | .binaryOperation | .booleanOperation | .unaryOperation => "expression"
  | .call => "function call"
  | .comparison => "comparison"
  | .conditional => "conditional expression"
  | .constant => "literal"
  | .dictionary => "dict literal"
  | .dictionaryComprehension => "dict comprehension"
  | .formattedString => "f-string expression"
  | .generator => "generator expression"
  | .lambda => "lambda"
  | .list => "list"
  | .listComprehension => "list comprehension"
  | .name => "name"
  | .namedExpression => "named expression"
  | .set => "set display"
  | .setComprehension => "set comprehension"
  | .slice => "slice"
  | .starred => "starred"
  | .subscript => "subscript"
  | .tuple => "tuple"
  | .yield | .yieldFrom => "yield expression"

end ServiceManifest

namespace ServiceManifest.Source.Phrase

/-- The form of an expression. -/
def form : Phrase → ExpressionForm
  | name _ => .name
  | number _ | text | octets | word _ | ellipsis => .constant
  | sequence .list _ => .list
  | sequence .tuple _ => .tuple
  | sequence .set _ => .set
  | dictionary _ => .dictionary
  | starred _ => .starred
  | signed _ => .unaryOperation
  | sum _ _ => .binaryOperation
  | call _ _ | arguments _ => .call
  | membership _ => .comparison
  | other given => given

/-- What an expression is called. -/
def title : Phrase → String
  | word spelled => spelled
  | ellipsis => "ellipsis"
  | phrase => phrase.form.title

/-- The first part of the targets of a loop that cannot be assigned to. A membership test is one
that swallowed the `in` of the loop, so only what stands before that counts; of other comparisons
nothing is said. -/
def unassignable? : Phrase → Option Phrase
  | name _ => none
  | sequence .set items => some (.sequence .set items)
  | sequence _ items => items.attach.findSome? fun ⟨item, _⟩ => item.unassignable?
  | starred value => value.unassignable?
  | membership item => item.unassignable?
  | other .attribute | other .subscript | other .comparison => none
  | phrase => some phrase

end ServiceManifest.Source.Phrase
