/-!
# Forms of expressions

An argument of the marker that names no type is reported by the form of its expression.
-/

namespace ServiceManifest

/-- The form of an expression that is written in source text. -/
inductive ExpressionForm
  | attribute
  | await
  | binaryOperation
  | booleanOperation
  | call
  | comparison
  | conditional
  | constant
  | dictionary
  | dictionaryComprehension
  | formattedString
  | generator
  | lambda
  | list
  | listComprehension
  | name
  | namedExpression
  | set
  | setComprehension
  | slice
  | starred
  | subscript
  | tuple
  | unaryOperation
  | yield
  | yieldFrom
  deriving DecidableEq, Repr

end ServiceManifest
