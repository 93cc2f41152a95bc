import ServiceManifest.Source.Decode
import ServiceManifest.Source.Grammar.Statement
import ServiceManifest.Source.Lexer
import ServiceManifest.Text.Lines

/-!
# Syntax trees from text

A module or an expression is cut into tokens, read by the grammar, and every expression inside of a
formatted literal is read in turn. Such an expression is shorter than the text it stands in, which
is why this ends.
-/

namespace ServiceManifest.Source

/-- The bound that a number of characters puts on nesting and on the length of lists. -/
def grammarBound (size : Nat) : Nat := 24 * (size + 4)

/-- The reader of productions in a text of some size. -/
def contextFor (size : Nat) : Grammar.Context :=
  ⟨grammarBound size, Grammar.expression (grammarBound size)⟩

/-- The expressions inside of the formatted literals among tokens. -/
def embedded (tokens : List Token) : List (List Char) :=
  tokens.flatMap fun token =>
    match token.lexeme with
    | .string (.formatted expressions _) => expressions
    | _ => []

/-- Whether a text, which stands in parentheses, reads as an expression with all that is embedded in
it. -/
def embeddedOk (text : List Char) : Bool :=
  match tokens (text ++ ['\n']) with
  | none => false
  | some found =>
    ((contextFor found.length).read .starExpressions found).isSome &&
      (embedded found).all fun inner =>
        if _shorter : inner.length < text.length then embeddedOk inner else false
termination_by text.length

/-- The statements of the text of a module. -/
def parseModuleText (text : List Char) : Option (List Statement) :=
  match tokens text with
  | none => none
  | some found =>
    match Grammar.moduleStatements (contextFor found.length) (indentLimit + 1) found with
    | none => none
    | some (statements, _) =>
      if (embedded found).all embeddedOk then some statements else none

/-- The statements of a module. -/
def parseModule (octets : List UInt8) : Option (List Statement) :=
  (decodeModule octets).bind parseModuleText

/-- Take line ends as long as there are any. -/
def skipLineEnds (tokens : List Token) : List Token :=
  tokens.dropWhile fun token => token.lexeme = .lineEnd

/-- The expressions of a line, separated by commas. -/
def expressionLine (context : Grammar.Context) : Reader Expr := do
  let (items, comma) ← Reader.separated (context.read .expression) Grammar.atEndOfExpressions
    context.bound
  return Grammar.tupleOf items comma

/-- The expression that a text holds and nothing besides. -/
def parseExpression (text : List Char) : Option Expr := do
  let found ← tokens (Text.unifyLineEnds text)
  let (value, rest) ← expressionLine (contextFor found.length) found
  match skipLineEnds rest with
  | [⟨.textEnd, _, _⟩] => if (embedded found).all embeddedOk then return value else none
  | _ => none

end ServiceManifest.Source
