import ServiceManifest.Source.Grammar.Basic

/-!
# Expressions

The grammar of expressions, from lists with stars down to atoms. Every production is a reader that
is given `next`, which reads the productions it is made of; `expression n` ties the knot `n` times,
so `n` bounds how deep productions are nested, and the length of every list in them.
-/

namespace ServiceManifest.Source

/-- The productions that others refer to. -/
inductive Production
  | starExpressions
  | starNamed
  | named
  | expression
  | disjunction
  | conjunction
  | inversion
  | comparison
  | binary (level : Nat)
  | factor
  | power
  | primary
  | yieldExpression
  deriving DecidableEq, Repr

namespace Expr

/-- Whether an expression can be assigned to. -/
def isTarget : Expr → Bool
  | .name _ | .attribute _ _ | .subscript _ _ => true
  | .sequence .set _ => false
  | .sequence _ items => items.attach.all fun ⟨item, _⟩ => item.isTarget
  | .starred value =>
    match value with
    | .starred _ => false
    | value => value.isTarget
  | _ => false

/-- Whether an expression can be deleted. -/
def isDeletable : Expr → Bool
  | .name _ | .attribute _ _ | .subscript _ _ => true
  | .sequence .set _ => false
  | .sequence _ items => items.attach.all fun ⟨item, _⟩ => item.isDeletable
  | _ => false

/-- Whether an expression is a single target: a name, a member or an element. -/
def isSingleTarget : Expr → Bool
  | .name _ | .attribute _ _ | .subscript _ _ => true
  | _ => false

end Expr

namespace Grammar

open Reader

/-- Whether an expression, perhaps with a star, may start with the lexeme. -/
def startsExpression : Lexeme → Bool
  | .name _ | .number _ | .string _ => true
  | .keyword word => ["False", "None", "True", "await", "lambda", "not"].contains word
  | .mark text => ["(", "[", "\x7b", "-", "+", "~", "...", "*"].contains text
  | _ => false

/-- Whether the next token cannot start an expression. -/
def atEndOfExpressions : Reader Bool := return !startsExpression (← peek)

/-- The expression that items make: a single item itself, anything else a tuple. -/
def tupleOf (items : List Expr) (comma : Bool) : Expr :=
  match items, comma with
  | [item], false => item
  | items, _ => .sequence .tuple items

/-- An expression, or a star and what is unpacked. -/
def starOr (next : Production → Reader Expr) (plain : Production) : Reader Expr := do
  if (← mark? "*") then return .starred (← next (.binary 0))
  else next plain

/-- Expressions with stars, separated by commas. -/
def starExpressions (bound : Nat) (next : Production → Reader Expr) : Reader Expr := do
  let (items, comma) ← separated (starOr next .expression) atEndOfExpressions bound
  return tupleOf items comma

/-- Whether the next tokens bind a name inside an expression. -/
def atBinding : Reader Bool := do
  match (← peek), (← peekSecond) with
  | .name _, .mark ":=" => return true
  | _, _ => return false

/-- An expression that may bind a name. -/
def named (next : Production → Reader Expr) : Reader Expr := do
  if (← atBinding) then
    advance
    advance
    let _ ← next .expression
    return .other .namedExpression
  else next .expression

/-- What a generator or a lambda may yield to its caller. -/
def yieldExpression (next : Production → Reader Expr) : Reader Expr := do
  keyword "yield"
  if (← keyword? "from") then
    let _ ← next .expression
    return .other .yieldFrom
  else if startsExpression (← peek) then
    let _ ← next .starExpressions
    return .other .yield
  else return .other .yield

/-- Which parameters have been read: some parameter, one with a default, the slash, the star. -/
structure ParameterState where
  any : Bool
  defaulted : Bool
  slash : Bool
  starred : Bool

/-- How the parameters of a function or of a lambda are read: with type hints or without, and the
mark behind the last of them. -/
structure ParameterStyle where
  hinted : Bool
  closer : String

/-- The type hint of a parameter, if there is one. -/
def hint (style : ParameterStyle) (reader : Reader Expr) : Reader Unit := do
  if style.hinted then
    if (← mark? ":") then
      let _ ← reader

/-- Whether the parameters end here; otherwise a comma leads to the next one. -/
def parametersEnd (style : ParameterStyle) : Reader Bool := do
  if (← mark? ",") then atMark style.closer
  else if (← atMark style.closer) then return true
  else reject

/-- The parameters from some place on. Those without a default cannot follow those with one, except
behind the star; the slash stands once, behind some parameter and before the star; two stars come
last. -/
def parametersFrom (style : ParameterStyle) (next : Production → Reader Expr) :
    Nat → ParameterState → Reader Unit
  | 0, _ => reject
  | bound + 1, state => do
    let continue_ (state : ParameterState) : Reader Unit := do
      if (← parametersEnd style) then return () else parametersFrom style next bound state
    if (← mark? "/") then
      if !state.any || state.slash || state.starred then reject
      else continue_ { state with slash := true }
    else if (← mark? "**") then
      let _ ← name
      hint style (next .expression)
      if (← parametersEnd style) then return () else reject
    else if (← mark? "*") then
      if state.starred then reject
      else if (← mark? ",") then
        match (← peek) with
        | .name _ => parametersFrom style next bound { state with starred := true }
        | _ => reject
      else
        let _ ← name
        hint style (starOr next .expression)
        continue_ { state with starred := true }
    else
      let _ ← name
      hint style (next .expression)
      if (← mark? "=") then
        let _ ← next .expression
        continue_ { state with any := true, defaulted := true }
      else if state.defaulted && !state.starred then reject
      else continue_ { state with any := true }

/-- The parameters up to the mark behind them. -/
def parameters (style : ParameterStyle) (bound : Nat) (next : Production → Reader Expr) :
    Reader Unit := do
  if (← atMark style.closer) then return ()
  else parametersFrom style next bound ⟨false, false, false, false⟩

/-- An expression without names bound at its top: a lambda, a condition, or what is in a
condition. -/
def plainExpression (bound : Nat) (next : Production → Reader Expr) : Reader Expr := do
  if (← keyword? "lambda") then
    parameters ⟨false, ":"⟩ bound next
    mark ":"
    let _ ← next .expression
    return .other .lambda
  else
    let first ← next .disjunction
    if (← keyword? "if") then
      let _ ← next .disjunction
      keyword "else"
      let _ ← next .expression
      return .other .conditional
    else return first

/-- Operands of one form with operators between them; a single operand stands for itself. -/
def chain (bound : Nat) (operand : Reader Expr) (operator : Reader Bool) (form : ExpressionForm) :
    Reader Expr := do
  let first ← operand
  let more ← repeated (do if (← operator) then return some (← operand) else return none) bound
  return if more.isEmpty then first else .other form

/-- The operators of comparisons. -/
def comparisonOperator : Reader Bool := do
  if (← oneOf? ["==", "!=", "<", "<=", ">", ">="]) then return true
  else if (← keyword? "in") then return true
  else if (← keyword? "is") then
    let _ ← keyword? "not"
    return true
  else if (← atKeyword "not") then
    if (← peekSecond) = .keyword "in" then
      advance
      advance
      return true
    else return false
  else return false

/-- The operators between two operands by level, the loosest first. -/
def binaryMarks : Nat → List String
  | 0 => ["|"]
  | 1 => ["^"]
  | 2 => ["&"]
  | 3 => ["<<", ">>"]
  | 4 => ["+", "-"]
  | _ => ["*", "/", "//", "%", "@"]

/-- Operands with operators of one level between them. -/
def binary (bound level : Nat) (next : Production → Reader Expr) : Reader Expr :=
  chain bound (next (if level < 5 then .binary (level + 1) else .factor))
    (oneOf? (binaryMarks level)) .binaryOperation

/-- An operand with signs in front. -/
def factor (next : Production → Reader Expr) : Reader Expr := do
  if (← oneOf? ["+", "-", "~"]) then
    let _ ← next .factor
    return .other .unaryOperation
  else next .power

/-- A negation, or a comparison. -/
def inversion (next : Production → Reader Expr) : Reader Expr := do
  if (← keyword? "not") then
    let _ ← next .inversion
    return .other .unaryOperation
  else next .comparison

/-- A power, whose base may be awaited. -/
def power (next : Production → Reader Expr) : Reader Expr := do
  let base : Expr ←
    if (← keyword? "await") then do
      let _ ← next .primary
      pure (Expr.other .await)
    else next .primary
  if (← mark? "**") then
    let _ ← next .factor
    return .other .binaryOperation
  else return base

/-- One target of an assignment, perhaps with a star. -/
def target (next : Production → Reader Expr) : Reader Expr := do
  let starred ← mark? "*"
  let found ← next .primary
  if !found.isTarget then reject
  else return if starred then .starred found else found

/-- The targets of a loop, up to the word `in`. -/
def loopTargets (bound : Nat) (next : Production → Reader Expr) : Reader Unit := do
  let _ ← separated (target next) (atKeyword "in") bound
  keyword "in"

/-- Whether a loop of a comprehension starts here. -/
def atComprehension : Reader Bool := do
  if (← atKeyword "for") then return true
  else if (← atKeyword "async") then return (← peekSecond) = .keyword "for"
  else return false

/-- The loops of a comprehension, each with its conditions. -/
def comprehension (bound : Nat) (next : Production → Reader Expr) : Reader Unit := do
  let loop : Reader (Option Unit) := do
    if (← atComprehension) then
      let _ ← keyword? "async"
      keyword "for"
      loopTargets bound next
      let _ ← next .disjunction
      let _ ← repeated
        (do if (← keyword? "if") then return some (← next .disjunction) else return none) bound
      return some ()
    else return none
  let _ ← repeated loop bound

/-- The arguments of a call read so far, and whether keywords (1) or double stars (2) were among
them. -/
structure Arguments where
  positional : List Expr
  keywords : List (Option String × Expr)
  phase : Nat

/-- The arguments of a call up to the closing parenthesis, which is not taken. Behind a keyword no
plain argument may stand, behind two stars no single one. A generator may be the only argument where
`generator` allows it. -/
def argumentsFrom (generator : Bool) (next : Production → Reader Expr) :
    Nat → Arguments → Reader Arguments
  | 0, _ => reject
  | bound + 1, done => do
    let continue_ (done : Arguments) : Reader Arguments := do
      if (← mark? ",") then
        if (← atMark ")") then return done
        else argumentsFrom generator next bound done
      else if (← atMark ")") then return done
      else reject
    if (← mark? "**") then
      let value ← next .expression
      continue_ { done with keywords := done.keywords ++ [(none, value)], phase := 2 }
    else if (← mark? "*") then
      if done.phase = 2 then reject
      else
        let value ← next .expression
        continue_ { done with positional := done.positional ++ [.starred value] }
    else
      match (← peek), (← peekSecond) with
      | .name key, .mark "=" =>
        advance
        advance
        let value ← next .expression
        continue_ { done with
          keywords := done.keywords ++ [(some key, value)], phase := max 1 done.phase }
      | _, _ =>
        if done.phase ≠ 0 then reject
        else
          let value ← next .named
          if (← atComprehension) then
            if generator && done.positional.isEmpty then
              comprehension bound next
              if (← atMark ")") then return ⟨[.other .generator], [], 0⟩ else reject
            else reject
          else continue_ { done with positional := done.positional ++ [value] }

/-- The arguments between parentheses, of which the opening one has been taken. -/
def arguments (generator : Bool) (bound : Nat) (next : Production → Reader Expr) :
    Reader Arguments := do
  if (← mark? ")") then return ⟨[], [], 0⟩
  else
    let found ← argumentsFrom generator next bound ⟨[], [], 0⟩
    mark ")"
    return found

/-- The expression between two colons of a slice, if there is one. -/
def sliceBound (next : Production → Reader Expr) : Reader Unit := do
  if startsExpression (← peek) then
    let _ ← next .expression

/-- What follows the first colon of a slice. -/
def sliceRest (next : Production → Reader Expr) : Reader Expr := do
  sliceBound next
  if (← mark? ":") then sliceBound next
  return .other .slice

/-- One element of a subscript. -/
def subscriptItem (next : Production → Reader Expr) : Reader Expr := do
  if (← mark? "*") then return .starred (← next .expression)
  else if (← mark? ":") then sliceRest next
  else
    let binding ← atBinding
    let first ← next .named
    if (← atMark ":") then
      if binding then reject
      else
        advance
        sliceRest next
    else return first

/-- The elements of a subscript up to the closing bracket, which is taken. -/
def subscriptItems (bound : Nat) (next : Production → Reader Expr) : Reader (List Expr) := do
  let (items, comma) ← separated (subscriptItem next) (atMark "]") bound
  mark "]"
  match items, comma with
  | [.sequence .tuple elements], false => return elements
  | items, _ => return items

/-- A trailer behind an expression: a member, arguments or a subscript. -/
def trailer (bound : Nat) (next : Production → Reader Expr) (base : Expr) :
    Reader (Option Expr) := do
  if (← mark? ".") then return some (.attribute base (← name))
  else if (← mark? "(") then
    let found ← arguments true bound next
    return some (.call base found.positional found.keywords)
  else if (← mark? "[") then return some (.subscript base (← subscriptItems bound next))
  else return none

/-- An expression with all the trailers behind it. -/
def withTrailers (next : Production → Reader Expr) : Nat → Expr → Reader Expr
  | 0, _ => reject
  | bound + 1, base => do
    match (← trailer bound next base) with
    | some longer => withTrailers next bound longer
    | none => return base

/-- The value of adjacent string literals. Octets mix with nothing else, and a literal with a fault
has no value. -/
def joinLiterals (values : List StringValue) : Option Expr :=
  if values.any fun value => match value with
      | .formatted _ (some _) | .malformed _ => true
      | _ => false then
    none
  else if values.all (· = .octets) then some (.other .constant)
  else if values.any (· = .octets) then none
  else if values.any fun value => match value with
      | .formatted _ _ => true
      | _ => false then
    some (.other .formattedString)
  else
    some (.text (values.flatMap fun value => match value with
      | .text codes => codes
      | _ => []))

/-- Adjacent string literals. -/
def strings (bound : Nat) : Reader Expr := do
  let values ← repeated
    (do
      match (← peek) with
      | .string value =>
        advance
        return some value
      | _ => return none)
    bound
  match joinLiterals values with
  | some joined => return joined
  | none => reject

/-- The items of a sequence behind the first, up to the closing mark, which is taken. -/
def moreItems (closer : String) (bound : Nat) (next : Production → Reader Expr) :
    Reader (List Expr) := do
  if (← mark? closer) then return []
  else
    let (items, _) ← separated (next .starNamed) (atMark closer) bound
    mark closer
    return items

/-- What stands in parentheses, of which the opening one has been taken. -/
def parenthesised (bound : Nat) (next : Production → Reader Expr) : Reader Expr := do
  if (← mark? ")") then return .sequence .tuple []
  else if (← atKeyword "yield") then
    let found ← next .yieldExpression
    mark ")"
    return found
  else
    let starred ← atMark "*"
    let first ← next .starNamed
    if (← mark? ",") then return .sequence .tuple (first :: (← moreItems ")" bound next))
    else if starred then reject
    else if (← atComprehension) then
      comprehension bound next
      mark ")"
      return .other .generator
    else
      mark ")"
      return first

/-- What stands in square brackets, of which the opening one has been taken. -/
def bracketed (bound : Nat) (next : Production → Reader Expr) : Reader Expr := do
  if (← mark? "]") then return .sequence .list []
  else
    let starred ← atMark "*"
    let first ← next .starNamed
    if (← mark? ",") then return .sequence .list (first :: (← moreItems "]" bound next))
    else if !starred && (← atComprehension) then
      comprehension bound next
      mark "]"
      return .other .listComprehension
    else
      mark "]"
      return .sequence .list [first]

/-- A key with its value, or two stars and what is unpacked. -/
def pair (next : Production → Reader Expr) : Reader Unit := do
  if (← mark? "**") then
    let _ ← next (.binary 0)
  else
    let _ ← next .expression
    mark ":"
    let _ ← next .expression

/-- The pairs of a dictionary behind the first, up to the closing brace, which is taken. -/
def morePairs (bound : Nat) (next : Production → Reader Expr) : Reader Expr := do
  if (← mark? ",") then
    if !(← atMark "\x7d") then
      let _ ← separated (pair next) (atMark "\x7d") bound
  mark "\x7d"
  return .other .dictionary

/-- What stands in braces, of which the opening one has been taken. -/
def braced (bound : Nat) (next : Production → Reader Expr) : Reader Expr := do
  if (← mark? "\x7d") then return .other .dictionary
  else if (← atMark "**") then
    pair next
    morePairs bound next
  else
    let starred ← atMark "*"
    let binding ← atBinding
    let first ← next .starNamed
    if (← mark? ":") then
      if starred || binding then reject
      else
        let _ ← next .expression
        if (← atComprehension) then
          comprehension bound next
          mark "\x7d"
          return .other .dictionaryComprehension
        else morePairs bound next
    else if (← mark? ",") then
      return .sequence .set (first :: (← moreItems "\x7d" bound next))
    else if !starred && (← atComprehension) then
      comprehension bound next
      mark "\x7d"
      return .other .setComprehension
    else
      mark "\x7d"
      return .sequence .set [first]

/-- An expression that has no parts outside of brackets. -/
def atom (bound : Nat) (next : Production → Reader Expr) : Reader Expr := do
  match (← peek) with
  | .name id =>
    advance
    return .name id
  | .number _ =>
    advance
    return .other .constant
  | .string _ => strings bound
  | .keyword word =>
    if ["False", "None", "True"].contains word then
      advance
      return .other .constant
    else reject
  | .mark text =>
    advance
    match text with
    | "(" => parenthesised bound next
    | "[" => bracketed bound next
    | "\x7b" => braced bound next
    | "..." => return .other .constant
    | _ => reject
  | _ => reject

/-- An atom with its trailers. -/
def primary (bound : Nat) (next : Production → Reader Expr) : Reader Expr := do
  withTrailers next bound (← atom bound next)

/-- One step of the grammar: each production in terms of the others. -/
def produce (bound : Nat) (next : Production → Reader Expr) : Production → Reader Expr
  | .starExpressions => starExpressions bound next
  | .starNamed => starOr next .named
  | .named => named next
  | .expression => plainExpression bound next
  | .disjunction => chain bound (next .conjunction) (keyword? "or") .booleanOperation
  | .conjunction => chain bound (next .inversion) (keyword? "and") .booleanOperation
  | .inversion => inversion next
  | .comparison => chain bound (next (.binary 0)) comparisonOperator .comparison
  | .binary level => binary bound level next
  | .factor => factor next
  | .power => power next
  | .primary => primary bound next
  | .yieldExpression => yieldExpression next

/-- The productions, nested at most so many times. -/
def expression : Nat → Production → Reader Expr
  | 0, _ => reject
  | bound + 1, production => produce bound (expression bound) production

end Grammar

end ServiceManifest.Source
