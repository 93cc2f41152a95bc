import ServiceManifest.Source.Grammar.Pattern

/-!
# Statements

The grammar of statements. Simple statements stand on a line, separated by semicolons; a compound
statement has a body, which is an indented block or the rest of its line. `block n` nests bodies at
most `n` times, and every reader of a compound statement is given the reader of bodies.
-/

namespace ServiceManifest.Source.Grammar

open Reader

/-- The readers of expressions and the bound for lists. -/
structure Context where
  bound : Nat
  read : Production → Reader Expr

/-- An expression list, or what is yielded. -/
def valueExpression (context : Context) : Reader Expr := do
  if (← atKeyword "yield") then context.read .yieldExpression
  else context.read .starExpressions

/-- Assignment operators that combine the target with a value. -/
def augmentedMarks : List String :=
  ["+=", "-=", "*=", "@=", "/=", "%=", "&=", "|=", "^=", "<<=", ">>=", "**=", "//="]

/-- The targets behind the first and the value of an assignment, whose first equals sign is next. -/
def assignmentFrom (context : Context) : Nat → List Expr → Reader Statement
  | 0, _ => reject
  | bound + 1, targets => do
    mark "="
    let value ← valueExpression context
    if (← atMark "=") then
      if value.isTarget then assignmentFrom context bound (targets ++ [value]) else reject
    else return .assign targets value

/-- A statement that starts with an expression. -/
def expressionStatement (context : Context) : Reader Statement := do
  let first ← valueExpression context
  if (← atMark "=") then
    if first.isTarget then assignmentFrom context context.bound [first] else reject
  else if (← mark? ":") then
    if !first.isSingleTarget then reject
    else
      let hint ← context.read .expression
      if (← mark? "=") then
        let value ← valueExpression context
        return .annotate first hint (some value)
      else return .annotate first hint none
  else if (← oneOf? augmentedMarks) then
    if !first.isSingleTarget then reject
    else
      let _ ← valueExpression context
      return .other
  else return .other

/-- A dotted name. -/
def dottedName : Nat → Reader String
  | 0 => reject
  | bound + 1 => do
    let first ← name
    if (← mark? ".") then
      let rest ← dottedName bound
      return first ++ "." ++ rest
    else return first

/-- The name behind `as`, if there is one. -/
def asName : Reader (Option String) := do
  if (← keyword? "as") then return some (← name) else return none

/-- The modules behind `import`. -/
def importStatement (context : Context) : Reader Statement := do
  let (names, comma) ← separated
    (do
      let module ← dottedName context.bound
      return (module, ← asName))
    (return false) context.bound
  if comma then reject else return .importModules names

/-- The dots in front of the module of a relative import. -/
def importDots : Nat → Reader Nat
  | 0 => reject
  | bound + 1 => do
    if (← mark? ".") then return (← importDots bound) + 1
    else if (← mark? "...") then return (← importDots bound) + 3
    else return 0

/-- A name that is imported, and the name it is given. -/
def importedName : Reader (String × Option String) := do
  let id ← name
  return (id, ← asName)

/-- The names behind `from` and `import`. -/
def importFromStatement (context : Context) : Reader Statement := do
  let level ← importDots context.bound
  let module : String ←
    if level ≠ 0 && (← atKeyword "import") then pure "" else dottedName context.bound
  keyword "import"
  if (← mark? "*") then return .importFrom level module [("*", none)]
  else if (← mark? "(") then
    let (names, _) ← separated importedName (atMark ")") context.bound
    mark ")"
    return .importFrom level module names
  else
    let (names, comma) ← separated importedName (return false) context.bound
    if comma then reject else return .importFrom level module names

/-- Targets behind `del`. -/
def deleteStatement (context : Context) : Reader Statement := do
  let (targets, _) ← separated (context.read .primary)
    (return !startsExpression (← peek)) context.bound
  if targets.all (·.isDeletable) then return .other else reject

/-- Names behind `global` or `nonlocal`. -/
def scopeStatement (context : Context) : Reader Statement := do
  let (_, comma) ← separated name (return false) context.bound
  if comma then reject else return .other

/-- A simple statement. -/
def simpleStatement (context : Context) : Reader Statement := do
  let expression : Reader Unit := do
    let _ ← context.read .expression
  match (← peek) with
  | .keyword word =>
    match word with
    | "pass" | "break" | "continue" =>
      advance
      return .other
    | "return" =>
      advance
      if startsExpression (← peek) then
        let _ ← context.read .starExpressions
      return .other
    | "raise" =>
      advance
      if startsExpression (← peek) then
        expression
        if (← keyword? "from") then expression
      return .other
    | "import" =>
      advance
      importStatement context
    | "from" =>
      advance
      importFromStatement context
    | "del" =>
      advance
      deleteStatement context
    | "assert" =>
      advance
      expression
      if (← mark? ",") then expression
      return .other
    | "global" | "nonlocal" =>
      advance
      scopeStatement context
    | _ => expressionStatement context
  | _ => expressionStatement context

/-- The simple statements of a line with the end of the line. -/
def simpleStatements (context : Context) : Nat → Reader (List Statement)
  | 0 => reject
  | bound + 1 => do
    let first ← simpleStatement context
    if (← mark? ";") then
      if (← take? .lineEnd) then return [first]
      else
        let rest ← simpleStatements context bound
        return first :: rest
    else
      expect .lineEnd
      return [first]

/-- A colon and a body. -/
def body (block : Reader (List Statement)) : Reader (List Statement) := do
  mark ":"
  block

/-- An `else` with its body, if there is one. -/
def elseBody (block : Reader (List Statement)) : Reader (List Statement) := do
  if (← keyword? "else") then body block else return []

/-- What follows the word `if` or `elif`. -/
def conditional (context : Context) (block : Reader (List Statement)) :
    Nat → Reader (List Statement)
  | 0 => reject
  | bound + 1 => do
    let _ ← context.read .named
    let first ← body block
    if (← keyword? "elif") then
      let rest ← conditional context block bound
      return first ++ [.compound true rest]
    else return first ++ (← elseBody block)

/-- What follows the word `while`. -/
def whileLoop (context : Context) (block : Reader (List Statement)) : Reader Statement := do
  let _ ← context.read .named
  let first ← body block
  return .compound false (first ++ (← elseBody block))

/-- What follows the word `for`. -/
def forLoop (context : Context) (block : Reader (List Statement)) : Reader Statement := do
  loopTargets context.bound context.read
  let _ ← context.read .starExpressions
  let first ← body block
  return .compound false (first ++ (← elseBody block))

/-- An item of a `with` statement, perhaps bound to a target. -/
def withItem (context : Context) : Reader Unit := do
  let _ ← context.read .expression
  if (← keyword? "as") then
    let _ ← target context.read

/-- The items of a `with` statement in parentheses, up to the colon, which is taken. -/
def enclosedWithItems (context : Context) : Reader Unit := do
  mark "("
  let _ ← separated (withItem context) (atMark ")") context.bound
  mark ")"
  mark ":"

/-- The items of a `with` statement, up to the colon, which is taken. -/
def openWithItems (context : Context) : Reader Unit := do
  let (_, comma) ← separated (withItem context) (return false) context.bound
  if comma then reject else mark ":"

/-- What follows the word `with`. -/
def withStatement (context : Context) (block : Reader (List Statement)) : Reader Statement := do
  enclosedWithItems context <|> openWithItems context
  return .compound false (← block)

/-- The handlers of a `try` statement, all with a star or all without. -/
def handlers (context : Context) (block : Reader (List Statement)) (starred : Bool) :
    Nat → Reader (List (List Statement))
  | 0 => reject
  | bound + 1 => do
    if (← keyword? "except") then
      if starred then mark "*"
      if starred || !(← atMark ":") then
        let _ ← context.read .expression
        let _ ← asName
      let first ← body block
      let rest ← handlers context block starred bound
      return first :: rest
    else return []

/-- What follows the word `try`. -/
def tryStatement (context : Context) (block : Reader (List Statement)) : Reader Statement := do
  let first ← body block
  if (← keyword? "finally") then return .compound true (first ++ (← body block))
  else
    let starred := (← peekSecond) = .mark "*"
    let caught ← handlers context block starred context.bound
    if caught.isEmpty then reject
    else
      let otherwise ← elseBody block
      let last ← (do if (← keyword? "finally") then body block else return [])
      return .compound true (first ++ caught.flatten ++ otherwise ++ last)

/-- The subject of a `match` statement. -/
def matchSubject (context : Context) : Reader Unit := do
  let starred ← atMark "*"
  let (items, comma) ← separated (context.read .starNamed) atEndOfExpressions context.bound
  if starred && items.length = 1 && !comma then reject else return ()

/-- The cases of a `match` statement up to the end of its block, which is taken. -/
def matchCases (context : Context) (block : Reader (List Statement)) :
    Nat → Reader (List Statement)
  | 0 => reject
  | bound + 1 => do
    word "case"
    casePatterns context.bound
    if (← keyword? "if") then
      let _ ← context.read .named
    let first ← body block
    if (← take? .dedent) then return first
    else
      let rest ← matchCases context block bound
      return first ++ rest

/-- A `match` statement. Its first word may be a name as well, so what it begins need not be one. -/
def matchStatement (context : Context) (block : Reader (List Statement)) : Reader Statement := do
  word "match"
  matchSubject context
  mark ":"
  expect .lineEnd
  expect .indent
  return .compound false (← matchCases context block context.bound)

/-- The name of a class, its bases and its body, behind the word `class` that stands on a line. -/
def classDefinition (context : Context) (block : Reader (List Statement)) (line : Nat)
    (decorators : List Expr) : Reader Statement := do
  let id ← name
  let bases : List Expr ←
    if (← mark? "(") then
      let found ← arguments false context.bound context.read
      pure found.positional
    else pure []
  return .classDef line id decorators bases (← body block)

/-- The name of a function, its parameters and its body, behind the word `def`. -/
def functionDefinition (context : Context) (block : Reader (List Statement)) (line : Nat)
    (decorators : List Expr) : Reader Statement := do
  let id ← name
  mark "("
  parameters ⟨true, ")"⟩ context.bound context.read
  mark ")"
  if (← mark? "->") then
    let _ ← context.read .expression
  return .functionDef line id decorators (← body block)

/-- The decorators in front of a definition. -/
def decorators (context : Context) : Reader (List Expr) :=
  repeated
    (do
      if (← mark? "@") then
        let decorator ← context.read .named
        expect .lineEnd
        return some decorator
      else return none)
    context.bound

/-- A definition with its decorators. -/
def definition (context : Context) (block : Reader (List Statement)) : Reader Statement := do
  let found ← decorators context
  let line ← line
  if (← keyword? "class") then classDefinition context block line found
  else
    let _ ← keyword? "async"
    keyword "def"
    functionDefinition context block line found

/-- A compound statement that starts with a keyword. -/
def compoundStatement (context : Context) (block : Reader (List Statement)) (word : String) :
    Reader Statement := do
  match word with
  | "if" =>
    advance
    return .compound true (← conditional context block context.bound)
  | "while" =>
    advance
    whileLoop context block
  | "for" =>
    advance
    forLoop context block
  | "with" =>
    advance
    withStatement context block
  | "try" =>
    advance
    tryStatement context block
  | "async" =>
    match (← peekSecond) with
    | .keyword "for" =>
      advance
      advance
      forLoop context block
    | .keyword "with" =>
      advance
      advance
      withStatement context block
    | _ => definition context block
  | "class" | "def" => definition context block
  | _ => reject

/-- The words that start compound statements. -/
def compoundWords : List String :=
  ["if", "while", "for", "with", "try", "async", "class", "def"]

/-- One compound statement, or the simple statements of a line. -/
def statement (context : Context) (block : Reader (List Statement)) :
    Reader (List Statement) := do
  match (← peek) with
  | .mark "@" => return [← definition context block]
  | .keyword word =>
    if compoundWords.contains word then return [← compoundStatement context block word]
    else simpleStatements context context.bound
  | _ =>
    if (← atWord "match") then
      (do return [← matchStatement context block]) <|> simpleStatements context context.bound
    else simpleStatements context context.bound

/-- Statements up to a closing lexeme, which is taken. -/
def statementsUntil (context : Context) (block : Reader (List Statement)) (closer : Lexeme) :
    Nat → Reader (List Statement)
  | 0 => reject
  | bound + 1 => do
    if (← take? closer) then return []
    else
      let first ← statement context block
      let rest ← statementsUntil context block closer bound
      return first ++ rest

/-- A body: an indented block of statements, of which there has to be one, or the rest of the
line. -/
def bodyStatements (context : Context) (block : Reader (List Statement)) :
    Reader (List Statement) := do
  if (← take? .lineEnd) then
    expect .indent
    statementsUntil context block .dedent context.bound
  else simpleStatements context context.bound

/-- Bodies nested at most so many times. -/
def block (context : Context) : Nat → Reader (List Statement)
  | 0 => reject
  | depth + 1 => bodyStatements context (block context depth)

/-- The statements of a whole module. -/
def moduleStatements (context : Context) (depth : Nat) : Reader (List Statement) :=
  statementsUntil context (block context depth) .textEnd context.bound

end ServiceManifest.Source.Grammar
