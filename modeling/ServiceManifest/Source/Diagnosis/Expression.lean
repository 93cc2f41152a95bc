import ServiceManifest.Source.Diagnosis.Parameters

/-!
# Expressions and the mistakes in them

The grammar of expressions with alternatives for the usual mistakes. The order of alternatives says
which of several mistakes is told. Square brackets are left out: what is read stands in a tag, which
they would end.
-/

namespace ServiceManifest.Source.Diagnosis

/-- A star and what it unpacks in a call. -/
def starredArgument (next : Rule → Inquiry Phrase) : Inquiry Phrase := do
  mark "*"
  return .starred (← next .expression)

/-- A name that is bound to the value of an expression. -/
def binding (next : Rule → Inquiry Phrase) : Inquiry Phrase := do
  let _ ← name
  mark ":="
  let _ ← next .expression
  return .other .namedExpression

/-- An expression that is not bound to a name. -/
def unbound (next : Rule → Inquiry Phrase) : Inquiry Phrase := do
  let found ← next .expression
  absent (mark ":=")
  return found

/-- An expression that may bind a name. -/
def named (next : Rule → Inquiry Phrase) : Inquiry Phrase :=
  binding next <|> searching (next .bindingFault) <|> unbound next

/-- An expression that may bind a name, or a star and what is unpacked. -/
def starNamed (next : Rule → Inquiry Phrase) : Inquiry Phrase :=
  (do mark "*"; return .starred (← next (.binary 0))) <|> named next

/-- Items of a display. -/
def items (next : Rule → Inquiry Phrase) : Inquiry (List Phrase) := do
  let found ← listed (starNamed next)
  comma?
  return found

/-- Expressions separated by commas, as one: a tuple if there is a comma. -/
def joined (next : Rule → Inquiry Phrase) (item : Rule) : Inquiry Phrase := do
  let found ← listed (next item)
  let ended ← optional (mark ",")
  match found, ended with
  | [single], none => return single
  | _, _ => return .sequence .tuple found

/-- The value that is handed out of a function. -/
def yielded (next : Rule → Inquiry Phrase) : Inquiry Phrase :=
  (do
    keyword "yield"
    keyword "from"
    let _ ← next .expression
    return .other .yieldFrom) <|>
  (do
    keyword "yield"
    let _ ← optional (joined next .starExpression)
    return .other .yield)

/-- The mark before a trailer. -/
def trailerMark : Inquiry Unit := do
  let _ ← oneOf ["(", "[", "."]

/-- The loop of a comprehension up to its source. -/
def loopHead (next : Rule → Inquiry Phrase) : Inquiry Unit := do
  let _ ← optional (keyword "async")
  keyword "for"
  let _ ← listed (next .loopTarget)
  comma?
  keyword "in"

/-- A loop of a comprehension with its conditions. -/
def loop (next : Rule → Inquiry Phrase) : Inquiry Unit := do
  match (← optional (loopHead next)) with
  | some () =>
    let _ ← next .disjunction
    let _ ← many (do keyword "if"; next .disjunction)
  | none =>
    searching (mistakes [do
      let _ ← optional (keyword "async")
      keyword "for"
      let found ← joined next .starExpression
      return found.unassignable?.map fun target => .unassignable target.title])

/-- The loops of a comprehension. -/
def loops (next : Rule → Inquiry Phrase) : Inquiry Unit := do
  let _ ← oneOrMore (loop next)

/-- The mistakes that are made with comprehensions. -/
def comprehensionMistakes (next : Rule → Inquiry Phrase) : Inquiry Phrase :=
  searching (mistakes [
    do
      let _ ← oneOf ["(", "\x7b"]
      let _ ← starredArgument next
      loops next
      return some (.display .unpackedComprehension),
    do
      mark "\x7b"
      let _ ← starNamed next
      mark ","
      let _ ← items next
      loops next
      return some (.display .bareTarget),
    do
      mark "\x7b"
      let _ ← starNamed next
      mark ","
      loops next
      return some (.display .bareTarget)])

/-- A generator in its parentheses. -/
def generator (next : Rule → Inquiry Phrase) : Inquiry Phrase :=
  (do
    mark "("
    let _ ← binding next <|> unbound next
    loops next
    mark ")"
    return .other .generator) <|>
  comprehensionMistakes next

/-- A tuple in its parentheses. -/
def tuple (next : Rule → Inquiry Phrase) : Inquiry Phrase := do
  mark "("
  let found ← optional (do
    let first ← starNamed next
    mark ","
    return first :: ((← optional (items next)).getD []))
  mark ")"
  return .sequence .tuple (found.getD [])

/-- An expression in parentheses. -/
def group (next : Rule → Inquiry Phrase) : Inquiry Phrase :=
  (do
    mark "("
    let found ← yielded next <|> named next
    mark ")"
    return found) <|>
  searching (mistakes [
    do
      mark "("
      let _ ← starredArgument next
      mark ")"
      return some (.display .starred),
    do
      mark "("
      mark "**"
      let _ ← next .expression
      mark ")"
      return some (.display .doubleStarred)])

/-- A key with its value. -/
def keyed (next : Rule → Inquiry Phrase) : Inquiry (Option Phrase × Phrase) := do
  let key ← next .expression
  mark ":"
  return (some key, ← next .expression)

/-- A key with its value, or two stars and what is unpacked. -/
def pair (next : Rule → Inquiry Phrase) : Inquiry (Option Phrase × Phrase) :=
  (do mark "**"; return (none, ← next (.binary 0))) <|> keyed next

/-- The mistakes that are made with a key and its value. -/
def pairMistakes (next : Rule → Inquiry Phrase) : List (Inquiry (Option SyntaxFault)) :=
  [do
    let _ ← next .expression
    mark ":"
    mark "*"
    let _ ← next (.binary 0)
    return some (.display .starredValue),
  do
    let _ ← next .expression
    mark ":"
    present (oneOf ["\x7d", ","])
    return some (.display .noValue)]

/-- A dictionary in its braces. -/
def dictionary (next : Rule → Inquiry Phrase) : Inquiry Phrase :=
  (do
    mark "\x7b"
    let found ← optional (do
      let pairs ← listed (pair next)
      comma?
      return pairs)
    mark "\x7d"
    return .dictionary (found.getD [])) <|>
  (do
    mark "\x7b"
    (do
      let _ ← listed (pair next)
      mark ","
      mistakes ((do
        let _ ← next .expression
        absent (mark ":")
        return some (.display .noColon)) :: pairMistakes next)) <|>
    mistakes (pairMistakes next))

/-- A set in its braces. -/
def setDisplay (next : Rule → Inquiry Phrase) : Inquiry Phrase := do
  mark "\x7b"
  let found ← items next
  mark "\x7d"
  return .sequence .set found

/-- A comprehension that makes a dictionary. -/
def dictionaryComprehension (next : Rule → Inquiry Phrase) : Inquiry Phrase :=
  (do
    mark "\x7b"
    let _ ← keyed next
    loops next
    mark "\x7d"
    return .other .dictionaryComprehension) <|>
  searching (mistakes [do
    mark "\x7b"
    mark "**"
    let _ ← next (.binary 0)
    loops next
    mark "\x7d"
    return some (.display .unpackedDictionary)])

/-- A comprehension that makes a set. -/
def setComprehension (next : Rule → Inquiry Phrase) : Inquiry Phrase :=
  (do
    mark "\x7b"
    let _ ← named next
    loops next
    mark "\x7d"
    return .other .setComprehension) <|>
  comprehensionMistakes next

/-- Look at adjacent literals in order: each has to have a value, octets mix with nothing else, and
what stands in a formatted one has to be an expression. `octets` says of which kind those before
are. -/
def checkLiterals (octets : Option Bool) : List StringValue → Inquiry Unit
  | [] => return ()
  | value :: others => do
    if let .malformed fault := value then complain (.literal fault)
    let kind : Bool := value = .octets
    if octets.any (· != kind) then complain .mixedLiterals
    if let .formatted texts fault := value then
      match texts.findSome? (← read).embedded, fault with
      | some fault, _ => complain (.embedded fault)
      | none, some fault => complain (.literal fault)
      | none, none => pure ()
    checkLiterals (some kind) others

/-- Adjacent literals. -/
def literals : Inquiry Phrase := do
  let values ← oneOrMore (do
    match (← here).token.lexeme with
    | .string value =>
      advance
      return value
    | _ => failure)
  checkLiterals none values
  if values.any fun value => match value with
      | .formatted _ _ => true
      | _ => false then
    return .other .formattedString
  else return if values.contains .octets then .octets else .text

/-- An expression without trailers. -/
def atom (next : Rule → Inquiry Phrase) : Inquiry Phrase := do
  match (← here).token.lexeme with
  | .name id =>
    advance
    return .name id
  | .number imaginary =>
    advance
    return .number imaginary
  | .string _ => next .literals
  | .keyword word =>
    if ["True", "False", "None"].contains word then
      advance
      return .word word
    else failure
  | .mark "(" => tuple next <|> group next <|> generator next
  | .mark "\x7b" =>
    dictionary next <|> setDisplay next <|> dictionaryComprehension next <|> setComprehension next
  | .mark "..." =>
    advance
    return .ellipsis
  | _ => failure

/-- An argument with its name. A keyword that stands for a value, a comprehension behind the sign,
and anything before the sign that is no name are mistakes. -/
def namedArgument (next : Rule → Inquiry Phrase) : Inquiry Given :=
  searching (mistakes [
    do
      let word ← firstOf (["True", "False", "None"].map fun word => keyword word *> pure word)
      mark "="
      return some (.unassignable word),
    do
      let _ ← name
      mark "="
      let _ ← next .expression
      loops next
      return some .equalsSign,
    do
      absent (name *> mark "=")
      let _ ← next .expression
      mark "="
      return some (.arguments .assignment)]) <|>
  (do
    let _ ← name
    mark "="
    let _ ← next .expression
    return ⟨0, 1, false⟩)

/-- Arguments with names, and those that are unpacked; two stars come last. -/
def namedArguments (next : Rule → Inquiry Phrase) : Inquiry Given :=
  let withStar : Inquiry Given :=
    namedArgument next <|> (starredArgument next *> pure ⟨1, 0, false⟩)
  let withStars : Inquiry Given :=
    namedArgument next <|> (do mark "**"; let _ ← next .expression; return ⟨0, 1, true⟩)
  let all (found : List Given) : Given := found.foldl Given.join ⟨0, 0, false⟩
  (do
    let first ← listed withStar
    mark ","
    return (all first).join (all (← listed withStars))) <|>
  (all <$> listed withStar) <|>
  (all <$> listed withStars)

/-- The arguments of a call. -/
def given (next : Rule → Inquiry Phrase) : Inquiry Given :=
  (do
    let plain ← listed (starredArgument next <|> (do
      let found ← binding next <|> unbound next
      absent (mark "=")
      return found))
    let others ← optional (do mark ","; namedArguments next)
    return Given.join ⟨plain.length, 0, false⟩ (others.getD ⟨0, 0, false⟩)) <|>
  namedArguments next

/-- The mistakes that are made with the arguments of a call. -/
def argumentMistakes (next : Rule → Inquiry Phrase) : Inquiry Phrase :=
  mistakes [
    do
      let _ ← given next
      mark ","
      mark "*"
      return some (.arguments .starBehindStars),
    do
      let _ ← next .expression
      loops next
      mark ","
      let _ ← optional ((given next *> pure ()) <|> (next .expression *> loops next))
      return some (.arguments .generator),
    do
      let _ ← name
      mark "="
      let _ ← next .expression
      loops next
      return some .equalsSign,
    do
      let found ← given next
      loops next
      return if found.plain ≤ 1 then none else some (.arguments .generator),
    do
      let _ ← given next
      mark ","
      let _ ← next .expression
      loops next
      return some (.arguments .generator),
    do
      let found ← given next
      mark ","
      let _ ← given next
      return some (.arguments (if found.unpacked then .behindUnpacked else .behindNamed))]

/-- The arguments of a call up to the closing parenthesis, which is not taken. -/
def arguments (next : Rule → Inquiry Phrase) : Inquiry Phrase :=
  (do
    let found ← given next
    comma?
    present (mark ")")
    return .arguments found) <|>
  searching (argumentMistakes next)

/-- A trailer behind an expression: a member, or arguments. -/
def trailer (next : Rule → Inquiry Phrase) (base : Phrase) : Inquiry Phrase :=
  (do mark "."; let _ ← name; return .other .attribute) <|>
  (do let _ ← generator next; return .call base ⟨1, 0, false⟩) <|>
  (do
    mark "("
    let found ← optional (next .arguments)
    mark ")"
    match found with
    | some (.arguments found) => return .call base found
    | _ => return .call base ⟨0, 0, false⟩)

/-- An expression with trailers behind it. -/
def withTrailers (trailer : Phrase → Inquiry Phrase) : Nat → Phrase → Inquiry Phrase
  | 0, base => return base
  | bound + 1, base => do
    match (← optional (trailer base)) with
    | some longer => withTrailers trailer bound longer
    | none => return base

/-- What stands before the last trailer of a target. -/
def targetBase (next : Rule → Inquiry Phrase) : Inquiry Phrase := do
  let first ← atom next
  present trailerMark
  withTrailers
    (fun base => do
      let longer ← trailer next base
      present trailerMark
      return longer)
    (← read).bound first

/-- A target of a loop without a star: a member, a name, or targets in parentheses. -/
def plainTarget (next : Rule → Inquiry Phrase) : Inquiry Phrase :=
  (do
    let _ ← next .targetBase
    mark "."
    let _ ← name
    absent trailerMark
    return .other .attribute) <|>
  (do return .name (← name)) <|>
  (do
    mark "("
    let found ← next .plainTarget
    mark ")"
    return found) <|>
  (do
    mark "("
    let found ← optional (do
      let first ← next .loopTarget
      mark ","
      let others ← optional (listed (next .loopTarget))
      if others.isSome then comma?
      return first :: others.getD [])
    mark ")"
    return .sequence .tuple (found.getD []))

/-- A target of a loop. -/
def loopTarget (next : Rule → Inquiry Phrase) : Inquiry Phrase :=
  (do
    mark "*"
    absent (mark "*")
    return .starred (← next .loopTarget)) <|>
  next .plainTarget

/-- An expression that may be awaited. -/
def awaited (next : Rule → Inquiry Phrase) : Inquiry Phrase :=
  (do
    keyword "await"
    let _ ← next .primary
    return .other .await) <|>
  next .primary

/-- A power. -/
def power (next : Rule → Inquiry Phrase) : Inquiry Phrase := do
  let base ← next .awaited
  match (← optional (do mark "**"; next .factor)) with
  | some _ => return .other .binaryOperation
  | none => return base

/-- An operand with signs in front. -/
def factor (next : Rule → Inquiry Phrase) : Inquiry Phrase := do
  match (← optional (do return (← oneOf ["+", "-", "~"], ← next .factor))) with
  | some ("~", _) => return .other .unaryOperation
  | some (_, operand) => return .signed operand
  | none => power next

/-- The operators between two operands by level, the loosest first. -/
def operators : Nat → List String
  | 0 => ["|"]
  | 1 => ["^"]
  | 2 => ["&"]
  | 3 => ["<<", ">>"]
  | 4 => ["+", "-"]
  | _ => ["*", "/", "//", "%", "@"]

/-- Operands with operators of one level between them. -/
def binary (level : Nat) (next : Rule → Inquiry Phrase) : Inquiry Phrase := do
  let operand := next (if level < 5 then .binary (level + 1) else .factor)
  let first ← operand
  let others ← many (do let _ ← oneOf (operators level); operand)
  return others.foldl
    (fun left right => if level = 4 then .sum left right else .other .binaryOperation) first

/-- An operator of a comparison, and whether it is `in`. -/
def comparisonOperator : Inquiry Bool :=
  (oneOf ["==", "!=", "<=", "<", ">=", ">"] *> pure false) <|>
  (keyword "not" *> keyword "in" *> pure false) <|>
  (keyword "in" *> pure true) <|>
  (keyword "is" *> optional (keyword "not") *> pure false)

/-- A comparison. -/
def comparison (next : Rule → Inquiry Phrase) : Inquiry Phrase := do
  let first ← next (.binary 0)
  let others ← many (do
    let isIn ← comparisonOperator
    let _ ← next (.binary 0)
    return isIn)
  match others with
  | [] => return first
  | isIn :: _ => return if isIn then .membership first else .other .comparison

/-- A negation, or a comparison. -/
def inversion (next : Rule → Inquiry Phrase) : Inquiry Phrase :=
  (do
    keyword "not"
    let _ ← next .inversion
    return .other .unaryOperation) <|>
  comparison next

/-- Operands with a word between them. -/
def worded (word : String) (operand : Inquiry Phrase) : Inquiry Phrase := do
  let first ← operand
  let others ← many (do keyword word; operand)
  return if others.isEmpty then first else .other .booleanOperation

/-- A condition between two values. -/
def conditional (next : Rule → Inquiry Phrase) : Inquiry Phrase := do
  let _ ← next .disjunction
  keyword "if"
  let _ ← next .disjunction
  keyword "else"
  let _ ← next .expression
  return .other .conditional

/-- A lambda. -/
def lambda (next : Rule → Inquiry Phrase) : Inquiry Phrase := do
  keyword "lambda"
  let _ ← optional (parameters next)
  mark ":"
  let _ ← next .expression
  return .other .lambda

/-- The words that used to begin statements of their own. -/
def formerStatements : List String := ["print", "exec"]

/-- The words that are keywords only in some places. -/
def softKeywords : List String := ["_", "case", "match"]

/-- Whether an expression is a word that used to begin a statement. -/
def isFormerStatement : Phrase → Bool
  | .name id => formerStatements.contains id
  | _ => false

/-- Whether a word is a keyword in some places, or begins one. -/
def isSoft (word : String) : Bool := softKeywords.any fun full => word.isPrefixOf full

/-- A name before a literal, or a word that begins a keyword of some places: what follows it may be
part of something that is no expression. -/
def doubtfulStart : Inquiry Unit := do
  let place ← here
  let id ← name
  match (← here).token.lexeme with
  | .string _ => return ()
  | _ => if place.token.verbatim && isSoft id then return () else failure

/-- The mistakes that are made with expressions: two of them without a comma between them inside of
brackets, and a condition without its `else`. -/
def expressionMistakes (next : Rule → Inquiry Phrase) : Inquiry Phrase :=
  mistakes [
    do
      absent doubtfulStart
      let first ← next .disjunction
      let _ ← trusting (conditional next <|> next .disjunction <|> lambda next)
      return if isFormerStatement first || (← here).depth = 0 then none else some .noComma,
    do
      let _ ← next .disjunction
      keyword "if"
      let _ ← next .disjunction
      absent (keyword "else" <|> mark ":")
      return some .noElse]

/-- A word that used to begin a statement, with what it was about. -/
def statementMistake (next : Rule → Inquiry Phrase) : Inquiry Phrase :=
  mistakes [do
    let word ← name
    absent (mark "(")
    let _ ← joined next .starExpression
    return if formerStatements.contains word then some (.statement word) else none]

/-- The mistakes that are made with the signs for assignment and for binding. -/
def bindingMistakes (next : Rule → Inquiry Phrase) : Inquiry Phrase :=
  let noMore : Inquiry Unit := absent (oneOf ["=", ":="])
  mistakes [
    do
      let target ← next .expression
      mark ":="
      let _ ← next .expression
      return some (.binding target.title),
    do
      let _ ← name
      mark "="
      let _ ← next (.binary 0)
      noMore
      return some .equalsSign,
    do
      absent (tuple next <|> generator next <|>
        firstOf (["True", "None", "False"].map fun word => keyword word *> pure default))
      let target ← next (.binary 0)
      mark "="
      let _ ← next (.binary 0)
      noMore
      return some (.equalsSignBehind target.title)]

/-- One step of the grammar: each production in terms of the others. -/
def produce (next : Rule → Inquiry Phrase) : Rule → Inquiry Phrase
  | .expression =>
    searching (expressionMistakes next) <|> searching (statementMistake next) <|>
      conditional next <|> next .disjunction <|> lambda next
  | .starExpression => (do mark "*"; return .starred (← next (.binary 0))) <|> next .expression
  | .disjunction => worded "or" (next .conjunction)
  | .conjunction => worded "and" (next .inversion)
  | .inversion => inversion next
  | .binary level => binary level next
  | .factor => factor next
  | .awaited => awaited next
  | .primary => do withTrailers (trailer next) (← read).bound (← atom next)
  | .literals => literals
  | .loopTarget => loopTarget next
  | .plainTarget => plainTarget next
  | .targetBase => targetBase next
  | .arguments => arguments next
  | .bindingFault => bindingMistakes next

/-- The productions, nested at most so many times. -/
def production : Nat → Rule → Inquiry Phrase
  | 0, _ => failure
  | bound + 1, rule => remembered rule (produce (production bound) rule)

end ServiceManifest.Source.Diagnosis
