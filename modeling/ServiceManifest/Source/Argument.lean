import ServiceManifest.Source.Constant
import ServiceManifest.Source.Diagnosis.Expression
import ServiceManifest.Source.Lexer
import ServiceManifest.Text.Lines

/-!
# Constant arguments

A text that should give constants is cut into tokens and read as an expression, and the expression
has to have a constant value. If it cannot be read, the fault is looked for: first the faults of
tokens, then the usual mistakes, and last what is wrong without further reason.
-/

namespace ServiceManifest.Source

namespace Diagnosis

/-- Tokens with their numbers and the number of brackets that are open before each. -/
def placesFrom : Nat → Nat → List Token → List Place
  | _, _, [] => []
  | index, depth, token :: rest =>
    let after : Nat :=
      match token.lexeme with
      | .mark "(" | .mark "[" | .mark "\x7b" => depth + 1
      | .mark ")" | .mark "]" | .mark "\x7d" => depth - 1
      | _ => depth
    ⟨token, index, depth⟩ :: placesFrom (index + 1) after rest

/-- A reader for a whole text, in terms of the productions. -/
abbrev Whole := (Rule → Inquiry Phrase) → Inquiry Phrase

/-- An expression and nothing behind it. -/
def wholeExpression : Whole := fun next => do
  let found ← joined next .expression
  let _ ← many (lexeme .lineEnd)
  lexeme .textEnd
  return found

/-- An expression in a formatted literal. -/
def wholeEmbedded : Whole := fun next => joined next .starExpression

/-- Read the tokens of a text: a phrase, if it is one, and the number of the last token that was
looked at. `before` is that number from an earlier reading. -/
def readWhole (setting : Setting) (places : List Place) (before : Nat) (whole : Whole) :
    Except Stop (Option Phrase × Nat) := do
  let bound := 24 * (places.length + 4)
  let reader := whole (production bound)
  let (found, notes) ← ((reader setting).run places).run.run ⟨before, {}⟩
  return (found.map Prod.fst, notes.furthest)

/-- Whether what follows a token has to be looked at to see where the token ends. -/
def looksAhead : Lexeme → Bool
  | .string _ | .mark "..." => false
  | _ => true

/-- The fault to tell where a reading stopped. A fault of tokens counts before any other wherever it
stands, and only a wrong indentation counts before it. If the text merely ends too early, and inside
of a bracket that was opened on an earlier line than the last token that was looked at, then that is
told, save for a mistake that was noticed when the end had been seen. -/
def settleFault (found : Cutting) (stop : Stop) : SyntaxFault :=
  match found.fault, found.tokens[stop.furthest]? with
  | none, _ | _, none => stop.fault
  | some late, some token =>
    let endSeen : Bool :=
      found.flush && stop.furthest + 1 = found.tokens.length && looksAhead token.lexeme &&
        stop.fault ≠ .general
    if stop.fault = .indented then .indented
    else if late.isFirm then .lexical late
    else if stop.fault.isLexical || endSeen then stop.fault
    else
      match found.brackets with
      | (opener, line) :: _ =>
        if line < token.line then .lexical (.unclosed opener) else stop.fault
      | [] => stop.fault

/-- The expression in a text that was cut, or what is wrong with it. -/
def searchFault (embedded : List Char → Option SyntaxFault) (whole : Whole) (found : Cutting) :
    Except SyntaxFault Phrase :=
  let places := placesFrom 0 0 found.tokens
  let setting : Setting :=
    ⟨found.fault.getD .endsJoined, false, embedded, places.length + 4⟩
  let outcome : Except Stop Phrase := do
    match (← readWhole setting places 0 whole) with
    | (some phrase, _) => return phrase
    | (none, last) =>
      let (_, furthest) ← readWhole { setting with searching := true } places last whole
      match found.tokens[last]? with
      | some ⟨.indent, _, _⟩ => throw ⟨.indented, 0⟩
      | _ => throw ⟨.general, furthest⟩
  outcome.mapError (settleFault found)

/-- The expression that a text is, or what is wrong with it. The first argument bounds how deep
formatted literals are nested. -/
def explain : Nat → Whole → List Char → Except SyntaxFault Phrase
  | 0, _, _ => .error .general
  | depth + 1, whole, text =>
    let embedded (inner : List Char) : Option SyntaxFault :=
      match explain depth wholeEmbedded (inner ++ ['\n']) with
      | .error fault => some fault
      | .ok _ => none
    searchFault embedded whole (cutting text)

end Diagnosis

/-- Why a text gives no constant: it cannot be read, or what it says has no constant value. -/
inductive ArgumentFault
  | unreadable (message : String)
  | noValue (message : String)
  deriving DecidableEq, Repr

/-- What is wrong with a text that should give constants. -/
def argumentFault? (text : List Char) : Option ArgumentFault :=
  if text.contains '\x00' then some (.noValue "source code string cannot contain null bytes")
  else
    let text := Text.unifyLineEnds (text.dropWhile fun c => c = ' ' || c = '\t')
    match Diagnosis.explain (text.length + 1) Diagnosis.wholeExpression text with
    | .error fault => some (.unreadable fault.message)
    | .ok phrase =>
      match phrase.constant with
      | .error fault => some (.noValue fault.message)
      | .ok _ => none

end ServiceManifest.Source
