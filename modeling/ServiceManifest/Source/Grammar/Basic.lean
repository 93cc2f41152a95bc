import ServiceManifest.Source.Syntax
import ServiceManifest.Source.Token

/-!
# Reading tokens

A reader takes tokens from the front of a list and gives a result with the tokens that are left, or
nothing where the tokens do not have the form that it reads. Repetition is bounded by a number of
steps.
-/

namespace ServiceManifest.Source

/-- A reader of tokens. -/
abbrev Reader (α : Type) := StateT (List Token) Option α

namespace Reader

/-- The next lexeme, which is not taken. -/
def peek : Reader Lexeme := do
  match (← get) with
  | token :: _ => return token.lexeme
  | [] => return .textEnd

/-- The lexeme after the next one, which is not taken. -/
def peekSecond : Reader Lexeme := do
  match (← get) with
  | _ :: token :: _ => return token.lexeme
  | _ => return .textEnd

/-- The line of the next token. -/
def line : Reader Nat := do
  match (← get) with
  | token :: _ => return token.line
  | [] => return 0

/-- Take the next token. -/
def advance : Reader Unit := modify (·.drop 1)

/-- Read nothing, for the next token does not fit. -/
def reject {α : Type} : Reader α := failure

/-- Take the next token if it is this one, and say whether it was. -/
def take? (lexeme : Lexeme) : Reader Bool := do
  if (← peek) = lexeme then
    advance
    return true
  else return false

/-- Take the next token, which has to be this one. -/
def expect (lexeme : Lexeme) : Reader Unit := do
  if (← take? lexeme) then return () else reject

/-- Whether the next token is this mark, which is not taken. -/
def atMark (text : String) : Reader Bool := return (← peek) = .mark text

/-- Whether the next token is this keyword, which is not taken. -/
def atKeyword (word : String) : Reader Bool := return (← peek) = .keyword word

/-- Whether the next token is this word, written without change, which is not taken. Words that are
keywords only in some places are told by their spelling. -/
def atWord (word : String) : Reader Bool := do
  match (← get) with
  | token :: _ => return token.lexeme = .name word && token.verbatim
  | [] => return false

/-- Take this word, written without change. -/
def word (text : String) : Reader Unit := do
  if (← atWord text) then advance else reject

/-- Take the next token if it is this mark. -/
def mark? (text : String) : Reader Bool := take? (.mark text)

/-- Take the next token if it is this keyword. -/
def keyword? (word : String) : Reader Bool := take? (.keyword word)

/-- Take this mark. -/
def mark (text : String) : Reader Unit := expect (.mark text)

/-- Take this keyword. -/
def keyword (word : String) : Reader Unit := expect (.keyword word)

/-- Take a name. -/
def name : Reader String := do
  match (← peek) with
  | .name id =>
    advance
    return id
  | _ => reject

/-- Take the next token if it is one of these marks. -/
def oneOf? (marks : List String) : Reader Bool := do
  match (← peek) with
  | .mark text =>
    if marks.contains text then
      advance
      return true
    else return false
  | _ => return false

/-- The results of a reader that is repeated until it gives none, at most `bound` times. -/
def repeated {α : Type} (item : Reader (Option α)) : Nat → Reader (List α)
  | 0 => reject
  | bound + 1 => do
    match (← item) with
    | none => return []
    | some first =>
      let rest ← repeated item bound
      return first :: rest

/-- Results separated by commas. A comma may follow the last one, and the answer says whether it
does; `ends` tells whether the tokens after a comma can no longer be an item. -/
def separated {α : Type} (item : Reader α) (ends : Reader Bool) :
    Nat → Reader (List α × Bool)
  | 0 => reject
  | bound + 1 => do
    let first ← item
    if (← mark? ",") then
      if (← ends) then return ([first], true)
      else
        let (rest, comma) ← separated item ends bound
        return (first :: rest, comma)
    else return ([first], false)

end Reader

end ServiceManifest.Source
