import ServiceManifest.Source.Phrase
import ServiceManifest.Source.SyntaxFault
import ServiceManifest.Source.Token
import Std.Data.HashMap

/-!
# Reading in search of faults

A reader tries alternatives in order, at each place the same ones. It gives a result, or nothing
where no alternative fits, or it stops at a fault. Texts are read twice: first without the
alternatives that are mistakes, and where this gives nothing once more with them. A reader that
comes to the end of the tokens before the text is complete stops at the fault that ended them.

Some productions are remembered by their place, so that alternatives which begin in the same way
take no more time than one of them.
-/

namespace ServiceManifest.Source.Diagnosis

/-- A token with its number and the number of brackets that are open before it. -/
structure Place where
  token : Token
  index : Nat
  depth : Nat

/-- The productions that are remembered. -/
inductive Rule
  | expression
  | starExpression
  | disjunction
  | conjunction
  | inversion
  | binary (level : Nat)
  | factor
  | awaited
  | primary
  | literals
  | loopTarget
  | plainTarget
  | targetBase
  | arguments
  | bindingFault
  deriving DecidableEq, Hashable, Repr

/-- What a reading depends on besides the tokens: the fault behind the last of them, whether
mistakes are searched for, what is wrong with the text of an expression in a formatted literal, and
a bound on repetition. -/
structure Setting where
  ending : LexicalFault
  searching : Bool
  embedded : List Char → Option SyntaxFault
  bound : Nat

/-- What is noted while reading: the number of the last token that was looked at, and what is known
about productions at places. -/
structure Notes where
  furthest : Nat
  known : Std.HashMap (Rule × Nat) (Option (Phrase × List Place))

/-- A fault, and the number of the last token that was looked at before it was found. -/
structure Stop where
  fault : SyntaxFault
  furthest : Nat

/-- A reader. -/
abbrev Inquiry (α : Type) :=
  ReaderT Setting (StateT (List Place) (OptionT (StateT Notes (Except Stop)))) α

/-- Stop at a fault. -/
def complain {α : Type} (fault : SyntaxFault) : Inquiry α := do
  throwThe Stop ⟨fault, (← getThe Notes).furthest⟩

/-- The next place, which is not taken. -/
def here : Inquiry Place := do
  match (← get) with
  | place :: _ =>
    modifyThe Notes fun notes => { notes with furthest := max notes.furthest place.index }
    return place
  | [] => complain (.lexical (← read).ending)

/-- Take the next place. -/
def advance : Inquiry Unit := modify (·.drop 1)

/-- Take this lexeme. -/
def lexeme (wanted : Lexeme) : Inquiry Unit := do
  if (← here).token.lexeme = wanted then advance else failure

/-- Take this mark. -/
def mark (text : String) : Inquiry Unit := lexeme (.mark text)

/-- Take this keyword. -/
def keyword (word : String) : Inquiry Unit := lexeme (.keyword word)

/-- Take one of these marks. -/
def oneOf (marks : List String) : Inquiry String := do
  match (← here).token.lexeme with
  | .mark text =>
    if marks.contains text then
      advance
      return text
    else failure
  | _ => failure

/-- Take a name. -/
def name : Inquiry String := do
  match (← here).token.lexeme with
  | .name id =>
    advance
    return id
  | _ => failure

/-- Read without taking anything. -/
def present {α : Type} (reader : Inquiry α) : Inquiry Unit := do
  let places ← get
  let _ ← reader
  set places

/-- Fail where a reader reads something; nothing is taken. -/
def absent {α : Type} (reader : Inquiry α) : Inquiry Unit := do
  let places ← get
  let found ← optional reader
  set places
  if found.isSome then failure

/-- Results of a reader as often as it reads something, at most `bound` times. -/
def repeated {α : Type} (reader : Inquiry α) : Nat → Inquiry (List α)
  | 0 => return []
  | bound + 1 => do
    match (← optional reader) with
    | none => return []
    | some first => return first :: (← repeated reader bound)

/-- Results of a reader as often as it reads something. -/
def many {α : Type} (reader : Inquiry α) : Inquiry (List α) := do
  repeated reader (← read).bound

/-- Results of a reader, at least one. -/
def oneOrMore {α : Type} (reader : Inquiry α) : Inquiry (List α) := do
  let first ← reader
  return first :: (← many reader)

/-- Results separated by commas, at least one. -/
def listed {α : Type} (reader : Inquiry α) : Inquiry (List α) := do
  let first ← reader
  return first :: (← many (do mark ","; reader))

/-- A comma that may be left out. -/
def comma? : Inquiry Unit := do
  let _ ← optional (mark ",")

/-- The first of several readers that reads something. -/
def firstOf {α : Type} : List (Inquiry α) → Inquiry α
  | [] => failure
  | reader :: others => reader <|> firstOf others

/-- The first of several mistakes that is made here decides: it is a fault, unless on a closer look
it is none. Nothing is read. -/
def mistakes {α : Type} (readers : List (Inquiry (Option SyntaxFault))) : Inquiry α := do
  match (← firstOf readers) with
  | some fault => complain fault
  | none => failure

/-- Read only in search of mistakes. -/
def searching {α : Type} (reader : Inquiry α) : Inquiry α := do
  if (← read).searching then reader else failure

/-- Read without a search for mistakes. -/
def trusting {α : Type} (reader : Inquiry α) : Inquiry α :=
  withReader (fun setting => { setting with searching := false }) reader

/-- What a production gives at a place is found out once. -/
def remembered (rule : Rule) (reader : Inquiry Phrase) : Inquiry Phrase := do
  let place ← here
  match (← getThe Notes).known.get? (rule, place.index) with
  | some (some (phrase, rest)) =>
    set rest
    return phrase
  | some none => failure
  | none =>
    let found ← optional reader
    let rest ← get
    let outcome := found.map fun phrase => (phrase, rest)
    modifyThe Notes fun notes =>
      { notes with known := notes.known.insert (rule, place.index) outcome }
    match found with
    | some phrase => return phrase
    | none => failure

end ServiceManifest.Source.Diagnosis
