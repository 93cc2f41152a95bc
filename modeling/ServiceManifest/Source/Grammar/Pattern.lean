import ServiceManifest.Source.Grammar.Expression

/-!
# Patterns

The grammar of the patterns behind `case`. Nothing in a pattern declares anything, so patterns are
checked and not kept. As with expressions, `pattern n` nests productions at most `n` times.
-/

namespace ServiceManifest.Source.Grammar

open Reader

/-- The name that matches everything and binds nothing. -/
def wildcard : String := "_"

/-- Whether the next token makes the name before it more than a name that is bound. -/
def continuesName : Reader Bool := do
  match (← peek) with
  | .mark text => return [".", "(", "="].contains text
  | _ => return false

/-- A name that a match binds. -/
def captureTarget : Reader Unit := do
  let id ← name
  if id = wildcard then reject
  else if (← continuesName) then reject
  else return ()

/-- A number, perhaps negative: whether it is imaginary. -/
def signedNumber : Reader Bool := do
  let _ ← mark? "-"
  match (← peek) with
  | .number imaginary =>
    advance
    return imaginary
  | _ => reject

/-- A number, or a real number and an imaginary one with a sign between them. -/
def numberPattern : Reader Unit := do
  let imaginary ← signedNumber
  if (← oneOf? ["+", "-"]) then
    match (← peek) with
    | .number true => if imaginary then reject else advance
    | _ => reject

/-- The members behind a name, at most so many: whether there are any. -/
def members : Nat → Reader Bool
  | 0 => reject
  | bound + 1 => do
    if (← mark? ".") then
      let _ ← name
      let _ ← members bound
      return true
    else return false

/-- Items between a mark that has been taken and its closer, which is taken too; a comma may follow
the last one. -/
def enclosed (closer : String) (bound : Nat) (item : Reader Unit) : Reader Unit := do
  if !(← atMark closer) then
    let _ ← separated item (atMark closer) bound
  mark closer

/-- An item of a sequence: a pattern, or a star and a name. -/
def sequenceItem (pattern : Reader Unit) : Reader Unit := do
  if (← mark? "*") then
    if (← take? (.name wildcard)) then return ()
    else captureTarget
  else pattern

/-- Sequence items up to a closer, which is taken: in parentheses a single pattern is no sequence,
so a single star needs a comma. -/
def parenthesisedPattern (bound : Nat) (pattern : Reader Unit) : Reader Unit := do
  if (← mark? ")") then return ()
  else
    let starred ← atMark "*"
    let (items, comma) ← separated (sequenceItem pattern) (atMark ")") bound
    mark ")"
    if starred && items.length = 1 && !comma then reject else return ()

/-- A key of a mapping with its pattern. -/
def mappingItem (bound : Nat) (pattern : Reader Unit) : Reader Unit := do
  match (← peek) with
  | .string _ =>
    let _ ← strings bound
  | .number _ | .mark "-" => numberPattern
  | .keyword word =>
    if ["False", "None", "True"].contains word then advance else reject
  | .name _ =>
    advance
    if !(← members bound) then reject
  | _ => reject
  mark ":"
  pattern

/-- The items of a mapping up to the closing brace, which is taken; two stars and a name come
last. -/
def mappingFrom (pattern : Reader Unit) : Nat → Reader Unit
  | 0 => reject
  | bound + 1 => do
    if (← mark? "\x7d") then return ()
    else if (← mark? "**") then
      captureTarget
      let _ ← mark? ","
      mark "\x7d"
    else
      mappingItem bound pattern
      if (← mark? ",") then mappingFrom pattern bound else mark "\x7d"

/-- The arguments of a class pattern up to the closing parenthesis, which is taken; behind one with
a keyword all have keywords. -/
def classArguments (pattern : Reader Unit) : Nat → Bool → Reader Unit
  | 0, _ => reject
  | bound + 1, keyed => do
    if (← mark? ")") then return ()
    else
      let key : Bool :=
        match (← peek), (← peekSecond) with
        | .name _, .mark "=" => true
        | _, _ => false
      if key then
        advance
        advance
        pattern
      else if keyed then reject
      else pattern
      if (← mark? ",") then classArguments pattern bound key else mark ")"

/-- A pattern without alternatives at its top. -/
def closedPattern (bound : Nat) (pattern : Reader Unit) : Reader Unit := do
  match (← peek) with
  | .number _ | .mark "-" => numberPattern
  | .string _ =>
    let _ ← strings bound
  | .keyword word =>
    if ["False", "None", "True"].contains word then advance else reject
  | .name id =>
    advance
    if id ≠ wildcard then
      let _ ← members bound
      if (← mark? "(") then classArguments pattern bound false
      else if (← atMark "=") then reject
  | .mark "(" =>
    advance
    parenthesisedPattern bound pattern
  | .mark "[" =>
    advance
    enclosed "]" bound (sequenceItem pattern)
  | .mark "\x7b" =>
    advance
    mappingFrom pattern bound
  | _ => reject

/-- Alternatives, perhaps bound to a name. -/
def alternatives (bound : Nat) (pattern : Reader Unit) : Reader Unit := do
  closedPattern bound pattern
  let _ ← repeated
    (do
      if (← mark? "|") then
        closedPattern bound pattern
        return some ()
      else return none)
    bound
  if (← keyword? "as") then captureTarget

/-- A pattern nested at most so many times. -/
def pattern : Nat → Reader Unit
  | 0 => reject
  | bound + 1 => alternatives bound (pattern bound)

/-- What stands behind `case`: a pattern, or the items of a sequence without brackets. -/
def casePatterns (bound : Nat) : Reader Unit := do
  let starred ← atMark "*"
  let ends : Reader Bool := do
    if (← atMark ":") then return true else atKeyword "if"
  let (items, comma) ← separated (sequenceItem (pattern bound)) ends bound
  if starred && items.length = 1 && !comma then reject else return ()

end ServiceManifest.Source.Grammar
