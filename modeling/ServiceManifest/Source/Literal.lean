import ServiceManifest.Source.Decode
import ServiceManifest.Source.Token
import ServiceManifest.Text.Escape

/-!
# String literals

The body of a string literal is what stands between its quotes. Unless the literal is raw, a
backslash starts an escape; an escape that is not known stands for itself. A formatted literal
alternates between plain parts and expressions in braces; only the extent of the expressions is
settled here, and they are handed on as text.
-/

namespace ServiceManifest.Source

/-- The letters in front of a literal. -/
structure LiteralKind where
  octets : Bool
  raw : Bool
  formatted : Bool
  deriving DecidableEq, Repr

/-- The kind of literal that letters announce. -/
def literalKind? (letters : List Char) : Option LiteralKind :=
  match String.ofList (letters.map Char.toLower) with
  | "" | "u" => some ⟨false, false, false⟩
  | "b" => some ⟨true, false, false⟩
  | "r" => some ⟨false, true, false⟩
  | "f" => some ⟨false, false, true⟩
  | "br" | "rb" => some ⟨true, true, false⟩
  | "fr" | "rf" => some ⟨false, true, true⟩
  | _ => none

/-- The fault in the body of an octet literal that is ASCII from some position on: an escape without
two hexadecimal digits. The first argument bounds the number of steps. -/
def octetFault? (raw : Bool) : Nat → Nat → List Char → Option LiteralFault
  | 0, _, _ => none
  | _ + 1, _, [] => none
  | fuel + 1, position, c :: rest =>
    if c = '\\' && !raw then
      match rest with
      | 'x' :: after =>
        match Text.hexPrefixed? 2 after with
        | some (_, after) => octetFault? raw fuel (position + 4) after
        | none => some (.octetEscape position)
      | _ :: after => octetFault? raw fuel (position + 2) after
      | [] => none
    else octetFault? raw fuel (position + 1) rest

/-- The value of an octet literal. -/
def octetsValue (raw : Bool) (body : List Char) : StringValue :=
  if body.any fun c => 128 ≤ c.toNat then .malformed .octetsBeyond
  else
    match octetFault? raw (body.length + 1) 0 body with
    | some fault => .malformed fault
    | none => .octets

namespace Formatted

/-- How a plain part of a formatted literal ends: at a brace that is written twice, or before a
single brace or the end of the text. -/
structure PlainPart where
  body : List Char
  doubled : Bool
  rest : List Char

/-- The plain part at the front of a formatted literal; `done` is what was read of it, last first.
Only outside of format specifications can braces be doubled, and there a closing brace cannot stand
alone. The first argument bounds the number of steps. -/
def plainPart (raw outer : Bool) : Nat → List Char → List Char → Except LiteralFault PlainPart
  | 0, done, text => .ok ⟨done.reverse, false, text⟩
  | _ + 1, done, [] => .ok ⟨done.reverse, false, []⟩
  | fuel + 1, done, c :: rest =>
    let brace (done : List Char) (c : Char) (rest : List Char) : Except LiteralFault PlainPart :=
      if outer && rest.head? = some c then .ok ⟨(c :: done).reverse, true, rest.drop 1⟩
      else if outer && c = '}' then .error .loneBrace
      else .ok ⟨done.reverse, false, c :: rest⟩
    if c = '\\' && !raw then
      match rest with
      | [] => .ok ⟨(c :: done).reverse, false, []⟩
      | 'N' :: '{' :: after =>
        let (name, after) := after.span (· ≠ '}')
        let close := after.take 1
        plainPart raw outer fuel (close ++ name.reverse ++ ['{', 'N', c] ++ done) (after.drop 1)
      | 'N' :: e :: after => plainPart raw outer fuel (e :: 'N' :: c :: done) after
      | e :: after =>
        if e = '{' || e = '}' then brace (c :: done) e after
        else plainPart raw outer fuel (e :: c :: done) after
    else if c = '{' || c = '}' then brace done c rest
    else plainPart raw outer fuel (c :: done) rest

/-- The bracket that closes an opening one. -/
def closing? (c : Char) : Option Char :=
  match c with
  | '(' => some ')'
  | '[' => some ']'
  | '{' => some '}'
  | _ => none

/-- Where the scan of an expression stands: inside a string with one or three quotes, or outside. -/
inductive Inside
  | code
  | single (quote : Char)
  | triple (quote : Char)

/-- The greatest number of open brackets. -/
def bracketLimit : Nat := 200

/-- The text of an expression at the front and what follows it, which starts with the character that
ends the expression. `opened` are the brackets that are open, `done` is what was read, last
first. -/
def expressionText :
    Inside → List Char → List Char → List Char → Except LiteralFault (List Char × List Char)
  | .code, [], _, [] => .error .unclosed
  | .code, opener :: _, _, [] => .error (.unmatched opener)
  | _, _, _, [] => .error .openString
  | inside, opened, done, c :: rest =>
    if c = '\\' then .error .backslash
    else
      match inside with
      | .single quote =>
        expressionText (if c = quote then .code else inside) opened (c :: done) rest
      | .triple quote =>
        match rest with
        | d :: e :: after =>
          if c = quote && d = quote && e = quote then
            expressionText .code opened (e :: d :: c :: done) after
          else expressionText inside opened (c :: done) (d :: e :: after)
        | rest => expressionText inside opened (c :: done) rest
      | .code =>
        if c = '\x27' || c = '\x22' then
          match rest with
          | d :: e :: after =>
            if d = c && e = c then expressionText (.triple c) opened (e :: d :: c :: done) after
            else expressionText (.single c) opened (c :: done) (d :: e :: after)
          | rest => expressionText (.single c) opened (c :: done) rest
        else if c = '#' then .error .hash
        else if (closing? c).isSome then
          if bracketLimit ≤ opened.length then .error .tooDeep
          else expressionText .code (c :: opened) (c :: done) rest
        else
          match opened with
          | opener :: outer =>
            if c = ')' || c = ']' || c = '}' then
              if closing? opener = some c then expressionText .code outer (c :: done) rest
              else .error (.mismatched c opener)
            else expressionText .code opened (c :: done) rest
          | [] =>
            if c = '!' || c = ':' || c = '}' || c = '=' || c = '>' || c = '<' then
              match rest with
              | '=' :: after =>
                if c = ':' || c = '}' then .ok (done.reverse, c :: rest)
                else expressionText .code [] ('=' :: c :: done) after
              | rest =>
                if c = '>' || c = '<' then expressionText .code [] (c :: done) rest
                else .ok (done.reverse, c :: rest)
            else if c = ')' || c = ']' then .error (.unmatched c)
            else expressionText .code [] (c :: done) rest

/-- White space that may follow the equals sign of a self-documenting expression. -/
def isSpace (c : Char) : Bool := c = ' ' || (9 ≤ c.toNat && c.toNat ≤ 13)

/-- Whether the text of an expression is blank. -/
def isBlankText (text : List Char) : Bool :=
  text.all fun c => c = ' ' || c = '\t' || c = '\n' || c = '\x0c'

/-- The fault of a blank expression, which depends on the character behind it. -/
def blankFault (rest : List Char) : LiteralFault :=
  match rest with
  | '!' :: _ => .noExpression '!'
  | ':' :: _ => .noExpression ':'
  | '=' :: _ => .noExpression '='
  | _ => .blank

/-- The text behind an equals sign that asks for the expression itself, if there is one. -/
def afterEquals (text : List Char) : List Char :=
  match text with
  | '=' :: rest => rest.dropWhile isSpace
  | _ => text

/-- The text behind a conversion, if there is one. -/
def afterConversion (text : List Char) : Except LiteralFault (List Char) :=
  match text with
  | '!' :: c :: rest => if c = 's' || c = 'r' || c = 'a' then .ok rest else .error .conversion
  | ['!'] => .error .unclosed
  | _ => .ok text

/-- What is found in a formatted text: the texts of expressions, and what follows them or the fault
behind them. -/
structure Found where
  texts : List (List Char)
  outcome : Except LiteralFault (List Char)

/-- More text found in front. -/
def Found.behind (found : Found) (texts : List (List Char)) : Found :=
  { found with texts := texts ++ found.texts }

/-- The expressions of a formatted text from some place on, and what follows them. `depth` counts
the format specifications around the text. Each expression comes with the parentheses in which it is
read. The first argument bounds the number of steps. -/
def expressions (raw : Bool) : Nat → Nat → List Char → Found
  | 0, _, _ => ⟨[], .error .unclosed⟩
  | fuel + 1, depth, text =>
    match plainPart raw (depth = 0) (fuel + 1) [] text with
    | .error fault => ⟨[], .error fault⟩
    | .ok part =>
      match Text.textCodes raw part.body with
      | .error bad => ⟨[], .error (.escape bad)⟩
      | .ok _ =>
        if part.doubled then expressions raw fuel depth part.rest
        else
          match part.rest with
          | '{' :: rest =>
            if 2 ≤ depth then ⟨[], .error .nested⟩
            else
              match expressionText .code [] [] rest with
              | .error fault => ⟨[], .error fault⟩
              | .ok (body, rest) =>
                if isBlankText body then ⟨[], .error (blankFault rest)⟩
                else
                  let inner : Found :=
                    match afterConversion (afterEquals rest) with
                    | .error fault => ⟨[], .error fault⟩
                    | .ok (':' :: rest) => expressions raw fuel (depth + 1) rest
                    | .ok rest => ⟨[], .ok rest⟩
                  let found := inner.behind ['(' :: body ++ [')']]
                  match found.outcome with
                  | .error _ => found
                  | .ok ('}' :: rest) => (expressions raw fuel depth rest).behind found.texts
                  | .ok _ => { found with outcome := .error .unclosed }
          | rest => ⟨[], .ok rest⟩

/-- The value of a formatted literal. -/
def value (raw : Bool) (body : List Char) : StringValue :=
  let found := expressions raw (body.length + 1) 0 body
  .formatted found.texts
    (match found.outcome with
    | .error fault => some fault
    | .ok [] => none
    | .ok _ => some .unclosed)

end Formatted

/-- The value of a literal with this body. -/
def literalValue (kind : LiteralKind) (body : List Char) : StringValue :=
  if kind.octets then octetsValue kind.raw body
  else if kind.formatted then Formatted.value kind.raw body
  else
    match Text.textCodes kind.raw body with
    | .ok codes => .text codes
    | .error bad => .malformed (.escape bad)

end ServiceManifest.Source
