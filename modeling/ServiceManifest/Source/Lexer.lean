import ServiceManifest.Source.Literal
import ServiceManifest.Text.Identifier
import ServiceManifest.Text.Normal

/-!
# From text to tokens

Text is cut into tokens line by line. Indentation is measured twice, with tabs that reach to the
next multiple of eight columns and with tabs one column wide; both measures have to tell the same
story. Inside brackets line ends and indentation mean nothing. Text is cut up to its end or to the
first fault.
-/

namespace ServiceManifest.Source

/-- Whether a character is a decimal digit of ASCII. -/
def isDigit (c : Char) : Bool := '0' ≤ c && c ≤ '9'

/-- Whether a word may start with the character; which characters beyond ASCII are allowed is
settled for the word as a whole. -/
def startsWord (c : Char) : Bool :=
  ('a' ≤ c && c ≤ 'z') || ('A' ≤ c && c ≤ 'Z') || c = '_' || 128 ≤ c.toNat || c = strayMark

/-- Whether a word may go on with the character. -/
def continuesWord (c : Char) : Bool := startsWord c || isDigit c

/-- The fault of a numeral of some kind that cannot go on with this text. -/
def NumeralKind.fault (kind : NumeralKind) (rest : List Char) : LexicalFault :=
  match rest with
  | c :: _ => if isDigit c then .digit c kind else .numeral kind
  | [] => .numeral kind

namespace Numeral

/-- What is left after digits with single underscores between them. A first character that is no
digit leaves everything. -/
def afterDigits (kind : NumeralKind) (digit : Char → Bool) :
    List Char → Except LexicalFault (List Char)
  | [] => .ok []
  | '_' :: rest =>
    match rest with
    | c :: after => if digit c then afterDigits kind digit after else .error (kind.fault rest)
    | [] => .error (kind.fault [])
  | c :: rest => if digit c then afterDigits kind digit rest else .ok (c :: rest)

/-- Whether a numeral may end before this text. Some keywords may follow without a space, and so may
characters beyond ASCII. -/
def mayEnd (rest : List Char) : Bool :=
  match rest with
  | 'a' :: 'n' :: 'd' :: _ | 'e' :: 'l' :: 's' :: 'e' :: _ | 'f' :: 'o' :: 'r' :: _
  | 'i' :: 'f' :: _ | 'i' :: 'n' :: _ | 'i' :: 's' :: _ | 'o' :: 'r' :: _
  | 'n' :: 'o' :: 't' :: _ => true
  | c :: _ => !continuesWord c || 128 ≤ c.toNat
  | [] => true

/-- What is left after a numeral of some kind that ends before this text, if it may. -/
def ending (kind : NumeralKind) (rest : List Char) : Except LexicalFault (List Char) :=
  if mayEnd rest then .ok rest else .error (.numeral kind)

/-- A numeral that was read: whether it is imaginary, and what follows it. -/
abbrev Result := Except LexicalFault (Bool × List Char)

/-- The end of a decimal numeral: perhaps the mark of an imaginary number. -/
def suffix (rest : List Char) : Result :=
  match rest with
  | 'j' :: after | 'J' :: after => (ending .imaginary after).map fun rest => (true, rest)
  | _ => (ending .decimal rest).map fun rest => (false, rest)

/-- Decimal digits and the end of the numeral. -/
def digitsAndSuffix (text : List Char) : Result := do
  suffix (← afterDigits .decimal isDigit text)

/-- The exponent of a decimal numeral, if there is one, and its end. An `e` that no digit follows is
not part of the numeral. -/
def exponent (text : List Char) : Result :=
  match text with
  | e :: rest =>
    if e = 'e' || e = 'E' then
      match rest with
      | c :: after =>
        if c = '+' || c = '-' then
          if (after.head?.map isDigit).getD false then digitsAndSuffix after
          else .error (.numeral .decimal)
        else if isDigit c then digitsAndSuffix rest
        else (ending .decimal text).map fun rest => (false, rest)
      | [] => (ending .decimal text).map fun rest => (false, rest)
    else suffix text
  | [] => suffix text

/-- The fraction of a decimal numeral whose point has been read, and its end. -/
def fraction (text : List Char) : Result := do
  if (text.head?.map isDigit).getD false then exponent (← afterDigits .decimal isDigit text)
  else exponent text

/-- A decimal numeral after its whole part. -/
def afterWhole (text : List Char) : Result :=
  match text with
  | '.' :: rest => fraction rest
  | _ => exponent text

/-- A numeral in another base, after its letter: digits, each group perhaps after an underscore. -/
def based (kind : NumeralKind) (digit : Char → Bool) (text : List Char) : Result := do
  let digits := match text with
    | '_' :: rest => rest
    | _ => text
  if (digits.head?.map digit).getD false then
    let rest ← afterDigits kind digit digits
    if (rest.head?.map isDigit).getD false then .error (kind.fault rest)
    else (ending kind rest).map fun rest => (false, rest)
  else .error (kind.fault digits)

/-- The digits of the whole number at the front. -/
def digitsOf (text : List Char) : List Char :=
  (text.takeWhile fun c => isDigit c || c = '_').filter isDigit

/-- A decimal numeral that starts with a zero, which stands at the front. A whole number with a
leading zero has to be zero. -/
def afterZero (text : List Char) : Result := do
  let rest ← afterDigits .decimal isDigit text
  match rest with
  | '.' :: _ => afterWhole rest
  | 'e' :: _ | 'E' :: _ => exponent rest
  | 'j' :: _ | 'J' :: _ => suffix rest
  | _ =>
    if (digitsOf text).all (· = '0') then
      (ending .decimal rest).map fun rest => (false, rest)
    else .error .leadingZero

/-- A decimal numeral that does not start with a zero. -/
def decimal (text : List Char) : Result := do
  let rest ← afterDigits .decimal isDigit text
  let (imaginary, after) ← afterWhole rest
  let digits := (digitsOf text).length
  if LexicalFault.digitLimit < digits && !imaginary && after.length = rest.length then
    .error (.tooLong digits)
  else return (imaginary, after)

/-- A numeral at the front that starts with a digit. -/
def read (text : List Char) : Result :=
  match text with
  | '0' :: c :: rest =>
    if c = 'x' || c = 'X' then based .hexadecimal (fun c => (Text.hexDigit? c).isSome) rest
    else if c = 'o' || c = 'O' then based .octal Text.isOctal rest
    else if c = 'b' || c = 'B' then based .binary (fun c => c = '0' || c = '1') rest
    else afterZero text
  | '0' :: rest => afterZero ('0' :: rest)
  | _ => decimal text

end Numeral

/-- The body of a literal in single quotes and what follows the closing one; a line cannot end in it
unless a backslash stands before the line end. `done` is what was read, last first; it is what is
left where the closing quote is missing. -/
def singleBody (quote : Char) :
    List Char → List Char → Except (List Char) (List Char × List Char)
  | done, [] => .error done
  | done, '\\' :: c :: rest => singleBody quote (c :: '\\' :: done) rest
  | done, c :: rest =>
    if c = quote then .ok (done.reverse, rest)
    else if c = '\n' then .error (c :: done)
    else singleBody quote (c :: done) rest

/-- The body of a literal in triple quotes and what follows the closing ones. -/
def tripleBody (quote : Char) :
    List Char → List Char → Except (List Char) (List Char × List Char)
  | done, [] => .error done
  | done, '\\' :: c :: rest => tripleBody quote (c :: '\\' :: done) rest
  | done, c :: d :: e :: rest =>
    if c = quote && d = quote && e = quote then .ok (done.reverse, rest)
    else tripleBody quote (c :: done) (d :: e :: rest)
  | done, c :: rest => tripleBody quote (c :: done) rest

/-- The number of line ends in a text. -/
def lineEnds (text : List Char) : Nat := text.count '\n'

/-- The body of the literal whose opening quote stands at the front, and what follows it. A missing
closing quote is noticed on the line of the last character that was read. -/
def literalBody (line : Nat) (text : List Char) : Except LexicalFault (List Char × List Char) :=
  let noted (triple : Bool) (read : Except (List Char) (List Char × List Char)) :
      Except LexicalFault (List Char × List Char) :=
    read.mapError fun done => .openLiteral triple (line + lineEnds (done.drop 1))
  match text with
  | a :: b :: rest =>
    if a = b then
      match rest with
      | c :: after => if a = c then noted true (tripleBody a [] after) else .ok ([], rest)
      | [] => .ok ([], [])
    else noted false (singleBody a [] (b :: rest))
  | a :: rest => noted false (singleBody a [] rest)
  | [] => .ok ([], [])

/-- Marks of three characters. -/
def marks3 : List String := ["**=", "//=", ">>=", "<<=", "..."]

/-- Marks of two characters. -/
def marks2 : List String :=
  ["!=", "%=", "&=", "**", "*=", "+=", "-=", "->", "//", "/=", ":=", "<<", "<=", "<>", "==", ">=",
    ">>", "@=", "^=", "|="]

/-- The mark at the front, the longest that is one, and what follows it. A printable character makes
a mark even where no rule of the grammar has a use for it. -/
def readMark (text : List Char) : Except LexicalFault (String × List Char) :=
  let three := String.ofList (text.take 3)
  let two := String.ofList (text.take 2)
  if marks3.contains three then .ok (three, text.drop 3)
  else if marks2.contains two then .ok (two, text.drop 2)
  else
    match text with
    | c :: rest =>
      if Text.isPrintable c then .ok (c.toString, rest) else .error (.character c)
    | [] => .error .endsJoined

/-- The indentation of a line: its width with wide tabs and with narrow ones, the text behind it,
and the number of lines that were joined to it by backslashes. -/
structure Margin where
  wide : Nat
  narrow : Nat
  rest : List Char
  joined : Nat

/-- The indentation at the start of a line. When lines are joined, the width before the first
backslash is what counts, unless it is zero. -/
def margin (wide narrow first joined : Nat) : List Char → Except LexicalFault Margin
  | ' ' :: rest => margin (wide + 1) (narrow + 1) first joined rest
  | '\t' :: rest => margin ((wide / 8 + 1) * 8) (narrow + 1) first joined rest
  | '\x0c' :: rest => margin 0 0 first joined rest
  | '\\' :: rest =>
    match rest with
    | '\n' :: c :: after =>
      margin wide narrow (if first = 0 then wide else first) (joined + 1) (c :: after)
    | ['\n'] => .error .endsJoined
    | _ => .error .afterBackslash
  | rest =>
    .ok (if first = 0 then ⟨wide, narrow, rest, joined⟩ else ⟨first, first, rest, joined⟩)

/-- The greatest number of levels of indentation, the outermost included. -/
def indentLimit : Nat := 100

/-- The levels that are left after closing those deeper than a width, and how many were closed. -/
def closeLevels (wide : Nat) : List (Nat × Nat) → List (Nat × Nat) × Nat
  | [] => ([], 0)
  | level :: outer =>
    if wide < level.1 then
      let (left, closed) := closeLevels wide outer
      (left, closed + 1)
    else (level :: outer, 0)

/-- The effect of an indentation on the open levels, innermost first: the levels after it and the
tokens that say so. -/
def settleMargin (levels : List (Nat × Nat)) (wide narrow : Nat) :
    Except LexicalFault (List (Nat × Nat) × List Lexeme) :=
  let innermost := levels.headD (0, 0)
  if wide = innermost.1 then
    if narrow = innermost.2 then .ok (levels, []) else .error .margin
  else if innermost.1 < wide then
    if indentLimit ≤ levels.length + 1 || narrow ≤ innermost.2 then .error .margin
    else .ok ((wide, narrow) :: levels, [.indent])
  else
    let (left, closed) := closeLevels wide levels
    let level := left.headD (0, 0)
    if wide = level.1 && narrow = level.2 then .ok (left, List.replicate closed .dedent)
    else .error .margin

/-- Where the cutting of a text stands. Open brackets are kept with their lines, innermost first. -/
structure Cut where
  rest : List Char
  line : Nat
  levels : List (Nat × Nat)
  brackets : List (Char × Nat)
  atLineStart : Bool

/-- The fault at the end of a text that ought to go on. -/
def Cut.textEnds (cut : Cut) : LexicalFault :=
  cut.brackets.head?.elim .endsJoined fun (opener, _) => .unclosed opener

/-- The fault of a word that is no identifier: the first character that does not fit. -/
def wordFault (word : List Char) : LexicalFault :=
  let wrong : Option Char :=
    match word with
    | c :: rest =>
      if Text.isIdentifierStart c then rest.find? fun d => !Text.isIdentifierContinue d else some c
    | [] => none
  .character (wrong.getD strayMark)

/-- A name or a keyword. -/
def wordLexeme (word : List Char) : Except LexicalFault Lexeme :=
  if keywords.contains (String.ofList word) then .ok (.keyword (String.ofList word))
  else if word.all fun c => c.toNat < 128 && c ≠ strayMark then .ok (.name (String.ofList word))
  else if Text.isIdentifier word then .ok (.name (String.ofList (Text.normalForm word)))
  else .error (wordFault word)

/-- The word that a lexeme is. -/
def Lexeme.text? : Lexeme → Option String
  | .name id => some id
  | .keyword word => some word
  | _ => none

/-- A mark's effect on the open brackets. -/
def settleBrackets (brackets : List (Char × Nat)) (line : Nat) (mark : String) :
    Except LexicalFault (List (Char × Nat)) :=
  match mark.toList with
  | [c] =>
    if (Formatted.closing? c).isSome then
      if Formatted.bracketLimit ≤ brackets.length then .error .tooDeep
      else .ok ((c, line) :: brackets)
    else if c = ')' || c = ']' || c = '}' then
      match brackets with
      | (opener, opened) :: outer =>
        if Formatted.closing? opener = some c then .ok outer
        else .error (.mismatched c opener (if opened = line then none else some opened))
      | [] => .error (.unmatched c)
    else .ok brackets
  | _ => .ok brackets

/-- What a step of the cutting gives: tokens, and where the cutting stands behind them. -/
abbrev Step := Except LexicalFault (List Token × Cut)

/-- The token that a cut begins with, if it is no string: a word, a number or a mark. `word` is the
word at the front and `after` what follows it. -/
def plainToken (cut : Cut) (word after : List Char) : Step :=
  let next (lexeme : Lexeme) (rest : List Char) : List Token × Cut :=
    ([⟨lexeme, cut.line, true⟩], { cut with rest := rest })
  if !word.isEmpty then
    (wordLexeme word).map fun lexeme =>
      ([⟨lexeme, cut.line, lexeme.text? = some (String.ofList word)⟩], { cut with rest := after })
  else
    let numeral : Bool :=
      match after with
      | '.' :: c :: _ => isDigit c
      | c :: _ => isDigit c
      | [] => false
    if numeral then
      match after with
      | '.' :: rest =>
        (Numeral.fraction rest).map fun (imaginary, rest) => next (.number imaginary) rest
      | _ => (Numeral.read after).map fun (imaginary, rest) => next (.number imaginary) rest
    else do
      let (mark, rest) ← readMark after
      let brackets ← settleBrackets cut.brackets cut.line mark
      return ([⟨.mark mark, cut.line, true⟩], { cut with rest := rest, brackets := brackets })

/-- The token of a literal whose kind has been read. -/
def literalToken (cut : Cut) (kind : LiteralKind) (text : List Char) : Step := do
  let (body, rest) ← literalBody cut.line text
  if body.contains strayMark then throw (.character strayMark)
  return ([⟨.string (literalValue kind body), cut.line, true⟩],
    { cut with rest := rest, line := cut.line + lineEnds body })

/-- One step inside a line, at a character that is no space: the token there, if it makes one, and
where the cutting stands behind it. -/
def cutToken (cut : Cut) : Step :=
  let lineStart (tokens : List Token) (rest : List Char) : Step :=
    .ok (tokens, { cut with rest := rest, line := cut.line + 1, atLineStart := true })
  match cut.rest with
  | [] => .error .endsJoined
  | '\n' :: rest =>
    if cut.brackets.isEmpty then lineStart [⟨.lineEnd, cut.line, true⟩] rest else lineStart [] rest
  | '\\' :: rest =>
    match rest with
    | '\n' :: c :: after => .ok ([], { cut with rest := c :: after, line := cut.line + 1 })
    | ['\n'] => .error cut.textEnds
    | _ => .error .afterBackslash
  | c :: rest =>
    let word := if startsWord c then (c :: rest).takeWhile continuesWord else []
    let after := (c :: rest).drop word.length
    match literalKind? word, after.head? with
    | some kind, some quote =>
      if quote = '\x27' || quote = '\x22' then literalToken cut kind after
      else plainToken cut word after
    | _, _ => plainToken cut word after

/-- What is left of a line behind spaces and a comment. -/
def skipToToken (text : List Char) : List Char :=
  match text.dropWhile fun c => c = ' ' || c = '\t' || c = '\x0c' with
  | '#' :: rest => rest.dropWhile (· ≠ '\n')
  | rest => rest

/-- The step behind the margin of a line with tokens: inside brackets a margin means nothing. -/
def settle (cut : Cut) (found : Margin) (line : Nat) : Step :=
  if cut.brackets.isEmpty then
    (settleMargin cut.levels found.wide found.narrow).map fun (levels, lexemes) =>
      (lexemes.map fun lexeme => ⟨lexeme, line, true⟩,
        { cut with rest := found.rest, line := line, levels := levels, atLineStart := false })
  else .ok ([], { cut with rest := found.rest, line := line, atLineStart := false })

/-- One step at the start of a line: its indentation, unless the line is blank or a comment. -/
def cutMargin (cut : Cut) : Step := do
  let found ← (margin 0 0 0 0 cut.rest).mapError fun fault =>
    if fault = .endsJoined then cut.textEnds else fault
  let line := cut.line + found.joined
  match skipToToken found.rest with
  | '\n' :: rest =>
    if found.rest.head? = some '\n' || found.rest.head? = some '#' then
      return ([], { cut with rest := rest, line := line + 1 })
    else settle cut found line
  | [] =>
    if found.rest.head? = some '#' then
      return ([], { cut with rest := [], line := line, atLineStart := false })
    else settle cut found line
  | _ => settle cut found line

/-- The tokens of a text up to its end or to a fault, the brackets that are open there with their
lines, innermost first, and whether nothing at all stands behind the last token. -/
structure Cutting where
  tokens : List Token
  fault : Option LexicalFault
  brackets : List (Char × Nat)
  flush : Bool

/-- The tokens of a text from some place on; `done` are those before it, last first. The first
argument bounds the number of steps. -/
def cutFrom : Nat → List Token → Cut → Cutting
  | 0, done, cut => ⟨done.reverse, some cut.textEnds, cut.brackets, false⟩
  | fuel + 1, done, cut =>
    let flush := cut.rest.isEmpty
    let cut := if cut.atLineStart then cut else { cut with rest := skipToToken cut.rest }
    if !cut.atLineStart && cut.rest.isEmpty then
      if cut.brackets.isEmpty then
        ⟨(⟨.textEnd, cut.line, true⟩ :: done).reverse, none, [], flush⟩
      else ⟨done.reverse, some cut.textEnds, cut.brackets, flush⟩
    else
      match (if cut.atLineStart then cutMargin cut else cutToken cut) with
      | .error fault => ⟨done.reverse, some fault, cut.brackets, false⟩
      | .ok (tokens, cut) => cutFrom fuel (tokens.reverse ++ done) cut

/-- The cutting of a text. -/
def cutting (text : List Char) : Cutting :=
  cutFrom (2 * text.length + 3) [] ⟨text, 1, [], [], true⟩

/-- The tokens of a text. -/
def tokens (text : List Char) : Option (List Token) :=
  let found := cutting text
  if found.fault.isSome then none else some found.tokens

end ServiceManifest.Source
