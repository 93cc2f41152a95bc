import ServiceManifest.Decimal
import ServiceManifest.Json.Value
import ServiceManifest.Text.Ranges

/-!
# Reading JSON

A recursive descent reader. It accepts the grammar of JSON with `NaN`, `Infinity` and `-Infinity`
besides, and lets the last entry of a repeated name win. Every defect is reported at one place: the
functions below carry the text that is still to be read, and the place of a defect is where that
rest begins. An escape for half of a surrogate pair stands for no character and reads as U+FFFD.
-/

namespace ServiceManifest.Json

/-- What is wrong with a text that is not JSON. -/
inductive Defect
  | expectingValue
  | expectingName
  | expectingColon
  | expectingComma
  | unterminatedString
  | controlCharacter
  | unknownEscape
  | badUnicodeEscape
  | extraData
  | byteOrderMark
  deriving DecidableEq, Repr

/-- The wording of a defect. -/
def Defect.message : Defect → String
  | .expectingValue => "Expecting value"
  | .expectingName => "Expecting property name enclosed in double quotes"
  | .expectingColon => "Expecting \x27:\x27 delimiter"
  | .expectingComma => "Expecting \x27,\x27 delimiter"
  | .unterminatedString => "Unterminated string starting at"
  | .controlCharacter => "Invalid control character at"
  | .unknownEscape => "Invalid \\escape"
  | .badUnicodeEscape => "Invalid \\uXXXX escape"
  | .extraData => "Extra data"
  | .byteOrderMark => "Unexpected UTF-8 BOM (decode using utf-8-sig)"

/-- The two kinds of value that hold others. -/
inductive Collection
  | array
  | object
  deriving DecidableEq, Repr

/-- Why a text has no value: a defect with what was left to read there, an integer with too many
digits, or a collection inside of too many others. -/
inductive Stop
  | defect (defect : Defect) (rest : List Char)
  | tooManyDigits (count : Nat)
  | tooDeep (collection : Collection)

/-- A value and what follows it. -/
abbrev Step (α : Type) := Except Stop (α × List Char)

/-- Whether a character may stand between tokens. -/
def isSpace (c : Char) : Bool := c = ' ' || c = '\t' || c = '\n' || c = '\r'

/-- A text without leading spaces. -/
def skipSpace (text : List Char) : List Char := text.dropWhile isSpace

/-- Whether a character is a digit. -/
def isDigit (c : Char) : Bool := '0' ≤ c && c ≤ '9'

/-- The character that a one-letter escape stands for. -/
def simpleEscape? (c : Char) : Option Char :=
  match c with
  | '\x22' => some '\x22'
  | '\\' => some '\\'
  | '/' => some '/'
  | 'b' => some '\x08'
  | 'f' => some '\x0c'
  | 'n' => some '\n'
  | 'r' => some '\r'
  | 't' => some '\t'
  | _ => none

/-- The value of four hexadecimal digits at the front, with what follows; at least one character has
to follow them. -/
def fourDigits? : List Char → Option (Nat × List Char)
  | a :: b :: c :: d :: e :: rest =>
    match Text.hexDigit? a, Text.hexDigit? b, Text.hexDigit? c, Text.hexDigit? d with
    | some a, some b, some c, some d => some (((a * 16 + b) * 16 + c) * 16 + d, e :: rest)
    | _, _, _, _ => none
  | _ => none

/-- The second half of a surrogate pair at the front, if one is there. A malformed escape in its
place is a defect. -/
def lowHalf? (rest : List Char) : Except Stop (Option (Nat × List Char)) :=
  match rest with
  | '\\' :: 'u' :: after =>
    if after.length ≤ 4 then .ok none
    else
      match fourDigits? after with
      | none => .error (.defect .badUnicodeEscape ('u' :: after))
      | some (low, rest) =>
        .ok (if 0xDC00 ≤ low ∧ low < 0xE000 then some (low, rest) else none)
  | _ => .ok none

/-- The character of an escape with four digits, whose `u` stands at the front. -/
def unicodeEscape (text : List Char) : Step Char :=
  match fourDigits? (text.drop 1) with
  | none => .error (.defect .badUnicodeEscape text)
  | some (code, rest) =>
    if 0xD800 ≤ code ∧ code < 0xDC00 then
      match lowHalf? rest with
      | .error stop => .error stop
      | .ok (some (low, rest)) =>
        .ok (Char.ofNat (0x10000 + (code - 0xD800) * 0x400 + (low - 0xDC00)), rest)
      | .ok none => .ok ('\uFFFD', rest)
    else if 0xDC00 ≤ code ∧ code < 0xE000 then .ok ('\uFFFD', rest)
    else .ok (Char.ofNat code, rest)

/-- The characters up to the closing quote. `start` is the text from the opening quote on. -/
def stringBody (start : List Char) : Nat → List Char → List Char → Step String
  | 0, _, _ => .error (.defect .unterminatedString start)
  | _ + 1, _, [] => .error (.defect .unterminatedString start)
  | fuel + 1, done, c :: rest =>
    if c = '\x22' then .ok (String.ofList done.reverse, rest)
    else if c = '\\' then
      match rest with
      | [] => .error (.defect .unterminatedString start)
      | 'u' :: _ =>
        match unicodeEscape rest with
        | .error stop => .error stop
        | .ok (c, rest) => stringBody start fuel (c :: done) rest
      | e :: after =>
        match simpleEscape? e with
        | none => .error (.defect .unknownEscape (c :: rest))
        | some c => stringBody start fuel (c :: done) after
    else if c.toNat < 0x20 then .error (.defect .controlCharacter (c :: rest))
    else stringBody start fuel (c :: done) rest

/-- A string whose opening quote stands at the front. -/
def readString (text : List Char) : Step String :=
  stringBody text text.length [] (text.drop 1)

/-- The value of decimal digits. -/
def decimalValue (digits : List Char) : Nat :=
  digits.foldl (fun value c => value * 10 + (c.toNat - '0'.toNat)) 0

/-- The fraction of a number at the front: the digits after the point. -/
def fractionDigits (text : List Char) : List Char × List Char :=
  match text with
  | '.' :: c :: _ => if isDigit c then text.tail.span isDigit else ([], text)
  | _ => ([], text)

/-- The exponent of a number at the front, if one is there. -/
def exponent? (text : List Char) : Option (Int × List Char) :=
  match text with
  | e :: rest =>
    if e = 'e' || e = 'E' then
      let (sign, rest) := Decimal.signOf rest
      let (digits, rest) := rest.span isDigit
      if digits.isEmpty then none
      else some (sign * decimalValue digits, rest)
    else none
  | [] => none

/-- The digits of the whole part: a zero alone, or digits that start with another one. -/
def wholeDigits (text : List Char) : List Char × List Char :=
  match text with
  | '0' :: rest => (['0'], rest)
  | _ => text.span isDigit

/-- A number at the front. -/
def readNumber (text : List Char) : Step Value :=
  let negative := text.head? = some '-'
  let (whole, rest) := wholeDigits (if negative then text.tail else text)
  if whole.isEmpty then .error (.defect .expectingValue text)
  else
    let (part, rest) := fractionDigits rest
    match part, exponent? rest with
    | [], none =>
      if Decimal.digitLimit < whole.length then .error (.tooManyDigits whole.length)
      else .ok (.int (if negative then -(decimalValue whole : Int) else decimalValue whole), rest)
    | part, found =>
      let (exponent, rest) := found.getD (0, rest)
      let value := Decimal.toFloat (whole ++ part) (exponent - part.length)
      .ok (.float (if negative then -value else value), rest)

/-- A word that stands for a value. -/
def readWord (text : List Char) : Step Value :=
  let word (name : String) (value : Value) : Option (Value × List Char) :=
    if name.toList.isPrefixOf text then some (value, text.drop name.length) else none
  match word "null" .null <|> word "true" (.bool true) <|> word "false" (.bool false) <|>
      word "NaN" (.float (0.0 / 0.0)) <|> word "Infinity" (.float (1.0 / 0.0)) <|>
      word "-Infinity" (.float (-1.0 / 0.0)) with
  | some found => .ok found
  | none => readNumber text

/-- The greatest number of collections that may be nested in one another. -/
def depthLimit : Nat := 990

mutual

/-- A value at the front of a text, in which at most `depth` collections may be nested. The first
argument bounds the number of steps. -/
def readValue : Nat → Nat → List Char → Step Value
  | 0, _, text => .error (.defect .expectingValue text)
  | fuel + 1, depth, text =>
    match text with
    | [] => .error (.defect .expectingValue [])
    | '\x22' :: _ => (readString text).map fun (s, rest) => (.string s, rest)
    | '{' :: rest =>
      match depth with
      | 0 => .error (.tooDeep .object)
      | depth + 1 =>
        match skipSpace rest with
        | '}' :: after => .ok (.object [], after)
        | inner => readEntries fuel depth [] inner
    | '[' :: rest =>
      match depth with
      | 0 => .error (.tooDeep .array)
      | depth + 1 =>
        match skipSpace rest with
        | ']' :: after => .ok (.array [], after)
        | inner => readItems fuel depth [] inner
    | _ => readWord text

/-- The items of an array from one on; `done` are those before it, last first. -/
def readItems : Nat → Nat → List Value → List Char → Step Value
  | 0, _, _, text => .error (.defect .expectingValue text)
  | fuel + 1, depth, done, text =>
    match readValue fuel depth text with
    | .error stop => .error stop
    | .ok (item, rest) =>
      match skipSpace rest with
      | ']' :: after => .ok (.array (item :: done).reverse, after)
      | ',' :: after => readItems fuel depth (item :: done) (skipSpace after)
      | other => .error (.defect .expectingComma other)

/-- The entries of an object from one on; `done` are those before it. -/
def readEntries : Nat → Nat → Keyed Value → List Char → Step Value
  | 0, _, _, text => .error (.defect .expectingName text)
  | fuel + 1, depth, done, text =>
    match text with
    | '\x22' :: _ =>
      match readString text with
      | .error stop => .error stop
      | .ok (name, rest) =>
        match skipSpace rest with
        | ':' :: after =>
          match readValue fuel depth (skipSpace after) with
          | .error stop => .error stop
          | .ok (value, rest) =>
            match skipSpace rest with
            | '}' :: after => .ok (.object (Keyed.put name value done), after)
            | ',' :: after =>
              readEntries fuel depth (Keyed.put name value done) (skipSpace after)
            | other => .error (.defect .expectingComma other)
        | other => .error (.defect .expectingColon other)
    | _ => .error (.defect .expectingName text)

end

/-- The value that a whole text holds. -/
def readText (text : List Char) : Except Stop Value :=
  match text with
  | '\uFEFF' :: _ => .error (.defect .byteOrderMark text)
  | _ =>
    match readValue (text.length + 1) depthLimit (skipSpace text) with
    | .error stop => .error stop
    | .ok (value, rest) =>
      match skipSpace rest with
      | [] => .ok value
      | other => .error (.defect .extraData other)

/-- The wording of a defect with its place: line and column count from one, the offset from zero. -/
def Defect.describe (defect : Defect) (text rest : List Char) : String :=
  let before := text.take (text.length - rest.length)
  let column := (before.reverse.takeWhile (· ≠ '\n')).length + 1
  defect.message ++ ": line " ++ toString (before.count '\n' + 1) ++ " column " ++
    toString column ++ " (char " ++ toString before.length ++ ")"

/-- Why a document cannot be read. -/
inductive ReadFault
  | malformed (message : String)
  | tooManyDigits (count : Nat)
  | tooDeep (collection : Collection)
  deriving DecidableEq, Repr

/-- The name of a kind of collection. -/
def Collection.name : Collection → String
  | .array => "array"
  | .object => "object"

/-- The wording of a fault. -/
def ReadFault.message : ReadFault → String
  | .malformed message => message
  | .tooManyDigits count => Decimal.tooManyDigits count
  | .tooDeep collection =>
    "maximum recursion depth exceeded while decoding a JSON " ++ collection.name ++
      " from a unicode string"

/-- The title under which a fault is reported. -/
def ReadFault.title : ReadFault → String
  | .malformed _ => "JSONDecodeError"
  | .tooManyDigits _ => "ValueError"
  | .tooDeep _ => "RecursionError"

/-- The value of a JSON document. -/
def read (text : String) : Except ReadFault Value :=
  match readText text.toList with
  | .ok value => .ok value
  | .error (.defect defect rest) => .error (.malformed (defect.describe text.toList rest))
  | .error (.tooManyDigits count) => .error (.tooManyDigits count)
  | .error (.tooDeep collection) => .error (.tooDeep collection)

end ServiceManifest.Json
