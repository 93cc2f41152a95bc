import ServiceManifest.Text.CharacterName
import ServiceManifest.Text.Ranges

/-!
# Escapes

A backslash in a text literal starts an escape: a control character by a letter, a character by its
code in octal or hexadecimal digits or by its name, or a line end that does not count. An escape
that is not known stands for itself.
-/

namespace ServiceManifest.Text

/-- The value of as many hexadecimal digits as asked for, and what follows them. -/
def hexPrefixed? (count : Nat) (text : List Char) : Option (Nat × List Char) :=
  let digits := text.take count
  if digits.length = count && digits.all fun c => (hexDigit? c).isSome then
    some (hexValue digits, text.drop count)
  else none

/-- Whether a character is an octal digit. -/
def isOctal (c : Char) : Bool := '0' ≤ c && c ≤ '7'

/-- What an escape stands for. -/
inductive Escape
  | nothing
  | code (code : Nat)
  | itself

/-- Why an escape cannot be read: it has fewer hexadecimal digits than it asks for, its code is no
code point, or the name in it has no braces or belongs to no character. -/
inductive EscapeFault
  | truncated (digits : Nat)
  | noCodePoint
  | malformedName
  | unknownName
  deriving DecidableEq, Repr

/-- The wording of a fault. -/
def EscapeFault.message : EscapeFault → String
  | .truncated 2 => "truncated \\xXX escape"
  | .truncated 4 => "truncated \\uXXXX escape"
  | .truncated _ => "truncated \\UXXXXXXXX escape"
  | .noCodePoint => "illegal Unicode character"
  | .malformedName => "malformed \\N character escape"
  | .unknownName => "unknown Unicode character name"

/-- The character that a name in braces stands for, where the opening brace has been read, and what
follows the closing one. A fault comes with what follows the escape. -/
def readName (text : List Char) : Except (EscapeFault × List Char) (Escape × List Char) :=
  match text.span (· ≠ '}') with
  | (_, []) => .error (.malformedName, [])
  | ([], close) => .error (.malformedName, close)
  | (name, _ :: after) =>
    match codeOfName? (String.ofList name) with
    | some code => .ok (.code code, after)
    | none => .error (.unknownName, after)

/-- The escape whose backslash has been read, and what follows it. A fault comes with what follows
the part of the escape that was read. -/
def readEscape (c : Char) (rest : List Char) :
    Except (EscapeFault × List Char) (Escape × List Char) :=
  let numbered (count : Nat) : Except (EscapeFault × List Char) (Escape × List Char) :=
    match hexPrefixed? count rest with
    | some (code, after) =>
      if code < 0x110000 then .ok (.code code, after) else .error (.noCodePoint, after)
    | none =>
      let digits := (rest.take count).takeWhile fun d => (hexDigit? d).isSome
      .error (.truncated count, rest.drop digits.length)
  match c with
  | '\n' => .ok (.nothing, rest)
  | '\\' | '\x27' | '\x22' => .ok (.code c.toNat, rest)
  | 'a' => .ok (.code 7, rest)
  | 'b' => .ok (.code 8, rest)
  | 't' => .ok (.code 9, rest)
  | 'n' => .ok (.code 10, rest)
  | 'v' => .ok (.code 11, rest)
  | 'f' => .ok (.code 12, rest)
  | 'r' => .ok (.code 13, rest)
  | 'x' => numbered 2
  | 'u' => numbered 4
  | 'U' => numbered 8
  | 'N' =>
    match rest with
    | '{' :: after => readName after
    | _ => .error (.malformedName, rest)
  | _ =>
    if isOctal c then
      let more := (rest.take 2).takeWhile isOctal
      .ok (.code ((c :: more).foldl (fun value d => value * 8 + (d.toNat - '0'.toNat)) 0),
        rest.drop more.length)
    else .ok (.itself, rest)

/-- An escape that cannot be read, with the position at which it starts and the number of positions
of what was read of it. -/
structure BadEscape where
  fault : EscapeFault
  start : Nat
  length : Nat
  deriving DecidableEq, Repr

/-- The number of positions that text takes: a character beyond ASCII takes ten, which is the length
of its escape, and a backslash before it six. -/
def positions : List Char → Nat
  | [] => 0
  | '\\' :: c :: rest => (if c.toNat < 128 then 2 else 16) + positions rest
  | c :: rest => (if c.toNat < 128 then 1 else 10) + positions rest

/-- The wording of an escape that cannot be read. -/
def BadEscape.message (bad : BadEscape) : String :=
  "\x27unicodeescape\x27 codec can\x27t decode bytes in position " ++ toString bad.start ++ "-" ++
    toString (bad.start + bad.length - 1) ++ ": " ++ bad.fault.message

/-- The code points of the body of a text literal from some place on. An escape that cannot be read
is told by its fault, the text that starts with it, and the text behind what was read of it. The
first argument bounds the number of steps. -/
def textCodesFrom (raw : Bool) :
    Nat → List Char → Except (EscapeFault × List Char × List Char) (List Nat)
  | 0, _ => .ok []
  | _ + 1, [] => .ok []
  | fuel + 1, c :: rest =>
    if c = '\\' && !raw then
      match rest with
      | [] => .ok [c.toNat]
      | e :: after =>
        match readEscape e after with
        | .error (fault, left) => .error (fault, c :: rest, left)
        | .ok (.nothing, after) => textCodesFrom raw fuel after
        | .ok (.code code, after) => (textCodesFrom raw fuel after).map (code :: ·)
        | .ok (.itself, after) => (textCodesFrom raw fuel after).map ([c.toNat, e.toNat] ++ ·)
    else (textCodesFrom raw fuel rest).map (c.toNat :: ·)

/-- The code points of the body of a text literal. -/
def textCodes (raw : Bool) (body : List Char) : Except BadEscape (List Nat) :=
  (textCodesFrom raw (body.length + 1) body).mapError fun (fault, text, left) =>
    ⟨fault, positions (body.take (body.length - text.length)),
      positions (text.take (text.length - left.length))⟩

/-- The code points of a text in which only codes of four and of eight hexadecimal digits are
escapes. -/
def codesWithEscapedCodes : List Char → Option (List Nat)
  | [] => some []
  | '\\' :: c :: rest =>
    let numbered (count : Nat) : Option (List Nat) :=
      match hexPrefixed? count rest with
      | some (code, _) =>
        if code < 0x110000 then (codesWithEscapedCodes (rest.drop count)).map (code :: ·) else none
      | none => none
    if c = 'u' then numbered 4
    else if c = 'U' then numbered 8
    else (codesWithEscapedCodes rest).map (['\\'.toNat, c.toNat] ++ ·)
  | c :: rest => (codesWithEscapedCodes rest).map (c.toNat :: ·)
termination_by text => text.length

end ServiceManifest.Text
