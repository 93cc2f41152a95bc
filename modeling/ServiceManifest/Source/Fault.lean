import ServiceManifest.Text.Escape
import ServiceManifest.Text.Printable
import ServiceManifest.Text.Quoted

/-!
# Faults of source text

What can be wrong with text before its grammar is looked at: it cannot be cut into tokens, or a
literal in it has no value. Both are kept as causes, and each cause has one wording.
-/

namespace ServiceManifest.Source

/-- The kinds of numerals. -/
inductive NumeralKind
  | decimal
  | hexadecimal
  | octal
  | binary
  | imaginary
  deriving DecidableEq, Repr

/-- The word for a kind of numerals. -/
def NumeralKind.word : NumeralKind → String
  | .decimal => "decimal"
  | .hexadecimal => "hexadecimal"
  | .octal => "octal"
  | .binary => "binary"
  | .imaginary => "imaginary"

/-- Why text cannot be cut into tokens from some place on. -/
inductive LexicalFault
  | numeral (kind : NumeralKind)
  | digit (c : Char) (kind : NumeralKind)
  | leadingZero
  | tooLong (digits : Nat)
  | openLiteral (triple : Bool) (line : Nat)
  | character (c : Char)
  | unmatched (closer : Char)
  | mismatched (closer opener : Char) (line : Option Nat)
  | tooDeep
  | margin
  | afterBackslash
  | endsJoined
  | unclosed (opener : Char)
  deriving DecidableEq, Repr

namespace LexicalFault

/-- The greatest number of digits of a whole decimal numeral. -/
def digitLimit : Nat := 4300

/-- The wording of a fault. -/
def message : LexicalFault → String
  | numeral kind => "invalid " ++ kind.word ++ " literal"
  | digit c kind => "invalid digit \x27" ++ c.toString ++ "\x27 in " ++ kind.word ++ " literal"
  | leadingZero =>
    "leading zeros in decimal integer literals are not permitted; use an 0o prefix for octal " ++
      "integers"
  | tooLong digits =>
    "Exceeds the limit (" ++ toString digitLimit ++
      " digits) for integer string conversion: value has " ++ toString digits ++
      " digits; use sys.set_int_max_str_digits() to increase the limit - Consider hexadecimal " ++
      "for huge integer literals to avoid decimal conversion limits."
  | openLiteral triple line =>
    "unterminated " ++ (if triple then "triple-quoted " else "") ++
      "string literal (detected at line " ++ toString line ++ ")"
  | character c =>
    let code := "U+" ++ (String.ofList (Text.hexDigits 4 c.toNat)).toUpper
    if Text.isPrintable c then "invalid character \x27" ++ c.toString ++ "\x27 (" ++ code ++ ")"
    else "invalid non-printable character " ++ code
  | unmatched closer => "unmatched \x27" ++ closer.toString ++ "\x27"
  | mismatched closer opener line =>
    "closing parenthesis \x27" ++ closer.toString ++
      "\x27 does not match opening parenthesis \x27" ++ opener.toString ++ "\x27" ++
      line.elim "" fun line => " on line " ++ toString line
  | tooDeep => "too many nested parentheses"
  | margin => "unindent does not match any outer indentation level"
  | afterBackslash => "unexpected character after line continuation character"
  | endsJoined => "unexpected EOF while parsing"
  | unclosed opener => "\x27" ++ opener.toString ++ "\x27 was never closed"

/-- Whether a fault counts wherever it stands. The others count only for a reader that comes to the
place of the fault. -/
def isFirm : LexicalFault → Bool
  | margin | afterBackslash | endsJoined | unclosed _ => false
  | _ => true

end LexicalFault

/-- Why a literal has no value: an escape in it, an octet literal that is not ASCII, or the form of
the expressions in a formatted one. -/
inductive LiteralFault
  | escape (bad : Text.BadEscape)
  | octetEscape (position : Nat)
  | octetsBeyond
  | loneBrace
  | nested
  | backslash
  | hash
  | openString
  | tooDeep
  | unmatched (bracket : Char)
  | mismatched (closer opener : Char)
  | blank
  | noExpression (before : Char)
  | conversion
  | unclosed
  deriving DecidableEq, Repr

/-- The wording of a fault. -/
def LiteralFault.message : LiteralFault → String
  | .escape bad => "(unicode error) " ++ bad.message
  | .octetEscape position =>
    "(value error) invalid \\x escape at position " ++ toString position
  | .octetsBeyond => "bytes can only contain ASCII literal characters"
  | .loneBrace => "f-string: single \x27\x7d\x27 is not allowed"
  | .nested => "f-string: expressions nested too deeply"
  | .backslash => "f-string expression part cannot include a backslash"
  | .hash => "f-string expression part cannot include \x27#\x27"
  | .openString => "f-string: unterminated string"
  | .tooDeep => "f-string: too many nested parenthesis"
  | .unmatched bracket => "f-string: unmatched \x27" ++ bracket.toString ++ "\x27"
  | .mismatched closer opener =>
    "f-string: closing parenthesis \x27" ++ closer.toString ++
      "\x27 does not match opening parenthesis \x27" ++ opener.toString ++ "\x27"
  | .blank => "f-string: empty expression not allowed"
  | .noExpression c => "f-string: expression required before \x27" ++ c.toString ++ "\x27"
  | .conversion =>
    "f-string: invalid conversion character: expected \x27s\x27, \x27r\x27, or \x27a\x27"
  | .unclosed => "f-string: expecting \x27\x7d\x27"

end ServiceManifest.Source
