import ServiceManifest.Source.Fault

/-!
# Tokens

The units of source text that the grammar is about. Layout is made explicit: a line that ends is a
token, and so is every deeper indentation and every return from one.
-/

namespace ServiceManifest.Source

/-- What a string literal stands for: octets, the code points of a text, or a text that is formatted
when the program runs, with the expressions in it up to a fault. A literal with a fault has no
value. -/
inductive StringValue
  | octets
  | text (codes : List Nat)
  | formatted (expressions : List (List Char)) (fault : Option LiteralFault)
  | malformed (fault : LiteralFault)
  deriving DecidableEq, Repr

/-- What a token is. A name that is no keyword is kept in its normal form. -/
inductive Lexeme
  | name (id : String)
  | keyword (word : String)
  | number (imaginary : Bool)
  | string (value : StringValue)
  | mark (text : String)
  | lineEnd
  | indent
  | dedent
  | textEnd
  deriving DecidableEq, Repr

/-- A token, the line on which it starts, and whether it is written just as its lexeme says: a name
may be written in another form than its normal one. -/
structure Token where
  lexeme : Lexeme
  line : Nat
  verbatim : Bool
  deriving DecidableEq, Repr

/-- The words that are no names. -/
def keywords : List String :=
  ["False", "None", "True", "and", "as", "assert", "async", "await", "break", "class", "continue",
    "def", "del", "elif", "else", "except", "finally", "for", "from", "global", "if", "import",
    "in", "is", "lambda", "nonlocal", "not", "or", "pass", "raise", "return", "try", "while", "with",
    "yield"]

end ServiceManifest.Source
