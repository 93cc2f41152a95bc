import ServiceManifest.Text.Printable

/-!
# Quoted text

A text is quoted with single quotes, or with double quotes when it holds a single quote and no
double one. The quote and the backslash are escaped, so are line feed, carriage return and tab, and
every other character that is not printable is written as `\xNN`, `\uNNNN` or `\UNNNNNNNN`.
-/

namespace ServiceManifest.Text

/-- A number in lower case hexadecimal digits, at least `width` of them. -/
def hexDigits (width value : Nat) : List Char :=
  let digits := Nat.toDigits 16 value
  List.replicate (width - digits.length) '0' ++ digits

namespace Quoted

/-- The quote that surrounds a text. -/
def quoteFor (s : List Char) : Char :=
  if s.contains '\x27' && !s.contains '\x22' then '\x22' else '\x27'

/-- How one character is written between the quotes `quote`. -/
def escape (quote c : Char) : List Char :=
  if c = quote ∨ c = '\\' then ['\\', c]
  else if c = '\n' then ['\\', 'n']
  else if c = '\r' then ['\\', 'r']
  else if c = '\t' then ['\\', 't']
  else if isPrintable c then [c]
  else if c.toNat < 0x100 then '\\' :: 'x' :: hexDigits 2 c.toNat
  else if c.toNat < 0x10000 then '\\' :: 'u' :: hexDigits 4 c.toNat
  else '\\' :: 'U' :: hexDigits 8 c.toNat

/-- A quoted list of characters. -/
def encode (s : List Char) : List Char :=
  quoteFor s :: s.flatMap (escape (quoteFor s)) ++ [quoteFor s]

end Quoted

/-- A text in quotes. -/
def quoted (s : String) : String := String.ofList (Quoted.encode s.toList)

/-- Texts in brackets, each in quotes, separated by commas. -/
def quotedList (items : List String) : String :=
  "[" ++ ", ".intercalate (items.map quoted) ++ "]"

/-- Texts in parentheses, each in quotes; a single one is followed by a comma. -/
def quotedTuple : List String → String
  | [item] => "(" ++ quoted item ++ ",)"
  | items => "(" ++ ", ".intercalate (items.map quoted) ++ ")"

end ServiceManifest.Text
