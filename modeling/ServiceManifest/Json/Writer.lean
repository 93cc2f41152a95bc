import ServiceManifest.Decimal
import ServiceManifest.Json.Value
import ServiceManifest.Text.Quoted

/-!
# Writing JSON

JSON is written in ASCII: every character from U+007F on is escaped, beyond U+FFFF as a surrogate
pair. A document has one of two layouts: on one line in the order of its entries, or indented by two
spaces a level with the entries by ascending name.
-/

namespace ServiceManifest.Json

/-- An escape with four hexadecimal digits. -/
def unitEscape (unit : Nat) : List Char := '\\' :: 'u' :: Text.hexDigits 4 unit

/-- How a character is written in a string. -/
def escapeChar (c : Char) : List Char :=
  if c = '\x22' ∨ c = '\\' then ['\\', c]
  else if c = '\n' then ['\\', 'n']
  else if c = '\r' then ['\\', 'r']
  else if c = '\t' then ['\\', 't']
  else if c = '\x0c' then ['\\', 'f']
  else if c = '\x08' then ['\\', 'b']
  else if 0x20 ≤ c.toNat ∧ c.toNat < 0x7F then [c]
  else if c.toNat < 0x10000 then unitEscape c.toNat
  else
    unitEscape (0xD800 + (c.toNat - 0x10000) / 0x400) ++
      unitEscape (0xDC00 + (c.toNat - 0x10000) % 0x400)

/-- A string in quotes. -/
def renderString (s : String) : String :=
  String.ofList ('\x22' :: s.toList.flatMap escapeChar ++ ['\x22'])

/-- A floating number; the three that are not finite have names. -/
def renderFloat (x : Float) : String :=
  if x.isNaN then "NaN"
  else if x.isInf then (if x < 0.0 then "-Infinity" else "Infinity")
  else Decimal.render x

/-- A value that holds no others. -/
def renderAtom : Value → String
  | .null => "null"
  | .bool true => "true"
  | .bool false => "false"
  | .int value => toString value
  | .float value => renderFloat value
  | .string value => renderString value
  | .array _ => "[]"
  | .object _ => "\x7b\x7d"

mutual

/-- A value on one line. -/
def renderLine : Value → String
  | .array items => "[" ++ ", ".intercalate (renderLineItems items) ++ "]"
  | .object entries => "\x7b" ++ ", ".intercalate (renderLineEntries entries) ++ "\x7d"
  | atom => renderAtom atom

/-- The items of an array, each on one line. -/
def renderLineItems : List Value → List String
  | [] => []
  | item :: rest => renderLine item :: renderLineItems rest

/-- The entries of an object, each on one line. -/
def renderLineEntries : List (String × Value) → List String
  | [] => []
  | (name, value) :: rest =>
    (renderString name ++ ": " ++ renderLine value) :: renderLineEntries rest

end

/-- A line break and the indentation of a level. -/
def breakLine (level : Nat) : String :=
  String.ofList ('\n' :: List.replicate (2 * level) ' ')

/-- What stands between two brackets, one piece a line. -/
def block (first last : String) (level : Nat) (pieces : List String) : String :=
  if pieces.isEmpty then first ++ last
  else
    first ++ breakLine (level + 1) ++ ("," ++ breakLine (level + 1)).intercalate pieces ++
      breakLine level ++ last

mutual

/-- A value in the indented layout, inside `level` brackets. -/
def renderBlock (level : Nat) : Value → String
  | .array items => block "[" "]" level (renderBlockItems (level + 1) items)
  | .object entries =>
    block "\x7b" "\x7d" level
      ((Keyed.ascending (renderBlockEntries (level + 1) entries)).map
        fun (name, text) => renderString name ++ ": " ++ text)
  | atom => renderAtom atom

/-- The items of an array in the indented layout. -/
def renderBlockItems (level : Nat) : List Value → List String
  | [] => []
  | item :: rest => renderBlock level item :: renderBlockItems level rest

/-- The entries of an object in the indented layout, each with its name. -/
def renderBlockEntries (level : Nat) : List (String × Value) → List (String × String)
  | [] => []
  | (name, value) :: rest => (name, renderBlock level value) :: renderBlockEntries level rest

end

end ServiceManifest.Json
