/-!
# White space and lines
-/

namespace ServiceManifest.Text

/-!
## White space

The characters that separate words in any script: the separators of category Zs and those of the
bidirectional types WS, B and S. Stripping removes them at both ends of a text and nothing inside
it.
-/

/-- Whether a code point is white space. -/
def isBlankCode (code : Nat) : Bool :=
  (9 ≤ code && code ≤ 13) || (0x1C ≤ code && code ≤ 0x20) || code == 0x85 || code == 0xA0 ||
    code == 0x1680 || (0x2000 ≤ code && code ≤ 0x200A) || code == 0x2028 || code == 0x2029 ||
    code == 0x202F || code == 0x205F || code == 0x3000

/-- Whether a character is white space. -/
def isBlank (c : Char) : Bool := isBlankCode c.toNat

/-- Drop the elements of a kind at both ends of a list. -/
def trimList {α : Type} (drop : α → Bool) (xs : List α) : List α :=
  ((xs.dropWhile drop).reverse.dropWhile drop).reverse

/-- A text without the white space at its ends. -/
def strip (s : String) : String := String.ofList (trimList isBlank s.toList)

/-!
## Lines

Two ways to see the lines of a text. Reading a text file turns the line ends `\r\n` and `\r` into
`\n`. Splitting a text into lines knows more boundaries: vertical tab, form feed, the separators
U+001C to U+001E, next line, and the line and paragraph separators.
-/

/-- Every line end as a line feed. -/
def unifyLineEnds : List Char → List Char
  | [] => []
  | '\r' :: '\n' :: rest => '\n' :: unifyLineEnds rest
  | c :: rest => (if c = '\r' then '\n' else c) :: unifyLineEnds rest

/-- Whether a character ends a line. -/
def isLineBoundary (c : Char) : Bool :=
  (10 ≤ c.toNat && c.toNat ≤ 13) || (0x1C ≤ c.toNat && c.toNat ≤ 0x1E) || c.toNat == 0x85 ||
    c.toNat == 0x2028 || c.toNat == 0x2029

/-- The lines of a text that goes on after `line`, which is kept last character first. -/
def linesFrom (line : List Char) : List Char → List (List Char)
  | [] => if line.isEmpty then [] else [line.reverse]
  | '\r' :: '\n' :: rest => line.reverse :: linesFrom [] rest
  | c :: rest =>
    if isLineBoundary c then line.reverse :: linesFrom [] rest else linesFrom (c :: line) rest

/-- The lines of a text without their ends; a last line need not be ended. -/
def lines (text : List Char) : List (List Char) := linesFrom [] text

end ServiceManifest.Text
