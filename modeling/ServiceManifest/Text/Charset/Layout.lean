import ServiceManifest.Text.Ranges

/-!
# How character sets are written
-/

namespace ServiceManifest.Text

/-!
## Character sets in rows

A character set with two octets to a character is laid out in rows of cells. A row is written as the
text of its characters, and a full stop marks a cell without one.
-/

/-- Rows of characters by number. -/
abbrev Grid := List (Nat × String)

/-- The code point in a cell of a row; the cells of a row are counted from zero. -/
def Grid.codePoint? (grid : Grid) (row cell : Nat) : Option Nat :=
  (grid.find? (·.1 = row)).bind fun entry =>
    (entry.2.toList[cell]?).bind fun c => if c = '.' then none else some c.toNat

/-- The code points of all characters in rows, in order. -/
def Grid.codePoints (grid : Grid) : List Nat :=
  grid.flatMap fun entry => (entry.2.toList.filter (· ≠ '.')).map Char.toNat

/-!
## Runs of codes

Where the codes of a character set and the code points of its characters ascend together, a run says
where they begin: `A1-AF:401` says that the codes from A1 to AF stand for the code points from 401
on. Codes without a code point stand for nothing.
-/

/-- Some codes in a row and the code point of the first of them, if they stand for characters. -/
structure CodeRun where
  first : Nat
  last : Nat
  target : Option Nat
  deriving DecidableEq, Repr

namespace CodeRun

/-- A run written as one word. -/
def ofWord (word : List Char) : CodeRun :=
  match word.splitOn ':' with
  | [codes, target] =>
    let (first, last) := Ranges.ofWord codes
    ⟨first, last, if target.isEmpty then none else some (hexValue target)⟩
  | _ => ⟨1, 0, none⟩

/-- The runs written as text, one a word. -/
def ofText (text : String) : List CodeRun := (words text.toList).map ofWord

/-- The run that holds a code. -/
def holding? (runs : List CodeRun) (code : Nat) : Option CodeRun :=
  runs.find? fun run => run.first ≤ code && code ≤ run.last

/-- The code point of a code in a run. -/
def codePoint? (run : CodeRun) (code : Nat) : Option Nat :=
  run.target.map fun target => target + (code - run.first)

end CodeRun

/-- The code point of a code that one of the runs holds. -/
def codePointIn? (runs : List CodeRun) (code : Nat) : Option Nat :=
  (CodeRun.holding? runs code).bind (·.codePoint? code)

/-- The code point of a code that stands for itself unless one of the runs holds it. -/
def codePointOf? (runs : List CodeRun) (code : Nat) : Option Nat :=
  match CodeRun.holding? runs code with
  | some run => run.codePoint? code
  | none => some code

end ServiceManifest.Text
