import ServiceManifest.Console.Markup
import ServiceManifest.Decimal
import ServiceManifest.Text.Lines
import ServiceManifest.Text.Width

/-!
# Breaking lines

A line that is too wide is broken between words. A word that is wider than a whole line is folded
over several lines or cut with an ellipsis. White space at the end of a broken line stays as far as
it fits.
-/

namespace ServiceManifest.Console

/-- What becomes of a word that is wider than a line. -/
inductive Overflow
  | fold
  | ellipsis
  deriving DecidableEq, Repr

/-- The words of a line, each with the white space after it; the first has the white space before it
too. A line of nothing but white space has none. The first argument bounds the number of words. -/
def wordsFrom : Nat → List Char → List (List Char)
  | 0, _ => []
  | fuel + 1, text =>
    let lead := text.takeWhile Text.isBlank
    let (word, rest) := (text.drop lead.length).span fun c => !Text.isBlank c
    if word.isEmpty then []
    else
      let (gap, rest) := rest.span Text.isBlank
      (lead ++ word ++ gap) :: wordsFrom fuel rest

/-- Clusters in pieces that fit into a number of cells; `line` is the current piece and `used` the
number of its cells. What takes no cells at the very end makes no piece of its own. -/
def foldFrom (cells : Nat) (line : List Char) (used : Nat) : List Text.Cluster → List (List Char)
  | [] => if used = 0 then [] else [line]
  | cluster :: rest =>
    if cells < used + cluster.cells then line :: foldFrom cells cluster.chars cluster.cells rest
    else foldFrom cells (line ++ cluster.chars) (used + cluster.cells) rest

/-- A list without the elements of a kind at its end. -/
def dropEnd (drop : Char → Bool) (text : List Char) : List Char :=
  (text.reverse.dropWhile drop).reverse

/-- The lines that words make. `line` is the current line, with its words last first, and `used` the
number of cells that count as used in it. -/
def arrange (overflow : Overflow) (cells : Nat) (line : List (List Char)) (used : Nat) :
    List (List Char) → List (List Char)
  | [] => [line.reverse.flatten]
  | word :: rest =>
    let size := Text.width (dropEnd Text.isBlank word)
    let finish (more : List (List Char)) : List (List Char) :=
      if line.isEmpty then more else line.reverse.flatten :: more
    if used + size ≤ cells then arrange overflow cells (word :: line) (used + Text.width word) rest
    else if cells < size then
      match overflow with
      | .fold =>
        let folded := foldFrom cells [] 0 (Text.clusters word)
        let last := folded.getLastD []
        finish (folded.dropLast ++ arrange overflow cells [last] (Text.width last) rest)
      | .ellipsis => finish (arrange overflow cells [word] (Text.width word) rest)
    else if used ≠ 0 && !line.isEmpty then
      line.reverse.flatten :: arrange overflow cells [word] (Text.width word) rest
    else arrange overflow cells (word :: line) used rest

/-- A line without white space at its end that makes it longer than a number of characters. -/
def trimExcess (cells : Nat) (line : List Char) : List Char :=
  let blanks := line.length - (dropEnd Text.isBlank line).length
  line.take (line.length - min blanks (line.length - cells))

/-- A line cut to a number of cells. -/
def crop (overflow : Overflow) (cells : Nat) (line : List Char) : List Char :=
  if Text.width line ≤ cells then line
  else
    match overflow with
    | .fold => Text.fitWidth cells line
    | .ellipsis => Text.fitWidth (cells - 1) line ++ ['…']

/-- A line in pieces between tabs, each but the last with a space for the tab behind it and more up
to the next multiple of eight cells; `used` is the number of cells before it. -/
def expandPieces (used : Nat) : List (List Char) → List Char
  | [] => []
  | [piece] => piece
  | piece :: rest =>
    let used := used + Text.width (piece ++ [' '])
    let spaces := (8 - used % 8) % 8
    piece ++ List.replicate (spaces + 1) ' ' ++ expandPieces (used + spaces) rest

/-- A line with every tab as spaces up to the next multiple of eight cells. -/
def expandTabs (line : List Char) : List Char := expandPieces 0 (line.splitOn '\t')

/-- The lines of one line of text in a number of cells. -/
def wrapLine (overflow : Overflow) (cells : Nat) (line : List Char) : List (List Char) :=
  let line := expandTabs line
  let words := wordsFrom line.length line
  let lines := if words.isEmpty then [line] else arrange overflow cells [] 0 words
  lines.map fun line => crop overflow cells (trimExcess cells line)

/-- The lines of a text in a number of cells. -/
def wrap (overflow : Overflow) (cells : Nat) (text : List Char) : List (List Char) :=
  (text.splitOn '\n').flatMap (wrapLine overflow cells)

/-!
## Tables

A table has a heavy frame around its head and a light one around its rows. A column is as wide as
its widest cell and a space on either side. If that is too wide for the console, the widest columns
give way first, down to the next in width and then together.
-/

/-- A column: its title and its cells from the top, all in markup. -/
structure Column where
  title : String
  cells : List String
  deriving DecidableEq, Repr

/-- The texts that cells show, up to the first cell with a fault. -/
def visibleCells : List String → Except MarkupFault (List (List Char))
  | [] => .ok []
  | cell :: rest =>
    match visible cell with
    | .error fault => .error fault
    | .ok text => (visibleCells rest).map (text :: ·)

/-- The texts of columns, each with its title first. -/
def visibleColumns : List Column → Except MarkupFault (List (List (List Char)))
  | [] => .ok []
  | column :: rest =>
    match visibleCells (column.title :: column.cells) with
    | .error fault => .error fault
    | .ok texts => (visibleColumns rest).map (texts :: ·)

/-- The cells that a text with several lines takes, and a space on either side. -/
def cellWidth (text : List Char) : Nat :=
  ((Text.lines text).map Text.width).foldl max 0 + 2

/-- The width of a column of at most `cells` cells. -/
def columnWidth (cells : Nat) (texts : List (List Char)) : Nat :=
  min cells ((texts.map cellWidth).foldl max 0)

/-- Take a total away from the chosen widths in equal shares of at most `most` each; `left` of them
are still to come. -/
def shrink (most : Nat) : Nat → Nat → List (Nat × Bool) → List Nat
  | _, _, [] => []
  | total, left, (width, chosen) :: rest =>
    if chosen && 0 < left && 0 < most then
      let share := min most (Decimal.roundedQuotient total left)
      (width - share) :: shrink most (total - share) (left - 1) rest
    else width :: shrink most total left rest

/-- The cells that columns of these widths take together. -/
def totalWidth (widths : List Nat) : Nat := widths.foldr (· + ·) 0

/-- Narrow the widest columns until all fit. The first argument bounds the number of steps. -/
def narrow (cells : Nat) : Nat → List Nat → List Nat
  | 0, widths => widths
  | fuel + 1, widths =>
    let excess := totalWidth widths - cells
    let widest := widths.foldl max 0
    let next := (widths.filter (· ≠ widest)).foldl max 0
    if excess = 0 || widest = next then widths
    else
      let chosen := widths.map fun width => (width, decide (width = widest))
      narrow cells fuel
        (shrink (min excess (widest - next)) excess (widths.count widest) chosen)

/-- The widths of columns that together have at most `cells` cells. -/
def columnWidths (cells : Nat) (columns : List (List (List Char))) : List Nat :=
  let widths := columns.map (columnWidth cells)
  if totalWidth widths ≤ cells then widths
  else
    ((narrow cells (widths.length + 1) widths).zip columns).map fun (width, texts) =>
      columnWidth width texts

/-- The lines of a cell in a column of a width, each as wide as the column. A line is filled twice:
a joiner at its end takes the first space behind it, which is then missing. -/
def cellLines (width : Nat) (text : List Char) : List (List Char) :=
  let fill (line : List Char) : List Char := Text.fitWidth (width - 2) line
  (wrap .ellipsis (width - 2) text).map fun line => ' ' :: fill (fill line) ++ [' ']

/-- A line of a row: the parts of its cells between separators. -/
def frameLine (left separator right : Char) (parts : List (List Char)) : List Char :=
  left :: [separator].intercalate parts ++ [right, '\n']

/-- A line of a frame over columns of these widths. -/
def ruleLine (left line separator right : Char) (widths : List Nat) : List Char :=
  frameLine left separator right (widths.map fun width => List.replicate width line)

/-- A row: as many lines as its tallest cell has. -/
def rowLines (bar : Char) (widths : List Nat) (row : List (List Char)) : List Char :=
  let cells := (widths.zip row).map fun (width, text) => (width, cellLines width text)
  let height := (cells.map fun cell => cell.2.length).foldl max 0
  (List.range height).flatMap fun i =>
    frameLine bar bar bar (cells.map fun (width, lines) =>
      lines.getD i (List.replicate width ' '))

/-- The rows of columns. -/
def rowsOf (columns : List (List (List Char))) : List (List (List Char)) :=
  let height := (columns.map List.length).foldl max 0
  (List.range height).map fun i => columns.map fun texts => texts.getD i []

/-- A table on a console of a width. -/
def table (cells : Nat) (columns : List Column) : Except MarkupFault (List Char) :=
  (visibleColumns columns).map fun texts =>
    let widths := columnWidths (cells - (columns.length + 1)) texts
    let rows := rowsOf texts
    ruleLine '┏' '━' '┳' '┓' widths ++ (rows.take 1).flatMap (rowLines '┃' widths) ++
      ruleLine '┡' '━' '╇' '┩' widths ++ (rows.drop 1).flatMap (rowLines '│' widths) ++
      ruleLine '└' '─' '┴' '┘' widths

end ServiceManifest.Console
