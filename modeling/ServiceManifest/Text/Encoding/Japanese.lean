import ServiceManifest.Text.Charset.Jis
import ServiceManifest.Text.Encoding.Basic

/-!
# Japanese encodings

Shift JIS folds the rows of a character set into pairs that begin where no half-width katakana
stand; EUC JP sets the high bit of both octets of a cell and has single shifts for two more sets.
Both are read with the character set of 1983 or with the later one, which has two planes.
-/

namespace ServiceManifest.Text.Japanese

/-- The code point of a half-width katakana octet. -/
def katakana? (octet : Nat) : Option Nat :=
  if 0xA1 ≤ octet && octet ≤ 0xDF then some (octet + 0xFEC0) else none

/-- The place of the second octet of a folded pair. -/
def foldedPlace? (second : Nat) : Option Nat :=
  if second < 0x40 || second = 0x7F || 0xFC < second then none
  else some (if second < 0x80 then second - 0x40 else second - 0x41)

/-- What a function of row and cell says about a folded pair. -/
def folded? {α : Type} (cell : Nat → Nat → Option α) (first second : Nat) : Option α :=
  let lead := if first < 0xE0 then first - 0x81 else first - 0xC1
  (foldedPlace? second).bind fun place => cell (2 * lead + 1 + place / 94) (place % 94)

/-- Shift JIS. -/
def shiftJis : FrontReader := asciiOr fun first rest =>
  match katakana? first.toNat with
  | some code => alone code rest
  | none =>
    if first = 0x80 || first = 0xA0 then none
    else inPair (folded? jisX0208.codePoint?) first rest

/-- A pair in the form of Shift JIS that vendors have extended. Pairs from F0 to F9 are for private
use. -/
def vendorPair? (first second : Nat) : Option Nat :=
  if 0xF0 ≤ first && first ≤ 0xF9 then
    (foldedPlace? second).map fun place => 0xE000 + 188 * (first - 0xF0) + place
  else
    (folded? jisVendor.codePoint? first second).or (folded? jisX0208.codePoint? first second)

/-- Code page 932, the Shift JIS that vendors have extended. -/
def codePage932 : FrontReader := asciiOr fun first rest =>
  match katakana? first.toNat with
  | some code => alone code rest
  | none =>
    if first = 0x80 then alone 0x80 rest
    else if first = 0xA0 then alone 0xF8F0 rest
    else if 0xFD ≤ first then alone (first.toNat - 0xFD + 0xF8F1) rest
    else inPair vendorPair? first rest

/-- What follows a single shift: `short` reads one octet after the first shift, `long` two after the
second. Other octets begin a pair. -/
def shifted (long : Nat → Nat → Option Nat) (pair : UInt8 → FrontReader) : FrontReader :=
  asciiOr fun first rest =>
    if first = 0x8E then
      match rest with
      | [] => none
      | kana :: rest => (katakana? kana.toNat).map fun code => ([code], rest)
    else if first = 0x8F then
      match rest with
      | [] => none
      | second :: rest => inPair long second rest
    else pair first rest

/-- EUC JP. -/
def eucJp : FrontReader :=
  shifted (atCell? jisX0212.codePoint?) (inPair (atCell? jisX0208.codePoint?))

/-- The editions of the later character set. -/
inductive Edition
  | of2000
  | of2004
  deriving DecidableEq, Repr

/-- The cells that the edition of 2004 has filled. -/
def laterCells : List (Nat × Nat) :=
  [(14, 0), (15, 93), (47, 51), (47, 93), (84, 6), (94, 89), (94, 90), (94, 91), (94, 92), (94, 93)]

/-- The cells with a letter and a mark that have no code point together. -/
def composedCells : List ((Nat × Nat) × List Nat) :=
  [((4, 86), [0x304B, 0x309A]), ((4, 87), [0x304D, 0x309A]), ((4, 88), [0x304F, 0x309A]),
    ((4, 89), [0x3051, 0x309A]), ((4, 90), [0x3053, 0x309A]), ((5, 86), [0x30AB, 0x309A]),
    ((5, 87), [0x30AD, 0x309A]), ((5, 88), [0x30AF, 0x309A]), ((5, 89), [0x30B1, 0x309A]),
    ((5, 90), [0x30B3, 0x309A]), ((5, 91), [0x30BB, 0x309A]), ((5, 92), [0x30C4, 0x309A]),
    ((5, 93), [0x30C8, 0x309A]), ((6, 87), [0x31F7, 0x309A]), ((11, 35), [0xE6, 0x300]),
    ((11, 39), [0x254, 0x300]), ((11, 40), [0x254, 0x301]), ((11, 41), [0x28C, 0x300]),
    ((11, 42), [0x28C, 0x301]), ((11, 43), [0x259, 0x300]), ((11, 44), [0x259, 0x301]),
    ((11, 45), [0x25A, 0x300]), ((11, 46), [0x25A, 0x301]), ((11, 68), [0x2E9, 0x2E5]),
    ((11, 69), [0x2E5, 0x2E9])]

/-- The code points of a cell in the first plane of the later character set. -/
def firstPlane? (edition : Edition) (row cell : Nat) : Option (List Nat) :=
  if edition = .of2000 && laterCells.contains (row, cell) then none
  else
    match jisX0208.codePoint? row cell, jisX0213First.codePoint? row cell with
    | some code, _ => some [code]
    | none, some code => some [code]
    | none, none => (composedCells.find? (·.1 = (row, cell))).map (·.2)

/-- The code point of a cell in the second plane. -/
def secondPlane? (edition : Edition) (row cell : Nat) : Option Nat :=
  if edition = .of2000 && row = 93 && cell = 26 then some 0x9B1D
  else jisX0213Second.codePoint? row cell

/-- The rows of the second plane in the order in which they are folded. -/
def secondPlaneRows : List Nat :=
  [1, 8, 3, 4, 5, 12, 13, 14, 15, 78, 79, 80, 81, 82, 83, 84, 85, 86, 87, 88, 89, 90, 91, 92, 93,
    94]

/-- The code points of a folded pair with the later character set. Two cells keep the characters
that ASCII has and this encoding has not. -/
def laterFolded? (edition : Edition) (first second : Nat) : Option (List Nat) :=
  if first < 0xF0 then
    folded? (fun row cell =>
      if row = 1 && cell = 31 then some [0x5C]
      else if row = 2 && cell = 17 then some [0x7E]
      else firstPlane? edition row cell) first second
  else
    (foldedPlace? second).bind fun place =>
      (secondPlaneRows[2 * (first - 0xF0) + place / 94]?).bind fun row =>
        (secondPlane? edition row (place % 94)).map fun code => [code]

/-- Shift JIS with the later character set, whose backslash and tilde are a yen sign and an
overline. -/
def laterShiftJis (edition : Edition) : FrontReader
  | [] => none
  | first :: rest =>
    if first = 0x5C then alone 0xA5 rest
    else if first = 0x7E then alone 0x203E rest
    else if first < 0x80 then alone first.toNat rest
    else
      match katakana? first.toNat, rest with
      | some code, rest => alone code rest
      | none, [] => none
      | none, second :: rest =>
        if first = 0x80 || first = 0xA0 then none
        else (laterFolded? edition first.toNat second.toNat).map fun codes => (codes, rest)

/-- EUC JP with the later character set. -/
def laterEucJp (edition : Edition) : FrontReader :=
  shifted
    (fun first second =>
      (atCell? (secondPlane? edition) first second).or (atCell? jisX0212.codePoint? first second))
    fun first rest =>
      match rest with
      | [] => none
      | second :: rest =>
        (atCell? (firstPlane? edition) first.toNat second.toNat).map fun codes => (codes, rest)

end ServiceManifest.Text.Japanese
