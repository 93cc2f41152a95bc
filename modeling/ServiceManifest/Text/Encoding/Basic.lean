/-!
# Reading encoded text

An encoding is read from the front: some octets give some code points, and the rest is read in the
same way. Octets that have no meaning leave the whole text without one. What is read are code
points; whether they are characters is not the matter of an encoding.
-/

namespace ServiceManifest.Text

/-- How octets give the code points of a text. -/
abbrev Decoder := List UInt8 → Option (List Nat)

/-- How the octets at the front of a text give code points, with the octets behind them. -/
abbrev FrontReader := List UInt8 → Option (List Nat × List UInt8)

/-- All code points that a reader gives. The number bounds the steps. -/
def readFronts (front : FrontReader) : Nat → Decoder
  | _, [] => some []
  | 0, _ => none
  | fuel + 1, octets =>
    match front octets with
    | none => none
    | some (codes, rest) => (readFronts front fuel rest).map (codes ++ ·)

/-- The decoder that reads from the front. -/
def FrontReader.decoder (front : FrontReader) : Decoder := fun octets =>
  readFronts front octets.length octets

/-- One code point from an octet that may stand alone. -/
def alone (code : Nat) (rest : List UInt8) : Option (List Nat × List UInt8) := some ([code], rest)

/-- Octets below 80 stand for themselves; `high` reads from any other on. -/
def asciiOr (high : UInt8 → FrontReader) : FrontReader
  | [] => none
  | b :: rest => if b < 0x80 then alone b.toNat rest else high b rest

/-- An octet that makes one code point with the next. -/
def inPair (pair : Nat → Nat → Option Nat) (first : UInt8) : FrontReader
  | [] => none
  | second :: rest => (pair first.toNat second.toNat).map fun code => ([code], rest)

/-- The place of an octet among those from A1 to FE, which are the cells of a row. -/
def highCell? (octet : Nat) : Option Nat :=
  if 0xA1 ≤ octet && octet ≤ 0xFE then some (octet - 0xA1) else none

/-- What a function of row and cell says about two octets from A1 to FE. Rows are counted from one
and cells from zero. -/
def atCell? {α : Type} (cell : Nat → Nat → Option α) (first second : Nat) : Option α :=
  (highCell? first).bind fun row => (highCell? second).bind fun place => cell (row + 1) place

end ServiceManifest.Text
