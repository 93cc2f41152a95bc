import ServiceManifest.Text.Encoding.Basic

/-!
# UTF-7

ASCII stands for itself, except for the plus sign: it begins a section in base 64, which holds the
UTF-16 units of further characters. The section ends at the first octet that is no digit of base 64;
a hyphen there belongs to it. A plus sign with a hyphen is a plus sign.
-/

namespace ServiceManifest.Text.Utf7

/-- The value of a digit of base 64. -/
def digit? (b : UInt8) : Option Nat :=
  if 0x41 ≤ b && b ≤ 0x5A then some (b.toNat - 0x41)
  else if 0x61 ≤ b && b ≤ 0x7A then some (b.toNat - 0x61 + 26)
  else if 0x30 ≤ b && b ≤ 0x39 then some (b.toNat - 0x30 + 52)
  else if b = 0x2B then some 62
  else if b = 0x2F then some 63
  else none

/-- Where the reading of a section stands: the bits that belong to no unit yet and their number, and
a high surrogate that waits for its partner. -/
structure Section where
  bits : Nat
  count : Nat
  high : Option Nat

namespace Section

/-- A section at its beginning. -/
def start : Section := ⟨0, 0, none⟩

/-- One more unit: the code points that are settled, and the surrogate that waits. -/
def unit (high : Option Nat) (unit : Nat) : List Nat × Option Nat :=
  match high with
  | some first =>
    if 0xDC00 ≤ unit && unit ≤ 0xDFFF then
      ([0x10000 + (first - 0xD800) * 0x400 + (unit - 0xDC00)], none)
    else if 0xD800 ≤ unit && unit ≤ 0xDBFF then ([first], some unit)
    else ([first, unit], none)
  | none => if 0xD800 ≤ unit && unit ≤ 0xDBFF then ([], some unit) else ([unit], none)

/-- One more digit: the code points that it settles and the section after it. -/
def add (state : Section) (digit : Nat) : List Nat × Section :=
  let bits := state.bits * 64 + digit
  let count := state.count + 6
  if count < 16 then ([], { state with bits := bits, count := count })
  else
    let rest := Nat.pow 2 (count - 16)
    let (codes, high) := unit state.high (bits / rest)
    (codes, ⟨bits % rest, count - 16, high⟩)

/-- Whether the section may end here: what is left are fewer bits than a digit has, all zero. -/
def mayEnd (state : Section) : Bool := state.count < 6 && state.bits = 0

end Section

/-- The text of octets, from some place on; inside a section its state is known. -/
def readFrom : Option Section → Decoder
  | none, [] => some []
  | some state, [] => if state.mayEnd && state.high.isNone then some [] else none
  | some state, b :: rest =>
    match digit? b with
    | some digit =>
      let (codes, state) := state.add digit
      (readFrom (some state) rest).map (codes ++ ·)
    | none =>
      if !state.mayEnd then none
      else if b = 0x2D then (readFrom none rest).map (state.high.toList ++ ·)
      else if b < 0x80 then (readFrom none rest).map (state.high.toList ++ b.toNat :: ·)
      else none
  | none, b :: rest =>
    if b = 0x2B then
      match rest with
      | [] => some []
      | next :: after =>
        if next = 0x2D then (readFrom none after).map (0x2B :: ·)
        else if (digit? next).isSome then readFrom (some .start) (next :: after)
        else none
    else if b < 0x80 then (readFrom none rest).map (b.toNat :: ·)
    else none
termination_by _ octets => octets.length

/-- UTF-7. -/
def decoder : Decoder := readFrom none

end ServiceManifest.Text.Utf7
