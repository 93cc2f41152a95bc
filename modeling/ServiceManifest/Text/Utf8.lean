/-!
# Reading UTF-8

Bytes are read as UTF-8 one character at a time. Where they are no well-formed text, reading stops
at the first octet of the sequence that cannot be completed and says why: the octet starts no
sequence, a later octet does not continue it, or the bytes end inside it.
-/

namespace ServiceManifest.Text

/-- Why bytes are not UTF-8. -/
inductive Utf8Defect
  | invalidStart
  | invalidContinuation
  | unexpectedEnd
  deriving DecidableEq, Repr

/-- A sequence that is not UTF-8: the offsets of its first octet and of its last, the first octet
itself and the defect. -/
structure Utf8Fault where
  start : Nat
  last : Nat
  octet : UInt8
  defect : Utf8Defect
  deriving DecidableEq, Repr

namespace Utf8

/-- What the wording of a fault says about the defect. -/
def reason : Utf8Defect → String
  | .invalidStart => "invalid start byte"
  | .invalidContinuation => "invalid continuation byte"
  | .unexpectedEnd => "unexpected end of data"

/-- Whether an octet lies in inclusive bounds. -/
def inBounds (low high : Nat) (octet : UInt8) : Bool :=
  low ≤ octet.toNat && octet.toNat ≤ high

/-- The number of continuation octets after a first octet, with the bounds of the next one. -/
def shape? (octet : UInt8) : Option (Nat × Nat × Nat) :=
  let b := octet.toNat
  if b < 0x80 then some (0, 0, 0)
  else if b < 0xC2 then none
  else if b < 0xE0 then some (1, 0x80, 0xBF)
  else if b = 0xE0 then some (2, 0xA0, 0xBF)
  else if b = 0xED then some (2, 0x80, 0x9F)
  else if b < 0xF0 then some (2, 0x80, 0xBF)
  else if b = 0xF0 then some (3, 0x90, 0xBF)
  else if b < 0xF4 then some (3, 0x80, 0xBF)
  else if b = 0xF4 then some (3, 0x80, 0x8F)
  else none

/-- One character read from the front of the octets: the character and the number of octets it
takes, or the number of octets that were good and the defect. -/
def decodeChar (first : UInt8) (rest : List UInt8) : Except (Nat × Utf8Defect) (Char × Nat) :=
  let tail (b : UInt8) : Nat := b.toNat % 64
  match shape? first with
  | none => .error (1, .invalidStart)
  | some (0, _, _) => .ok (Char.ofNat first.toNat, 1)
  | some (owed, low, high) =>
    match rest with
    | [] => .error (1, .unexpectedEnd)
    | b :: rest =>
      if !inBounds low high b then .error (1, .invalidContinuation)
      else if owed = 1 then .ok (Char.ofNat (first.toNat % 32 * 64 + tail b), 2)
      else
        match rest with
        | [] => .error (2, .unexpectedEnd)
        | c :: rest =>
          if !inBounds 0x80 0xBF c then .error (2, .invalidContinuation)
          else if owed = 2 then
            .ok (Char.ofNat ((first.toNat % 16 * 64 + tail b) * 64 + tail c), 3)
          else
            match rest with
            | [] => .error (3, .unexpectedEnd)
            | d :: _ =>
              if !inBounds 0x80 0xBF d then .error (3, .invalidContinuation)
              else
                .ok (Char.ofNat (((first.toNat % 8 * 64 + tail b) * 64 + tail c) * 64 + tail d), 4)

/-- The characters of octets that start at an offset. The first argument bounds the number of
characters. -/
def decodeFrom : Nat → Nat → List UInt8 → Except Utf8Fault (List Char)
  | 0, _, _ => .ok []
  | _ + 1, _, [] => .ok []
  | fuel + 1, offset, first :: rest =>
    match decodeChar first rest with
    | .error (good, defect) => .error ⟨offset, offset + good - 1, first, defect⟩
    | .ok (c, size) =>
      match decodeFrom fuel (offset + size) (rest.drop (size - 1)) with
      | .ok cs => .ok (c :: cs)
      | .error fault => .error fault

end Utf8

/-- The text that bytes hold. -/
def ofUtf8 (bytes : ByteArray) : Except Utf8Fault String :=
  match String.fromUTF8? bytes with
  | some s => .ok s
  | none => (Utf8.decodeFrom bytes.size 0 bytes.toList).map String.ofList

/-- The wording of a fault. -/
def Utf8Fault.message (fault : Utf8Fault) : String :=
  let digits := Nat.toDigits 16 fault.octet.toNat
  let octet := String.ofList (List.replicate (2 - digits.length) '0' ++ digits)
  if fault.start = fault.last then
    "\x27utf-8\x27 codec can\x27t decode byte 0x" ++ octet ++ " in position " ++
      toString fault.start ++ ": " ++ Utf8.reason fault.defect
  else
    "\x27utf-8\x27 codec can\x27t decode bytes in position " ++ toString fault.start ++ "-" ++
      toString fault.last ++ ": " ++ Utf8.reason fault.defect

end ServiceManifest.Text
