import ServiceManifest.Text.Charset.KsX1001
import ServiceManifest.Text.Encoding.Basic

/-!
# Korean encodings

EUC KR holds the syllables of a character set and spells others with their letters; code page 949
has further pairs for all syllables that the set lacks, in the order of their code points; Johab
makes every syllable of three groups of five bits.
-/

namespace ServiceManifest.Text.Korean

/-- The letters that can begin a syllable, as places among the compatibility letters. -/
def leadLetters : List Nat := [0, 1, 3, 6, 7, 8, 16, 17, 18, 20, 21, 22, 23, 24, 25, 26, 27, 28, 29]

/-- The letters that can end a syllable, as places among the compatibility letters. -/
def tailLetters : List Nat :=
  [0, 1, 2, 3, 4, 5, 6, 8, 9, 10, 11, 12, 13, 14, 15, 16, 17, 19, 20, 21, 22, 23, 25, 26, 27, 28,
    29]

/-- The code point of the first compatibility letter. -/
def firstLetter : Nat := 0x3131

/-- The code point of the first compatibility vowel. -/
def firstVowel : Nat := 0x314F

/-- The code point of a syllable by the numbers of its letters; a syllable without a tail has the
tail zero. -/
def syllable (lead vowel tail : Nat) : Nat := 0xAC00 + lead * 588 + vowel * 28 + tail

/-- The syllable that is spelled by the second octets of three pairs. -/
def spelled? (lead vowel tail : UInt8) : Option Nat :=
  let tail? : Option Nat :=
    if tail = 0xD4 then some 0 else (tailLetters.idxOf? (tail.toNat - 0xA1)).map (· + 1)
  match leadLetters.idxOf? (lead.toNat - 0xA1), tail? with
  | some first, some last =>
    if 0xA1 ≤ lead && 0xA1 ≤ tail && 0xBF ≤ vowel && vowel ≤ 0xD3 then
      some (syllable first (vowel.toNat - 0xBF) last)
    else none
  | _, _ => none

/-- EUC KR. A filler announces a syllable that is spelled with three letters. -/
def eucKr : FrontReader := asciiOr fun first rest =>
  match first, rest with
  | 0xA4, 0xD4 :: 0xA4 :: lead :: 0xA4 :: vowel :: 0xA4 :: tail :: rest =>
    (spelled? lead vowel tail).map fun code => ([code], rest)
  | 0xA4, 0xD4 :: _ => none
  | _, rest => inPair (atCell? ksX1001.codePoint?) first rest

/-- The syllables that the character set lacks. -/
def furtherSyllables : Thunk (Array Nat) := Thunk.mk fun _ =>
  let listed := (ksX1001.codePoints.filter (0xAC00 ≤ ·)).foldl
    (fun found code => found.setIfInBounds (code - 0xAC00) true) (Array.replicate 11172 false)
  ((List.range 11172).filter fun i => !listed.getD i false).toArray.map (· + 0xAC00)

/-- The place of the second octet of a further pair. -/
def furtherPlace? (second : Nat) : Option Nat :=
  if 0x41 ≤ second && second ≤ 0x5A then some (second - 0x41)
  else if 0x61 ≤ second && second ≤ 0x7A then some (second - 0x61 + 26)
  else if 0x81 ≤ second && second ≤ 0xFE then some (second - 0x81 + 52)
  else none

/-- A further pair of code page 949. -/
def furtherPair? (first second : Nat) : Option Nat :=
  (furtherPlace? second).bind fun place =>
    if 0x81 ≤ first && first ≤ 0xA0 then furtherSyllables.get[(first - 0x81) * 178 + place]?
    else if 0xA1 ≤ first && first ≤ 0xC6 && place < 84 then
      furtherSyllables.get[32 * 178 + (first - 0xA1) * 84 + place]?
    else none

/-- Code page 949. -/
def codePage949 : FrontReader := asciiOr (inPair fun first second =>
  (atCell? ksX1001.codePoint? first second).or (furtherPair? first second))

/-- What five bits say about the letter in some position. -/
inductive Letter
  | filler
  | letter (number : Nat)
  deriving DecidableEq, Repr

/-- The lead that five bits stand for. -/
def lead? (bits : Nat) : Option Letter :=
  if bits = 1 then some .filler
  else if 2 ≤ bits && bits ≤ 20 then some (.letter (bits - 2))
  else none

/-- The vowel that five bits stand for. -/
def vowel? (bits : Nat) : Option Letter :=
  if bits = 2 then some .filler
  else if bits < 3 || bits % 8 < 2 || 29 < bits then none
  else some (.letter (bits / 8 * 6 + bits % 8 - 3))

/-- The tail that five bits stand for. -/
def tail? (bits : Nat) : Option Letter :=
  if bits = 1 then some .filler
  else if 2 ≤ bits && bits ≤ 17 then some (.letter (bits - 2))
  else if 19 ≤ bits && bits ≤ 29 then some (.letter (bits - 3))
  else none

/-- The code point that three letters make: a syllable, or one letter between fillers. -/
def joined? : Letter → Letter → Letter → Option Nat
  | .letter lead, .letter vowel, .letter tail => some (syllable lead vowel (tail + 1))
  | .letter lead, .letter vowel, .filler => some (syllable lead vowel 0)
  | .letter lead, .filler, .filler => (leadLetters[lead]?).map (· + firstLetter)
  | .filler, .letter vowel, .filler => some (firstVowel + vowel)
  | .filler, .filler, .letter tail => (tailLetters[tail]?).map (· + firstLetter)
  | .filler, .filler, .filler => some 0x3000
  | _, _, _ => none

/-- A pair of Johab that is no syllable: a cell of the character set, two rows to a first octet. -/
def johabCell? (first second : Nat) : Option Nat :=
  if first < 0xD9 || first = 0xDF || 0xF9 < first || second < 0x31 || second % 128 = 127 ||
      (0x80 ≤ second && second < 0x91) || (first = 0xDA && 0xA1 ≤ second && second ≤ 0xD3) then none
  else
    let row := if first < 0xE0 then 2 * (first - 0xD9) else 2 * first - 0x197
    let place := if second < 0x91 then second - 0x31 else second - 0x43
    ksX1001.codePoint? (row + 1 + place / 94) (place % 94)

/-- A pair of Johab. -/
def johabPair? (first second : Nat) : Option Nat :=
  if first < 0xD8 then
    match lead? (first / 4 % 32), vowel? (first % 4 * 8 + second / 32), tail? (second % 32) with
    | some lead, some vowel, some tail => joined? lead vowel tail
    | _, _, _ => none
  else johabCell? first second

/-- Johab. -/
def johab : FrontReader := asciiOr (inPair johabPair?)

end ServiceManifest.Text.Korean
