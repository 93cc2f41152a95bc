import ServiceManifest.Declaration
import ServiceManifest.Disk.Tree
import ServiceManifest.Fault
import ServiceManifest.Text.Quoted

/-!
# The digest SHA-256

The octets are padded to whole blocks of sixteen words, each block is expanded to sixty-four words
and mixed into eight words of state, and the state after the last block is written in hexadecimal
digits. All words have 32 bits and their arithmetic wraps.
-/

namespace ServiceManifest.Digest

/-- The eight words of state. -/
structure State where
  a : UInt32
  b : UInt32
  c : UInt32
  d : UInt32
  e : UInt32
  f : UInt32
  g : UInt32
  h : UInt32
  deriving DecidableEq, Repr

/-- The state before the first block: the square roots of the first eight primes. -/
def initial : State :=
  ⟨0x6A09E667, 0xBB67AE85, 0x3C6EF372, 0xA54FF53A, 0x510E527F, 0x9B05688C, 0x1F83D9AB, 0x5BE0CD19⟩

/-- The constants of the sixty-four rounds: the cube roots of the first primes. -/
def roundConstants : List UInt32 :=
  [0x428A2F98, 0x71374491, 0xB5C0FBCF, 0xE9B5DBA5, 0x3956C25B, 0x59F111F1, 0x923F82A4, 0xAB1C5ED5,
   0xD807AA98, 0x12835B01, 0x243185BE, 0x550C7DC3, 0x72BE5D74, 0x80DEB1FE, 0x9BDC06A7, 0xC19BF174,
   0xE49B69C1, 0xEFBE4786, 0x0FC19DC6, 0x240CA1CC, 0x2DE92C6F, 0x4A7484AA, 0x5CB0A9DC, 0x76F988DA,
   0x983E5152, 0xA831C66D, 0xB00327C8, 0xBF597FC7, 0xC6E00BF3, 0xD5A79147, 0x06CA6351, 0x14292967,
   0x27B70A85, 0x2E1B2138, 0x4D2C6DFC, 0x53380D13, 0x650A7354, 0x766A0ABB, 0x81C2C92E, 0x92722C85,
   0xA2BFE8A1, 0xA81A664B, 0xC24B8B70, 0xC76C51A3, 0xD192E819, 0xD6990624, 0xF40E3585, 0x106AA070,
   0x19A4C116, 0x1E376C08, 0x2748774C, 0x34B0BCB5, 0x391C0CB3, 0x4ED8AA4A, 0x5B9CCA4F, 0x682E6FF3,
   0x748F82EE, 0x78A5636F, 0x84C87814, 0x8CC70208, 0x90BEFFFA, 0xA4506CEB, 0xBEF9A3F7, 0xC67178F2]

/-- A word rotated to the right. -/
def rotate (x n : UInt32) : UInt32 := (x >>> n) ||| (x <<< (32 - n))

/-- Three rotations of a word combined. -/
def spread (x i j k : UInt32) : UInt32 := rotate x i ^^^ rotate x j ^^^ rotate x k

/-- Two rotations of a word combined with a shift. -/
def smear (x i j k : UInt32) : UInt32 := rotate x i ^^^ rotate x j ^^^ (x >>> k)

/-- `n` words of the expansion of a block, from the sixteen words that come next. -/
def expand : Nat → List UInt32 → List UInt32
  | 0, _ => []
  | _ + 1, [] => []
  | n + 1, w :: rest =>
    let next := w + smear (rest.getD 0 0) 7 18 3 + rest.getD 8 0 + smear (rest.getD 13 0) 17 19 10
    w :: expand n (rest ++ [next])

/-- One round with its constant and its word. -/
def mix (s : State) (constant word : UInt32) : State :=
  let choice := (s.e &&& s.f) ^^^ (~~~s.e &&& s.g)
  let majority := (s.a &&& s.b) ^^^ (s.a &&& s.c) ^^^ (s.b &&& s.c)
  let first := s.h + spread s.e 6 11 25 + choice + constant + word
  let second := spread s.a 2 13 22 + majority
  ⟨first + second, s.a, s.b, s.c, s.d + first, s.e, s.f, s.g⟩

/-- The state after a block. -/
def absorb (s : State) (block : List UInt32) : State :=
  let t := (roundConstants.zip (expand 64 block)).foldl (fun t kw => mix t kw.1 kw.2) s
  ⟨s.a + t.a, s.b + t.b, s.c + t.c, s.d + t.d, s.e + t.e, s.f + t.f, s.g + t.g, s.h + t.h⟩

/-- The octets of a number, most significant first. -/
def bigEndian : Nat → Nat → List UInt8
  | 0, _ => []
  | size + 1, value => UInt8.ofNat (value / 256 ^ size) :: bigEndian size value

/-- What follows the octets of a message: a single bit, zeros, and the number of bits. -/
def padding (size : Nat) : List UInt8 :=
  0x80 :: List.replicate ((119 - size % 64) % 64) 0 ++ bigEndian 8 (8 * size)

/-- Octets as words, most significant octet first. -/
def wordsOf : List UInt8 → List UInt32
  | a :: b :: c :: d :: rest =>
    ((a.toUInt32 <<< 24) ||| (b.toUInt32 <<< 16) ||| (c.toUInt32 <<< 8) ||| d.toUInt32) ::
      wordsOf rest
  | _ => []

/-- The state after the blocks of words, of which there are at most as many as the first
argument. -/
def absorbAll : Nat → State → List UInt32 → State
  | 0, s, _ => s
  | _ + 1, s, [] => s
  | n + 1, s, words => absorbAll n (absorb s (words.take 16)) (words.drop 16)

/-- The words of a state in order. -/
def State.words (s : State) : List UInt32 := [s.a, s.b, s.c, s.d, s.e, s.f, s.g, s.h]

/-- The state after a whole message. -/
def digest (octets : List UInt8) : State :=
  let words := wordsOf (octets ++ padding octets.length)
  absorbAll words.length initial words

/-- The digest of a message in hexadecimal digits. -/
def sha256 (octets : List UInt8) : String :=
  String.ofList ((digest octets).words.flatMap fun word => Text.hexDigits 8 word.toNat)

/-!
## Digests of source files

A change of a file shows in the digest of its octets, which are read in portions. A snapshot has the
digest of every unit by its path; units with one path share an entry.
-/

/-- Why octets cannot be read in portions of a size. -/
inductive PortionFault
  | noIndex
  | tooLarge
  | noMemory
  | negative
  deriving DecidableEq, Repr

/-- The title and the wording of a fault. -/
def PortionFault.toFault : PortionFault → Fault
  | .noIndex => .other "OverflowError" "cannot fit \x27int\x27 into an index-sized integer"
  | .tooLarge => .other "OverflowError" "byte string is too large"
  | .noMemory => .other "MemoryError" ""
  | .negative => .value "read length must be non-negative or -1"

/-- One more than the greatest index. -/
def indexLimit : Int := 9223372036854775808

/-- The octets that a portion takes besides its contents. -/
def portionOverhead : Int := 33

/-- The least size for which there is no memory. -/
def memoryLimit : Int := 1099511627776

/-- Why portions cannot have a size, if they cannot: a size is an index, there is memory for it, and
below zero it is -1, which stands for all at once. -/
def portionFault? (size : Int) : Option PortionFault :=
  if indexLimit ≤ size || size < -indexLimit then some .noIndex
  else if size < -1 then some .negative
  else if indexLimit - portionOverhead ≤ size then some .tooLarge
  else if memoryLimit ≤ size then some .noMemory
  else none

/-- The octets that are read in portions of a size: none if the size is zero, all for any other that
is possible. -/
def readPortions (size : Int) (octets : List UInt8) : Except PortionFault (List UInt8) :=
  match portionFault? size with
  | some fault => .error fault
  | none => .ok (if size = 0 then [] else octets)

/-- The digest of a file that is read in portions of a size. -/
def ofPortions (tree : Disk.Tree) (path : Path) (portion : Int) : Except Fault String :=
  match tree.read path with
  | .error fault => .error (.disk fault)
  | .ok bytes =>
    match readPortions portion bytes.toList with
    | .error fault => .error fault.toFault
    | .ok octets => .ok (sha256 octets)

/-- The size of the portions in which files are read. -/
def portionSize : Int := 65536

/-- The digest of a file. -/
def ofFile (tree : Disk.Tree) (path : Path) : Except Disk.Fault String :=
  (tree.read path).map fun bytes => sha256 bytes.toList

/-- The digests of units, which lie below a root, added to those known. -/
def snapshotFrom (tree : Disk.Tree) (root : Path) :
    List SourceUnit → Keyed String → Except Disk.Fault (Keyed String)
  | [], known => .ok known
  | unit :: rest, known =>
    match ofFile tree (root.join (Path.ofString unit.path)) with
    | .error fault => .error fault
    | .ok digest => snapshotFrom tree root rest (Keyed.put unit.path digest known)

/-- The digest of every unit below a root, by ascending path. -/
def snapshot (tree : Disk.Tree) (root : Path) (units : List SourceUnit) :
    Except Disk.Fault (Keyed String) :=
  snapshotFrom tree root (Ascending.sort SourceUnit.before units) []

end ServiceManifest.Digest
