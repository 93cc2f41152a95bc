/-!
# Texts that resemble each other

Two texts are alike as far as they share blocks of characters: the longest common block counts, and
so do those to the left and to the right of it. Names that resemble a mistyped one can be suggested
in its place.
-/

namespace ServiceManifest.Text

/-- The number of characters that two texts have in common at their beginnings. -/
def commonStart : List Char → List Char → Nat
  | a :: as, b :: bs => if a = b then commonStart as bs + 1 else 0
  | _, _ => 0

/-- A block that stands in two texts, with its place in either. -/
structure Block where
  first : Nat
  second : Nat
  size : Nat
  deriving DecidableEq, Repr

/-- The longest common block of two texts. Of several the one that comes first in the first text
counts, and then the one that comes first in the second. -/
def longestBlock (a b : List Char) : Block :=
  let places := (List.range a.length).flatMap fun i => (List.range b.length).map fun j => (i, j)
  places.foldl (fun best (i, j) =>
    let size := commonStart (a.drop i) (b.drop j)
    if best.size < size then ⟨i, j, size⟩ else best) ⟨0, 0, 0⟩

/-- The number of characters in the common blocks of two texts. The first argument bounds how often
texts are split. -/
def sharedWithin : Nat → List Char → List Char → Nat
  | 0, _, _ => 0
  | fuel + 1, a, b =>
    let block := longestBlock a b
    if block.size = 0 then 0
    else
      sharedWithin fuel (a.take block.first) (b.take block.second) + block.size +
        sharedWithin fuel (a.drop (block.first + block.size)) (b.drop (block.second + block.size))

/-- The number of characters in the common blocks of two texts. -/
def shared (a b : List Char) : Nat := sharedWithin a.length a b

/-- How much a text resembles another one: the shared characters of both, and all of them. -/
def resemblance (a b : List Char) : Nat × Nat := (2 * shared a b, a.length + b.length)

/-- The texts among some that resemble a text in at least six of ten characters: at most three,
those that resemble it most. They are in ascending order. -/
def resembling (text : String) (others : List String) : List String :=
  let rated := others.map fun other => (resemblance other.toList text.toList, other)
  let close := rated.filter fun ((part, whole), _) => 6 * whole ≤ 10 * part
  let ranked := close.mergeSort fun ((p, w), x) ((q, v), y) =>
    q * w < p * v || (q * w = p * v && !decide (x < y))
  ((ranked.take 3).map (·.2)).mergeSort fun x y => !decide (y < x)

end ServiceManifest.Text
