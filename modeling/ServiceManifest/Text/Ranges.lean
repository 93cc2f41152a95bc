/-!
# Properties of characters given by ranges

A standard lists a property of characters as ranges of code points. A `Ranges` keeps them ascending
and disjoint, and membership is decided by bisection. Tables may be written as text, one range a
word: `41-5A` for inclusive hexadecimal bounds and `5F` for a single code point.
-/

namespace ServiceManifest.Text

/-- The value of a hexadecimal digit, `none` for any other character. -/
def hexDigit? (c : Char) : Option Nat :=
  if '0' ≤ c ∧ c ≤ '9' then some (c.toNat - '0'.toNat)
  else if 'a' ≤ c ∧ c ≤ 'f' then some (c.toNat - 'a'.toNat + 10)
  else if 'A' ≤ c ∧ c ≤ 'F' then some (c.toNat - 'A'.toNat + 10)
  else none

/-- The value of a hexadecimal numeral; characters that are no digits do not count. -/
def hexValue (digits : List Char) : Nat :=
  digits.foldl (fun value c => (hexDigit? c).elim value (value * 16 + ·)) 0

/-- The maximal runs of characters that are neither spaces nor line feeds. -/
def words (text : List Char) : List (List Char) :=
  ((text.splitOn '\n').flatMap (·.splitOn ' ')).filter (!·.isEmpty)

/-- Inclusive ranges of code points, ascending and disjoint. -/
structure Ranges where
  bounds : Array (Nat × Nat)

namespace Ranges

/-- Whether a range with index from `low` up to but not including `high` holds the code point. -/
def within (ranges : Ranges) (code low high : Nat) : Bool :=
  if low < high then
    match ranges.bounds[(low + high) / 2]? with
    | none => false
    | some (first, last) =>
      if code < first then ranges.within code low ((low + high) / 2)
      else if last < code then ranges.within code ((low + high) / 2 + 1) high
      else true
  else false
termination_by high - low

/-- Whether the code point lies in one of the ranges. -/
def contains (ranges : Ranges) (code : Nat) : Bool :=
  ranges.within code 0 ranges.bounds.size

/-- The range written as one word. -/
def ofWord (word : List Char) : Nat × Nat :=
  match word.splitOn '-' with
  | [first, last] => (hexValue first, hexValue last)
  | _ => (hexValue word, hexValue word)

/-- The ranges written as text, one range a word. -/
def ofText (text : String) : Ranges :=
  ⟨((words text.toList).map ofWord).toArray⟩

end Ranges

end ServiceManifest.Text
