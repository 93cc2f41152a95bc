import ServiceManifest.Text.NormalTables

/-!
# The compatibility normal form

Two spellings of an identifier are the same name when their compatibility normal forms agree. The
form is reached in three steps: every character is replaced by its full decomposition, combining
marks are put in order of their class, and adjacent parts are joined to the composites that have
them.
-/

namespace ServiceManifest.Text

/-- The index of the first entry with a code point that is not below `code`. -/
def lowerBound {α : Type} (table : Array (Nat × α)) (code low high : Nat) : Nat :=
  if low < high then
    match table[(low + high) / 2]? with
    | none => low
    | some entry =>
      if entry.1 < code then lowerBound table code ((low + high) / 2 + 1) high
      else lowerBound table code low ((low + high) / 2)
  else low
termination_by high - low

/-- The entry of a code point in an ascending table. -/
def lookupCode? {α : Type} (table : Array (Nat × α)) (code : Nat) : Option α :=
  match table[lowerBound table code 0 table.size]? with
  | some (found, value) => if found = code then some value else none
  | none => none

/-- The canonical combining class of a code point. -/
def combiningClass (code : Nat) : Nat :=
  if code < 0x300 then 0
  else
    match combiningClassTable.find? fun run => run.1 ≤ code && code ≤ run.2.1 with
    | some (_, _, value) => value
    | none => 0

/-- The parts of a Hangul syllable, which are computed from its index. -/
def hangulParts (index : Nat) : List Nat :=
  [0x1100 + index / 588, 0x1161 + index % 588 / 28] ++
    if index % 28 = 0 then [] else [0x11A7 + index % 28]

/-- The full compatibility decomposition of a code point that an identifier may hold. -/
def decompose (code : Nat) : List Nat :=
  if code < 0xA0 then [code]
  else if 0xAC00 ≤ code ∧ code < 0xD7A4 then hangulParts (code - 0xAC00)
  else (lookupCode? decompositionTable code).getD [code]

/-- Put a code point before an ordered rest: a mark moves behind the marks of a lower class. -/
def insertMark (code : Nat) : List Nat → List Nat
  | [] => [code]
  | next :: rest =>
    if combiningClass next ≠ 0 ∧ combiningClass next < combiningClass code
    then next :: insertMark code rest else code :: next :: rest

/-- Marks in order of their class, everything else where it was. -/
def orderMarks (codes : List Nat) : List Nat :=
  codes.foldr insertMark []

/-- The composite of two code points. -/
def composite? (first second : Nat) : Option Nat :=
  if 0x1100 ≤ first ∧ first < 0x1113 ∧ 0x1161 ≤ second ∧ second < 0x1176 then
    some (0xAC00 + ((first - 0x1100) * 21 + (second - 0x1161)) * 28)
  else if 0xAC00 ≤ first ∧ first < 0xD7A4 ∧ (first - 0xAC00) % 28 = 0 ∧ 0x11A8 ≤ second ∧
      second < 0x11C3 then
    some (first + (second - 0x11A7))
  else
    (compositeTable.find? fun entry => entry.1 = first && entry.2.1 = second).map (·.2.2)

/-- Join a starter and the marks kept after it (last first) with the code points that follow. A code
point reaches the starter when no mark kept in between has its class or a higher one. -/
def joinFrom (starter : Nat) (kept : List Nat) : List Nat → List Nat
  | [] => starter :: kept.reverse
  | code :: rest =>
    let reaches := match kept with
      | [] => true
      | last :: _ => combiningClass last < combiningClass code
    match if reaches then composite? starter code else none with
    | some joined => joinFrom joined kept rest
    | none =>
      if combiningClass code = 0 then starter :: kept.reverse ++ joinFrom code [] rest
      else joinFrom starter (code :: kept) rest

/-- Join every starter with what follows it. -/
def joinMarks : List Nat → List Nat
  | [] => []
  | code :: rest =>
    if combiningClass code = 0 then joinFrom code [] rest else code :: joinMarks rest

/-- The compatibility normal form of an identifier. -/
def normalForm (s : List Char) : List Char :=
  if s.all (·.toNat < 0x80) then s
  else (joinMarks (orderMarks ((s.map Char.toNat).flatMap decompose))).map Char.ofNat

end ServiceManifest.Text
