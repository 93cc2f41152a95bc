import ServiceManifest.Text.NameTable.Asian
import ServiceManifest.Text.NameTable.Further
import ServiceManifest.Text.NameTable.Latin
import ServiceManifest.Text.NameTable.Symbol
import ServiceManifest.Text.Ranges

/-!
# Names of characters

Every assigned character has a name, and a few have more than one. Most names are listed in tables;
the names of Hangul syllables are made of the short names of their letters, and those of unified
ideographs end in the code point. Listed names may be written in small letters too.

A table lists names in the order of their code points, each ended by a semicolon. `=` and a code
point say where the names behind it begin, and from there each name belongs to the next code point.
A name is written as the number of words that it has in common with the name before it, and the
words after those.
-/

namespace ServiceManifest.Text

/-- Where the reading of a table stands: the code point of the next name, the words of the name
before it, the characters of the entry that is being read, last first, and the code point that was
found. -/
structure NameScan where
  code : Nat
  words : List (List Char)
  entry : List Char
  found : Option Nat
  deriving Repr

namespace NameScan

/-- The end of an entry, in a search for the name of these words. -/
def endEntry (sought : List (List Char)) (scan : NameScan) : NameScan :=
  match scan.entry.reverse with
  | '=' :: digits => { scan with code := hexValue digits, entry := [] }
  | shared :: rest =>
    let words := scan.words.take (shared.toNat - '0'.toNat) ++ rest.splitOn ' '
    { code := scan.code + 1
      words := words
      entry := []
      found := scan.found.or (if words = sought then some scan.code else none) }
  | [] => scan

/-- One character of a table. -/
def step (sought : List (List Char)) (scan : NameScan) (c : Char) : NameScan :=
  if c = ';' then scan.endEntry sought
  else if c = '\n' then scan
  else { scan with entry := c :: scan.entry }

end NameScan

/-- The code point that a table lists for a name. -/
def listedCode? (name : List Char) (table : String) : Option Nat :=
  (table.foldl (NameScan.step (name.splitOn ' ')) ⟨0, [], [], none⟩).found

/-- The tables of names. -/
def nameTables : List String :=
  [latinNames, symbolNames, pictureNames, siniticNames, semiticNames, africanNames, indicNames,
    easternNames, ancientNames, notationNames, furtherNames]

/-- The short names of the letters that begin a Hangul syllable. -/
def hangulLeads : List String :=
  ["G", "GG", "N", "D", "DD", "R", "M", "B", "BB", "S", "SS", "", "J", "JJ", "C", "K", "T", "P",
    "H"]

/-- The short names of the vowels of Hangul syllables. -/
def hangulVowels : List String :=
  ["A", "AE", "YA", "YAE", "EO", "E", "YEO", "YE", "O", "WA", "WAE", "OE", "YO", "U", "WEO", "WE",
    "WI", "YU", "EU", "YI", "I"]

/-- The short names of the letters that end a Hangul syllable, or of none. -/
def hangulTails : List String :=
  ["", "G", "GG", "GS", "N", "NJ", "NH", "D", "L", "LG", "LM", "LB", "LS", "LT", "LP", "LH", "M",
    "B", "BS", "S", "SS", "NG", "J", "C", "K", "T", "P", "H"]

/-- The code point of a Hangul syllable by the short names of its letters. -/
def hangulCode? (letters : String) : Option Nat :=
  hangulLeads.zipIdx.findSome? fun (lead, i) =>
    hangulVowels.zipIdx.findSome? fun (vowel, j) =>
      hangulTails.zipIdx.findSome? fun (tail, k) =>
        if lead ++ vowel ++ tail = letters then some (0xAC00 + (i * 21 + j) * 28 + k) else none

/-- The unified ideographs. -/
def ideographRanges : Ranges := Ranges.ofText
  "3400-4DBF 4E00-9FFF 20000-2A6DF 2A700-2B738 2B740-2B81D 2B820-2CEA1 2CEB0-2EBE0 30000-3134A"

/-- The code point of a unified ideograph by its hexadecimal digits. -/
def ideographCode? (digits : List Char) : Option Nat :=
  let code := hexValue digits
  let wellFormed := (digits.length = 4 || digits.length = 5) &&
    digits.all fun c => (hexDigit? c).isSome && !('a' ≤ c && c ≤ 'f')
  if wellFormed && ideographRanges.contains code then some code else none

/-- The text behind a beginning, if a text has it. -/
def behind? (start text : List Char) : Option (List Char) :=
  if start.isPrefixOf text then some (text.drop start.length) else none

/-- The code point of a character name. -/
def codeOfName? (name : String) : Option Nat :=
  match behind? "HANGUL SYLLABLE ".toList name.toList with
  | some letters => hangulCode? (String.ofList letters)
  | none =>
    match behind? "CJK UNIFIED IDEOGRAPH-".toList name.toList with
    | some digits => ideographCode? digits
    | none => nameTables.findSome? (listedCode? (name.toList.map Char.toUpper))

end ServiceManifest.Text
