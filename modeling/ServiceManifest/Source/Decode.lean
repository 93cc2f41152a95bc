import ServiceManifest.Text.Encoding.Named

/-!
# Source text from bytes

Source is UTF-8 unless a comment in its first two lines declares another encoding. A byte order mark
in front says UTF-8 as well and agrees with no other declaration. Without a declaration the bytes
need not be UTF-8 everywhere: an octet that belongs to no character is harmless in a comment and an
error elsewhere. It is kept as the character NUL, which source itself cannot hold.
-/

namespace ServiceManifest.Source

/-- The character that stands for an octet outside of any character. -/
def strayMark : Char := '\x00'

/-- Octets with every line end as a line feed; what stands last is returned beside them. After a
carriage return with its line feed nothing stands last. -/
def unifyOctets (last : UInt8) : List UInt8 → List UInt8 × UInt8
  | [] => ([], last)
  | 13 :: 10 :: rest =>
    let (octets, last) := unifyOctets 0 rest
    (10 :: octets, last)
  | b :: rest =>
    let b := if b = 13 then 10 else b
    let (octets, last) := unifyOctets b rest
    (b :: octets, last)

/-- Octets of a whole module: lines end in line feeds, the last one too. -/
def moduleOctets (octets : List UInt8) : List UInt8 :=
  let (octets, last) := unifyOctets 0 octets
  if last = 10 then octets else octets ++ [10]

/-- Whether an octet may stand in the name of an encoding. -/
def isEncodingOctet (b : UInt8) : Bool :=
  (48 ≤ b && b ≤ 57) || (65 ≤ b && b ≤ 90) || (97 ≤ b && b ≤ 122) || b = 45 || b = 95 || b = 46

/-- The name of an encoding after the word `coding` and a colon or an equals sign. -/
def declaredAt (rest : List UInt8) : Option (List UInt8) :=
  match rest with
  | 99 :: 111 :: 100 :: 105 :: 110 :: 103 :: sign :: after =>
    if sign = 58 || sign = 61 then
      let name := (after.dropWhile fun b => b = 32 || b = 9).takeWhile isEncodingOctet
      if name.isEmpty then none else some name
    else none
  | _ => none

/-- The first declaration of an encoding in a comment. -/
def declaredIn : List UInt8 → Option (List UInt8)
  | [] => none
  | b :: rest =>
    match declaredAt (b :: rest) with
    | some name => some name
    | none => declaredIn rest

/-- Whether an octet is blank within a line. -/
def isLineBlank (b : UInt8) : Bool := b = 32 || b = 9 || b = 12

/-- What a line says about the encoding: a name, nothing, or that no later line may say it. -/
inductive LineRole
  | declares (name : List UInt8)
  | silent
  | final
  deriving DecidableEq

/-- What a line says about the encoding. Only a comment that has the line for itself may declare it,
and only a blank line or such a comment lets the next line do so. -/
def lineRole (line : List UInt8) : LineRole :=
  match line.dropWhile isLineBlank with
  | [] => .silent
  | 35 :: comment =>
    match declaredIn comment with
    | some name => .declares name
    | none => .silent
  | _ => .final

/-- The encoding that the first two lines declare. -/
def declaredEncoding (octets : List UInt8) : Option (List UInt8) :=
  let (first, rest) := octets.span (· ≠ 10)
  match lineRole first, rest with
  | .declares name, _ => some name
  | .final, _ => none
  | .silent, [] => none
  | .silent, _ :: rest =>
    let (second, rest) := rest.span (· ≠ 10)
    match lineRole second, rest with
    | .declares name, _ :: _ => some name
    | _, _ => none

/-- How the octets of a module become characters: as UTF-8, in which octets may stray, or as a
decoder says. -/
inductive Encoding
  | utf8
  | by (decoder : Text.Decoder)

/-- Whether a name is one of the texts, alone or followed by a hyphen and more. -/
def isVariant (name : String) (stems : List String) : Bool :=
  stems.any fun stem => name = stem || (stem ++ "-").toList.isPrefixOf name.toList

/-- The encoding of a declared name. Of the names of UTF-8 and Latin 1 only the beginning counts. -/
def encodingOf? (name : List UInt8) : Option Encoding :=
  let chars := name.map fun b => Char.ofNat b.toNat
  let start := String.ofList ((chars.take 12).map fun c => if c = '_' then '-' else c.toLower)
  if isVariant start ["utf-8"] then some .utf8
  else if isVariant start ["latin-1", "iso-8859-1", "iso-latin-1"] then
    some (.by Text.Encoding.latin1)
  else (Text.Encoding.named? chars).map .by

/-- The characters of UTF-8 octets; stray octets are marked. The first argument bounds the number of
steps. -/
def characters : Nat → List UInt8 → List Char
  | 0, _ => []
  | _ + 1, [] => []
  | fuel + 1, first :: rest =>
    match Text.Utf8.decodeChar first rest with
    | .ok (c, size) => c :: characters fuel (rest.drop (size - 1))
    | .error _ => strayMark :: characters fuel rest

/-- The characters of code points, up to NUL, which ends source; a code point that is no character
makes the text unreadable. -/
def charactersOf (codes : List Nat) : Option (List Char) :=
  if codes.all fun code => code.isValidChar then
    some ((codes.takeWhile (· ≠ 0)).map Char.ofNat)
  else none

/-- The characters of octets in an encoding. -/
def Encoding.decode (encoding : Encoding) (octets : List UInt8) : Option (List Char) :=
  match encoding with
  | .utf8 => some (characters octets.length octets)
  | .by decoder => (decoder octets).bind charactersOf

/-- Whether an encoding is UTF-8 in which octets may stray. -/
def Encoding.isPlain : Encoding → Bool
  | .utf8 => true
  | .by _ => false

/-- The text of a module. Octets that hold NUL, name an unknown encoding or contradict the declared
one have none. -/
def decodeModule (octets : List UInt8) : Option (List Char) :=
  if octets.contains 0 then none
  else
    match moduleOctets octets with
    | 0xEF :: 0xBB :: 0xBF :: rest =>
      match declaredEncoding rest with
      | none => Encoding.utf8.decode rest
      | some name =>
        if (encodingOf? name).any Encoding.isPlain then Encoding.utf8.decode rest else none
    | octets =>
      match declaredEncoding octets with
      | none => Encoding.utf8.decode octets
      | some name => (encodingOf? name).bind (·.decode octets)

end ServiceManifest.Source
