import ServiceManifest.Text.Charset.Gb2312
import ServiceManifest.Text.Charset.KsX1001
import ServiceManifest.Text.Charset.Layout
import ServiceManifest.Text.Encoding.Japanese

/-!
# Encodings that switch between character sets

In ISO 2022 an escape sequence designates a character set to one of three places, and octets are
read in the set of the place that is in use; which sets there are depends on the variant. HZ
switches between ASCII and GB 2312 with a tilde and a brace.
-/

namespace ServiceManifest.Text.Switching

/-- The character sets that can be designated. -/
inductive Charset
  | ascii
  | latin
  | greek
  | roman
  | katakana
  | chinese
  | korean
  | japanese
  | supplement
  | later (edition : Japanese.Edition)
  | laterSecond
  deriving DecidableEq, Repr

/-- The character set of a final octet, for sets with two octets to a character or with one. -/
def charset? (double : Bool) (final : Char) : Option Charset :=
  match double, final with
  | false, 'A' => some .latin
  | false, 'B' => some .ascii
  | false, 'F' => some .greek
  | false, 'I' => some .katakana
  | false, 'J' => some .roman
  | true, 'A' => some .chinese
  | true, 'B' => some .japanese
  | true, '@' => some .japanese
  | true, 'C' => some .korean
  | true, 'D' => some .supplement
  | true, 'O' => some (.later .of2000)
  | true, 'P' => some .laterSecond
  | true, 'Q' => some (.later .of2004)
  | _, _ => none

/-- The cell that two octets below 80 name. -/
def lowCell? {α : Type} (cell : Nat → Nat → Option α) (first second : UInt8) : Option α :=
  if 0x80 ≤ first || 0x80 ≤ second then none
  else atCell? cell (first.toNat + 0x80) (second.toNat + 0x80)

/-- What stands at the front of octets in a character set. Latin and Greek have their place only
behind a single shift. -/
def Charset.read (charset : Charset) (first : UInt8) (rest : List UInt8) :
    Option (List Nat × List UInt8) :=
  let double (cell : Nat → Nat → Option (List Nat)) : Option (List Nat × List UInt8) :=
    match rest with
    | [] => none
    | second :: rest => (lowCell? cell first second).map fun codes => (codes, rest)
  let single (cell : Nat → Nat → Option Nat) : Option (List Nat × List UInt8) :=
    double fun row place => (cell row place).map ([·])
  match charset with
  | .ascii => alone first.toNat rest
  | .latin | .greek => none
  | .roman =>
    alone (if first = 0x5C then 0xA5 else if first = 0x7E then 0x203E else first.toNat) rest
  | .katakana => (Japanese.katakana? (first.toNat + 0x80)).map fun code => ([code], rest)
  | .chinese => single gb2312.codePoint?
  | .korean => single ksX1001.codePoint?
  | .japanese => single jisX0208.codePoint?
  | .supplement => single jisX0212.codePoint?
  | .later edition => double fun row place =>
      if row = 2 && place = 17 then some [0x7E] else Japanese.firstPlane? edition row place
  | .laterSecond => single (Japanese.secondPlane? .of2004)

/-- A variant of ISO 2022: the final octets of the sets with one octet to a character and of those
with two, besides ASCII, and whether it shifts to the second place, has a third one and knows the
sign of the revised Japanese set. -/
structure Variant where
  singles : List Char
  doubles : List Char
  shifts : Bool
  third : Bool
  revised : Bool
  deriving DecidableEq, Repr

/-- Where the reading stands: the sets in the three places, whether the second one is in use, and
whether an unknown escape sequence is passed through. -/
structure State where
  places : Charset × Charset × Charset
  shifted : Bool
  passing : Bool

/-- Whether an octet ends an escape sequence. -/
def endsEscape (octet : UInt8) : Bool := octet = 0x40 || (0x41 ≤ octet && octet ≤ 0x5A)

/-- The characters of an escape sequence behind the escape, up to the one that ends it, and the
octets after it. The sign of the revised set does not end it. The number bounds the length. -/
def escapeBody (revised : Bool) : Nat → List UInt8 → Option (List Char × List UInt8)
  | 0, _ => none
  | _ + 1, [] => none
  | fuel + 1, b :: rest =>
    let c := Char.ofNat b.toNat
    if endsEscape b then some ([c], rest)
    else
      match revised, rest with
      | true, 0x40 :: d :: rest =>
        if c = '&' then
          (escapeBody revised (fuel - 2) rest).map fun (body, rest) =>
            (c :: '@' :: Char.ofNat d.toNat :: body, rest)
        else (escapeBody revised fuel (0x40 :: d :: rest)).map fun (body, rest) => (c :: body, rest)
      | _, rest => (escapeBody revised fuel rest).map fun (body, rest) => (c :: body, rest)

/-- The place that an escape sequence designates, whether the set has two octets to a character, and
the final octet. -/
def designation? (variant : Variant) : List Char → Option (Nat × Bool × Char)
  | ['(', final] => some (0, false, final)
  | [')', final] => some (1, false, final)
  | ['.', final] => if variant.third then some (2, false, final) else none
  | ['$', final] => some (0, true, final)
  | ['$', '(', final] => some (0, true, final)
  | ['$', ')', final] => some (1, true, final)
  | ['&', '@', '\x1b', '$', 'B'] => if variant.revised then some (0, true, 'B') else none
  | _ => none

/-- The state after an escape sequence, if the variant knows it. -/
def designate (variant : Variant) (state : State) (body : List Char) : Option State :=
  match designation? variant body with
  | none => none
  | some (place, double, final) =>
    let known := if double then variant.doubles.contains final
      else final = 'B' || variant.singles.contains final
    let (zeroth, first, second) := state.places
    match charset? double final, known, place with
    | some charset, true, 0 => some { state with places := (charset, first, second) }
    | some charset, true, 1 => some { state with places := (zeroth, charset, second) }
    | some charset, true, _ => some { state with places := (zeroth, first, charset) }
    | _, _, _ => none

/-- What the Greek set has in place of the upper half of Latin 1. -/
def greekRuns : List CodeRun := CodeRun.ofText
  "A1-A2:2018 A4-A5: AA: AE: AF:2015 B4-B6:384 B8-BA:388 BC:38C BE-D1:38E D2: D3-FE:3A3 FF:"

/-- The code point that an octet stands for in the third place. -/
def inThirdPlace? (charset : Charset) (octet : UInt8) : Option Nat :=
  match charset with
  | .latin => if octet < 0x80 then some (octet.toNat + 0x80) else none
  | .greek => codePointOf? greekRuns (octet ^^^ 0x80).toNat
  | _ => if octet < 0x80 then some octet.toNat else none

/-- Whether an octet behind an escape begins a sequence that designates a set. -/
def beginsDesignation (octet : UInt8) : Bool :=
  octet = 0x28 || octet = 0x29 || octet = 0x24 || octet = 0x2E || octet = 0x26

/-- The text of octets in a variant of ISO 2022, from some state on. The number bounds the steps. -/
def readFrom (variant : Variant) : Nat → State → Decoder
  | _, _, [] => some []
  | 0, _, _ => none
  | fuel + 1, state, b :: rest =>
    let plain (state : State) : Option (List Nat) :=
      (readFrom variant fuel state rest).map (b.toNat :: ·)
    if state.passing then plain { state with passing := !endsEscape b }
    else if b = 0x1B then
      match rest with
      | [] => none
      | next :: after =>
        if beginsDesignation next then
          match escapeBody variant.revised 15 rest with
          | none => none
          | some (body, after) =>
            (designate variant state body).bind fun state => readFrom variant fuel state after
        else if variant.third && next = 0x4E then
          match after with
          | [] => none
          | octet :: after =>
            match inThirdPlace? state.places.2.2 octet with
            | none => none
            | some code => (readFrom variant fuel state after).map (code :: ·)
        else plain { state with passing := true }
    else if variant.shifts && b = 0x0F then
      readFrom variant fuel { state with shifted := false } rest
    else if variant.shifts && b = 0x0E then
      readFrom variant fuel { state with shifted := true } rest
    else if b = 0x0A then plain { state with shifted := false }
    else if b < 0x20 then plain state
    else if 0x80 ≤ b then none
    else
      let charset := if state.shifted then state.places.2.1 else state.places.1
      match charset.read b rest with
      | none => none
      | some (codes, after) => (readFrom variant fuel state after).map (codes ++ ·)

/-- The decoder of a variant. -/
def Variant.decoder (variant : Variant) : Decoder := fun octets =>
  readFrom variant octets.length ⟨(.ascii, .ascii, .ascii), false, false⟩ octets

/-- The variants of ISO 2022 by name. -/
def variants : List (String × Variant) :=
  [("jp", ⟨['J'], ['@', 'B'], false, false, true⟩),
    ("jp_1", ⟨['J'], ['@', 'B', 'D'], false, false, true⟩),
    ("jp_2", ⟨['J', 'A', 'F'], ['@', 'B', 'D', 'C', 'A'], false, true, true⟩),
    ("jp_2004", ⟨[], ['B', 'Q', 'P'], false, false, true⟩),
    ("jp_3", ⟨[], ['B', 'O', 'P'], false, false, true⟩),
    ("jp_ext", ⟨['J', 'I'], ['@', 'B', 'D'], false, false, true⟩),
    ("kr", ⟨[], ['C'], true, false, false⟩)]

/-- The text of octets in HZ; `double` says whether GB 2312 is in use. The number bounds the
steps. -/
def readHz : Nat → Bool → Decoder
  | _, _, [] => some []
  | 0, _, _ => none
  | fuel + 1, double, 0x7E :: rest =>
    match rest, double with
    | 0x7E :: rest, false => (readHz fuel double rest).map (0x7E :: ·)
    | 0x7B :: rest, false => readHz fuel true rest
    | 0x0A :: rest, false => readHz fuel double rest
    | 0x7D :: rest, true => readHz fuel false rest
    | _, _ => none
  | fuel + 1, double, first :: rest =>
    if 0x80 ≤ first then none
    else if !double then (readHz fuel double rest).map (first.toNat :: ·)
    else
      match rest with
      | [] => none
      | second :: rest =>
        match lowCell? gb2312.codePoint? first second with
        | none => none
        | some code => (readHz fuel double rest).map (code :: ·)

/-- HZ. -/
def hz : Decoder := fun octets => readHz octets.length false octets

end ServiceManifest.Text.Switching
