import ServiceManifest.Text.Lines
import ServiceManifest.Text.Quoted
import ServiceManifest.Text.Ranges

/-!
# Decimal numerals

Floating numbers are written with the fewest digits that tell them from others, fractions are
brought to the nearest floating number, and integers are read from text.
-/

namespace ServiceManifest.Text

/-!
## Decimal digits

The characters of the general category Nd come in runs of ten, from the digit zero to the digit nine
of a script.
-/

/-- The runs of ten digits. -/
def decimalDigitRanges : Ranges := Ranges.ofText "
30-39 660-669 6F0-6F9 7C0-7C9 966-96F 9E6-9EF A66-A6F AE6-AEF B66-B6F BE6-BEF C66-C6F CE6-CEF
D66-D6F DE6-DEF E50-E59 ED0-ED9 F20-F29 1040-1049 1090-1099 17E0-17E9 1810-1819 1946-194F
19D0-19D9 1A80-1A89 1A90-1A99 1B50-1B59 1BB0-1BB9 1C40-1C49 1C50-1C59 A620-A629 A8D0-A8D9
A900-A909 A9D0-A9D9 A9F0-A9F9 AA50-AA59 ABF0-ABF9 FF10-FF19 104A0-104A9 10D30-10D39 11066-1106F
110F0-110F9 11136-1113F 111D0-111D9 112F0-112F9 11450-11459 114D0-114D9 11650-11659 116C0-116C9
11730-11739 118E0-118E9 11950-11959 11C50-11C59 11D50-11D59 11DA0-11DA9 16A60-16A69 16AC0-16AC9
16B50-16B59 1D7CE-1D7D7 1D7D8-1D7E1 1D7E2-1D7EB 1D7EC-1D7F5 1D7F6-1D7FF 1E140-1E149 1E2F0-1E2F9
1E950-1E959 1FBF0-1FBF9"

/-- The value of a decimal digit of any script. -/
def decimalDigit? (c : Char) : Option Nat :=
  (decimalDigitRanges.bounds.find? fun run => run.1 ≤ c.toNat && c.toNat ≤ run.2).map
    fun run => c.toNat - run.1

end ServiceManifest.Text

namespace ServiceManifest.Decimal

/-!
## The shortest decimal of a binary number

A finite double is `m · 2^q`. Among the decimals that are nearer to it than to any other double, the
shortest ones have the fewest digits, and of those the nearest is chosen. The search is exact: for
one digit, two digits and so on, the two neighbours of the number on that decimal grid are compared
with the interval of reals that round to the number.
-/

/-- A finite double without its sign: the number `significand · 2 ^ exponent`, and whether the
double below it is only half as far away as the one above. -/
structure Binary where
  significand : Nat
  exponent : Int
  narrowBelow : Bool
  deriving DecidableEq, Repr

/-- The decimal `digits · 10 ^ exponent`. -/
structure Scaled where
  digits : Nat
  exponent : Int
  deriving DecidableEq, Repr

/-- The bits of a finite double as a binary number. -/
def Binary.ofBits (bits : Nat) : Binary :=
  let fraction : Nat := bits % Nat.pow 2 52
  let biased : Nat := bits / Nat.pow 2 52 % Nat.pow 2 11
  if biased = 0 then ⟨fraction, -1074, false⟩
  else ⟨Nat.pow 2 52 + fraction, Int.ofNat biased - 1075, fraction = 0 && biased != 1⟩

/-- `x · base ^ exponent` as a fraction: numerator and denominator. -/
def scale (x base : Nat) (exponent : Int) : Nat × Nat :=
  if 0 ≤ exponent then (x * Nat.pow base exponent.toNat, 1) else (x, Nat.pow base (-exponent).toNat)

/-- The number of digits before the point; zero or negative for a number below one tenth or so. -/
def magnitude (numerator denominator : Nat) : Int :=
  ((Nat.toDigits 10 (numerator * Nat.pow 10 400 / denominator)).length : Int) - 400

/-- The numerator and denominator of `numerator / denominator` divided by `10 ^ grid`. -/
def onGrid (numerator denominator : Nat) (grid : Int) : Nat × Nat :=
  if 0 ≤ grid then (numerator, denominator * Nat.pow 10 grid.toNat)
  else (numerator * Nat.pow 10 (-grid).toNat, denominator)

/-- Whether `candidate` lies between `low` and `high`, all over one denominator; the ends belong to
the interval when `closed`. -/
def inside (closed : Bool) (low high candidate : Nat) : Bool :=
  if closed then low ≤ candidate && candidate ≤ high else low < candidate && candidate < high

/-- The better grid point next to a number, if one rounds back to it. -/
def nearest? (b : Binary) (grid : Int) : Option Nat :=
  let quarters := 4 * b.significand
  let unit := scale 1 2 (b.exponent - 2)
  let point := onGrid unit.1 unit.2 grid
  let value := quarters * point.1
  let low := (quarters - if b.narrowBelow then 1 else 2) * point.1
  let high := (quarters + 2) * point.1
  let below := value / point.2
  let closed := b.significand % 2 = 0
  let lowHit := inside closed low high (below * point.2)
  let highHit := inside closed low high ((below + 1) * point.2)
  let nearBelow := 2 * (value - below * point.2)
  if lowHit && highHit then
    some (if nearBelow < point.2 || nearBelow = point.2 && below % 2 = 0 then below else below + 1)
  else if lowHit then some below
  else if highHit then some (below + 1)
  else none

/-- A decimal that was rounded up to ten units of its grid, as one unit of the next. -/
def Scaled.carry (d : Scaled) : Scaled := if d.digits = 10 then ⟨1, d.exponent + 1⟩ else d

/-- The shortest decimal of a number that is not zero. -/
def shortest (b : Binary) : Scaled :=
  let value := scale b.significand 2 b.exponent
  let size := magnitude value.1 value.2
  let found := (List.range 17).findSome? fun (n : Nat) =>
    let grid : Int := size - (n + 1 : Nat)
    (nearest? b grid).map fun digits => Scaled.carry ⟨digits, grid⟩
  found.getD ⟨b.significand, b.exponent⟩

/-!
## The double nearest to a fraction

A positive fraction is brought to the grid of doubles of its size, where it is rounded to the
nearest point, a half to the even one. Below the normal doubles the grid gets no finer, and beyond
the greatest double everything is infinite.
-/

/-- A quotient rounded to the nearest integer, a half to the even one. -/
def roundedQuotient (numerator denominator : Nat) : Nat :=
  let whole := numerator / denominator
  let twice := 2 * (numerator % denominator)
  if denominator < twice || denominator = twice && whole % 2 = 1 then whole + 1 else whole

/-- A fraction divided by a power of two. -/
def onBinaryGrid (numerator denominator : Nat) (grid : Int) : Nat × Nat :=
  if 0 ≤ grid then (numerator, denominator * Nat.pow 2 grid.toNat)
  else (numerator * Nat.pow 2 (-grid).toNat, denominator)

/-- The exponent of the grid on which a fraction has 53 binary digits, but never less than that of
the finest grid. -/
def gridExponent (numerator denominator : Nat) : Int :=
  let least : Int := (numerator.log2 : Int) - denominator.log2 - 53
  let point := onBinaryGrid numerator denominator least
  max (if Nat.pow 2 53 ≤ point.1 / point.2 then least + 1 else least) (-1074)

/-- The bits of the double nearest to a positive fraction. -/
def nearestBits (numerator denominator : Nat) : Nat :=
  let grid := gridExponent numerator denominator
  let point := onBinaryGrid numerator denominator grid
  let bits := (grid + 1074).toNat * Nat.pow 2 52 + roundedQuotient point.1 point.2
  min bits (2047 * Nat.pow 2 52)

/-- The double nearest to a fraction. -/
def nearest (numerator : Int) (denominator : Nat) : Float :=
  if numerator = 0 then 0.0
  else
    let size := Float.ofBits (UInt64.ofNat (nearestBits numerator.natAbs denominator))
    if numerator < 0 then -size else size

/-!
## The written form of a floating number

A number is written with the digits of its shortest decimal: in positional notation when the point
falls no further left than three zeros and no further right than sixteen digits, otherwise with an
exponent of at least two digits. A positional number has a digit after the point.
-/

/-- Digits with the point behind the first `point` of them, which may be none or negative. -/
def positional (digits : List Char) (point : Int) : List Char :=
  if point ≤ 0 then '0' :: '.' :: List.replicate (-point).toNat '0' ++ digits
  else
    let whole := digits.take point.toNat
    let part := digits.drop point.toNat
    whole ++ List.replicate (point.toNat - whole.length) '0' ++
      '.' :: (if part.isEmpty then ['0'] else part)

/-- An exponent with its sign and at least two digits. -/
def exponentPart (exponent : Int) : List Char :=
  let digits := Nat.toDigits 10 exponent.natAbs
  'e' :: (if exponent < 0 then '-' else '+') ::
    (if digits.length < 2 then '0' :: digits else digits)

/-- A decimal in the notation that its size asks for. -/
def Scaled.render (d : Scaled) : List Char :=
  let digits := Nat.toDigits 10 d.digits
  let point := d.exponent + digits.length
  if -4 < point ∧ point ≤ 16 then positional digits point
  else
    match digits with
    | [] => []
    | [digit] => digit :: exponentPart (point - 1)
    | first :: rest => first :: '.' :: rest ++ exponentPart (point - 1)

/-- A floating number in its shortest form. -/
def render (x : Float) : String :=
  let bits := x.toBits.toNat
  let sign := if bits / Nat.pow 2 63 = 1 then ['-'] else []
  if x.isNaN then "nan"
  else if x.isInf then String.ofList (sign ++ ['i', 'n', 'f'])
  else
    let b := Binary.ofBits bits
    if b.significand = 0 then String.ofList (sign ++ ['0', '.', '0'])
    else String.ofList (sign ++ (shortest b).render)

/-- A finite floating number as a fraction: a numerator and a positive denominator. -/
def fraction? (x : Float) : Option (Int × Nat) :=
  if x.isNaN || x.isInf then none
  else
    let bits := x.toBits.toNat
    let b := Binary.ofBits bits
    let parts := scale b.significand 2 b.exponent
    some (if bits / Nat.pow 2 63 = 1 then -(parts.1 : Int) else parts.1, parts.2)

/-- The double nearest to `digits · 10 ^ exponent`. Exponents beyond the range of doubles are not
raised to a power. -/
def toFloat (digits : List Char) (exponent : Int) : Float :=
  let value := digits.foldl (fun value c => value * 10 + (c.toNat - '0'.toNat)) 0
  let size := (digits.dropWhile (· = '0')).length + exponent
  if value = 0 || size < -400 then 0.0
  else if 400 < size then 1.0 / 0.0
  else
    let parts := scale value 10 exponent
    nearest parts.1 parts.2

/-!
## Integers in text

An integer is read with white space around it, one sign, digits of any script and single underscores
between digits. Numerals of more than 4300 digits are refused before their value is computed.
-/

/-- The greatest number of digits that is read or written. -/
def digitLimit : Nat := 4300

/-- The wording for a numeral with too many digits. -/
def tooManyDigits (count : Nat) : String :=
  "Exceeds the limit (4300 digits) for integer string conversion: value has " ++ toString count ++
    " digits; use sys.set_int_max_str_digits() to increase the limit"

/-- Whether a character may stand around a numeral. -/
def isPadding (c : Char) : Bool :=
  if c.toNat < 128 then (9 ≤ c.toNat && c.toNat ≤ 13) || c = ' ' else Text.isBlank c

/-- Digits with single underscores between them: the values of the digits and what follows. An
underscore that no digit follows makes the numeral unreadable. -/
def digitsFrom : List Char → Option (List Nat × List Char)
  | [] => some ([], [])
  | '_' :: rest =>
    match rest with
    | [] => none
    | next :: after =>
      match Text.decimalDigit? next with
      | none => none
      | some digit => (digitsFrom after).map fun (digits, left) => (digit :: digits, left)
  | c :: rest =>
    match Text.decimalDigit? c with
    | none => some ([], c :: rest)
    | some digit => (digitsFrom rest).map fun (digits, left) => (digit :: digits, left)

/-- The sign of a numeral and what follows it. -/
def signOf : List Char → Int × List Char
  | '-' :: rest => (-1, rest)
  | '+' :: rest => (1, rest)
  | rest => (1, rest)

/-- An integer read from a text, or the wording of what is wrong with it. -/
def readInteger (text : String) : Except String Int :=
  let invalid := "invalid literal for int() with base 10: " ++
    String.ofList ((Text.quoted text).toList.take 200)
  let (sign, numeral) := signOf (text.toList.dropWhile isPadding)
  match numeral with
  | '_' :: _ => .error invalid
  | _ =>
    match digitsFrom numeral with
    | none => .error invalid
    | some ([], _) => .error invalid
    | some (digits, left) =>
      if digitLimit < digits.length then .error (tooManyDigits digits.length)
      else if left.all isPadding then
        .ok (sign * (digits.foldl (fun value d => value * 10 + d) 0 : Nat))
      else .error invalid

end ServiceManifest.Decimal
