import ServiceManifest.Decimal
import ServiceManifest.Text.Case

/-!
# Styles

A style is written as words: attributes like `bold`, each perhaps after `not`, the name of a colour,
`on` with a colour for the background, and `link` with an address. The normal form of a style names
its attributes in full and in a fixed order, so that two ways of writing a style have one normal
form. Words that make no style are their own normal form, in small letters.
-/

namespace ServiceManifest.Console

/-- The attributes of a style with their short names, in the order of the normal form. -/
def styleAttributes : List (String × List String) :=
  [("bold", ["b"]), ("dim", ["d"]), ("italic", ["i"]), ("underline", ["u"]), ("blink", []),
    ("blink2", []), ("reverse", ["r"]), ("conceal", ["c"]), ("strike", ["s"]),
    ("underline2", ["uu"]), ("frame", []), ("encircle", []), ("overline", ["o"])]

/-- The attribute of a name. -/
def styleAttribute? (name : String) : Option String :=
  (styleAttributes.find? fun entry => entry.1 = name || entry.2.contains name).map (·.1)

/-- The colours that have a name. -/
def colourNames : List String :=
  ["black", "red", "green", "yellow", "blue", "magenta", "cyan", "white", "bright_black",
    "bright_red", "bright_green", "bright_yellow", "bright_blue", "bright_magenta", "bright_cyan",
    "bright_white", "grey0", "gray0", "navy_blue", "dark_blue", "blue3", "blue1", "dark_green",
    "deep_sky_blue4", "dodger_blue3", "dodger_blue2", "green4", "spring_green4", "turquoise4",
    "deep_sky_blue3", "dodger_blue1", "green3", "spring_green3", "dark_cyan", "light_sea_green",
    "deep_sky_blue2", "deep_sky_blue1", "spring_green2", "cyan3", "dark_turquoise", "turquoise2",
    "green1", "spring_green1", "medium_spring_green", "cyan2", "cyan1", "dark_red", "deep_pink4",
    "purple4", "purple3", "blue_violet", "orange4", "grey37", "gray37", "medium_purple4",
    "slate_blue3", "royal_blue1", "chartreuse4", "dark_sea_green4", "pale_turquoise4",
    "steel_blue", "steel_blue3", "cornflower_blue", "chartreuse3", "cadet_blue", "sky_blue3",
    "steel_blue1", "pale_green3", "sea_green3", "aquamarine3", "medium_turquoise", "chartreuse2",
    "sea_green2", "sea_green1", "aquamarine1", "dark_slate_gray2", "dark_magenta", "dark_violet",
    "purple", "light_pink4", "plum4", "medium_purple3", "slate_blue1", "yellow4", "wheat4",
    "grey53", "gray53", "light_slate_grey", "light_slate_gray", "medium_purple",
    "light_slate_blue", "dark_olive_green3", "dark_sea_green", "light_sky_blue3", "sky_blue2",
    "dark_sea_green3", "dark_slate_gray3", "sky_blue1", "chartreuse1", "light_green",
    "pale_green1", "dark_slate_gray1", "red3", "medium_violet_red", "magenta3", "dark_orange3",
    "indian_red", "hot_pink3", "medium_orchid3", "medium_orchid", "medium_purple2",
    "dark_goldenrod", "light_salmon3", "rosy_brown", "grey63", "gray63", "medium_purple1", "gold3",
    "dark_khaki", "navajo_white3", "grey69", "gray69", "light_steel_blue3", "light_steel_blue",
    "yellow3", "dark_sea_green2", "light_cyan3", "light_sky_blue1", "green_yellow",
    "dark_olive_green2", "dark_sea_green1", "pale_turquoise1", "deep_pink3", "magenta2",
    "hot_pink2", "orchid", "medium_orchid1", "orange3", "light_pink3", "pink3", "plum3", "violet",
    "light_goldenrod3", "tan", "misty_rose3", "thistle3", "plum2", "khaki3", "light_goldenrod2",
    "light_yellow3", "grey84", "gray84", "light_steel_blue1", "yellow2", "dark_olive_green1",
    "honeydew2", "light_cyan1", "red1", "deep_pink2", "deep_pink1", "magenta1", "orange_red1",
    "indian_red1", "hot_pink", "dark_orange", "salmon1", "light_coral", "pale_violet_red1",
    "orchid2", "orchid1", "orange1", "sandy_brown", "light_salmon1", "light_pink1", "pink1",
    "plum1", "gold1", "navajo_white1", "misty_rose1", "thistle1", "yellow1", "light_goldenrod1",
    "khaki1", "wheat1", "cornsilk1", "grey100", "gray100", "grey3", "gray3", "grey7", "gray7",
    "grey11", "gray11", "grey15", "gray15", "grey19", "gray19", "grey23", "gray23", "grey27",
    "gray27", "grey30", "gray30", "grey35", "gray35", "grey39", "gray39", "grey42", "gray42",
    "grey46", "gray46", "grey50", "gray50", "grey54", "gray54", "grey58", "gray58", "grey62",
    "gray62", "grey66", "gray66", "grey70", "gray70", "grey74", "gray74", "grey78", "gray78",
    "grey82", "gray82", "grey85", "gray85", "grey89", "gray89", "grey93", "gray93"]

/-- Why words are no style: some word has no place in one, or the number of a colour cannot be read.
The second comes with its wording. -/
inductive StyleFault
  | misplaced
  | numeral (message : String)
  deriving DecidableEq, Repr

/-- The parts of a colour given by its shares of red, green and blue, from what stands in the
parentheses. -/
def checkShares (shares : List (List Char)) : Except StyleFault Unit :=
  let share (digits : List Char) : Except StyleFault Int :=
    (Decimal.readInteger (String.ofList digits)).mapError .numeral
  match shares with
  | [red, green, blue] => do
    let red ← share red
    let green ← share green
    let blue ← share blue
    if red ≤ 255 ∧ green ≤ 255 ∧ blue ≤ 255 then return () else throw .misplaced
  | _ => throw .misplaced

/-- What stands between a beginning and a closing parenthesis, if a word has this form. -/
def enclosed? (start : String) (word : List Char) : Option (List Char) :=
  if start.toList.isPrefixOf word && word.getLast? = some ')' then
    some ((word.drop start.length).dropLast)
  else none

/-- Whether a word in small letters is a colour: a name, `#` with six hexadecimal digits, `color(n)`
with a number up to 255, or `rgb(r,g,b)` with three such numbers. -/
def checkColour (word : List Char) : Except StyleFault Unit :=
  if word = "default".toList || colourNames.contains (String.ofList word) then .ok ()
  else
    match word with
    | '#' :: digits =>
      if digits.length = 6 && digits.all fun c => (Text.hexDigit? c).isSome then .ok ()
      else .error .misplaced
    | _ =>
      match enclosed? "color(" word, enclosed? "rgb(" word with
      | some digits, _ =>
        let value := digits.mapM Text.decimalDigit?
        if value.any fun value =>
            1 ≤ value.length && value.length ≤ 3 && value.foldl (fun n d => n * 10 + d) 0 ≤ 255 then
          .ok ()
        else .error .misplaced
      | none, some shares =>
        if shares.isEmpty || !shares.all fun c => c = ',' || (Text.decimalDigit? c).isSome then
          .error .misplaced
        else checkShares (shares.splitOn ',')
      | none, none => .error .misplaced

/-- A style. Of several settings of an attribute the last one counts. -/
structure Style where
  settings : List (String × Bool)
  colour : Option (List Char)
  background : Option (List Char)
  link : Option (List Char)
  deriving DecidableEq, Repr

namespace Style

/-- The words of a text, separated by white space. -/
def blankWords (text : List Char) : List (List Char) :=
  (text.splitBy fun a b => Text.isBlank a = Text.isBlank b).filter fun word =>
    !word.all Text.isBlank

/-- A style with the settings of more words. -/
def addWords (style : Style) : List (List Char) → Except StyleFault Style
  | [] => .ok style
  | word :: rest =>
    match String.ofList (Text.lower word) with
    | "on" =>
      match rest with
      | [] => .error .misplaced
      | colour :: rest => do
        checkColour (Text.lower colour)
        addWords { style with background := some (Text.lower colour) } rest
    | "not" =>
      match rest with
      | [] => .error .misplaced
      | name :: rest =>
        match styleAttribute? (String.ofList name) with
        | none => .error .misplaced
        | some name => addWords { style with settings := (name, false) :: style.settings } rest
    | "link" =>
      match rest with
      | [] => .error .misplaced
      | link :: rest => addWords { style with link := some link } rest
    | lower =>
      match styleAttribute? lower with
      | some name => addWords { style with settings := (name, true) :: style.settings } rest
      | none => do
        checkColour lower.toList
        addWords { style with colour := some (Text.lower lower.toList) } rest

/-- The style that a text describes. `none` alone describes the style without any settings. -/
def read (text : List Char) : Except StyleFault Style :=
  if Text.trimList Text.isBlank text = "none".toList then .ok ⟨[], none, none, none⟩
  else addWords ⟨[], none, none, none⟩ (blankWords text)

/-- The words of the normal form. -/
def words (style : Style) : List (List Char) :=
  (styleAttributes.filterMap fun (name, _) =>
    (style.settings.find? (·.1 = name)).map fun setting =>
      (if setting.2 then name else "not " ++ name).toList) ++
    style.colour.toList ++
    (style.background.toList.flatMap fun colour => ["on".toList, colour]) ++
    (style.link.toList.flatMap fun link => ["link".toList, link])

/-- The normal form of a style. -/
def written (style : Style) : List Char :=
  if style.words.isEmpty then "none".toList else [' '].intercalate style.words

end Style

/-- The normal form of what a text describes, or the wording of what is wrong with a number in
it. -/
def styleName (text : List Char) : Except String (List Char) :=
  match Style.read text with
  | .ok style => .ok style.written
  | .error .misplaced => .ok (Text.lower (Text.trimList Text.isBlank text))
  | .error (.numeral message) => .error message

end ServiceManifest.Console
