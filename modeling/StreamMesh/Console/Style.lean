import StreamMesh.Text.Blank
import StreamMesh.Text.Pieces

/-!
# Styles

A style is written as words for attributes and colours. Two spellings of a style count as one, so
each has a normal form: attributes in a fixed order, then the colour, then the colour behind.

## Main definitions

* `Style` — attributes and colours
* `Style.ofText?` — the style of a text
* `Style.normalForm` — one spelling for all spellings of a style
-/

namespace StreamMesh

namespace Style

/-- The attributes of text, in the order of the normal form, with their short forms. -/
def known : List (String × List String) := [
  ("bold", ["b"]), ("dim", ["d"]), ("italic", ["i"]), ("underline", ["u"]), ("blink", []),
  ("blink2", []), ("reverse", ["r"]), ("conceal", ["c"]), ("strike", ["s"]), ("underline2", ["uu"]),
  ("frame", []), ("encircle", []), ("overline", ["o"])]

/-- The attribute that a word stands for. -/
def attribute? (word : String) : Option String :=
  (known.find? fun a => a.1 == word || a.2.contains word).map Prod.fst

/-- The names of the colours that have one, some to a line. -/
def colourLines : List String := [
  "default black red green yellow blue magenta cyan white bright_black bright_red bright_green",
  "bright_yellow bright_blue bright_magenta bright_cyan bright_white grey0 gray0 navy_blue",
  "dark_blue blue3 blue1 dark_green deep_sky_blue4 dodger_blue3 dodger_blue2 green4",
  "spring_green4 turquoise4 deep_sky_blue3 dodger_blue1 green3 spring_green3 dark_cyan",
  "light_sea_green deep_sky_blue2 deep_sky_blue1 spring_green2 cyan3 dark_turquoise turquoise2",
  "green1 spring_green1 medium_spring_green cyan2 cyan1 dark_red deep_pink4 purple4 purple3",
  "blue_violet orange4 grey37 gray37 medium_purple4 slate_blue3 royal_blue1 chartreuse4",
  "dark_sea_green4 pale_turquoise4 steel_blue steel_blue3 cornflower_blue chartreuse3 cadet_blue",
  "sky_blue3 steel_blue1 pale_green3 sea_green3 aquamarine3 medium_turquoise chartreuse2",
  "sea_green2 sea_green1 aquamarine1 dark_slate_gray2 dark_magenta dark_violet purple",
  "light_pink4 plum4 medium_purple3 slate_blue1 yellow4 wheat4 grey53 gray53 light_slate_grey",
  "light_slate_gray medium_purple light_slate_blue dark_olive_green3 dark_sea_green",
  "light_sky_blue3 sky_blue2 dark_sea_green3 dark_slate_gray3 sky_blue1 chartreuse1 light_green",
  "pale_green1 dark_slate_gray1 red3 medium_violet_red magenta3 dark_orange3 indian_red",
  "hot_pink3 medium_orchid3 medium_orchid medium_purple2 dark_goldenrod light_salmon3 rosy_brown",
  "grey63 gray63 medium_purple1 gold3 dark_khaki navajo_white3 grey69 gray69 light_steel_blue3",
  "light_steel_blue yellow3 dark_sea_green2 light_cyan3 light_sky_blue1 green_yellow",
  "dark_olive_green2 dark_sea_green1 pale_turquoise1 deep_pink3 magenta2 hot_pink2 orchid",
  "medium_orchid1 orange3 light_pink3 pink3 plum3 violet light_goldenrod3 tan misty_rose3",
  "thistle3 plum2 khaki3 light_goldenrod2 light_yellow3 grey84 gray84 light_steel_blue1 yellow2",
  "dark_olive_green1 honeydew2 light_cyan1 red1 deep_pink2 deep_pink1 magenta1 orange_red1",
  "indian_red1 hot_pink dark_orange salmon1 light_coral pale_violet_red1 orchid2 orchid1 orange1",
  "sandy_brown light_salmon1 light_pink1 pink1 plum1 gold1 navajo_white1 misty_rose1 thistle1",
  "yellow1 light_goldenrod1 khaki1 wheat1 cornsilk1 grey100 gray100 grey3 gray3 grey7 gray7",
  "grey11 gray11 grey15 gray15 grey19 gray19 grey23 gray23 grey27 gray27 grey30 gray30 grey35",
  "gray35 grey39 gray39 grey42 gray42 grey46 gray46 grey50 gray50 grey54 gray54 grey58 gray58",
  "grey62 gray62 grey66 gray66 grey70 gray70 grey74 gray74 grey78 gray78 grey82 gray82 grey85",
  "gray85 grey89 gray89 grey93 gray93"]

/-- The names of the colours that have one. -/
def colourNames : List String :=
  (colourLines.flatMap fun line => Text.pieces ' ' line.toList).map String.ofList

/-- Whether a character is a hexadecimal digit in lower case. -/
def isHexDigit (c : Char) : Bool := c.isDigit || ('a' ≤ c && c ≤ 'f')

/-- The value of a row of decimal digits. -/
def decimal? (cs : List Char) : Option Nat :=
  if cs.isEmpty || !cs.all Char.isDigit then none
  else some (cs.foldl (fun n c => n * 10 + (c.toNat - '0'.toNat)) 0)

/-- What stands in the parentheses after a word. -/
def argument? (word : String) (cs : List Char) : Option (List Char) :=
  let opening := word.toList ++ ['(']
  if opening.isPrefixOf cs && cs.getLast? == some ')' then some (cs.drop opening.length).dropLast
  else none

/-- Whether a colour is given by three numbers. -/
def isTriple (cs : List Char) : Bool :=
  match (Text.pieces ',' cs).map fun part => decimal? (Text.trim part) with
  | [some red, some green, some blue] => red ≤ 255 && green ≤ 255 && blue ≤ 255
  | _ => false

/-- Whether a word in lower case is a colour. -/
def isColour (word : String) : Bool :=
  colourNames.contains word ||
    match word.toList with
    | '#' :: digits => digits.length == 6 && digits.all isHexDigit
    | cs => match argument? "color" cs, argument? "rgb" cs with
      | some digits, _ => digits.length ≤ 3 && ((decimal? digits).any fun n => n ≤ 255)
      | none, some parts => isTriple parts
      | none, none => false

end Style

/-- Attributes that are set or unset, a colour, a colour behind, and a link. -/
structure Style where
  attributes : List (String × Bool)
  colour : Option String
  behind : Option String
  link : Option String
  deriving DecidableEq, Repr

namespace Style

/-- The style without attributes. -/
def plain : Style := ⟨[], none, none, none⟩

/-- A word in lower case. -/
def lower (word : String) : String := String.ofList (word.toList.map Char.toLower)

/-- Sets an attribute; what has been said of it before does not count. -/
def set (s : Style) (name : String) (on : Bool) : Style :=
  { s with attributes := (name, on) :: s.attributes.filter fun a => a.1 != name }

/-- The style of some words after those of another style. -/
def addWords (s : Style) : List String → Option Style
  | [] => some s
  | given :: rest =>
    let word := lower given
    if word = "on" then match rest with
      | colour :: more =>
        if isColour (lower colour) then addWords { s with behind := lower colour } more else none
      | [] => none
    else if word = "not" then match rest with
      | name :: more => match attribute? name with
        | some a => addWords (s.set a false) more
        | none => none
      | [] => none
    else if word = "link" then match rest with
      | target :: more => addWords { s with link := target } more
      | [] => none
    else match attribute? word with
      | some a => addWords (s.set a true) rest
      | none => if isColour word then addWords { s with colour := word } rest else none

/-- The words of a text. -/
def words (cs : List Char) : List String :=
  ((Text.pieces ' ' (cs.map fun c => if Text.isBlank c then ' ' else c)).filter
    (!·.isEmpty)).map String.ofList

/-- The style of a text. -/
def ofText? (cs : List Char) : Option Style :=
  if Text.trim cs = "none".toList then some plain else plain.addWords (words cs)

/-- The words for the attributes of a style. -/
def attributeWords (s : Style) : List String :=
  known.filterMap fun a => match s.attributes.lookup a.1 with
    | some true => some a.1
    | some false => some ("not " ++ a.1)
    | none => none

/-- A style in words. -/
def text (s : Style) : String :=
  let parts := s.attributeWords ++ s.colour.toList ++ (s.behind.toList.map ("on " ++ ·))
    ++ (s.link.toList.map ("link " ++ ·))
  if parts = [] then "none" else String.intercalate " " parts

/-- One spelling for all spellings of a style. A text that is no style stands for itself, without
blanks around it and in lower case. -/
def normalForm (cs : List Char) : String :=
  match ofText? cs with
  | some s => s.text
  | none => String.ofList ((Text.trim cs).map Char.toLower)

end Style

end StreamMesh
