import Scaffold.Table
import Scaffold.Text.Blank
import Scaffold.Text.Digit
import Scaffold.Text.Lowercase

/-!
# Styles

How a text looks, described in words: attributes that are switched on or off, a colour, a colour
behind the text, and a link. Descriptions that mean the same style have one normal form, in which
every word has its full name and the words stand in a fixed order.
-/

namespace Scaffold.Console

/-- The attributes of styles in the order in which descriptions list them, each with its short
name, if it has one. -/
def attributeNames : List (String × Option String) :=
  [("bold", "b"), ("dim", "d"), ("italic", "i"), ("underline", "u"), ("blink", none),
    ("blink2", none), ("reverse", "r"), ("conceal", "c"), ("strike", "s"), ("underline2", "uu"),
    ("frame", none), ("encircle", none), ("overline", "o")]

/-- The full name of the attribute that a word names. -/
def attribute? (word : String) : Option String :=
  (attributeNames.find? fun (name, short) => name = word || short = some word).map (·.1)

/-- The names of colours, some of them on each line. -/
def colorLines : List String :=
  [
    "black red green yellow blue magenta cyan white bright_black bright_red bright_green",
    "bright_yellow bright_blue bright_magenta bright_cyan bright_white grey0 gray0 navy_blue",
    "dark_blue blue3 blue1 dark_green deep_sky_blue4 dodger_blue3 dodger_blue2 green4",
    "spring_green4 turquoise4 deep_sky_blue3 dodger_blue1 green3 spring_green3 dark_cyan",
    "light_sea_green deep_sky_blue2 deep_sky_blue1 spring_green2 cyan3 dark_turquoise",
    "turquoise2 green1 spring_green1 medium_spring_green cyan2 cyan1 dark_red deep_pink4",
    "purple4 purple3 blue_violet orange4 grey37 gray37 medium_purple4 slate_blue3 royal_blue1",
    "chartreuse4 dark_sea_green4 pale_turquoise4 steel_blue steel_blue3 cornflower_blue",
    "chartreuse3 cadet_blue sky_blue3 steel_blue1 pale_green3 sea_green3 aquamarine3",
    "medium_turquoise chartreuse2 sea_green2 sea_green1 aquamarine1 dark_slate_gray2",
    "dark_magenta dark_violet purple light_pink4 plum4 medium_purple3 slate_blue1 yellow4",
    "wheat4 grey53 gray53 light_slate_grey light_slate_gray medium_purple light_slate_blue",
    "dark_olive_green3 dark_sea_green light_sky_blue3 sky_blue2 dark_sea_green3",
    "dark_slate_gray3 sky_blue1 chartreuse1 light_green pale_green1 dark_slate_gray1 red3",
    "medium_violet_red magenta3 dark_orange3 indian_red hot_pink3 medium_orchid3 medium_orchid",
    "medium_purple2 dark_goldenrod light_salmon3 rosy_brown grey63 gray63 medium_purple1 gold3",
    "dark_khaki navajo_white3 grey69 gray69 light_steel_blue3 light_steel_blue yellow3",
    "dark_sea_green2 light_cyan3 light_sky_blue1 green_yellow dark_olive_green2 dark_sea_green1",
    "pale_turquoise1 deep_pink3 magenta2 hot_pink2 orchid medium_orchid1 orange3 light_pink3",
    "pink3 plum3 violet light_goldenrod3 tan misty_rose3 thistle3 plum2 khaki3 light_goldenrod2",
    "light_yellow3 grey84 gray84 light_steel_blue1 yellow2 dark_olive_green1 honeydew2",
    "light_cyan1 red1 deep_pink2 deep_pink1 magenta1 orange_red1 indian_red1 hot_pink",
    "dark_orange salmon1 light_coral pale_violet_red1 orchid2 orchid1 orange1 sandy_brown",
    "light_salmon1 light_pink1 pink1 plum1 gold1 navajo_white1 misty_rose1 thistle1 yellow1",
    "light_goldenrod1 khaki1 wheat1 cornsilk1 grey100 gray100 grey3 gray3 grey7 gray7 grey11",
    "gray11 grey15 gray15 grey19 gray19 grey23 gray23 grey27 gray27 grey30 gray30 grey35 gray35",
    "grey39 gray39 grey42 gray42 grey46 gray46 grey50 gray50 grey54 gray54 grey58 gray58 grey62",
    "gray62 grey66 gray66 grey70 gray70 grey74 gray74 grey78 gray78 grey82 gray82 grey85 gray85",
    "grey89 gray89 grey93 gray93"]

/-- The names of colours. -/
def colorNames : List String := "default" :: colorLines.flatMap fun line => line.splitOn " "

/-- What stands between a name and an opening parenthesis in front, and a closing one at the end of
a text. -/
def argument? (name : String) (t : List Char) : Option (List Char) :=
  let start := name.toList ++ ['(']
  if start.isPrefixOf t ∧ t.getLast? = some ')' then some ((t.drop start.length).dropLast) else none

/-- The value of a row of digits by which a part of a colour is given: it fits one byte. -/
def isByte (digit? : Char → Option Nat) (t : List Char) : Bool :=
  !t.isEmpty && t.all (fun c => (digit? c).isSome)
    && t.foldl (fun n c => n * 10 + (digit? c).getD 0) 0 ≤ 255

/-- Whether a text is a number sign and six digits of base 16 in lower case. -/
def isHexColor (t : List Char) : Bool :=
  match t with
  | '#' :: digits =>
    digits.length = 6
      && digits.all fun c => (Text.plainDigit? c).isSome || ('a' ≤ c && c ≤ 'f')
  | _ => false

/-- Whether a text is a colour given by its number. -/
def isNumberedColor (t : List Char) : Bool :=
  ((argument? "color" t).map fun n => n.length ≤ 3 && isByte Text.plainDigit? n).getD false

/-- Whether a text is a colour given by its shares of red, green and blue. -/
def isMixedColor (t : List Char) : Bool :=
  match argument? "rgb" t with
  | none => false
  | some shares =>
    let parts := shares.splitOn ','
    parts.length = 3 && parts.all (isByte Text.digitValue?)

/-- Whether a word in lower case is a colour. -/
def isColor (word : List Char) : Bool :=
  colorNames.contains (String.ofList word) || isHexColor word || isNumberedColor word
    || isMixedColor word

/-- A style. An attribute that is not listed is left as it is around the text. -/
structure Style where
  attributes : List (String × Bool)
  color : Option String
  background : Option String
  link : Option String
  deriving DecidableEq, Repr

namespace Style

/-- The style that changes nothing. -/
def plain : Style := ⟨[], none, none, none⟩

/-- Switches an attribute on or off. What is said later prevails. -/
def switch (s : Style) (name : String) (on : Bool) : Style :=
  { s with attributes := (name, on) :: s.attributes }

/-- Adds the words of a description to a style. -/
def addWords (s : Style) : List (List Char) → Option Style
  | [] => some s
  | word :: rest =>
    let small := String.ofList (Text.lower word)
    if small = "on" then
      match rest with
      | [] => none
      | color :: rest =>
        let color := Text.lower color
        if isColor color then addWords { s with background := String.ofList color } rest else none
    else if small = "not" then
      match rest with
      | [] => none
      | word :: rest =>
        match attribute? (String.ofList word) with
        | some name => addWords (s.switch name false) rest
        | none => none
    else if small = "link" then
      match rest with
      | [] => none
      | target :: rest => addWords { s with link := String.ofList target } rest
    else
      match attribute? small with
      | some name => addWords (s.switch name true) rest
      | none =>
        if isColor small.toList then addWords { s with color := small } rest else none

/-- The words of a text, which blanks separate. -/
def words (t : List Char) : List (List Char) := (t.splitOnP Text.isBlank).filter (· ≠ [])

/-- The style that a description stands for. -/
def parse? (t : List Char) : Option Style := addWords plain (words t)

/-- The word for an attribute of a style. -/
def attributeWord? (s : Style) (name : String) : Option String :=
  (Table.find? s.attributes name).map fun on => if on then name else "not " ++ name

/-- A style in words. -/
def describe (s : Style) : String :=
  let parts := (attributeNames.map (·.1)).filterMap s.attributeWord?
    ++ s.color.toList
    ++ (s.background.map ("on " ++ ·)).toList
    ++ (s.link.map ("link " ++ ·)).toList
  if parts = [] then "none" else " ".intercalate parts

/-- The normal form of a description. One that stands for no style is only put in lower case. -/
def normalize (t : List Char) : List Char :=
  match parse? t with
  | some s => s.describe.toList
  | none => Text.lower (Text.trim t)

end Style

end Scaffold.Console
