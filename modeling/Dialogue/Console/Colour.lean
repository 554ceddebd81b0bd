import Dialogue.Number.Integer
import Dialogue.Text.Blank
import Dialogue.Text.LowerCase

/-!
# Colours

A colour is called by a name, by its number among 256, or by the amounts of red, green and blue in
it, as digits in base sixteen or as three numbers.
-/
namespace Dialogue.Console

/-- The names of colours, in lower case. -/
def colourNames : List String :=
  ["black red green yellow blue magenta cyan white bright_black bright_red bright_green",
    "bright_yellow bright_blue bright_magenta bright_cyan bright_white grey0 gray0 navy_blue",
    "dark_blue blue3 blue1 dark_green deep_sky_blue4 dodger_blue3 dodger_blue2 green4",
    "spring_green4 turquoise4 deep_sky_blue3 dodger_blue1 green3 spring_green3 dark_cyan",
    "light_sea_green deep_sky_blue2 deep_sky_blue1 spring_green2 cyan3 dark_turquoise turquoise2",
    "green1 spring_green1 medium_spring_green cyan2 cyan1 dark_red deep_pink4 purple4 purple3",
    "blue_violet orange4 grey37 gray37 medium_purple4 slate_blue3 royal_blue1 chartreuse4",
    "dark_sea_green4 pale_turquoise4 steel_blue steel_blue3 cornflower_blue chartreuse3",
    "cadet_blue sky_blue3 steel_blue1 pale_green3 sea_green3 aquamarine3 medium_turquoise",
    "chartreuse2 sea_green2 sea_green1 aquamarine1 dark_slate_gray2 dark_magenta dark_violet",
    "purple light_pink4 plum4 medium_purple3 slate_blue1 yellow4 wheat4 grey53 gray53",
    "light_slate_grey light_slate_gray medium_purple light_slate_blue dark_olive_green3",
    "dark_sea_green light_sky_blue3 sky_blue2 dark_sea_green3 dark_slate_gray3 sky_blue1",
    "chartreuse1 light_green pale_green1 dark_slate_gray1 red3 medium_violet_red magenta3",
    "dark_orange3 indian_red hot_pink3 medium_orchid3 medium_orchid medium_purple2 dark_goldenrod",
    "light_salmon3 rosy_brown grey63 gray63 medium_purple1 gold3 dark_khaki navajo_white3 grey69",
    "gray69 light_steel_blue3 light_steel_blue yellow3 dark_sea_green2 light_cyan3",
    "light_sky_blue1 green_yellow dark_olive_green2 dark_sea_green1 pale_turquoise1 deep_pink3",
    "magenta2 hot_pink2 orchid medium_orchid1 orange3 light_pink3 pink3 plum3 violet",
    "light_goldenrod3 tan misty_rose3 thistle3 plum2 khaki3 light_goldenrod2 light_yellow3 grey84",
    "gray84 light_steel_blue1 yellow2 dark_olive_green1 honeydew2 light_cyan1 red1 deep_pink2",
    "deep_pink1 magenta1 orange_red1 indian_red1 hot_pink dark_orange salmon1 light_coral",
    "pale_violet_red1 orchid2 orchid1 orange1 sandy_brown light_salmon1 light_pink1 pink1 plum1",
    "gold1 navajo_white1 misty_rose1 thistle1 yellow1 light_goldenrod1 khaki1 wheat1 cornsilk1",
    "grey100 gray100 grey3 gray3 grey7 gray7 grey11 gray11 grey15 gray15 grey19 gray19 grey23",
    "gray23 grey27 gray27 grey30 gray30 grey35 gray35 grey39 gray39 grey42 gray42 grey46 gray46",
    "grey50 gray50 grey54 gray54 grey58 gray58 grey62 gray62 grey66 gray66 grey70 gray70 grey74",
    "gray74 grey78 gray78 grey82 gray82 grey85 gray85 grey89 gray89 grey93 gray93"].flatMap
      fun line => (Text.wordsOf line.toList []).map String.ofList

/-- A number in a colour that cannot be read. -/
inductive NumberFault where
  | empty
  | tooLong (digits : Nat)
  deriving DecidableEq

def NumberFault.message : NumberFault → String
  | empty => "invalid literal for int() with base 10: \x27\x27"
  | tooLong digits => Number.longIntegerMessage digits

/-- Why a word is no colour: it does not look like one, or it does and has a bad number in it. -/
inductive ColourError where
  | unknown
  | number (f : NumberFault)
  deriving DecidableEq

/-- What stands between a name with an open bracket and the bracket that ends the word. -/
def between? (opening : String) (word : List Char) : Option (List Char) :=
  if opening.toList.isPrefixOf word && word.getLast? = some ')' then
    some ((word.drop opening.length).dropLast)
  else none

def splitAtCommas : List Char → List (List Char)
  | [] => [[]]
  | c :: rest =>
    match c, splitAtCommas rest with
    | ',', parts => [] :: parts
    | c, part :: parts => (c :: part) :: parts
    | c, [] => [[c]]

/-- The number of a row of digits, which may be empty. -/
def amount (digits : List Char) : Except ColourError Nat :=
  if digits = [] then .error (.number .empty)
  else if Number.digitLimit < digits.length then .error (.number (.tooLong digits.length))
  else .ok (Number.natOfAnyDigits digits)

/-- Amounts of red, green and blue, all of them below 256. -/
def checkAmounts (cs : List Char) : Except ColourError Unit := do
  match splitAtCommas cs with
  | [red, green, blue] =>
    let r ← amount red
    let g ← amount green
    let b ← amount blue
    if r < 256 && g < 256 && b < 256 then pure () else throw .unknown
  | _ => throw .unknown

/-- Checks that a word in lower case is a colour. -/
def checkColour (word : String) : Except ColourError Unit :=
  let cs := word.toList
  let inHex := fun c : Char => c.isDigit || ('a' ≤ c && c ≤ 'f')
  if word = "default" || colourNames.contains word then .ok ()
  else if cs.head? = some '#' && cs.length = 7 && cs.tail.all inHex then .ok ()
  else match between? "color(" cs, between? "rgb(" cs with
    | some digits, _ =>
      if digits ≠ [] && digits.length ≤ 3 && digits.all Char.isDigit
        && Number.natOfDigits digits < 256 then .ok ()
      else .error .unknown
    | none, some parts =>
      if parts ≠ [] && parts.all fun c => c = ',' || Text.isDigit c then checkAmounts parts
      else .error .unknown
    | none, none => .error .unknown

/-- The colour that a word names, in lower case. -/
def readColour (word : String) : Except ColourError String :=
  let name := Text.lower word
  (fun _ => name) <$> checkColour name

end Dialogue.Console
