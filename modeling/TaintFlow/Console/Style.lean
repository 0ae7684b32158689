import TaintFlow.Document.Coerce
import TaintFlow.Text.Parts

/-!
# Styles

A style is named by words: attributes, which may be negated, a color, a background after `on`, and a
link. Two tags mean the same style when their names have the same normal form. A name that is not
made of such words is its own normal form, up to case and surrounding blanks. A component of a color
that is no number is a fault.
-/

namespace TaintFlow.Console

/-- The colors that have a name, between blanks. -/
def colorNames : String := "default
black red green yellow blue magenta cyan white bright_black bright_red bright_green bright_yellow
bright_blue bright_magenta bright_cyan bright_white grey0 gray0 navy_blue dark_blue blue3 blue1
dark_green deep_sky_blue4 dodger_blue3 dodger_blue2 green4 spring_green4 turquoise4 deep_sky_blue3
dodger_blue1 green3 spring_green3 dark_cyan light_sea_green deep_sky_blue2 deep_sky_blue1
spring_green2 cyan3 dark_turquoise turquoise2 green1 spring_green1 medium_spring_green cyan2 cyan1
dark_red deep_pink4 purple4 purple3 blue_violet orange4 grey37 gray37 medium_purple4 slate_blue3
royal_blue1 chartreuse4 dark_sea_green4 pale_turquoise4 steel_blue steel_blue3 cornflower_blue
chartreuse3 cadet_blue sky_blue3 steel_blue1 pale_green3 sea_green3 aquamarine3 medium_turquoise
chartreuse2 sea_green2 sea_green1 aquamarine1 dark_slate_gray2 dark_magenta dark_violet purple
light_pink4 plum4 medium_purple3 slate_blue1 yellow4 wheat4 grey53 gray53 light_slate_grey
light_slate_gray medium_purple light_slate_blue dark_olive_green3 dark_sea_green light_sky_blue3
sky_blue2 dark_sea_green3 dark_slate_gray3 sky_blue1 chartreuse1 light_green pale_green1
dark_slate_gray1 red3 medium_violet_red magenta3 dark_orange3 indian_red hot_pink3 medium_orchid3
medium_orchid medium_purple2 dark_goldenrod light_salmon3 rosy_brown grey63 gray63 medium_purple1
gold3 dark_khaki navajo_white3 grey69 gray69 light_steel_blue3 light_steel_blue yellow3
dark_sea_green2 light_cyan3 light_sky_blue1 green_yellow dark_olive_green2 dark_sea_green1
pale_turquoise1 deep_pink3 magenta2 hot_pink2 orchid medium_orchid1 orange3 light_pink3 pink3
plum3 violet light_goldenrod3 tan misty_rose3 thistle3 plum2 khaki3 light_goldenrod2 light_yellow3
grey84 gray84 light_steel_blue1 yellow2 dark_olive_green1 honeydew2 light_cyan1 red1 deep_pink2
deep_pink1 magenta1 orange_red1 indian_red1 hot_pink dark_orange salmon1 light_coral
pale_violet_red1 orchid2 orchid1 orange1 sandy_brown light_salmon1 light_pink1 pink1 plum1 gold1
navajo_white1 misty_rose1 thistle1 yellow1 light_goldenrod1 khaki1 wheat1 cornsilk1 grey100
gray100 grey3 gray3 grey7 gray7 grey11 gray11 grey15 gray15 grey19 gray19 grey23 gray23 grey27
gray27 grey30 gray30 grey35 gray35 grey39 gray39 grey42 gray42 grey46 gray46 grey50 gray50 grey54
gray54 grey58 gray58 grey62 gray62 grey66 gray66 grey70 gray70 grey74 gray74 grey78 gray78 grey82
gray82 grey85 gray85 grey89 gray89 grey93 gray93"

def colors : List String := Text.wordsOf colorNames

/-- The attributes in the order in which a style lists them. -/
def attributes : List String :=
  ["bold", "dim", "italic", "underline", "blink", "blink2", "reverse", "conceal", "strike",
    "underline2", "frame", "encircle", "overline"]

def attributeShorthands : List (String × String) :=
  [("d", "dim"), ("b", "bold"), ("i", "italic"), ("u", "underline"), ("r", "reverse"),
    ("c", "conceal"), ("s", "strike"), ("uu", "underline2"), ("o", "overline")]

def attribute? (word : String) : Option String :=
  if word ∈ attributes then some word else attributeShorthands.lookup word

/-! ## Colors -/

/-- What stands between a function name and its brackets. -/
def argumentsOf? (name : String) (word : String) : Option (List Char) :=
  match Text.afterChars? (name.toList ++ ['(']) word.toList with
  | some rest => if rest.getLast? = some ')' then some rest.dropLast else none
  | none => none

def isHexDigit (c : Char) : Bool := ('0' ≤ c && c ≤ '9') || ('a' ≤ c && c ≤ 'f')

/-- Whether three components are given, each of which fits into a byte. -/
def areComponents (arguments : List Char) : Result Bool := do
  if arguments.isEmpty
      || !arguments.all (fun c => c = ',' || (Text.digitValue? c).isSome || Text.isBlank c) then
    return false
  match Text.splitChars (· = ',') arguments with
  | [red, green, blue] =>
    let values ← [red, green, blue].mapM (fun part =>
      (Document.text (String.ofList part)).toWhole)
    return values.all (· ≤ 255)
  | _ => return false

/-- Whether a word in lower case is a color: a name, six hexadecimal digits, a number in the
palette, or three components. -/
def isColor (word : String) : Result Bool := do
  if word ∈ colors then return true
  if let '#' :: digits := word.toList then
    return digits.length == 6 && digits.all isHexDigit
  if let some digits := argumentsOf? "color" word then
    return 0 < digits.length && digits.length ≤ 3 && digits.all Char.isDigit
      && valueOfDigits digits ≤ 255
  match argumentsOf? "rgb" word with
  | some arguments => areComponents arguments
  | none => return false

/-! ## Normal forms -/

structure Style where
  attributes : List (String × Bool) := []
  color : Option String := none
  background : Option String := none
  link : Option String := none
deriving DecidableEq, Repr

namespace Style

/-- Reads the words of a style, after those that are read into `s` already. -/
def read (s : Style) : List String → Result (Option Style)
  | [] => return some s
  | word :: rest => do
    match Text.lower word, rest with
    | "on", color :: rest =>
      let color := Text.lower color
      if ← isColor color then read { s with background := some color } rest else return none
    | "not", word :: rest =>
      match attribute? word with
      | some a => read { s with attributes := (a, false) :: s.attributes } rest
      | none => return none
    | "link", target :: rest => read { s with link := some target } rest
    | word, rest =>
      match attribute? word with
      | some a => read { s with attributes := (a, true) :: s.attributes } rest
      | none => if ← isColor word then read { s with color := some word } rest else return none

/-- The words of a style in their fixed order. -/
def words (s : Style) : List String :=
  Console.attributes.filterMap (fun a =>
    (s.attributes.lookup a).map (fun on => if on then a else "not " ++ a))
  ++ s.color.toList
  ++ (s.background.map ("on " ++ ·)).toList
  ++ (s.link.map ("link " ++ ·)).toList

/-- The normal form of the name of a style. -/
def normalName (name : String) : Result String := do
  let trimmed := Text.trim name
  if trimmed.isEmpty || trimmed = "none" then return "none"
  else
    match ← read {} (Text.wordsOf name) with
    | some s => return Text.joinWith " " s.words
    | none => return Text.lower trimmed

end Style

end TaintFlow.Console
