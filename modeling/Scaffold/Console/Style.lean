import Scaffold.Text.Blank
import Scaffold.Text.Case
import Scaffold.Text.Digit
import Scaffold.Text.Hex
import Scaffold.Text.Split
/-!
Styles: what a tag says of the look of a text.  One style can be written in many ways, and each has
one way in which it is written out; two tags agree when that is the same.
-/

namespace Scaffold.Console

open Scaffold.Text

/-- What can be switched on or off, in the order in which it is written out. -/
def switches : List String := ["bold", "dim", "italic", "underline", "blink", "blink2", "reverse",
  "conceal", "strike", "underline2", "frame", "encircle", "overline"]

def shortSwitches : List (String × String) := [("d", "dim"), ("b", "bold"), ("i", "italic"),
  ("u", "underline"), ("r", "reverse"), ("c", "conceal"), ("s", "strike"), ("uu", "underline2"),
  ("o", "overline")]

def switch? (name : String) : Option String :=
  if switches.contains name then some name else shortSwitches.lookup name

def colorNames : List String := [
  "default",
  "black", "red", "green", "yellow", "blue", "magenta", "cyan", "white", "bright_black",
  "bright_red", "bright_green", "bright_yellow", "bright_blue", "bright_magenta", "bright_cyan",
  "bright_white", "grey0", "gray0", "navy_blue", "dark_blue", "blue3", "blue1", "dark_green",
  "deep_sky_blue4", "dodger_blue3", "dodger_blue2", "green4", "spring_green4", "turquoise4",
  "deep_sky_blue3", "dodger_blue1", "green3", "spring_green3", "dark_cyan", "light_sea_green",
  "deep_sky_blue2", "deep_sky_blue1", "spring_green2", "cyan3", "dark_turquoise", "turquoise2",
  "green1", "spring_green1", "medium_spring_green", "cyan2", "cyan1", "dark_red", "deep_pink4",
  "purple4", "purple3", "blue_violet", "orange4", "grey37", "gray37", "medium_purple4",
  "slate_blue3", "royal_blue1", "chartreuse4", "dark_sea_green4", "pale_turquoise4", "steel_blue",
  "steel_blue3", "cornflower_blue", "chartreuse3", "cadet_blue", "sky_blue3", "steel_blue1",
  "pale_green3", "sea_green3", "aquamarine3", "medium_turquoise", "chartreuse2", "sea_green2",
  "sea_green1", "aquamarine1", "dark_slate_gray2", "dark_magenta", "dark_violet", "purple",
  "light_pink4", "plum4", "medium_purple3", "slate_blue1", "yellow4", "wheat4", "grey53",
  "gray53", "light_slate_grey", "light_slate_gray", "medium_purple", "light_slate_blue",
  "dark_olive_green3", "dark_sea_green", "light_sky_blue3", "sky_blue2", "dark_sea_green3",
  "dark_slate_gray3", "sky_blue1", "chartreuse1", "light_green", "pale_green1",
  "dark_slate_gray1", "red3", "medium_violet_red", "magenta3", "dark_orange3", "indian_red",
  "hot_pink3", "medium_orchid3", "medium_orchid", "medium_purple2", "dark_goldenrod",
  "light_salmon3", "rosy_brown", "grey63", "gray63", "medium_purple1", "gold3", "dark_khaki",
  "navajo_white3", "grey69", "gray69", "light_steel_blue3", "light_steel_blue", "yellow3",
  "dark_sea_green2", "light_cyan3", "light_sky_blue1", "green_yellow", "dark_olive_green2",
  "dark_sea_green1", "pale_turquoise1", "deep_pink3", "magenta2", "hot_pink2", "orchid",
  "medium_orchid1", "orange3", "light_pink3", "pink3", "plum3", "violet", "light_goldenrod3",
  "tan", "misty_rose3", "thistle3", "plum2", "khaki3", "light_goldenrod2", "light_yellow3",
  "grey84", "gray84", "light_steel_blue1", "yellow2", "dark_olive_green1", "honeydew2",
  "light_cyan1", "red1", "deep_pink2", "deep_pink1", "magenta1", "orange_red1", "indian_red1",
  "hot_pink", "dark_orange", "salmon1", "light_coral", "pale_violet_red1", "orchid2", "orchid1",
  "orange1", "sandy_brown", "light_salmon1", "light_pink1", "pink1", "plum1", "gold1",
  "navajo_white1", "misty_rose1", "thistle1", "yellow1", "light_goldenrod1", "khaki1", "wheat1",
  "cornsilk1", "grey100", "gray100", "grey3", "gray3", "grey7", "gray7", "grey11", "gray11",
  "grey15", "gray15", "grey19", "gray19", "grey23", "gray23", "grey27", "gray27", "grey30",
  "gray30", "grey35", "gray35", "grey39", "gray39", "grey42", "gray42", "grey46", "gray46",
  "grey50", "gray50", "grey54", "gray54", "grey58", "gray58", "grey62", "gray62", "grey66",
  "gray66", "grey70", "gray70", "grey74", "gray74", "grey78", "gray78", "grey82", "gray82",
  "grey85", "gray85", "grey89", "gray89", "grey93", "gray93"]

/-- Why a style cannot be read: it says something unknown, or a colour lacks one of its three
parts. -/
inductive StyleFault where
  | unknown
  | missingPart
deriving DecidableEq

/-- The text between a beginning and an ending. -/
def between? (opening closing : List Char) (cs : List Char) : Option (List Char) :=
  if opening.isPrefixOf cs && closing.isSuffixOf cs
      && opening.length + closing.length ≤ cs.length then
    some ((cs.drop opening.length).take (cs.length - opening.length - closing.length))
  else none

/-- The three parts of a colour, each of which is below 256. -/
def checkParts (parts : List (List Char)) : Except StyleFault Unit :=
  if parts.length ≠ 3 then .error .unknown
  else if parts.any (·.isEmpty) then .error .missingPart
  else if parts.all fun p => (number? p).any (· ≤ 255) then .ok ()
  else .error .unknown

/-- Whether a lower-case text is a colour: a name, six hexadecimal digits, a number, or three
parts. -/
def checkColor (cs : List Char) : Except StyleFault Unit :=
  if colorNames.contains (String.ofList cs) then .ok ()
  else if cs.head? = some '#' then
    if cs.length = 7 ∧ (cs.drop 1).all (fun c => (hexValue? c).isSome) then .ok ()
    else .error .unknown
  else
    match between? "color(".toList [')'] cs, between? "rgb(".toList [')'] cs with
    | some digits, _ =>
      if digits.length ≤ 3 ∧ digits.all Char.isDigit ∧ (number? digits).any (· ≤ 255) then .ok ()
      else .error .unknown
    | none, some parts =>
      if !parts.isEmpty && parts.all fun c => isDecimal c || c == ',' then
        checkParts (splitAtMark ',' parts)
      else .error .unknown
    | none, none => .error .unknown

/-- A style: what is switched on or off, the last word first, the colours, and what it links to. -/
structure Style where
  switched : List (String × Bool)
  color : Option (List Char)
  background : Option (List Char)
  link : Option (List Char)
deriving DecidableEq

/-- The style that says nothing. -/
def Style.plain : Style := ⟨[], none, none, none⟩

/-- A style with what further words say. -/
def Style.read (s : Style) : List (List Char) → Except StyleFault Style
  | [] => .ok s
  | word :: rest =>
    let name := String.ofList (lower word)
    if name = "on" then
      match rest with
      | [] => .error .unknown
      | color :: rest => do
        checkColor (lower color)
        { s with background := some (lower color) }.read rest
    else if name = "not" then
      match rest with
      | [] => .error .unknown
      | off :: rest =>
        match switch? (String.ofList off) with
        | some w => { s with switched := (w, false) :: s.switched }.read rest
        | none => .error .unknown
    else if name = "link" then
      match rest with
      | [] => .error .unknown
      | target :: rest => { s with link := some target }.read rest
    else
      match switch? name with
      | some w => { s with switched := (w, true) :: s.switched }.read rest
      | none => do
        checkColor (lower word)
        { s with color := some (lower word) }.read rest

def Style.words (s : Style) : List (List Char) :=
  switches.flatMap (fun w =>
      match s.switched.lookup w with
      | some true => [w.toList]
      | some false => ["not".toList, w.toList]
      | none => [])
    ++ s.color.toList
    ++ (s.background.map fun c => ["on".toList, c]).getD []
    ++ (s.link.map fun target => ["link".toList, target]).getD []

def Style.shown (s : Style) : List Char :=
  if s.words.isEmpty then "none".toList else [' '].intercalate s.words

/-- What a tag is called: its style as that is written out, or the lower-case text of a tag that is
no style. -/
def styleName (cs : List Char) : Except StyleFault (List Char) :=
  if trim cs = "none".toList then .ok "none".toList
  else
    match Style.plain.read (runsOf (!isBlank ·) cs) with
    | .ok s => .ok s.shown
    | .error .unknown => .ok (lower (trim cs))
    | .error .missingPart => .error .missingPart

end Scaffold.Console
