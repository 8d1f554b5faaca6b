import Organizer.Text.Digit

/-!
# Names of colours

A colour is named by a word: a name, perhaps with the number of a shade; six hexadecimal digits
after a hash; `color(n)` with a number up to 255; or `rgb(r,g,b)` with three numbers up to 255. All
words here are in lower case.

A word that is none of these names no colour. An `rgb` word in which one of three numbers is missing
or has too many digits is worse: it is in error.
-/

namespace Organizer.Markup

open Text

/-- Why a text does not describe a style, or a word no colour. -/
inductive StyleFault
  /-- It is not meant to. -/
  | foreign
  /-- A number in it cannot be read. -/
  | unreadable
  deriving DecidableEq, Repr

namespace Colour

/-- Names, with the numbers that may follow each of them. -/
def shades : List (List String × List String) := [
    (["black", "white", "bright_black", "bright_red", "bright_green", "bright_yellow",
      "bright_blue", "bright_magenta", "bright_cyan", "bright_white", "navy_blue",
      "dark_blue", "dark_green", "dark_cyan", "light_sea_green", "dark_turquoise",
      "medium_spring_green", "dark_red", "blue_violet", "cornflower_blue", "cadet_blue",
      "medium_turquoise", "dark_magenta", "dark_violet", "light_slate_grey",
      "light_slate_gray", "light_slate_blue", "light_green", "medium_violet_red",
      "dark_goldenrod", "rosy_brown", "dark_khaki", "green_yellow", "violet", "tan",
      "light_coral", "sandy_brown"], [""]),
    (["red", "blue", "steel_blue", "medium_orchid", "light_steel_blue"], ["", "1", "3"]),
    (["green"], ["", "1", "3", "4"]),
    (["yellow", "medium_purple", "dark_sea_green"], ["", "1", "2", "3", "4"]),
    (["magenta", "cyan"], ["", "1", "2", "3"]),
    (["grey", "gray"], ["0", "3", "7", "11", "15", "19", "23", "27", "30", "35", "37", "39",
      "42", "46", "50", "53", "54", "58", "62", "63", "66", "69", "70", "74", "78", "82",
      "84", "85", "89", "93", "100"]),
    (["deep_sky_blue", "spring_green", "deep_pink", "chartreuse", "plum"], ["1", "2", "3",
      "4"]),
    (["dodger_blue", "sky_blue", "sea_green", "dark_slate_gray", "dark_olive_green",
      "light_goldenrod"], ["1", "2", "3"]),
    (["turquoise"], ["2", "4"]),
    (["purple"], ["", "3", "4"]),
    (["orange", "light_pink"], ["1", "3", "4"]),
    (["slate_blue", "pale_green", "aquamarine", "light_sky_blue", "light_salmon", "gold",
      "navajo_white", "light_cyan", "pink", "misty_rose", "thistle", "khaki"], ["1", "3"]),
    (["royal_blue", "orange_red", "salmon", "pale_violet_red", "cornsilk"], ["1"]),
    (["pale_turquoise", "wheat"], ["1", "4"]),
    (["dark_orange"], ["", "3"]),
    (["indian_red"], ["", "1"]),
    (["hot_pink"], ["", "2", "3"]),
    (["orchid"], ["", "1", "2"]),
    (["light_yellow"], ["3"]),
    (["honeydew"], ["2"])]

/-- Is the word a name, with a shade or without one? -/
def isName (word : String) : Bool :=
  word == "default" ||
    shades.any fun (names, numbers) ↦
      names.any fun name ↦ numbers.any fun number ↦ word == name ++ number

/-- The text between a beginning and a closing parenthesis that ends the word. -/
def argument? (beginning : String) (word : List Char) : Option (List Char) :=
  if beginning.toList.isPrefixOf word && word.getLast? == some ')' then
    some (word.drop beginning.toList.length).dropLast
  else none

/-- Is the character a hexadecimal digit in lower case? -/
def isHexDigit (c : Char) : Bool := ('0' ≤ c && c ≤ '9') || ('a' ≤ c && c ≤ 'f')

/-- Six hexadecimal digits after a hash. -/
def isHexColour (word : List Char) : Bool :=
  match word with
  | '#' :: digits => digits.length == 6 && digits.all isHexDigit
  | _ => false

/-- The largest number in a colour. -/
def maxComponent : Nat := 255

/-- A number from one to three ASCII digits in parentheses. -/
def isNumbered (word : List Char) : Bool :=
  match argument? "color(" word with
  | some digits =>
    1 ≤ digits.length && digits.length ≤ 3 &&
      ((digits.mapM asciiDigit?).map ofDigits).any (· ≤ maxComponent)
  | none => false

/-- The texts between commas. -/
def components : List Char → List (List Char)
  | [] => [[]]
  | c :: cs =>
    if c = ',' then [] :: components cs
    else
      match components cs with
      | d :: ds => (c :: d) :: ds
      | [] => [[c]]

/-- The longest number may have this many digits. -/
def maxDigits : Nat := 4300

/-- A component of a colour. -/
def component? (digits : List Char) : Option Nat :=
  if digits.isEmpty || maxDigits < digits.length then none else natOfDigits? digits

/-- Checks three numbers in parentheses, which may be in digits of any script. -/
def checkMixed (word : List Char) : Except StyleFault Unit :=
  match argument? "rgb(" word with
  | none => .error .foreign
  | some inside =>
    if inside.isEmpty || !inside.all (fun c ↦ c == ',' || isDigit c) then .error .foreign
    else
      let parts := components inside
      if parts.length ≠ 3 then .error .foreign
      else
        match parts.mapM component? with
        | none => .error .unreadable
        | some numbers => if numbers.all (· ≤ maxComponent) then .ok () else .error .foreign

/-- Checks that a word names a colour. -/
def check (word : String) : Except StyleFault Unit :=
  if isName word || isHexColour word.toList || isNumbered word.toList then .ok ()
  else checkMixed word.toList

end Colour

end Organizer.Markup
