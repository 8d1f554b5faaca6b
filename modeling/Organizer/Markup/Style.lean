import Organizer.Markup.Colour
import Organizer.Text.Case

/-!
# Names of styles

The name of a style is a list of words: attributes, each with a short form and a `not` form, a
colour, a background after `on`, and an address after `link`. Two spellings that mean the same style
have the same normal form, which lists the attributes in a fixed order and then the rest. What is no
style of this kind is its own normal form, in lower case and without surrounding blanks; a style
with a number that cannot be read has none.
-/

namespace Organizer.Markup

open Text

/-- The attributes in the order in which they are listed, with their short forms. -/
def attributes : List (String × String) :=
  [("bold", "b"), ("dim", "d"), ("italic", "i"), ("underline", "u"), ("blink", ""), ("blink2", ""),
    ("reverse", "r"), ("conceal", "c"), ("strike", "s"), ("underline2", "uu"), ("frame", ""),
    ("encircle", ""), ("overline", "o")]

/-- The attribute that a word names. -/
def attribute? (word : String) : Option String :=
  (attributes.find? fun (long, short) ↦ word = long || (word = short && word != "")).map (·.1)

/-- A style: each attribute set or unset, a colour, a background, and an address. -/
structure Style where
  set : List (String × Bool) := []
  colour : Option String := none
  background : Option String := none
  address : Option String := none

namespace Style

/-- Adds words to a style. Only after `not` and `link` does the case of a letter matter. -/
def add (style : Style) : List String → Except StyleFault Style
  | [] => .ok style
  | word :: words =>
    let name := lower word
    if name = "on" then
      match words with
      | [] => .error .foreign
      | background :: words => do
        Colour.check (lower background)
        add { style with background := some (lower background) } words
    else if name = "not" then
      match words with
      | [] => .error .foreign
      | negated :: words =>
        match attribute? negated with
        | some long => add { style with set := (long, false) :: style.set } words
        | none => .error .foreign
    else if name = "link" then
      match words with
      | [] => .error .foreign
      | address :: words => add { style with address := some address } words
    else
      match attribute? name with
      | some long => add { style with set := (long, true) :: style.set } words
      | none => do
        Colour.check name
        add { style with colour := some name } words

/-- The words of a style in their fixed order. -/
def words (style : Style) : List String :=
  (attributes.filterMap fun (name, _) ↦
    (style.set.lookup name).map fun on ↦ if on then name else "not " ++ name) ++
    style.colour.toList ++ style.background.toList.map ("on " ++ ·) ++
      style.address.toList.map ("link " ++ ·)

/-- Splits a text at blanks. -/
def blankWords (cs : List Char) : List (List Char) :=
  (cs.splitBy fun a b ↦ isBlank a == isBlank b).filter fun w ↦ !w.all isBlank

/-- The style that a text describes. -/
def ofText (cs : List Char) : Except StyleFault Style :=
  if trim cs = "none".toList then .ok {} else add {} ((blankWords cs).map String.ofList)

/-- The text of a style. -/
def text (style : Style) : String :=
  if style.words.isEmpty then "none" else " ".intercalate style.words

end Style

/-- The common form of all spellings of a style. -/
def normalForm? (cs : List Char) : Option String :=
  match Style.ofText cs with
  | .ok style => some style.text
  | .error .foreign => some (lower (String.ofList (trim cs)))
  | .error .unreadable => none

end Organizer.Markup
