import Organizer.Text.Blank
import Organizer.Text.Width

/-!
# Laying out text

Text is laid out in lines of cells, of which a character takes none, one or two. Control characters
that would move the cursor are left out, and a tab fills up to the next column that is a multiple of
eight.
-/

namespace Organizer.Console

open Text

/-- A line of text. -/
abbrev Line := List Char

/-- Is the character a control character that is left out? -/
def isLeftOut (c : Char) : Bool :=
  c.toNat == 7 || c.toNat == 8 || c.toNat == 11 || c.toNat == 12 || c.toNat == 13

/-- Splits a list at each occurrence of a separator. -/
def split {α : Type} [DecidableEq α] (separator : α) : List α → List (List α)
  | [] => [[]]
  | x :: xs =>
    if x = separator then [] :: split separator xs
    else
      match split separator xs with
      | l :: ls => (x :: l) :: ls
      | [] => [[x]]

/-- Splits a text at line breaks. -/
def splitLines (cs : List Char) : List Line := split '\n' cs

/-- The columns between two tab stops. -/
def tabStop : Nat := 8

/-- So many blanks. -/
def blanks (n : Nat) : Line := List.replicate n ' '

/-- Puts the parts between tabs side by side, from a column on. A tab is one blank, which is
measured together with the part in front of it, and as many more as lead to the next tab stop. -/
def alignParts {α : Type} (blank : α) (measure : List α → Nat) : Nat → List (List α) → List α
  | _, [] => []
  | _, [part] => part
  | column, part :: next :: parts =>
    let part := part ++ [blank]
    let reached := column + measure part
    let fill := (tabStop - reached % tabStop) % tabStop
    part ++ List.replicate fill blank ++ alignParts blank measure (reached + fill) (next :: parts)

/-- Puts blanks in the place of tabs. -/
def expandTabs (l : Line) : Line := alignParts ' ' width 0 (split '\t' l)

/-- The lines of a text. -/
def layOut (cs : List Char) : List Line :=
  (splitLines (cs.filter (!isLeftOut ·))).map expandTabs

/-- The text of lines, each with a line break at its end. -/
def unlines (ls : List Line) : List Char := ls.flatMap (· ++ ['\n'])

/-- A line filled up with blanks on the right. -/
def padRight (columns : Nat) (l : Line) : Line := l ++ blanks (columns - width l)

/-- A line of a column that starts at the left. A joiner at its end takes in the first blank; the
column is then filled up once more. -/
def leftAligned (columns : Nat) (l : Line) : Line := padRight columns (padRight columns l)

/-- A line with a character on both sides of it, on the left half as many as are needed, rounded
down. -/
def centredWith (fill : Char) (columns : Nat) (l : Line) : Line :=
  let excess := columns - width l
  List.replicate (excess / 2) fill ++ l ++ List.replicate (excess - excess / 2) fill

/-- A line in the middle, without the blanks at its end. -/
def centred (columns : Nat) (l : Line) : Line := centredWith ' ' columns (dropBlanksEnd l)

/-- The width of the widest line. -/
def widest (ls : List Line) : Nat := (ls.map width).foldl max 0

end Organizer.Console
