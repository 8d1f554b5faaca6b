import Organizer.Text.Blank
import Organizer.Text.Case

/-!
# Pieces of shown text, and emoji in them

What markup shows comes in pieces: characters, and the places between two runs of characters.

In a run of characters an emoji can be written as a code: a name between two colons. The name ends
at the next colon, holds no blank, and may say behind a hyphen in which of its two forms the emoji
is wanted; its case does not matter. A code whose name is not known stays as it is, and its second
colon does not begin another code.

Which names there are is supplied (`EmojiTable`); nothing here depends on it.
-/

namespace Organizer.Markup

open Text

/-! ### Pieces -/

/-- A piece of what markup shows. -/
inductive Piece
  | char (c : Char)
  /-- A place where a tag stood. -/
  | edge
  /-- A place where a literal tag begins or ends. -/
  | seam
  deriving DecidableEq, Repr

/-- The character of a piece. -/
def Piece.char? : Piece → Option Char
  | .char c => some c
  | .edge | .seam => none

/-- The text of pieces. -/
def textOf (ps : List Piece) : List Char := ps.filterMap Piece.char?

/-! ### Codes -/

/-- The emoji of names in lower case. -/
abbrev EmojiTable := String → Option String

/-- The table of no emoji. -/
def noEmoji : EmojiTable := fun _ ↦ none

/-- The forms of an emoji: what stands for them at the end of a code, and their selectors. -/
def forms : List (List Char × Char) := [("-emoji".toList, '\uFE0F'), ("-text".toList, '\uFE0E')]

/-- The name in a code, and the selector of the form that is wanted. -/
def nameAndForm (code : List Char) : List Char × List Char :=
  match forms.find? fun form ↦ form.1.isSuffixOf code with
  | some (ending, selector) => (code.take (code.length - ending.length), [selector])
  | none => (code, [])

/-- What is shown for a code: the emoji if the name is known. -/
def emoji? (table : EmojiTable) (code : List Char) : Option (List Char) :=
  let (name, form) := nameAndForm code
  (table (lower (String.ofList name))).map fun emoji ↦ emoji.toList ++ form

/-- A code between its colons. -/
def coded (code : List Char) : List Char := ':' :: code ++ [':']

/-- What has been held back because it might have become a code. -/
def heldText : Option (List Char) → List Char
  | none => []
  | some code => ':' :: code

/-- Puts emoji in the place of codes. What stands behind a colon is held back until the next colon
makes it a code, or until a blank or the end of the run shows that it is none. -/
def replaceFrom (table : EmojiTable) : Option (List Char) → List Piece → List Piece
  | held, [] => (heldText held).map .char
  | none, .char c :: ps =>
    if c = ':' then replaceFrom table (some []) ps else .char c :: replaceFrom table none ps
  | some code, .char c :: ps =>
    if c = ':' then
      ((emoji? table code).getD (coded code)).map .char ++ replaceFrom table none ps
    else if isBlank c then
      (heldText (some code) ++ [c]).map .char ++ replaceFrom table none ps
    else replaceFrom table (some (code ++ [c])) ps
  | held, p :: ps => (heldText held).map .char ++ p :: replaceFrom table none ps

/-- Puts emoji in the place of the codes in pieces. -/
def replaceCodes (table : EmojiTable) (ps : List Piece) : List Piece := replaceFrom table none ps

end Organizer.Markup
