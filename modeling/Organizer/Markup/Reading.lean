import Organizer.Markup.Action
import Organizer.Markup.Emoji
import Organizer.Markup.Segment
import Organizer.Markup.Style

/-!
# What a text with markup shows

`plain?` is the text that markup denotes: active tags vanish, literal ones stay. A tag that begins
with a slash closes the style that it names, or the innermost open one if it names none; closing a
style that is not open is an error. A style may be left open, and any name is one, but a number in
it has to be readable. A tag that begins with an at sign carries an action instead, which is checked
when the tag is closed.

A backslash before a bracket that opens no tag is taken for an escape and vanishes. In what is left,
emoji take the place of their codes, run by run.

`pieces?` tells besides where the tags stood, because a text is printed in runs between them.
-/

namespace Organizer.Markup

/-! ### Tags -/

/-- An open tag: the normal form of its name, and what stands behind its equals sign. -/
structure OpenTag where
  name : String
  parameters : Option (List Char)
  deriving DecidableEq

/-- The name in a tag: what stands before an equals sign. -/
def nameOf (body : List Char) : List Char := body.takeWhile (· != '=')

/-- What stands behind the equals sign of a tag, if there is one. -/
def parametersOf (body : List Char) : Option (List Char) :=
  match body.dropWhile (· != '=') with
  | _ :: cs => some cs
  | [] => none

namespace OpenTag

/-- Does the tag carry an action? -/
def isEvent (t : OpenTag) : Bool := t.name.toList.head? == some '@'

/-- The tag as the description of a style. -/
def description (t : OpenTag) : List Char :=
  t.name.toList ++ (t.parameters.map (' ' :: ·)).getD []

/-- Can the tag be left open? -/
def canStay (t : OpenTag) : Bool := (normalForm? t.description).isSome

/-- Can the tag be closed? -/
def canClose (t : OpenTag) : Bool :=
  if t.isEvent then
    match t.parameters with
    | some (c :: cs) => isAction (c :: cs)
    | _ => true
  else t.canStay

end OpenTag

/-- Takes the innermost tag of a name out of the open ones. -/
def takeTag? (name : String) : List OpenTag → Option (OpenTag × List OpenTag)
  | [] => none
  | t :: ts =>
    if t.name = name then some (t, ts) else (takeTag? name ts).map fun p ↦ (p.1, t :: p.2)

/-- Closes a tag. -/
def close? (p : OpenTag × List OpenTag) : Option (List OpenTag) :=
  if p.1.canClose then some p.2 else none

/-- The open tags after a tag, innermost first; none if the tag closes what is not open, or if it
makes no sense. -/
def openAfter? (openTags : List OpenTag) (body : List Char) : Option (List OpenTag) :=
  match nameOf body with
  | '/' :: name =>
    if (Text.trim name).isEmpty then
      match openTags with
      | [] => none
      | t :: ts => close? (t, ts)
    else do close? (← takeTag? (← normalForm? (Text.trim name)) openTags)
  | name => do return ⟨← normalForm? name, parametersOf body⟩ :: openTags

/-! ### Pieces -/

/-- What stands at the end of a text when some tags are open: they end there. -/
def ending (openTags : List OpenTag) : List Piece := if openTags.isEmpty then [] else [.edge]

/-- The pieces that segments show when some tags are open. -/
def piecesFrom? : List OpenTag → List Segment → Option (List Piece)
  | openTags, [] => if openTags.all OpenTag.canStay then some (ending openTags) else none
  | openTags, .char c :: rest =>
    match c, rest with
    | '\\', .char '[' :: _ => piecesFrom? openTags rest
    | _, _ => (piecesFrom? openTags rest).map (.char c :: ·)
  | openTags, .tag slashes body :: rest =>
    let kept := List.replicate (slashes / 2) (Piece.char '\\')
    if slashes % 2 = 1 then
      (piecesFrom? openTags rest).map fun ps ↦
        kept ++ .seam :: (bracketed body).map .char ++ .seam :: ps
    else do
      let openTags ← openAfter? openTags body
      let ps ← piecesFrom? openTags rest
      return kept ++ .edge :: ps

/-- The pieces that markup shows; none if the markup is in error. -/
def pieces? (cs : List Char) (emoji : EmojiTable := noEmoji) : Option (List Piece) :=
  (piecesFrom? [] (scan cs)).map (replaceCodes emoji)

/-- The text that markup shows; none if the markup is in error. -/
def plain? (cs : List Char) (emoji : EmojiTable := noEmoji) : Option (List Char) :=
  (pieces? cs emoji).map textOf

end Organizer.Markup
