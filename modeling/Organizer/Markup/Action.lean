import Organizer.Markup.Literal
import Organizer.Text.Alphanumeric
import Organizer.Text.Blank

/-!
# Actions of tags

A tag that begins with an at sign names an event, and what stands behind its equals sign is what
happens then: the name of an action, perhaps with parameters in parentheses, or a literal without a
name. When the tag is closed, the parameters have to be literals.
-/

namespace Organizer.Markup

/-- Can the character be part of the name of an action? -/
def isNameChar (c : Char) : Bool := Text.isAlphanumeric c || c == '_' || c == '.'

/-- The parameters of an action, with their parentheses: what follows its name. They stand on one
line and go on to the end. -/
def parameters? (cs : List Char) : Option (List Char) :=
  let rest := cs.dropWhile isNameChar
  if rest.isEmpty then some ['(', ')']
  else if rest.head? = some '(' ∧ 2 ≤ rest.length ∧ rest.getLast? = some ')' ∧ '\n' ∉ rest then
    some rest
  else none

/-- Can the text be carried out as an action? -/
def isAction (cs : List Char) : Bool :=
  let cs := Text.trim cs
  Literal.isLiteral ((parameters? cs).getD cs)

end Organizer.Markup
