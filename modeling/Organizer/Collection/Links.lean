import Organizer.Collection.Basic
import Organizer.Markup.Segment
import Organizer.Text.Percent

/-!
# Links

A link is an object with a name and an address. In a listing the address is active: it is shown as
it is stored and points to its percent-encoded form. Links are found by a piece of their name,
whatever its case; the first whose name contains it is meant.
-/

namespace Organizer.Links

/-! ### Addresses -/

/-- Is the character the letter s, in any form that counts as one when case does not matter? -/
def isLetterS (c : Char) : Bool := c == 's' || c == 'S' || c == 'ſ'

/-- What follows a scheme of the web at the front of a text, whatever its case. -/
def afterScheme? (cs : List Char) : Option (List Char) :=
  match cs with
  | h :: t :: t' :: p :: rest =>
    if (h == 'h' || h == 'H') && (t == 't' || t == 'T') && (t' == 't' || t' == 'T') &&
        (p == 'p' || p == 'P') then
      match rest with
      | s :: after => some (if isLetterS s then after else rest)
      | [] => some []
    else none
  | _ => none

/-- Does the text begin with a scheme of the web and a colon? -/
def isAddress (s : String) : Bool :=
  match afterScheme? s.toList with
  | some (':' :: _) => true
  | _ => false

/-- Does the text begin with a scheme of the web, a colon and two slashes? -/
def hasScheme (s : String) : Bool :=
  match afterScheme? s.toList with
  | some (':' :: '/' :: '/' :: _) => true
  | _ => false

/-- An address in full: one without a scheme gets one. -/
def fullAddress (s : String) : String := if hasScheme s then s else "http://" ++ s

/-! ### The collection -/

/-- The characters of an address that stand for themselves in a link, besides the unreserved
ones. -/
def kept : List Char := ":/?#@!$&'()*+,;=%".toList

/-- A link as a listing shows it. An address that cannot be encoded cannot be shown. -/
def line (record : Json) : Except Failure String :=
  match (Collection.field? "name" record).bind Json.shown?,
    (Collection.field? "url" record).bind Json.asText? with
  | some name, some url =>
    .ok (String.ofList (Markup.escape name.toList ++ " - [link=".toList ++
      Text.percentEncode kept url ++ [']'] ++ Markup.escape url.toList ++ "[/link]".toList))
  | _, _ => .error .unexpected

/-- A link has a name and an address. -/
def accepts (record : Json) : Bool :=
  match record with
  | .obj fs => Collection.hasText fs "name" && Collection.hasText fs "url"
  | _ => false

/-- The links as a collection. -/
def collection : Collection where
  key := "links"
  category := .link
  fileName := "links.txt"
  markup := true
  line := line
  tears := Collection.tornField "name"
  accepts := accepts

/-! ### Commands -/

/-- Adds a link. A link without a name is named by its address. -/
def add (address name : String) : Action Desk (List Response) := do
  if Text.allBlank address then Action.refuse (.empty .address)
  else
    let name := if Text.allBlank name then address else Text.strip name
    Desk.onStore (Store.append collection.key
      (.obj [("name", .str name), ("url", .str (fullAddress address))]))
    return Response.reply ("Link saved: \"" ++ name ++ "\"") .link

/-- Does the name of a link contain a text? -/
def nameHolds (term : String) : Store.Test := fun r ↦
  (Collection.field? "name" r).bind (Collection.contains? term)

/-- The place of the first link whose name contains a text. -/
def find (term : String) (d : Desk) : Except Failure Nat :=
  collection.find .link .linkTerm term (nameHolds term) d

/-- The name of a link that was found, which is a text. -/
def nameOf (fields : Fields) : String := ((fields.get? "name").map Json.display).getD ""

/-- The fields of the link at a place. -/
def fieldsAt (place : Nat) (d : Desk) : Except Failure Fields := do
  match (← collection.recordAt place d).asFields? with
  | some fields => return fields
  | none => throw .unexpected

/-- Opens the first link whose name contains a text. -/
def go (term : String) : Action Desk (List Response) := do
  let d ← get
  let _ ← Action.ofExcept (collection.records d)
  let place ← Action.ofExcept (find term d)
  let fields ← Action.ofExcept (fieldsAt place d)
  let address ← Action.require (fields.get? "url")
  Desk.openAddress address
  return Response.reply ("Opening \"" ++ nameOf fields ++ "\"...") .link
    (Collection.tornField "name" (.obj fields))

/-- Deletes the first link whose name contains a text. -/
def delete (term : String) : Action Desk (List Response) := do
  let place ← Action.ofExcept (find term (← get))
  let removed ← Desk.onStore (Store.removeAt collection.key (.int place))
  let name := (removed.asFields?.map nameOf).getD ""
  return Response.reply ("Link deleted: \"" ++ name ++ "\"") .link
    (Collection.tornField "name" removed)

/-- Gives the first link whose name contains a text a new name. -/
def rename (term newName : String) : Action Desk (List Response) := do
  if Text.allBlank newName then Action.refuse (.empty .newName)
  else
    let d ← get
    let place ← Action.ofExcept (find term d)
    let fields ← Action.ofExcept (fieldsAt place d)
    Desk.onStore (Store.replaceAt collection.key (.int place)
      (.obj (fields.set "name" (.str newName))))
    return Response.reply
      ("Link renamed from \"" ++ nameOf fields ++ "\" to \"" ++ newName ++ "\".") .link
      (Collection.tornField "name" (.obj fields))

end Organizer.Links
