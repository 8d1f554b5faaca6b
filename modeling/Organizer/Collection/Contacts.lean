import Organizer.Collection.Basic

/-!
# Contacts

A contact is an object with a name and some details. A search lists all contacts whose name contains
a text, whatever its case; a deletion takes all contacts of a name, whatever its case, and no other.
-/

namespace Organizer.Contacts

open Number

/-- A contact on one line. -/
def line (record : Json) : Except Failure String :=
  match record with
  | .obj fs => do
    return (← Collection.shownField fs "name") ++ ": " ++ (← Collection.shownField fs "info")
  | _ => .error .unexpected

/-- A contact has a name and details. -/
def accepts (record : Json) : Bool :=
  match record with
  | .obj fs => Collection.hasText fs "name" && Collection.hasText fs "info"
  | _ => false

/-- The contacts as a collection. -/
def collection : Collection where
  key := "contacts"
  category := .note
  fileName := "contacts.txt"
  line := line
  tears := fun r ↦ Collection.tornField "name" r || Collection.tornField "info" r
  accepts := accepts

/-- Adds a contact. -/
def add (name info : String) : Action Desk (List Response) := do
  if Text.allBlank name || Text.allBlank info then Action.refuse (.empty .contactPart)
  else
    Desk.onStore (Store.append collection.key (.obj [("name", .str name), ("info", .str info)]))
    return Response.reply ("Contact " ++ name ++ " added.") .note

/-- Does the name of a contact contain a text? -/
def nameHolds (term : String) : Store.Test := fun r ↦
  (Collection.field? "name" r).bind (Collection.contains? term)

/-- Is the name of a contact the given one, whatever its case? -/
def isNamed (name : String) : Store.Test := fun r ↦
  match Collection.field? "name" r with
  | some (.str n) => some (Text.lower n == Text.lower name)
  | some (.scalar (.torn _)) => some false
  | _ => none

/-- The contacts whose name contains a text. -/
def matching (term : String) (d : Desk) : Except Failure (List Json) := do
  match Store.partition? (nameHolds term) (← collection.records d) with
  | some (_, hits) => return hits
  | none => throw .unexpected

/-- Lists the contacts whose name contains a text. -/
def find (term : String) (d : Desk) : Except Failure (List Response) := do
  match ← matching term d with
  | [] => return Response.reply ("No contact found matching \"" ++ term ++ "\".")
  | hits =>
    return Response.reply (Collection.joinLines (← hits.mapM line)) .note
      (hits.any collection.tears)

/-- Deletes all contacts of a name. -/
def delete (name : String) : Action Desk (List Response) := do
  Action.ofExcept (Collection.requireTerm .contactTerm name)
  let removed ← Desk.onStore (Store.removeWhere collection.key (isNamed name))
  if removed.isEmpty then Action.refuse (.notFound .contact name)
  else
    return Response.reply
      ("Contact(s) named \"" ++ name ++ "\" deleted (" ++ showNat removed.length ++ ").") .note

end Organizer.Contacts
