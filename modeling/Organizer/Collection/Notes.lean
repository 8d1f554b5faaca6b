import Organizer.Collection.Basic

/-!
# Notes

A note is a text. Notes are found by a piece of their text, whatever its case; the first that
contains it is meant.

Editing takes two steps, since a person has to write the new text in between: `beginEdit` finds the
note, and `finishEdit` puts the new text in its place, or leaves all as it is if there is none.
-/

namespace Organizer.Notes

open Number

/-- The notes as a collection. -/
def collection : Collection where
  key := "notes"
  category := .note
  fileName := "notes.txt"
  line := Collection.shown
  tears := Json.isTorn
  accepts := Json.isText

/-- Adds a note. -/
def add (text : String) : Action Desk (List Response) := do
  Desk.onStore (Store.append collection.key (.str text))
  return Response.reply "Note saved." .note

/-- Does a note contain a text? -/
def holds (term : String) : Store.Test := Collection.contains? term

/-- The place of the first note that contains a text. -/
def find (term : String) (d : Desk) : Except Failure Nat :=
  collection.find .note .noteTerm term (holds term) d

/-- The place and the text of the note to edit. What was found is a text. -/
def beginEdit (term : String) (d : Desk) : Except Failure (Nat × String) := do
  let place ← find term d
  return (place, (← collection.recordAt place d).display)

/-- Is there a lone half in the note at a place? -/
def tornAt (place : Nat) (d : Desk) : Bool :=
  match collection.recordAt place d with
  | .ok note => note.isTorn
  | .error _ => false

/-- Replaces the note at a place, if there is a new text for it. -/
def finishEdit (place : Nat) (text : Option String) : Action Desk (List Response) := do
  match text with
  | none => return Response.reply "Edit cancelled."
  | some text =>
    Desk.onStore (Store.replaceAt collection.key (.int place) (.str text))
    return Response.reply ("Note " ++ showNat place ++ " saved.") .note

/-- Deletes the first note that contains a text. -/
def delete (term : String) : Action Desk (List Response) := do
  let place ← Action.ofExcept (find term (← get))
  let removed ← Desk.onStore (Store.removeAt collection.key (.int place))
  return Response.reply
    ("Note " ++ showNat place ++ " deleted: \"" ++ removed.display ++ "\"") .note
    removed.isTorn

end Organizer.Notes
