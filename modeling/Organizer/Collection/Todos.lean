import Organizer.Collection.Basic
import Organizer.Json.Reader

/-!
# To-do items

An item is an object with a text and a mark that tells whether it is done. Items are named by their
number in the listing.
-/

namespace Organizer.Todos

open Number

/-- An item as a listing shows it, with a box in front. -/
def line (record : Json) : Except Failure String :=
  match record with
  | .obj fs => do
    let done := ((Fields.get? fs "done").map fun v ↦ !v.isNothing).getD false
    return (if done then "[x] " else "[ ] ") ++ (← Collection.shownField fs "text")
  | _ => .error .unexpected

/-- An item has a text, and its mark, if there is one, is true or false. -/
def accepts (record : Json) : Bool :=
  match record with
  | .obj fs =>
    Collection.hasText fs "text" &&
      match (Fields.get? fs "done").getD (.bool false) with
      | .bool _ => true
      | _ => false
  | _ => false

/-- The to-do items as a collection. -/
def collection : Collection where
  key := "todos"
  category := .todo
  fileName := "todos.txt"
  line := line
  tears := Collection.tornField "text"
  accepts := accepts

/-- Adds an item that is not done. -/
def add (text : String) : Action Desk (List Response) := do
  if Text.allBlank text then Action.refuse (.empty .record)
  else
    Desk.onStore (Store.append collection.key (.obj [("text", .str text), ("done", .bool false)]))
    return Response.reply "Todo added." .todo

/-- The number that a word is, if it consists of ASCII digits. A number of too many digits is not
read at all. -/
def numberOf (word : String) : Except Failure Nat :=
  match word.toList.mapM Text.asciiDigit? with
  | some (d :: ds) =>
    if Json.maxDigits < (d :: ds).length then .error .unexpected
    else .ok (Text.ofDigits (d :: ds))
  | _ => .error (.refused .notANumber)

/-- The pair that a value is: a name, which has to be a scalar, and a value. -/
def pair? (v : Json) : Option (Scalar × Json) :=
  match v.items? with
  | some [.scalar name, value] => some (name, value)
  | _ => none

/-- The fields of an item. Whatever consists of pairs can also be an item. -/
def fieldsOf? : Json → Option Fields
  | .obj fs => some fs
  | v => do return Fields.ofPairs (← (← v.items?).mapM pair?)

/-- Marks the item of a number as done, and lists all. -/
def markDone (word : Option String) : Action Desk (List Response) := do
  let number ← Action.ofExcept ((word.map numberOf).getD (.error (.refused .notANumber)))
  let records ← Desk.recordsAt collection.key
  if number < 1 ∨ records.length < number then Action.refuse (.noSuchTodo number)
  else
    let fields ← Action.require ((records[number - 1]?).bind fieldsOf?)
    Desk.onStore (Store.replaceAt collection.key (.int number)
      (.obj (Fields.set fields "done" (.bool true))))
    let listing ← Action.ofExcept (collection.list (← get))
    return Response.reply ("Todo " ++ showNat number ++ " marked as done.") .todo ++ listing

end Organizer.Todos
