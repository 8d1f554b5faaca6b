import Organizer.Calendar.Month
import Organizer.Collection.Basic
import Organizer.Markup.Segment

/-!
# The agenda

The events of the calendar: under the key of each day stands the list of its events, which are
texts. The days themselves are read off the calendar index. The whole agenda is saved to one file,
an object with a field for each day, and a file that is loaded replaces the agenda: days that it
does not mention lose their events.
-/

namespace Organizer.Agenda

open Number

/-- The file that is meant when a person names none. -/
def fileName : String := "calendar.txt"

/-! ### Single days -/

/-- Adds an event to a day. -/
def add (day : Option String) (text : String) : Action Desk (List Response) := do
  let day := day.getD ""
  let key ← Action.ofExcept (DayKey.ofText day)
  if Text.allBlank text then Action.refuse (.empty .eventText)
  else
    Desk.onStore (Store.append key (.str text))
    return Response.reply ("Event added for " ++ day ++ ".") .calendar

/-- Lists the events of a day. -/
def viewDay (day : String) (d : Desk) : Except Failure (List Response) := do
  let key ← DayKey.ofText day
  match ← d.store.list key with
  | [] => return Response.reply ("No events for " ++ DayKey.pretty day ++ ".")
  | events =>
    let ls ← Collection.numbered Collection.shown 1 events
    return Response.reply (Collection.joinLines ls) .calendar (events.any Json.isTorn)

/-! ### All days -/

/-- A day, by what stands behind the prefix of its key, with its events. -/
abbrev DayEvents := String × List Json

/-- The key that an entry of the calendar index is. Lists and objects cannot be keys. -/
def keyOf (entry : Json) : Except Failure Scalar :=
  match entry with
  | .scalar key => .ok key
  | _ => .error .unexpected

/-- What stands behind the prefix of a key, which has to be a text. -/
def dayOfKey (key : Scalar) : Except Failure String :=
  match key.shown? with
  | some s => .ok (String.ofList (s.toList.drop Store.dayPrefix.toList.length))
  | none => .error .unexpected

/-- The day of an entry of the index, if it has events. -/
def dayEvents? (d : Desk) (entry : Json) : Except Failure (Option DayEvents) := do
  let key ← keyOf entry
  match ← d.store.list key with
  | [] => return none
  | events => return some (← dayOfKey key, events)

/-- The days of the index that have events, in order. -/
def daysWithEvents (d : Desk) : Except Failure (List DayEvents) := do
  let days ← (← d.store.days).mapM (dayEvents? d)
  return (days.filterMap id).mergeSort fun a b ↦ decide (a.1 ≤ b.1)

/-- An event as the listing of all days shows it: its text, protected from being read as markup. -/
def eventText (event : Json) : Except Failure String :=
  match event.shown? with
  | some text => .ok (String.ofList (Markup.escape text.toList))
  | none => .error .unexpected

/-- A day in the listing of all days: a heading, and its events below. -/
def dayBlock (day : DayEvents) : Except Failure String := do
  let heading := "[bold]" ++ DayKey.pretty day.1 ++ ":[/bold]"
  let ls ← Collection.numbered eventText 1 day.2
  return Collection.joinLines (heading :: ls.map ("  " ++ ·))

/-- Is there a lone half in the heading of a day, of which six characters are shown? -/
def tornHeading (entry : Json) : Bool :=
  match entry with
  | .scalar (.torn ps) =>
    ((ps.drop Store.dayPrefix.toList.length).take 6).any fun p ↦ p.char?.isNone
  | _ => false

/-- Is there a lone half in the listing of all days: in an event, or in the heading of a day with
events? -/
def tornListing (d : Desk) (days : List DayEvents) : Bool :=
  days.any (·.2.any Json.isTorn) ||
    ((d.store.days.toOption).getD []).any fun entry ↦
      tornHeading entry && ((dayEvents? d entry).toOption.bind id).isSome

/-- Lists the events of all days. -/
def viewAll (d : Desk) : Except Failure (List Response) := do
  match ← daysWithEvents d with
  | [] => return Response.reply "No calendar events found."
  | days =>
    let blocks ← days.mapM dayBlock
    return Response.replyMarkup ("\n\n".intercalate blocks) .calendar (tornListing d days)

/-- Lists the events of one day, or of all. -/
def view (day : Option String) (d : Desk) : Except Failure (List Response) :=
  match day with
  | none | some "" | some "all" => viewAll d
  | some day => viewDay day d

/-! ### The month -/

/-- Shows a month, or the current one. -/
def month (today : Date) (typed : Option String) : Except Failure (List Response) := do
  let (year, month) ←
    match typed with
    | none | some "" => .ok (today.year, today.month)
    | some s => Month.ofText s
  return Response.replyMarkup (Month.text year month (some today)) .calendar

/-! ### Files -/

/-- The agenda as a value: a field for each entry of the calendar index, with its events. -/
def payload (d : Desk) : Except Failure Fields := do
  let keys ← (Json.distinct (← d.store.days)).mapM keyOf
  keys.mapM fun key ↦ do return (key, .arr (← d.store.list key))

/-- Saves the agenda to a file. -/
def save (typed : Option String) : Action Desk (List Response) := do
  let d ← get
  let days ← Action.ofExcept (payload d)
  if days.isEmpty then return Response.reply "No calendar data to save."
  else
    Desk.write (← Action.ofExcept (d.resolve typed fileName)) (.obj days)
    return Response.reply "Calendar data saved." .calendar

/-- The events of a day in a file, if it is a day. -/
def dayOf? (field : Scalar × Json) : Option (String × List Json) :=
  match field with
  | (.text key, .arr events) =>
    if DayKey.isDigitsKey key && events.all Json.isText then some (key, events) else none
  | _ => none

/-- The days of an agenda in a file, if it is one. -/
def daysOf? (v : Json) : Option (List (String × List Json)) := do (← v.asFields?).mapM dayOf?

/-- Removes the events of an entry of the calendar index, if it is not among the days to keep. -/
def clearEntry (kept : List String) (entry : Json) : Action Store Unit := do
  let key ← Action.ofExcept (keyOf entry)
  if kept.any fun day ↦ key = day then pure () else Store.replaceAll key []

/-- Puts days in the place of the whole agenda. -/
def replace (days : List (String × List Json)) : Action Store Unit := do
  let entries ← Action.ofExcept (← get).days
  entries.forM (clearEntry (days.map (·.1)))
  days.forM fun (key, events) ↦ Store.replaceAll key events

/-- Loads the agenda from a file. -/
def load (typed : Option String) : Action Desk (List Response) := do
  let d ← get
  let path ← Action.ofExcept (d.resolve typed fileName)
  match daysOf? (← Action.ofExcept (d.read path)) with
  | none => Action.refuse .badCalendarFile
  | some days =>
    Desk.onStore (replace days)
    return Response.reply ("Calendar data loaded from " ++ path.name ++ ".") .calendar

end Organizer.Agenda
