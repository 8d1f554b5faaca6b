import Organizer.Console.Table
import Organizer.Markup.Reading
import Organizer.Response
import Organizer.Timer.Scheduler

/-!
# Presenting responses and alerts

What is printed for a response: nothing for one that clears the screen, a table for one with rows,
and its text for any other. Markup that is in error cannot be presented. An alert is a panel as wide
as the screen, with the title in its upper edge.

Which emoji have a name is up to the screen; wherever there is markup, the table is handed on.
-/

namespace Organizer.Console

open Text Markup

/-- The lines of a text with markup; none if the markup is in error. -/
def markupLines? (s : String) (emoji : EmojiTable := noEmoji) : Option (List Line) :=
  (plain? s.toList emoji).map layOut

/-! ### Responses -/

/-- A row of a table: a command in green, and its description. -/
def tableRow? (emoji : EmojiTable) (row : String × String) : Option (List Line × List Line) := do
  let command := "[green]".toList ++ escape row.1.toList ++ "[/green]".toList
  let description := escape row.2.toList
  return (layOut (← plain? command emoji), layOut (← plain? description emoji))

/-- A table of commands. -/
def commandTable? (emoji : EmojiTable) (title : String) (rows : List (String × String)) :
    Option Table := do
  let rows ← rows.mapM (tableRow? emoji)
  let title ← markupLines? ("\n📘 " ++ title) emoji
  return ⟨title, ([ "Command".toList ], [ "Description".toList ]), rows⟩

/-- What is printed for a response; none if it cannot be presented. -/
def present? (r : Response) (emoji : EmojiTable := noEmoji) : Option (List Line) :=
  if r.category = .clear then some []
  else
    match r.rows with
    | some rows => (commandTable? emoji r.text rows).map Table.lines
    | none => if r.markup then markupLines? r.text emoji else some (layOut r.text.toList)

/-! ### Alerts -/

/-- The columns of the screen. -/
def columns : Nat := 100

/-- Puts blanks in the place of tabs. -/
def expandPieces (ps : List Piece) : List Piece :=
  alignParts (.char ' ') (fun part ↦ width (textOf part)) 0 (split (.char '\t') ps)

/-- The cells that pieces take if the runs between tags are printed one after the other. -/
def cellsOfRuns (ps : List Piece) : Nat :=
  (split .edge ps).foldl (fun n run ↦ n + width (textOf run)) 0

/-- The title of a panel in pieces: one line with a blank on either side. -/
def panelTitle? (title : String) (emoji : EmojiTable) : Option (List Piece) := do
  let ps ← pieces? ("⏰ " ++ title).toList emoji
  let ps := ps.filter fun p ↦ !p.char?.any isLeftOut
  let ps := ps.map fun p ↦ if p = .char '\n' then .char ' ' else p
  return .char ' ' :: expandPieces ps ++ [.char ' ']

/-- What is printed for an alert; none if its title cannot be presented. The upper edge is as long
as the title as a whole leaves it, but it is printed run by run and cut at the end of the screen. -/
def alertPanel? (a : Alert) (emoji : EmojiTable := noEmoji) : Option (List Line) := do
  let pieces ← panelTitle? a.title emoji
  let title := textOf pieces
  let edge := '╭' :: '─' :: centredWith '─' (columns - 4) title ++ ['─', '╮']
  let beyond := cellsOfRuns pieces - width title
  let body := (layOut a.message.toList).map fun l ↦
    '│' :: ' ' :: padRight (columns - 4) l ++ [' ', '│']
  return edge.take (edge.length - beyond) :: body ++
    ['╰' :: List.replicate (columns - 2) '─' ++ ['╯']]

/-! ### Notifications -/

/-- What a person allows for desktop notifications, and what the system offers. -/
structure Notifier where
  allowed : Bool
  /-- The program that shows notifications, if there is one. -/
  program : Option String
  /-- Can the program be run? -/
  works : Bool := true

/-- The commands that are run to show an alert on the desktop. -/
def notifications (n : Notifier) (a : Alert) : List (List String) :=
  match n.program with
  | some program => if n.allowed && n.works then [[program, a.title, a.message]] else []
  | none => []

end Organizer.Console
