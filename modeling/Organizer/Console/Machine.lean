import Organizer.App
import Organizer.Console.Presentation
import Organizer.Settings

/-!
# The console

The console as a machine: what it has printed so far, what it waits for, and how it goes on when
something comes in. It waits for a command or, while a note is being edited, for the new text of the
note. A line that is a command leads to responses; an exit word, the end of the input or an
interrupt ends the program. Only an interrupt while a note is being edited aborts it.

A command that fails, or whose answer cannot be presented, is reported in one line, and the console
goes on with the next. The report itself can fail, where the terminal does not take what is printed:
what it has refused stands in front of everything that comes later. And a command that went into the
history is entered in that of the line editor once it has come to its end, which may refuse it. In
both cases nothing catches the failure, and the program ends.
-/

namespace Organizer

/-- What comes in while the console waits. -/
inductive Input
  | line (text : String)
  /-- The time of a timer is up. -/
  | timer (number : Nat)
  | interrupt
  | endOfInput
  deriving DecidableEq, Repr

/-- How the program ends. -/
inductive Ending
  /-- By an exit word, at the end of the input, or by an interrupt in the place of a command. -/
  | closed
  /-- By an interrupt while a note is being edited. -/
  | aborted
  /-- By a failure that nothing catches. -/
  | failed
  deriving DecidableEq, Repr

/-- What the console waits for. -/
inductive Expectation
  | command
  /-- The new text of the note of a number; and the command that asked for it, if it is still to be
  entered in the history of the line editor. -/
  | noteText (place : Nat) (unentered : Option String)
  /-- Nothing: the program has ended. -/
  | nothing (ending : Ending)
  deriving DecidableEq, Repr

/-- What the console runs on. -/
structure Terminal where
  /-- The emoji that have a name. -/
  emoji : Markup.EmojiTable := Markup.noEmoji
  /-- Does the line editor take a line into its history? None with a null character in it; where
  there is no line editor, any line. -/
  remembers : String → Bool := fun line ↦ !line.toList.contains '\x00'
  /-- Does the terminal take lone halves of surrogate pairs? -/
  takesTorn : Bool := false

/-- The console with the organizer behind it. -/
structure Console where
  app : App
  terminal : Terminal := {}
  expects : Expectation
  /-- All that was printed. -/
  output : String := ""

namespace Terminal

/-- Can a response be printed? One that clears the screen prints nothing. -/
def prints (t : Terminal) (r : Response) : Bool :=
  t.takesTorn || !r.torn || r.category == .clear

/-- Can responses be printed, up to the first that cannot be presented? -/
def printsAll (t : Terminal) : List Response → Bool
  | [] => true
  | r :: rs => (Console.present? r t.emoji).isNone || t.prints r && t.printsAll rs

/-- Can the note at a place be shown? -/
def showsNote (t : Terminal) (place : Nat) (d : Desk) : Bool := t.takesTorn || !Notes.tornAt place d

end Terminal

namespace Console

/-! ### Texts -/

/-- What is asked for a command. -/
def prompt : String := "termtask>>> "

/-- What is asked for the new text of a note. -/
def editPrompt : String := "New text >>> "

/-- The greeting, with a blank line on either side. -/
def greeting : String := "\nWelcome to TermTask – type help for a list of commands 🤖\n\n"

/-- What is said of a command that failed. -/
def failure : Response := .ofMessage "Command failed, see the log for details."

/-- The words that end the program. -/
def exitWords : List String := ["exit", "quit", "close"]

/-! ### Printing -/

/-- Prints a text. -/
def print (c : Console) (s : String) : Console := { c with output := c.output ++ s }

/-- Prints lines. -/
def printLines (c : Console) (ls : List Line) : Console := c.print (String.ofList (unlines ls))

/-- Prints responses up to the first that cannot be presented, in whose place the failure is
reported, or that cannot be printed. -/
def printResponses (c : Console) : List Response → Console
  | [] => c
  | r :: rs =>
    match present? r c.terminal.emoji with
    | some ls => if c.terminal.prints r then printResponses (c.printLines ls) rs else c
    | none => c.printLines (layOut failure.text.toList)

/-- Prints alerts. An alert whose title cannot be presented is left out. -/
def printAlerts (c : Console) (alerts : List Alert) : Console :=
  alerts.foldl (fun c a ↦ c.printLines ((alertPanel? a c.terminal.emoji).getD [])) c

/-! ### Waiting -/

/-- Asks for the next command. -/
def awaitCommand (c : Console) : Console := { c.print prompt with expects := .command }

/-- Ends the program because of a failure that nothing catches. -/
def fail (c : Console) : Console := { c with expects := .nothing .failed }

/-- Shows a note and asks for its new text. -/
def awaitNoteText (c : Console) (place : Nat) (text : String) (unentered : Option String) :
    Console :=
  let c := c.print ("Editing note " ++ Number.showNat place ++ " (empty line cancels)\n")
  if c.terminal.showsNote place c.app.desk then
    { (c.printLines (layOut text.toList)).print editPrompt with
      expects := .noteText place unentered }
  else c.fail

/-- Ends the program with some last words. -/
def close (c : Console) (words : String) : Console :=
  { c.print words with expects := .nothing .closed }

/-! ### Going on -/

/-- What is to be printed for the outcome of a command. -/
def responsesOf : Except Failure (List Response) → List Response
  | .ok responses => responses
  | .error _ => [failure]

/-- Presents the outcome of a command that has come to its end, enters the command in the history of
the line editor if that is still to be done, and waits for the next. -/
def conclude (c : Console) (unentered : Option String) (outcome : Except Failure (List Response)) :
    Console :=
  let responses := responsesOf outcome
  let c' := c.printResponses responses
  if c.terminal.printsAll responses && unentered.all c.terminal.remembers then c'.awaitCommand
  else c'.fail

/-- The line that was executed, if the history has grown. -/
def unentered (before after : App) (line : String) : Option String :=
  if before.history.entries.length < after.history.entries.length then some line else none

/-- Executes a command. -/
def runCommand (c : Console) (line : String) : Console :=
  let (outcome, app) := (App.execute line).perform c.app
  let unentered := unentered c.app app line
  let c := { c with app }
  match outcome with
  | .ok (.answered responses) => c.conclude unentered (.ok responses)
  | .ok (.editing place text) => c.awaitNoteText place text unentered
  | .error e => c.conclude unentered (.error e)

/-- Takes the new text of a note; an empty one leaves the note as it is. -/
def takeNoteText (c : Console) (place : Nat) (unentered : Option String) (text : String) :
    Console :=
  let text := Text.strip text
  let (outcome, app) :=
    (App.finish place (if text.isEmpty then none else some text)).perform c.app
  { c with app }.conclude unentered outcome

/-- Lets a timer fire and prints the alerts that it raises. -/
def fireTimer (c : Console) (number : Nat) : Console :=
  let scheduler := c.app.scheduler.fire number
  { c with app := { c.app with scheduler } }.printAlerts
    (scheduler.alerts.drop c.app.scheduler.alerts.length)

/-- What happens when something comes in. -/
def step (c : Console) (input : Input) : Console :=
  match c.expects, input with
  | .nothing _, _ => c
  | _, .timer number => c.fireTimer number
  | .command, .line text =>
    let line := Text.strip text
    if exitWords.contains line then c.close "✔ Data saved. Bye!\n" else c.runCommand line
  | .command, .interrupt | .command, .endOfInput => c.close "\n✔ Bye!\n"
  | .noteText place unentered, .line text => c.takeNoteText place unentered text
  | .noteText _ _, .interrupt => { c with expects := .nothing .aborted }
  | .noteText _ unentered, .endOfInput => c.conclude unentered (.error .unexpected)

/-- Has the program ended? -/
def isClosed (c : Console) : Bool :=
  match c.expects with
  | .nothing _ => true
  | _ => false

/-- Has the program ended in this way? -/
def endedIn (c : Console) (ending : Ending) : Bool := c.expects == .nothing ending

/-! ### The whole program -/

/-- Starts the console on an organizer. -/
def start (app : App) (notifications : Bool) (terminal : Terminal := {}) : Console :=
  let c := (Console.mk app terminal .command "").print greeting
  (if notifications then c.print "Desktop notifications enabled.\n" else c).awaitCommand

/-- Runs the console on some input and to the end of it. A note that is still being edited then is a
command that fails, and the end of the input is found once more. -/
def run (c : Console) (inputs : List Input) : Console :=
  (inputs.foldl step c |>.step .endOfInput).step .endOfInput

/-- The organizer that settings describe. -/
def appOf (settings : Settings) (home : Path) (now : Moment) (store : Store) (files : FileTree) :
    App where
  desk := { store, files, home, savedFiles := settings.exportDirectory }
  scheduler := { defaults := settings.sessionLength }
  now := now

/-- Starts the program. A log level that is none is a failure. -/
def launch (settings : Settings) (app : App) (terminal : Terminal := {}) :
    Except Failure Console := do
  let _ ← Settings.logLevelOf settings.logLevel
  return start app settings.notifications terminal

end Console

end Organizer
