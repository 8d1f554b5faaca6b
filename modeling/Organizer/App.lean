import Organizer.Arithmetic.Eval
import Organizer.Calendar.Agenda
import Organizer.CommandLine.Request
import Organizer.CommandLine.Words
import Organizer.History
import Organizer.Timer.Scheduler

/-!
# The organizer

The whole state of the organizer, and what each request does to it. A request is answered with
responses, or with the news that a note waits for its new text (`Progress`); `resume` takes that
text. `dispatch` and `execute` carry out words and lines, and turn a refusal into a response of the
category `error`. What is not a refusal but an unexpected failure stays a failure.
-/

namespace Organizer

open Number

/-- The state of the organizer. -/
structure App where
  desk : Desk
  scheduler : Scheduler
  /-- The lines that were executed. -/
  history : History := {}
  /-- The current time. -/
  now : Moment
  deriving DecidableEq

/-- How far a request has come. -/
inductive Progress
  | answered (responses : List Response)
  /-- The note of a number waits for a new text in the place of the given one. -/
  | editing (place : Nat) (text : String)
  deriving DecidableEq, Repr

/-- An editor of notes: it is given the number and the text of a note and answers with a new text,
or with none to leave the note as it is. -/
abbrev Editor := Nat → String → Option String

namespace App

/-! ### Parts of the state -/

/-- Performs an action on the desk. -/
def onDesk {α : Type} (a : Action Desk α) : Action App α :=
  Action.within App.desk (fun desk app ↦ { app with desk }) a

/-- Performs an action on the scheduler. -/
def onScheduler {α : Type} (a : Action Scheduler α) : Action App α :=
  Action.within App.scheduler (fun scheduler app ↦ { app with scheduler }) a

/-- Looks at the desk. -/
def view {α : Type} (f : Desk → Except Failure α) : Action App α := do
  Action.ofExcept (f (← get).desk)

/-! ### Requests -/

/-- A word for a timer as a value: no word is null. -/
def wordValue (word : Option String) : Json := (word.map .str).getD .null

/-- The catalogue of all commands. -/
def catalogue : List Response :=
  [⟨"Available Commands:", .help, false, some Help.catalogue, false⟩,
    ⟨"Type 'help [command]' for more details.", .note, false, none, false⟩]

/-- Sets a reminder and says on which day it falls. -/
def remind (time message : String) : Action App (List Response) := do
  let now := (← get).now
  let target ← onScheduler (Scheduler.remind now time message)
  let day := if target.date = now.date then "today" else "tomorrow"
  return Response.reply ("Reminder set for " ++ target.clock ++ " " ++ day ++ ".") .help

/-- The result of an expression. -/
def calculate (expression : String) : Except Failure (List Response) :=
  match Arithmetic.calculate expression with
  | .ok result => .ok (Response.reply ("› " ++ result))
  | .error (.fault reason) => .error (.refused (.arithmetic reason))
  | .error .tooDeep => .error .unexpected

/-- Does what a request asks for, except that a note to be edited is only looked up. -/
def answer : Request → Action App (List Response)
  | .nothing | .editNote _ => return []
  | .openAddress address => do
    onDesk (Desk.openAddress (.str address))
    return Response.reply ("Opening " ++ address ++ "...") .link
  | .help => return catalogue
  | .helpOn topic =>
    match Help.usage? topic with
    | some text => return Response.reply text
    | none => Action.refuse (.noHelp topic)
  | .clear => return [⟨"", .clear, false, none, false⟩]
  | .list kind => view kind.collection.list
  | .save kind path => onDesk (kind.collection.save path)
  | .load kind path => onDesk (kind.collection.load path)
  | .addNote text => onDesk (Notes.add text)
  | .deleteNote term => onDesk (Notes.delete term)
  | .addTodo text => onDesk (Todos.add text)
  | .markDone word => onDesk (Todos.markDone word)
  | .addLink address name => onDesk (Links.add address name)
  | .goLink term => onDesk (Links.go term)
  | .renameLink term newName => onDesk (Links.rename term newName)
  | .deleteLink term => onDesk (Links.delete term)
  | .addContact name info => onDesk (Contacts.add name info)
  | .findContacts term => view (Contacts.find term)
  | .deleteContacts name => onDesk (Contacts.delete name)
  | .month typed => do Action.ofExcept (Agenda.month (← get).now.date typed)
  | .addEvent day text => onDesk (Agenda.add day text)
  | .viewEvents day => view (Agenda.view day)
  | .saveAgenda path => onDesk (Agenda.save path)
  | .loadAgenda path => onDesk (Agenda.load path)
  | .startPomodoro work rest => do
    return Response.reply
      (← onScheduler (Scheduler.startPomodoro (wordValue work) (wordValue rest))) .help
  | .stopPomodoro => return Response.reply (← onScheduler Scheduler.stopPomodoro) .help
  | .startCountdown minutes message => do
    return Response.reply (← onScheduler (Scheduler.startCountdown (.str minutes) message)) .help
  | .stopCountdown => return Response.reply (← onScheduler Scheduler.stopCountdown) .help
  | .remind time message => remind time message
  | .time => return Response.reply (← get).now.stamp
  | .calculate expression => Action.ofExcept (calculate expression)

/-- Carries out a request as far as that is possible without a person. -/
def carryOut : Request → Action App Progress
  | .editNote term => do
    let (place, text) ← view (Notes.beginEdit term)
    return .editing place text
  | request => return .answered (← answer request)

/-- Takes the new text of a note that was waiting for it. -/
def resume (place : Nat) (text : Option String) : Action App (List Response) :=
  onDesk (Notes.finishEdit place text)

/-! ### Words and lines -/

/-- Answers a refusal with a line that reports it. -/
def reporting {α : Type} (report : Response → α) (a : Action App α) : Action App α :=
  ExceptT.mk do
    match ← a.run with
    | .error (.refused reason) => return .ok (report (.ofRefusal reason))
    | outcome => return outcome

/-- The request that words make, carried out. -/
def dispatch (words : List String) : Action App Progress :=
  reporting (fun r ↦ .answered [r]) do
    match Request.ofWords words with
    | .ok request => carryOut request
    | .error reason => Action.refuse reason

/-- Goes on when a person has written the new text of a note, or has given up. -/
def finish (place : Nat) (text : Option String) : Action App (List Response) :=
  reporting (fun r ↦ [r]) (resume place text)

/-- Executes a line: all of its words make one request. A line that is not blank goes into the
history, whatever comes of it. -/
def execute (line : String) : Action App Progress := do
  let line := Text.strip line
  if line.isEmpty then return .answered []
  else
    modify fun app ↦ { app with history := app.history.record line }
    dispatch (CommandLine.words line)

/-- The file that a line saves or loads. -/
def fileOf? (app : App) (line : String) : Option Path :=
  match Request.ofWords (CommandLine.words (Text.strip line)) with
  | .ok request =>
    request.file?.bind fun (typed, fileName) ↦ (app.desk.resolve typed fileName).toOption
  | .error _ => none

/-- Brings a request to its end with the help of an editor. -/
def complete (editor : Editor) : Progress → Action App (List Response)
  | .answered responses => return responses
  | .editing place text => finish place (editor place text)

/-- The request that words make, carried out to its end. -/
def dispatchWith (editor : Editor) (words : List String) : Action App (List Response) := do
  complete editor (← dispatch words)

/-- Executes a line to its end. -/
def executeWith (editor : Editor) (line : String) : Action App (List Response) := do
  complete editor (← execute line)

/-- Starts over from the store: with an empty history and with idle timers. -/
def restart (app : App) : Except Failure App := do
  return {
    desk := { app.desk with store := ← app.desk.store.reopen }
    scheduler := { defaults := app.scheduler.defaults }
    now := app.now }

end App

end Organizer
