import Organizer.Calendar.Agenda
import Organizer.Collection.Contacts
import Organizer.Collection.Links
import Organizer.Collection.Notes
import Organizer.Collection.Todos
import Organizer.Help

/-!
# Requests

What a command line asks for, once its words are understood. The first word names the command and
the second, for most commands, an action. What is no action of `note`, `todo` and `link` is taken
for something to add, so that adding needs no word of its own. The words that are left over are
joined by single blanks.

Understanding a line needs no state: `Request.ofWords` either finds a request or refuses the line.
-/

namespace Organizer

/-- The collections that a command is named for. -/
inductive RecordKind
  | notes
  | todos
  | links
  | contacts
  deriving DecidableEq, Repr

/-- The collection of a kind. -/
def RecordKind.collection : RecordKind → Collection
  | .notes => Notes.collection
  | .todos => Todos.collection
  | .links => Links.collection
  | .contacts => Contacts.collection

/-- What a person can ask for. -/
inductive Request
  | nothing
  | openAddress (address : String)
  | help
  | helpOn (topic : String)
  | clear
  | list (kind : RecordKind)
  | save (kind : RecordKind) (path : Option String)
  | load (kind : RecordKind) (path : Option String)
  | addNote (text : String)
  | editNote (term : String)
  | deleteNote (term : String)
  | addTodo (text : String)
  | markDone (word : Option String)
  | addLink (address name : String)
  | goLink (term : String)
  | renameLink (term newName : String)
  | deleteLink (term : String)
  | addContact (name info : String)
  | findContacts (term : String)
  | deleteContacts (name : String)
  | month (typed : Option String)
  | addEvent (day : Option String) (text : String)
  | viewEvents (day : Option String)
  | saveAgenda (path : Option String)
  | loadAgenda (path : Option String)
  | startPomodoro (work rest : Option String)
  | stopPomodoro
  | startCountdown (minutes message : String)
  | stopCountdown
  | remind (time message : String)
  | time
  | calculate (expression : String)
  deriving DecidableEq, Repr

namespace Request

/-- Words with single blanks between them. -/
def joined (words : List String) : String := " ".intercalate words

/-- The first word; the empty text if there is none. -/
def first (words : List String) : String := words.head?.getD ""

/-- The words after the first. -/
def rest (words : List String) : String := joined words.tail

/-- Requests about notes. -/
def ofNoteWords : List String → Request
  | [] => .list .notes
  | "add" :: ws => .addNote (joined ws)
  | "edit" :: ws => .editNote (joined ws)
  | "del" :: ws => .deleteNote (joined ws)
  | "save" :: ws => .save .notes ws.head?
  | "open" :: ws => .load .notes ws.head?
  | ws => .addNote (joined ws)

/-- Requests about to-do items. -/
def ofTodoWords : List String → Request
  | [] => .list .todos
  | "add" :: ws => .addTodo (joined ws)
  | "done" :: ws => .markDone ws.head?
  | "save" :: ws => .save .todos ws.head?
  | "open" :: ws => .load .todos ws.head?
  | ws => .addTodo (joined ws)

/-- Requests about links. -/
def ofLinkWords : List String → Request
  | [] => .list .links
  | "add" :: ws => .addLink (first ws) (rest ws)
  | "del" :: ws => .deleteLink (joined ws)
  | "edit" :: ws => .renameLink (first ws) (first ws.tail)
  | "go" :: ws => .goLink (joined ws)
  | "save" :: ws => .save .links ws.head?
  | "open" :: ws => .load .links ws.head?
  | ws => .addLink (first ws) (rest ws)

/-- Requests about contacts. -/
def ofContactWords : List String → Except Refusal Request
  | [] => .ok (.list .contacts)
  | "add" :: ws => .ok (.addContact (first ws) (rest ws))
  | "find" :: ws => .ok (.findContacts (joined ws))
  | "del" :: ws => .ok (.deleteContacts (joined ws))
  | "save" :: ws => .ok (.save .contacts ws.head?)
  | "open" :: ws => .ok (.load .contacts ws.head?)
  | _ => .error (.unknownAction .contact)

/-- Requests about the calendar. -/
def ofCalendarWords : List String → Except Refusal Request
  | [] => .ok (.month none)
  | "add" :: ws => .ok (.addEvent ws.head? (rest ws))
  | "view" :: ws => .ok (.viewEvents ws.head?)
  | "save" :: ws => .ok (.saveAgenda ws.head?)
  | "open" :: ws => .ok (.loadAgenda ws.head?)
  | [w] => if Month.isTyped w then .ok (.month (some w)) else .error (.unknownAction .calendar)
  | _ => .error (.unknownAction .calendar)

/-- Requests about the Pomodoro timer. -/
def ofPomodoroWords : List String → Except Refusal Request
  | "start" :: ws => .ok (.startPomodoro ws.head? ws.tail.head?)
  | "stop" :: _ => .ok .stopPomodoro
  | _ => .error (.unknownAction .pomodoro)

/-- Requests about the countdown. -/
def ofTimerWords : List String → Except Refusal Request
  | [] => .error .timerUsage
  | "stop" :: _ => .ok .stopCountdown
  | w :: ws => .ok (.startCountdown w (joined ws))

/-- The request that the words after a command make. -/
def ofCommand (command : String) (args : List String) : Except Refusal Request :=
  match Help.canonical command with
  | "help" => .ok (match args with
    | [] => .help
    | w :: _ => .helpOn w)
  | "clear" => .ok .clear
  | "note" => .ok (ofNoteWords args)
  | "todo" => .ok (ofTodoWords args)
  | "link" => .ok (ofLinkWords args)
  | "contact" => ofContactWords args
  | "cal" => ofCalendarWords args
  | "pomo" => ofPomodoroWords args
  | "timer" => ofTimerWords args
  | "remind" =>
    match args with
    | [] => .error .badTime
    | w :: ws => .ok (.remind w (joined ws))
  | "time" => .ok .time
  | "calc" =>
    match args with
    | [] => .error (.arithmetic .empty)
    | ws => .ok (.calculate (joined ws))
  | _ => .error (.unknownCommand command)

/-- The file that a request saves or loads: the path that was typed, and the name that is meant
without one. -/
def file? : Request → Option (Option String × String)
  | .save kind path | .load kind path => some (path, kind.collection.fileName)
  | .saveAgenda path | .loadAgenda path => some (path, Agenda.fileName)
  | _ => none

/-- The request that words make. An address of the web in the first place is opened. -/
def ofWords : List String → Except Refusal Request
  | [] => .ok .nothing
  | w :: ws => if Links.isAddress w then .ok (.openAddress w) else ofCommand w ws

end Request

end Organizer
