import Organizer.Arithmetic.Eval

/-!
# Refusals and failures

A command that cannot be carried out is refused for one of the reasons of `Refusal`, each a cause
with what it is about; `Refusal.message` is the one line that a person sees. Anything else that goes
wrong (an entry that a person put into the store by hand, a file that cannot be written) is a
`Failure.unexpected`, which says no more than that.
-/

namespace Organizer

open Number

/-- What was left empty. -/
inductive EmptyPart
  /-- The record itself. -/
  | record
  /-- The text to find a note by. -/
  | noteTerm
  /-- The name to find a link by. -/
  | linkTerm
  /-- The name of the contacts to delete. -/
  | contactTerm
  /-- The address of a new link. -/
  | address
  /-- The new name of a link. -/
  | newName
  /-- The name or the details of a new contact. -/
  | contactPart
  /-- The text of an event. -/
  | eventText
  deriving DecidableEq, Repr

/-- What a search looked for. -/
inductive Sought
  | note
  | link
  | contact
  deriving DecidableEq, Repr

/-- A timer that a person starts and stops. -/
inductive TimerKind
  | pomodoro
  | countdown
  deriving DecidableEq, Repr

/-- A command whose first argument must be one of a few words. -/
inductive Menu
  | contact
  | calendar
  | pomodoro
  deriving DecidableEq, Repr

/-- Why a command is refused. -/
inductive Refusal
  /-- There is no such command. -/
  | unknownCommand (word : String)
  /-- There is no help on such a command. -/
  | noHelp (topic : String)
  /-- The command has no such action. -/
  | unknownAction (menu : Menu)
  /-- Something that is needed is empty or blank. -/
  | empty (part : EmptyPart)
  /-- A to-do item is named by something that is not a number. -/
  | notANumber
  /-- There is no to-do item of that number. -/
  | noSuchTodo (number : Nat)
  /-- There is no record at that place; the place is given as shown. -/
  | noSuchRecord (place : String)
  /-- No record was found. -/
  | notFound (what : Sought) (term : String)
  /-- The text does not have the form of a day. -/
  | malformedDay
  /-- The day does not exist. -/
  | unrealDay (day : String)
  /-- The text is not a month. -/
  | badMonth (text : String)
  /-- The file does not hold records of the wanted kind. -/
  | badRecordFile
  /-- The file does not hold a calendar. -/
  | badCalendarFile
  /-- The file cannot be read. -/
  | unreadable (name : String)
  /-- The text is not a time of day. -/
  | badTime
  /-- A reminder has no message. -/
  | noMessage
  /-- The timer runs already. -/
  | alreadyRunning (timer : TimerKind)
  /-- The timer does not run. -/
  | notRunning (timer : TimerKind)
  /-- The text is not a number of minutes. -/
  | badDuration
  /-- The countdown command was given nothing. -/
  | timerUsage
  /-- The calculator found a fault. -/
  | arithmetic (fault : Arithmetic.Fault)
  deriving DecidableEq, Repr

/-- The line that tells a person what is missing. -/
def EmptyPart.message : EmptyPart → String
  | .record => "No content provided."
  | .noteTerm => "Please provide text from the note."
  | .linkTerm => "Please provide a name to search for."
  | .contactTerm => "Please provide a contact name."
  | .address => "URL is required. Use: link add <url> \"[name]\""
  | .newName => "Please provide a new name. Use: link edit \"<old name>\" \"<new name>\""
  | .contactPart => "Contact requires a name and info. Use: contact add \"name\" \"info\""
  | .eventText => "Event text cannot be empty."

/-- The line that lists the actions of a command. -/
def Menu.message : Menu → String
  | .contact => "Unknown 'contact' action. Use: add, find, del, save, open."
  | .calendar => "'cal' action not found. Use: add, view, save, open, or YYMM."
  | .pomodoro => "'pomo' requires an action (start, stop)."

/-- The line that tells a person what the calculator found. -/
def Arithmetic.Fault.message : Fault → String
  | .empty => "No expression provided."
  | .characters => "Invalid characters in expression."
  | .invalid => "Invalid mathematical expression."
  | .tooLarge => "Number too large."

/-- The line that tells a person why a command was refused. -/
def Refusal.message : Refusal → String
  | .unknownCommand word => "Command not found '" ++ word ++ "'."
  | .noHelp topic => "No help found for command '" ++ topic ++ "'."
  | .unknownAction menu => menu.message
  | .empty part => part.message
  | .notANumber => "Please provide a valid number."
  | .noSuchTodo number => "Invalid todo index " ++ showNat number ++ "."
  | .noSuchRecord place => "Invalid index " ++ place ++ "."
  | .notFound .note term => "No note found matching \"" ++ term ++ "\"."
  | .notFound .link term => "No link found matching \"" ++ term ++ "\"."
  | .notFound .contact name => "No contact named \"" ++ name ++ "\" found."
  | .malformedDay => "Invalid date format. Use YYMMDD."
  | .unrealDay day => "'" ++ day ++ "' is not a real date."
  | .badMonth text => "Invalid month in '" ++ text ++ "'."
  | .badRecordFile => "Could not parse file. Make sure it's a valid JSON array file."
  | .badCalendarFile => "Could not parse calendar file."
  | .unreadable name => "Could not read " ++ name ++ "."
  | .badTime => "Invalid time format. Use HH:MM."
  | .noMessage => "Please provide a reminder message."
  | .alreadyRunning .pomodoro => "A Pomodoro timer is already running."
  | .alreadyRunning .countdown => "A timer is already running. Use 'timer stop' first."
  | .notRunning .pomodoro => "No Pomodoro timer is running."
  | .notRunning .countdown => "No timer is running."
  | .badDuration => "Please provide a valid number of minutes."
  | .timerUsage => "Usage: timer [minutes] \"[message]\" or timer stop"
  | .arithmetic fault => fault.message

/-- Why an action stops before its end. -/
inductive Failure
  | refused (reason : Refusal)
  | unexpected
  deriving DecidableEq, Repr

end Organizer
