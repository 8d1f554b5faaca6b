/-!
# Help

The commands that have a help text, in the order in which the catalogue lists them, and the words
that stand for a command besides its name.
-/

namespace Organizer

/-- What is said about one command. -/
structure HelpTopic where
  name : String
  /-- One line for the catalogue. -/
  description : String
  /-- The ways to use the command, one a line. -/
  usage : List String
  deriving DecidableEq, Repr

namespace Help

/-- All topics in the order of the catalogue. -/
def topics : List HelpTopic := [
  { name := "help"
    description := "Shows a list of commands or details for a specific command."
    usage := ["help [command] – details for one command, e.g. help note"] },
  { name := "clear"
    description := "Clears all output from the terminal screen."
    usage := ["clear – no arguments"] },
  { name := "note"
    description := "Create, edit, and manage text notes."
    usage := ["note – list all notes (alias: notes)",
      "note <text> – add a note",
      "note edit <search term> – edit the first note containing the term",
      "note del <search term> – delete the first note containing the term",
      "note save|open [file] – save or load notes"] },
  { name := "todo"
    description := "Manage your to-do list."
    usage := ["todo – list all items (alias: todos)",
      "todo <text> – add an item",
      "todo done <number> – mark an item as done",
      "todo save|open [file] – save or load the list"] },
  { name := "link"
    description := "Manage saved website links."
    usage := ["link – list all links (alias: links)",
      "link <url> [name] – add a link",
      "link go <name> – open a saved link in the browser",
      "link edit \"<name>\" \"<new name>\" – rename a link",
      "link del <name> – delete a link",
      "link save|open [file] – save or load links"] },
  { name := "cal"
    description := "Display calendars and manage events."
    usage := ["cal – current month",
      "cal <YYMM> – a specific month, e.g. cal 2512",
      "cal view [YYMMDD|all] – events for one day or all days",
      "cal add <YYMMDD> \"<event>\" – add an event",
      "cal save|open [file] – save or load all events"] },
  { name := "contact"
    description := "Manage your contact list."
    usage := ["contact – list all contacts (alias: contacts)",
      "contact add \"<name>\" \"<info>\" – add a contact",
      "contact find <name> – search by name",
      "contact del <name> – delete every contact with that name",
      "contact save|open [file] – save or load contacts"] },
  { name := "pomo"
    description := "Start or stop a Pomodoro productivity timer."
    usage := ["pomo start [work_mins] [break_mins] – defaults to 25/5",
      "pomo stop – stop the current timer"] },
  { name := "timer"
    description := "Start or stop a simple countdown timer."
    usage := ["timer <minutes> \"[message]\" – start a countdown",
      "timer stop – stop the current countdown"] },
  { name := "time"
    description := "Displays the current local date and time."
    usage := ["time – no arguments"] },
  { name := "remind"
    description := "Set a one-time reminder for a specific time."
    usage := ["remind HH:MM \"<message>\" – fires at the next occurrence of that time"] },
  { name := "calc"
    description := "Evaluates a mathematical expression."
    usage := ["calc <expression> – e.g. calc (5 + 3) * 2"] }]

/-- The command that a word stands for: its own name, or the plural of one. -/
def canonical (word : String) : String :=
  match word with
  | "notes" => "note"
  | "todos" => "todo"
  | "links" => "link"
  | "contacts" => "contact"
  | _ => word

/-- The rows of the catalogue: each command with its description. -/
def catalogue : List (String × String) := topics.map fun t ↦ (t.name, t.description)

/-- The ways to use a command, one a line. -/
def usage? (word : String) : Option String :=
  (topics.find? (·.name == canonical word)).map fun t ↦ "\n".intercalate t.usage

end Help

end Organizer
