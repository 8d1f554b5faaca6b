import Organizer.CommandLine.Options
import Organizer.Number.Reading
import Organizer.Path
import Organizer.Text.Blank
import Organizer.Text.Case
import Organizer.Timer.Scheduler

/-!
# Settings

The settings are read once, when the program starts: first from the variables of the environment,
then from the options, which have precedence. A number that cannot be read counts as not given.
-/

namespace Organizer

/-- What the program finds around it. -/
structure Surroundings where
  /-- The home directory. -/
  home : Path
  /-- The current directory. -/
  current : Path
  /-- The variables of the environment. -/
  environment : List (String × String) := []

/-- The settings of the organizer. -/
structure Settings where
  dataDirectory : Path
  exportDirectory : Path
  notifications : Bool
  sessionLength : SessionLength
  logLevel : String
  deriving DecidableEq, Repr

namespace Settings

/-- The name of the file that holds the store. -/
def storeFileName : String := "store.json"

/-- The path of the file that holds the store. -/
def storePath (s : Settings) : Path := s.dataDirectory.child storeFileName

/-- The words that switch something on. -/
def wordsForOn : List String := ["1", "true", "yes", "on"]

/-- Does the text switch something on? Case and surrounding blanks do not matter. -/
def isOn (s : String) : Bool := wordsForOn.contains (Text.lower (Text.strip s))

/-- The number that a variable holds, or a default. -/
def numberOr (default : Float) (s : Option String) : Float :=
  (s.bind Number.readDouble?).getD default

/-- The settings of the environment. -/
def ofEnvironment (around : Surroundings) : Settings :=
  let valueOf (name : String) := around.environment.lookup name
  { dataDirectory := ((valueOf "TERMTASK_DATA_DIR").map Path.ofText).getD
      (around.home.child ".termtask")
    exportDirectory := ((valueOf "TERMTASK_EXPORT_DIR").map Path.ofText).getD around.current
    notifications := isOn ((valueOf "TERMTASK_NOTIFY").getD "0")
    sessionLength :=
      ⟨numberOr 25.0 (valueOf "TERMTASK_POMO_WORK"), numberOr 5.0 (valueOf "TERMTASK_POMO_BREAK")⟩
    logLevel := Text.upper ((valueOf "TERMTASK_LOG_LEVEL").getD "WARNING") }

/-- Settings with options put over them. An empty log level counts as not given. -/
def withOptions (s : Settings) (o : Options) : Settings where
  dataDirectory := (o.dataDirectory.map Path.ofText).getD s.dataDirectory
  exportDirectory := (o.exportDirectory.map Path.ofText).getD s.exportDirectory
  notifications := s.notifications
  sessionLength := s.sessionLength
  logLevel := ((o.logLevel.filter (!·.isEmpty)).map Text.upper).getD s.logLevel

/-- The settings of the environment and the arguments. -/
def load (around : Surroundings) (arguments : List String) : Except Stop Settings := do
  return (ofEnvironment around).withOptions (← Options.ofArguments arguments)

/-! ### Log levels -/

/-- The level of messages to be logged that a word stands for, in any case; other words stand for
warnings. Two words name something else than a level, and are a failure. -/
def logLevelOf (word : String) : Except Failure Nat :=
  match Text.upper word with
  | "NOTSET" => .ok 0
  | "DEBUG" => .ok 10
  | "INFO" => .ok 20
  | "WARN" | "WARNING" => .ok 30
  | "ERROR" => .ok 40
  | "FATAL" | "CRITICAL" => .ok 50
  | "BASIC_FORMAT" | "_STYLES" => .error .unexpected
  | _ => .ok 30

end Settings

end Organizer
