import Organizer.Console.Machine
import Std.Time.Zoned

/-!
# The program

The console on a terminal. This is the outer layer: it reads lines, tells the time, and moves text
between the disk and the console, which decides everything. Before a command that names a file, the
directories on the way to it and its content are read in; after a command, the store and a file that
was saved are written out. Timers whose time is up fire when the next line is read.
-/

namespace Organizer.Program

/-! ### Surroundings -/

/-- The variables of the environment that matter. -/
def variableNames : List String :=
  ["TERMTASK_DATA_DIR", "TERMTASK_EXPORT_DIR", "TERMTASK_NOTIFY", "TERMTASK_POMO_WORK",
    "TERMTASK_POMO_BREAK", "TERMTASK_LOG_LEVEL"]

/-- Finds out what is around the program. -/
def surroundings : IO Surroundings := do
  let environment ← variableNames.filterMapM fun name ↦ do
    return (← IO.getEnv name).map fun v ↦ (name, v)
  return {
    home := Path.ofText ((← IO.getEnv "HOME").getD "/")
    current := Path.ofText (← IO.currentDir).toString
    environment }

/-- The current time: on the clock of the place, or else of the prime meridian. -/
def currentTime : IO Moment := do
  let t ← try Std.Time.PlainDateTime.now catch _ =>
    let now ← Std.Time.Timestamp.now
    pure (.ofWallTime (.ofTimestamp now .zero))
  return {
    date := ⟨t.date.year.toInt, t.date.month.val.toNat, t.date.day.val.toNat⟩
    hour := t.time.hour.val.toNat
    minute := t.time.minute.val.toNat
    second := t.time.second.val.toNat
    microsecond := t.time.nanosecond.val.toNat / 1000 }

/-! ### Files -/

/-- What stands at a path on the disk. -/
def entryOnDisk (path : String) : IO (Option Entry) := do
  try
    if ← (← IO.FS.realPath path).isDir then return some .directory
    return some (.file (← IO.FS.readBinFile path))
  catch _ => return none

/-- Reads in what stands on the way to a path, and at its end. -/
def readIn (path : Path) : IO FileTree := do
  let mut files : FileTree := {}
  let mut place : Place := []
  let mut reached : Path := ⟨path.root, []⟩
  for part in path.parts do
    place := FileTree.step place part
    reached := reached.child part
    if let some e ← entryOnDisk reached.text then files := files.put place e
  return files

/-- Writes a file, with the directories that lead to it. -/
def writeOut (path : Path) (content : ByteArray) : IO Unit := do
  let directory : Path := ⟨path.root, path.parts.dropLast⟩
  IO.FS.createDirAll directory.text
  IO.FS.writeBinFile path.text content

/-- Writes the text of the store, so that the file is never seen half written. -/
def writeStore (path : Path) (text : String) : IO Unit := do
  writeOut ⟨path.root, path.parts.dropLast ++ [path.name ++ ".tmp"]⟩ text.toUTF8
  IO.FS.rename (path.text ++ ".tmp") path.text

/-! ### Running -/

/-- A timer that is waiting: its number, and when its time is up, in milliseconds. -/
structure Pending where
  number : Nat
  due : Nat

/-- The console as it runs. -/
structure Running where
  console : Console
  storePath : Path
  pending : List Pending := []

/-- Shows what was printed, writes the store out if it has changed, and notes the timers that were
started. -/
def settle (before : Console) (t : Running) : IO Running := do
  let stdout ← IO.getStdout
  stdout.putStr t.console.output
  stdout.flush
  let text := t.console.app.desk.store.fileText?
  if text != before.app.desk.store.fileText? then writeStore t.storePath (text.getD "")
  let now ← IO.monoMsNow
  let started := (t.console.app.scheduler.timers.zipIdx.drop before.app.scheduler.timers.length).map
    fun (timer, number) ↦ Pending.mk number (now + (timer.delay * 1000.0).toUInt64.toNat)
  return { t with console := { t.console with output := "" }, pending := t.pending ++ started }

/-- Lets something come in, with the given files in reach. -/
def send (t : Running) (input : Input) (files : FileTree := {}) : IO Running := do
  let app := { t.console.app with now := ← currentTime, desk := { t.console.app.desk with files } }
  settle t.console { t with console := { t.console with app }.step input }

/-- Lets the timers fire whose time is up. -/
def fireDue (t : Running) : IO Running := do
  let now ← IO.monoMsNow
  let (due, waiting) := t.pending.partition (·.due ≤ now)
  (due.mergeSort fun a b ↦ a.due ≤ b.due).foldlM (fun t p ↦ send t (.timer p.number))
    { t with pending := waiting }

/-- Lets a line come in. -/
def sendLine (t : Running) (line : String) : IO Running := do
  match if t.console.expects = .command then t.console.app.fileOf? line else none with
  | none => send t (.line line)
  | some path =>
    let files ← readIn path
    let t ← send t (.line line) files
    match t.console.app.desk.files.read path with
    | .ok content =>
      if (files.read path).toOption != some content then
        try writeOut path content catch e => (← IO.getStderr).putStrLn (toString e)
      return t
    | .error _ => return t

/-- Reads lines until the program has ended, and tells whether that was a failure. -/
partial def loop (t : Running) : IO UInt32 := do
  if t.console.isClosed then return if t.console.endedIn .failed then 1 else 0
  let line ← (← IO.getStdin).getLine
  let t ← fireDue t
  loop (← if line.isEmpty then send t .endOfInput else sendLine t line)

/-- How the program is called. -/
def usage : String :=
  "usage: termtask [-h] [--data-dir DATA_DIR] [--export-dir EXPORT_DIR]\n" ++
  "                [--log-level LOG_LEVEL]\n"

/-- What the options mean. -/
def optionHelp : String :=
  "\nNotes, todos, links, contacts, calendar and timers in your terminal.\n\noptions:\n" ++
  "  -h, --help            show this help message and exit\n" ++
  "  --data-dir DATA_DIR   directory holding store.json\n" ++
  "  --export-dir EXPORT_DIR\n" ++
  "                        default directory for save/open\n" ++
  "  --log-level LOG_LEVEL\n" ++
  "                        DEBUG, INFO, WARNING, ...\n"

/-- Opens the store and runs the console. -/
def run (around : Surroundings) (settings : Settings) : IO UInt32 := do
  let content ← entryOnDisk settings.storePath.text
  let bytes := match content with
    | some (.file bytes) => some bytes
    | _ => none
  let .ok store := Store.ofFile bytes | do
    (← IO.getStderr).putStrLn "The store cannot be opened."
    return 1
  let app := Console.appOf settings around.home (← currentTime) store {}
  match Console.launch settings app with
  | .error _ =>
    (← IO.getStderr).putStrLn "Unknown log level."
    return 1
  | .ok console =>
    let text := store.fileText?.getD ""
    if content != some (.file text.toUTF8) then writeStore settings.storePath text
    loop (← settle console { console, storePath := settings.storePath })

end Organizer.Program

open Organizer in
/-- The console with its settings from the environment and from the arguments. -/
def main (arguments : List String) : IO UInt32 := do
  let around ← Program.surroundings
  match Settings.load around arguments with
  | .ok settings => Program.run around settings
  | .error .helped =>
    (← IO.getStdout).putStr (Program.usage ++ Program.optionHelp)
    return 0
  | .error .misused =>
    (← IO.getStderr).putStr (Program.usage ++ "termtask: error: bad arguments\n")
    return 2
