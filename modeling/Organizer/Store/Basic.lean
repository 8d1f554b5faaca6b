import Organizer.Action
import Organizer.Json.Order
import Organizer.Json.Printer
import Organizer.Json.Reader

/-!
# The store

The store maps keys to JSON values and keeps the keys in order. Under most keys stands a list of
records; a key with any other value, or none, counts as the empty list. Days of the calendar have
keys of the form `cal-YYMMDD`, and one more key, the calendar index, holds the sorted list of the
days that have events. Keys are texts, but a calendar index that a person has edited can lead to
others.

Records are handed out and taken in as copies, and a value of more than `maxKept` levels cannot be
copied. A store in a file writes the whole mapping out after every assignment, and replaces the file
in one step. `Backing.file` remembers every text that the file has held, newest first: whatever
moment the program is stopped at, one of them is found in the file. If the mapping holds something
that cannot be written, the assignment stands and the file stays as it was. A store in memory writes
nothing.
-/

namespace Organizer

/-- Where a store keeps its mapping between runs. -/
inductive Backing
  | memory
  /-- A file, with every text that it has held, newest first. -/
  | file (versions : List String)
  deriving DecidableEq, Repr

/-- A mapping of keys to values, and where it is kept. -/
structure Store where
  entries : Fields
  backing : Backing
  deriving DecidableEq

namespace Store

/-- The text of the file that holds a mapping. -/
def textOf (entries : Fields) : String := (Json.obj entries).write

/-- The text of the file right now; a store in memory has none. -/
def fileText? (s : Store) : Option String :=
  match s.backing with
  | .memory => none
  | .file versions => versions.head?

/-! ### Reading -/

/-- What keys of calendar days begin with. -/
def dayPrefix : String := "cal-"

/-- The key of the calendar index. -/
def indexKey : String := "_calendar_index"

/-- Is the key that of a calendar day? -/
def isDayKey : Scalar → Bool
  | .text key => dayPrefix.toList.isPrefixOf key.toList
  | .torn ps => (dayPrefix.toList.map Text.CodePoint.char).isPrefixOf ps
  | _ => false

/-- The most levels of a value that is handed out or taken in. -/
def maxKept : Nat := 490

/-- The records under a key. -/
def list (s : Store) (key : Scalar) : Except Failure (List Json) :=
  match s.entries.get? key with
  | none => .ok []
  | some v =>
    if maxKept < v.depth then .error .unexpected
    else
      match v with
      | .arr records => .ok records
      | _ => .ok []

/-- Values in order. What a person has edited may hold values that have no order. -/
def sorted (xs : List Json) : Except Failure (List Json) :=
  match Json.sort? xs with
  | some xs => .ok xs
  | none => .error .unexpected

/-- The days of the calendar index, in order. -/
def days (s : Store) : Except Failure (List Json) := do sorted (← s.list indexKey)

/-- Is there a record under a key? -/
def isActive (s : Store) (key : Scalar) : Except Failure Bool :=
  (s.list key).map fun records ↦ !records.isEmpty

/-- The keys of days that have events, in order. -/
def activeDays (s : Store) : Except Failure (List Json) := do
  let active ← (s.entries.keys.filter isDayKey).filterM s.isActive
  sorted (active.map .scalar)

/-! ### Assigning -/

/-- Writes the mapping out. -/
def flush : Action Store Unit := do
  let s ← get
  match s.backing with
  | .memory => pure ()
  | .file versions =>
    if (Json.obj s.entries).isWritable then
      set { s with backing := .file (textOf s.entries :: versions) }
    else Action.fail

/-- Gives a key a list of records and writes the mapping out. -/
def put (key : Scalar) (records : List Json) : Action Store Unit := do
  if maxKept < (Json.arr records).depth then Action.fail
  else
    modify fun s ↦ { s with entries := s.entries.set key (.arr records) }
    flush

/-! ### Opening -/

/-- Adds a calendar index to a mapping that has none. -/
def addIndex : Action Store Unit := do
  let s ← get
  if (s.entries.get? indexKey).isSome then pure ()
  else put indexKey (← Action.ofExcept s.activeDays)

/-- A store that is ready for use: with a calendar index. -/
def withIndex (s : Store) : Except Failure Store :=
  match addIndex.perform s with
  | (.ok _, s) => .ok s
  | (.error e, _) => .error e

/-- Opens a store in memory on a mapping. -/
def ofEntries (entries : Fields) : Except Failure Store := withIndex { entries, backing := .memory }

/-- The mapping that a text holds; a text that holds no object counts as the empty mapping. -/
def entriesOf (text : String) : Except Failure Fields :=
  match Json.read text with
  | .ok (.obj fields) => .ok fields
  | .ok _ | .error .malformed => .ok []
  | .error .tooDeep => .error .unexpected

/-- Opens a store on the text of its file. -/
def ofText (text : String) : Except Failure Store := do
  withIndex { entries := ← entriesOf text, backing := .file [text] }

/-- Opens a store on its file: one that is missing or is no text counts as empty. -/
def ofFile (content : Option ByteArray) : Except Failure Store :=
  match content.bind fun bytes ↦ String.fromUTF8? bytes with
  | some text => ofText text
  | none => withIndex { entries := [], backing := .file [] }

/-- Opens a store again: from the file, or on the same mapping in memory. -/
def reopen (s : Store) : Except Failure Store :=
  match s.backing with
  | .memory => ofEntries s.entries
  | .file [] => ofFile none
  | .file (text :: _) => ofText text

end Store

end Organizer
