import Organizer.Path

/-!
# Files and directories

The files that can be saved and opened, as a map from places to contents. The place of a file or
directory is the list of the names that lead to it; the empty list is the root, which is always a
directory. A path is followed name by name: everything on the way must be a directory, two dots lead
back, and a name has at most 255 bytes.

Saving creates the directories on the way. If it fails, those that were created before stay.
-/

namespace Organizer

/-- What is found at a place. -/
inductive Entry
  | directory
  | file (content : ByteArray)

instance : DecidableEq Entry
  | .directory, .directory => isTrue rfl
  | .directory, .file _ | .file _, .directory => isFalse nofun
  | .file a, .file b =>
    match ByteArray.instDecidableEq a b with
    | isTrue h => isTrue (h ▸ rfl)
    | isFalse h => isFalse fun e ↦ h (Entry.file.inj e)

/-- The names that lead to a file or directory. -/
abbrev Place := List String

/-- All files and directories below the root. -/
structure FileTree where
  entries : List (Place × Entry) := []
  deriving DecidableEq

/-- Why a file cannot be read. -/
inductive ReadFault
  /-- There is no such file. -/
  | unreadable
  /-- No file can have such a name. -/
  | badName
  deriving DecidableEq, Repr

namespace FileTree

/-- The most bytes of a name. -/
def maxNameBytes : Nat := 255

/-- The most bytes of a path. -/
def maxPathBytes : Nat := 4095

/-- What is found at a place. -/
def get? (t : FileTree) (place : Place) : Option Entry :=
  if place = [] then some .directory else t.entries.lookup place

/-- Is there a directory at a place? -/
def isDirectory (t : FileTree) (place : Place) : Bool := t.get? place == some .directory

/-- Replaces the entry of a place, or adds it at the end. -/
def setEntry : List (Place × Entry) → Place → Entry → List (Place × Entry)
  | [], place, e => [(place, e)]
  | (p, d) :: rest, place, e =>
    if p = place then (p, e) :: rest else (p, d) :: setEntry rest place e

/-- Puts an entry at a place. -/
def put (t : FileTree) (place : Place) (e : Entry) : FileTree := ⟨setEntry t.entries place e⟩

/-- One step down, or back. -/
def step (place : Place) (part : String) : Place :=
  if part = ".." then place.dropLast else place ++ [part]

/-- Is the name short enough? -/
def nameFits (part : String) : Bool := part.utf8ByteSize ≤ maxNameBytes

/-- Follows names from a place. All places on the way must be directories; at the last one there
may be anything, or nothing. -/
def follow (t : FileTree) : Place → List String → Option Place
  | place, [] => some place
  | place, part :: parts =>
    if t.isDirectory place && nameFits part then follow t (step place part) parts else none

/-- The bytes of a file. -/
def read (t : FileTree) (path : Path) : Except ReadFault ByteArray :=
  if Path.holdsNull path.text then .error .badName
  else if maxPathBytes < path.text.utf8ByteSize then .error .unreadable
  else
    match (t.follow [] path.parts).bind t.get? with
    | some (.file content) => .ok content
    | _ => .error .unreadable

/-- Follows names from a place and creates the directories that are missing. -/
def makeDirectories : Place → List String → Action FileTree Place
  | place, [] => pure place
  | place, part :: parts => do
    if !nameFits part then Action.fail
    else
      let next := step place part
      match (← get).get? next with
      | some .directory => makeDirectories next parts
      | some (.file _) => Action.fail
      | none =>
        modify (·.put next .directory)
        makeDirectories next parts

/-- Creates the directories that lead to a file, and answers with the last of them. -/
def makeParent (path : Path) : Action FileTree Place :=
  let parent : Path := ⟨path.root, path.parts.dropLast⟩
  if Path.holdsNull parent.text || maxPathBytes < path.text.utf8ByteSize then Action.fail
  else makeDirectories [] parent.parts

/-- Writes a file, with the directories that lead to it. -/
def write (path : Path) (content : ByteArray) : Action FileTree Unit := do
  let place ← makeParent path
  if Path.holdsNull path.name || !nameFits path.name then Action.fail
  else
    let target := step place path.name
    if path.parts.isEmpty || (← get).isDirectory target then Action.fail
    else modify (·.put target (.file content))

end FileTree

end Organizer
