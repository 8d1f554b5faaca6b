import Organizer.FileTree
import Organizer.Response
import Organizer.Store.Records

/-!
# The desk

What the commands on records can reach: the store, the files beside it and where to look for them,
and the addresses that were handed to the browser.

A person names a file by a path. A path that is not absolute is seen from the directory for saved
files, a leading tilde is the home directory, and no path at all means a default name.
-/

namespace Organizer

/-- The store, the files, and the addresses that were opened. -/
structure Desk where
  store : Store
  files : FileTree := {}
  /-- The home directory. -/
  home : Path
  /-- The directory for saved files. -/
  savedFiles : Path
  /-- The addresses handed to the browser, oldest first. -/
  opened : List Json := []
  deriving DecidableEq

namespace Desk

/-- Performs an action on the store. -/
def onStore {α : Type} (a : Action Store α) : Action Desk α :=
  Action.within Desk.store (fun store d ↦ { d with store }) a

/-- Performs an action on the files. -/
def onFiles {α : Type} (a : Action FileTree α) : Action Desk α :=
  Action.within Desk.files (fun files d ↦ { d with files }) a

/-- Hands an address to the browser. -/
def openAddress (address : Json) : Action Desk Unit :=
  modify fun d ↦ { d with opened := d.opened ++ [address] }

/-- The path of the file that a person named. -/
def resolve (d : Desk) (typed : Option String) (fileName : String) : Except Failure Path :=
  Path.resolve d.home d.savedFiles typed fileName

/-- The value that a file holds. One that is nested too deep is an unexpected failure. -/
def read (d : Desk) (path : Path) : Except Failure Json :=
  match d.files.read path with
  | .error .unreadable => .error (.refused (.unreadable path.name))
  | .error .badName => .error (.refused .badRecordFile)
  | .ok bytes =>
    match Json.ofBytes bytes with
    | .ok v => .ok v
    | .error .malformed => .error (.refused .badRecordFile)
    | .error .tooDeep => .error .unexpected

/-- Writes a value to a file. A value that cannot be turned into text leaves the file as it is, but
the directories that lead to it are there then; a value with a text that cannot be written leaves
the file empty. -/
def write (path : Path) (v : Json) : Action Desk Unit := do
  if !v.isShowable then
    let _ ← onFiles (FileTree.makeParent path)
    Action.fail
  else if v.hasTorn then
    onFiles (FileTree.write path .empty)
    Action.fail
  else onFiles (FileTree.write path v.write.toUTF8)

/-- The records under a key of the store. -/
def recordsAt (key : Scalar) : Action Desk (List Json) := do
  Action.ofExcept ((← get).store.list key)

end Desk

end Organizer
