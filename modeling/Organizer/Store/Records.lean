import Organizer.Store.Basic
import Organizer.Json.Display
import Organizer.Text.Blank

/-!
# Operations on records

Every change reads the whole list under a key, changes it and writes it back; places are counted
from one, as a listing shows them. A change of a calendar day then brings the calendar index up to
date, which is a second write and happens only if the day has become active or has ceased to be.

A search takes a test that may find that it cannot judge a record (`none`), and then fails.
-/

namespace Organizer.Store

/-- A test of records; none where the record is not of the kind that the test is for. -/
abbrev Test := Json → Option Bool

/-! ### The calendar index -/

/-- The records under a key. -/
def recordsAt (key : Scalar) : Action Store (List Json) := do Action.ofExcept ((← get).list key)

/-- Brings the calendar index up to date about one day. -/
def trackDay (key : Scalar) (active : Bool) : Action Store Unit := do
  let index ← recordsAt indexKey
  if index.any fun entry ↦ entry.asScalar?.isNone then Action.fail
  else
    let days := Json.distinct index
    if active == days.contains (.scalar key) then pure ()
    else
      let days := if active then days ++ [.scalar key] else days.filter (· != .scalar key)
      put indexKey (← Action.ofExcept (sorted days))

/-- Writes the records under a key. What is not a text is found to be no key only then. -/
def writeRecords (key : Scalar) (records : List Json) : Action Store Unit := do
  put key records
  if !key.isText then Action.fail
  else if isDayKey key then trackDay key (!records.isEmpty)

/-! ### Searching -/

/-- The place of the first record that passes a test, counting from `place`. -/
def firstPlace (p : Test) : Nat → List Json → Except Failure (Option Nat)
  | _, [] => .ok none
  | place, r :: rs =>
    match p r with
    | none => .error .unexpected
    | some true => .ok (some place)
    | some false => firstPlace p (place + 1) rs

/-- The place of the first record under a key that passes a test. -/
def findFirst (s : Store) (key : Scalar) (p : Test) : Except Failure (Option Nat) := do
  firstPlace p 1 (← s.list key)

/-- Splits records into those that fail a test and those that pass it, both in order. -/
def partition? (p : Test) : List Json → Option (List Json × List Json)
  | [] => some ([], [])
  | r :: rs => do
    let passes ← p r
    let (kept, removed) ← partition? p rs
    return if passes then (kept, r :: removed) else (r :: kept, removed)

/-! ### Changing -/

/-- Is the record a blank text? -/
def isBlankText (record : Json) : Bool := (record.asText?.map Text.allBlank).getD false

/-- Is the record nothing, or a blank text? -/
def isBlankRecord (record : Json) : Bool := record.isNothing || isBlankText record

/-- What is said to a value that names no place. The refusal shows the value, and one that cannot be
shown is an unexpected failure. -/
def noPlace (place : Json) : Failure :=
  match place.display? with
  | some shown => .refused (.noSuchRecord shown)
  | none => .unexpected

/-- The place that a value names among `count` records, counting from zero. Only whole numbers name
places. -/
def placeOf (place : Json) (count : Nat) : Except Failure Nat :=
  match place with
  | .int n => if 1 ≤ n ∧ n ≤ count then .ok (n.toNat - 1) else .error (noPlace place)
  | _ => .error (noPlace place)

/-- Adds a record at the end. -/
def append (key : Scalar) (record : Json) : Action Store Unit := do
  if isBlankRecord record then Action.refuse (.empty .record)
  else writeRecords key ((← recordsAt key) ++ [record])

/-- Puts a record in the place of another. -/
def replaceAt (key : Scalar) (place record : Json) : Action Store Unit := do
  if isBlankText record then Action.refuse (.empty .record)
  else
    let records ← recordsAt key
    let i ← Action.ofExcept (placeOf place records.length)
    writeRecords key (records.set i record)

/-- Removes the record at a place and answers with it. -/
def removeAt (key : Scalar) (place : Json) : Action Store Json := do
  let records ← recordsAt key
  let i ← Action.ofExcept (placeOf place records.length)
  writeRecords key (records.eraseIdx i)
  return records[i]?.getD .null

/-- Removes the records that pass a test and answers with them. Nothing is written if there are
none. -/
def removeWhere (key : Scalar) (p : Test) : Action Store (List Json) := do
  let (kept, removed) ← Action.require (partition? p (← recordsAt key))
  if !removed.isEmpty then writeRecords key kept
  return removed

/-- Puts other records in the place of all. -/
def replaceAll (key : Scalar) (records : List Json) : Action Store Unit := writeRecords key records

/-- Puts the items of a value in the place of all records. -/
def replaceAllBy (key : Scalar) (value : Json) : Action Store Unit := do
  replaceAll key (← Action.require value.items?)

end Organizer.Store
