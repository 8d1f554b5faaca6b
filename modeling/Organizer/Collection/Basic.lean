import Organizer.Desk
import Organizer.Text.Case

/-!
# Collections

A collection is a list of records of one kind under one key of the store. All collections can be
listed, saved to a file and loaded from one; a file is loaded only if every record in it is of the
kind of the collection, and then replaces the whole collection.
-/

namespace Organizer

open Number

/-- A kind of records, and how it is kept and shown. -/
structure Collection where
  /-- The key in the store, which is also the word for the collection. -/
  key : String
  category : Category
  /-- The file that is meant when a person names none. -/
  fileName : String
  /-- Does a shown record carry markup? -/
  markup : Bool := false
  /-- A record as a listing shows it. -/
  line : Json → Except Failure String
  /-- Is there a lone half in the line of a record? -/
  tears : Json → Bool
  /-- Is the record of this kind? -/
  accepts : Json → Bool

namespace Collection

/-- The lines of a listing, counted from a number. -/
def numbered (line : Json → Except Failure String) :
    Nat → List Json → Except Failure (List String)
  | _, [] => .ok []
  | n, r :: rs => do
    let shown ← line r
    return (showNat n ++ ". " ++ shown) :: (← numbered line (n + 1) rs)

/-- A block of several lines. -/
def joinLines (ls : List String) : String := "\n".intercalate ls

/-- The records of a collection. -/
def records (c : Collection) (d : Desk) : Except Failure (List Json) := d.store.list c.key

/-- Lists a collection. -/
def list (c : Collection) (d : Desk) : Except Failure (List Response) := do
  match ← c.records d with
  | [] => return Response.reply ("No " ++ c.key ++ " found.")
  | rs =>
    let ls ← numbered c.line 1 rs
    return [⟨joinLines ls, c.category, c.markup, none, rs.any c.tears⟩]

/-- Saves a collection to a file. -/
def save (c : Collection) (typed : Option String) : Action Desk (List Response) := do
  let records ← Desk.recordsAt c.key
  if records.isEmpty then return Response.reply ("No data in " ++ c.key ++ " to save.")
  else
    let path ← Action.ofExcept ((← get).resolve typed c.fileName)
    Desk.write path (.arr records)
    return Response.reply ("Data saved to " ++ path.name ++ ".") c.category

/-- The records of a value, if it is a list of records of this kind. -/
def recordsOf? (c : Collection) : Json → Option (List Json)
  | .arr rs => if rs.all c.accepts then some rs else none
  | _ => none

/-- Loads a collection from a file. -/
def load (c : Collection) (typed : Option String) : Action Desk (List Response) := do
  let d ← get
  let path ← Action.ofExcept (d.resolve typed c.fileName)
  match c.recordsOf? (← Action.ofExcept (d.read path)) with
  | none => Action.refuse .badRecordFile
  | some rs =>
    Desk.onStore (Store.replaceAll c.key rs)
    return Response.reply ("Loaded " ++ showNat rs.length ++ " items into " ++ c.key ++ " from " ++
      path.name ++ ".") c.category

/-- A text that is needed for a search, which must not be blank. -/
def requireTerm (part : EmptyPart) (term : String) : Except Failure Unit :=
  if Text.allBlank term then .error (.refused (.empty part)) else .ok ()

/-- The place of the first record that passes a test. -/
def find (c : Collection) (what : Sought) (part : EmptyPart) (term : String) (p : Store.Test)
    (d : Desk) : Except Failure Nat := do
  requireTerm part term
  match ← d.store.findFirst c.key p with
  | some place => return place
  | none => throw (.refused (.notFound what term))

/-- The record at a place, counted from one. -/
def recordAt (c : Collection) (place : Nat) (d : Desk) : Except Failure Json := do
  match (← c.records d)[place - 1]? with
  | some record => return record
  | none => throw .unexpected

/-! ### Fields and texts -/

/-- A value as a line shows it. -/
def shown (v : Json) : Except Failure String :=
  match v.display? with
  | some s => .ok s
  | none => .error .unexpected

theorem shown_eq_ok {v : Json} (h : v.isShowable = true) : shown v = .ok v.display := by
  rw [shown, Json.display?, if_pos h]

theorem shown_eq_error {v : Json} (h : v.isShowable = false) : shown v = .error .unexpected := by
  rw [shown, Json.display?, h]
  rfl

/-- A field of a record as a line shows it, or nothing if there is no such field. -/
def shownField (fs : Fields) (key : String) : Except Failure String :=
  ((fs.get? key).map shown).getD (.ok "")

/-- A field of a record; an absent one counts as the empty text. -/
def field? (key : String) (record : Json) : Option Json := do
  return ((← record.asFields?).get? key).getD (.str "")

/-- Is there a lone half in a field that is a text? -/
def tornField (key : String) (record : Json) : Bool := (field? key record).any Json.isTorn

/-- Is there a text in a field? -/
def hasText (fs : Fields) (key : String) : Bool := ((fs.get? key).map Json.isText).getD false

theorem exists_get? {fs : Fields} {key : String} (h : hasText fs key = true) :
    ∃ v, fs.get? key = some v ∧ v.isText = true := by
  rw [hasText] at h
  cases hget : fs.get? key with
  | none => simp [hget] at h
  | some v => exact ⟨v, rfl, by simpa [hget] using h⟩

/-- Does a value, which has to be a text, contain another text, whatever its case? What is looked
for never reaches across a lone half. -/
def contains? (term : String) : Json → Option Bool
  | .str text => some (Text.containsIgnoringCase text term)
  | .scalar (.torn ps) =>
    some ((Text.CodePoint.runs ps).any fun run ↦
      Text.containsIgnoringCase (String.ofList run) term)
  | _ => none

end Collection

end Organizer
