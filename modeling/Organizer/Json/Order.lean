import Organizer.Json.Basic

/-!
# Sorting values

Texts are ordered by code points, numbers by value, and lists by their first difference. Values of
different kinds have no order, and neither have null and objects. The double that is no number comes
neither before nor after any other, so that a list that holds it has no sorted form in the usual
sense.

Sorting is therefore described step by step. The longest run at the front that is in order already
is kept, or is turned round if it falls; then each further value is put in its place by halving. A
list can be sorted if every two values that are compared on the way have an order.

The common case, a list of texts, is decided first, so that for texts `sort?` is plainly the sorted
list.
-/

namespace Organizer.Json

/-! ### The order of two values -/

mutual

/-- Does one value come before another? None if they have no order. -/
def before? : Json → Json → Option Bool
  | .scalar a, .scalar b => a.before? b
  | .arr a, .arr b => itemsBefore? a b
  | _, _ => none
termination_by structural a => a

/-- Does one list come before another? The first difference decides. -/
def itemsBefore? : List Json → List Json → Option Bool
  | _, [] => some false
  | [], _ :: _ => some true
  | a :: as, b :: bs => if alike a b then itemsBefore? as bs else before? a b
termination_by structural a => a

end

/-! ### Sorting step by step -/

/-- The rest of a run: the values that go on rising, or falling, from the one before them. -/
def takeRun? (falling : Bool) : Json → List Json → Option (List Json × List Json)
  | _, [] => some ([], [])
  | x, y :: ys => do
    if (← before? y x) == falling then
      let (run, rest) ← takeRun? falling y ys
      return (y :: run, rest)
    else return ([], y :: ys)

/-- The run at the front of a list, in rising order, and what follows it. A run falls if its second
value comes before the first. -/
def firstRun? : List Json → Option (List Json × List Json)
  | x :: y :: ys => do
    let falling ← before? y x
    let (run, rest) ← takeRun? falling x (y :: ys)
    return (if falling then (x :: run).reverse else x :: run, rest)
  | xs => some (xs, [])

/-- The place of a value in a sorted list between two places, behind those that it does not come
before. The number of halvings is bounded. -/
def placeIn? (sorted : List Json) (x : Json) : Nat → Nat → Nat → Option Nat
  | 0, low, _ => some low
  | halvings + 1, low, high =>
    if low < high then do
      let middle := low + (high - low) / 2
      if ← before? x (sorted[middle]?.getD .null) then placeIn? sorted x halvings low middle
      else placeIn? sorted x halvings (middle + 1) high
    else some low

/-- Puts a value in its place in a sorted list. -/
def insert? (sorted : List Json) (x : Json) : Option (List Json) := do
  return sorted.insertIdx (← placeIn? sorted x sorted.length 0 sorted.length) x

/-- The values in order: a first run, and the others put in one by one. -/
def sortBySteps? (xs : List Json) : Option (List Json) := do
  let (run, rest) ← firstRun? xs
  rest.foldlM insert? run

/-! ### Sorting -/

/-- Texts in the order of their code points. -/
def sortTexts (ss : List String) : List String := ss.mergeSort fun a b ↦ decide (a ≤ b)

/-- The values in order, if they have one. -/
def sort? (xs : List Json) : Option (List Json) :=
  match xs.mapM asText? with
  | some ss => some ((sortTexts ss).map .str)
  | none => sortBySteps? xs

end Organizer.Json
