import Organizer.Action
import Organizer.Calendar.DayKey
import Organizer.Json.Basic
import Organizer.Number.Reading

/-!
# Durations and times of day

A duration is a positive, finite number of minutes. It may be given as a text, as a number, or not
at all where there is a default. A time of day is typed as `H:MM` or `HH:MM`, in digits of any
script, and stands for its next occurrence: today if it is still to come, else tomorrow.
-/

namespace Organizer.Timer

open Number Text

/-! ### Minutes -/

/-- The number that a value gives, if it gives one. A whole number out of the range of doubles is
an unexpected failure, and not a refusal. -/
def numberOf (value : Json) : Except Failure Float :=
  match value with
  | .bool b => .ok (if b then 1.0 else 0.0)
  | .int n =>
    let x := Double.ofInt n
    if Double.isFinite x then .ok x else .error .unexpected
  | .double x => .ok x
  | .str s =>
    match readDouble? s with
    | some x => .ok x
    | none => .error (.refused .badDuration)
  | _ => .error (.refused .badDuration)

/-- Is the number a duration? -/
def isDuration (minutes : Float) : Bool := Double.isFinite minutes && 0.0 < minutes

/-- The minutes that a value gives; null and the empty text give the default, which is read like any
other value. -/
def minutesOf (value default : Json) : Except Failure Float := do
  let minutes ←
    if value = .null ∨ value = .str "" then
      if default = .null then throw (.refused .badDuration) else numberOf default
    else numberOf value
  if isDuration minutes then return minutes else throw (.refused .badDuration)

/-! ### Times of day -/

/-- The minute after the colon of a time of day. -/
def minuteAfterColon? (cs : List Char) : Option Nat :=
  match cs with
  | a :: b :: rest => if DayKey.atEnd rest then natOfDigits? [a, b] else none
  | _ => none

/-- The hour and the minute of a text of the form `H:MM` or `HH:MM`; they need not exist. -/
def readClock? (cs : List Char) : Option (Nat × Nat) :=
  match cs with
  | a :: ':' :: rest => do return (← digitValue? a, ← minuteAfterColon? rest)
  | a :: b :: ':' :: rest => do return (← natOfDigits? [a, b], ← minuteAfterColon? rest)
  | _ => none

/-- The next time that the clock shows an hour and a minute. -/
def nextAt (now : Moment) (hour minute : Nat) : Except Failure Moment :=
  let target : Moment := ⟨now.date, hour, minute, 0, 0⟩
  if now.sinceMidnight < target.sinceMidnight then .ok target
  else if now.date.next.year ≤ Date.maxYear then .ok { target with date := now.date.next }
  else .error .unexpected

/-- The next occurrence of a time of day that a person typed. -/
def nextOccurrence (now : Moment) (typed : String) : Except Failure Moment :=
  match readClock? typed.toList with
  | some (hour, minute) =>
    if hour ≤ 23 ∧ minute ≤ 59 then nextAt now hour minute else .error (.refused .badTime)
  | none => .error (.refused .badTime)

end Organizer.Timer
