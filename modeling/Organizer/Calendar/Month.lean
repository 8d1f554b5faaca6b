import Organizer.Calendar.DayKey

/-!
# A month as a grid

One line per week from Sunday to Saturday, under the name of the month and the names of the days. A
day takes two columns and is followed by a blank; no line ends in a blank. The current day stands
between the marks of reversed text.
-/

namespace Organizer.Month

open Number

/-- The name of a month. -/
def name : Nat → String
  | 1 => "January"
  | 2 => "February"
  | 3 => "March"
  | 4 => "April"
  | 5 => "May"
  | 6 => "June"
  | 7 => "July"
  | 8 => "August"
  | 9 => "September"
  | 10 => "October"
  | 11 => "November"
  | 12 => "December"
  | _ => ""

/-- The column of the first day of a month, counted from Sunday. -/
def firstColumn (year : Int) (month : Nat) : Nat := (Date.mk year month 1).weekday

/-- The number of weeks that meet a month. -/
def weekCount (year : Int) (month : Nat) : Nat :=
  (firstColumn year month + daysInMonth year month + 6) / 7

/-- The cell at a place of the grid: blank before the first day, nothing after the last. -/
def cell (year : Int) (month : Nat) (marked : Option Nat) (row column : Nat) : List Char :=
  let place := 7 * row + column
  let first := firstColumn year month
  if place < first then [' ', ' ', ' ']
  else
    let day := place - first + 1
    if daysInMonth year month < day then []
    else
      let ds := writeNat day
      let ds := if ds.length < 2 then ' ' :: ds else ds
      if marked = some day then "[reverse]".toList ++ ds ++ "[/reverse] ".toList else ds ++ [' ']

/-- One week. -/
def week (year : Int) (month : Nat) (marked : Option Nat) (row : Nat) : List Char :=
  Text.dropBlanksEnd ((List.range 7).flatMap (cell year month marked row))

/-- The day of a month that is to be marked, if the current day lies in it. -/
def markedDay (year : Int) (month : Nat) (today : Option Date) : Option Nat :=
  match today with
  | some d => if d.year = year ∧ d.month = month then some d.day else none
  | none => none

/-- The lines of a month. -/
def lines (year : Int) (month : Nat) (today : Option Date) : List String :=
  ("   " ++ name month ++ " " ++ showInt year) :: " Su Mo Tu We Th Fr Sa" ::
    (List.range (weekCount year month)).map fun row ↦
      String.ofList (week year month (markedDay year month today) row)

/-- The text of a month. -/
def text (year : Int) (month : Nat) (today : Option Date) : String :=
  "\n".intercalate (lines year month today)

/-- The text of a month that may not be one. -/
def text? (year month : Int) (today : Option Date) : Except Failure String :=
  if 1 ≤ month ∧ month ≤ 12 then .ok (text year month.toNat today) else .error .unexpected

/-- Is the text of the form of a month, `YYMM`? -/
def isTyped (s : String) : Bool := DayKey.isDigits 4 s.toList

/-- The year and the month that a person typed. -/
def ofText (s : String) : Except Failure (Int × Nat) :=
  let cs := s.toList
  if !isTyped s then .error (.refused (.badMonth s))
  else
    match Text.natOfDigits? (cs.take 2), Text.natOfDigits? ((cs.drop 2).take 2) with
    | some yy, some month =>
      if 1 ≤ month ∧ month ≤ 12 then .ok (2000 + yy, month) else .error (.refused (.badMonth s))
    | _, _ => .error (.refused (.badMonth s))

end Organizer.Month
