import Organizer.Calendar.Date
import Organizer.Store.Basic

/-!
# Days and months as a person types them

A day is typed as six digits, `YYMMDD`, and a month as four, `YYMM`. Digits of any script are read,
and one line break may follow, as in a value that was copied with its line end; a day is then put
through a stricter reading that decides whether it exists.

The stricter reading takes two digits for the year, then a month of one or two digits, then a day of
one or two digits, always the first choice that lets the whole be read, and leaves nothing over.
Years from 69 on are read in the twentieth century. That century matters for leap years alone: a
day is always shown in the twenty-first.
-/

namespace Organizer.DayKey

open Text

/-- Does the text end here, but for one line break? -/
def atEnd : List Char → Bool
  | [] => true
  | ['\n'] => true
  | _ => false

/-- Is the text exactly so many digits, and perhaps a line break? -/
def isDigits (count : Nat) (cs : List Char) : Bool :=
  (cs.take count).length == count && (cs.take count).all isDigit && atEnd (cs.drop count)

/-! ### Reading a day -/

/-- Is the character an ASCII digit between two others? -/
def between (low high c : Char) : Bool := low ≤ c && c ≤ high

/-- The months that the front of a text can be read as, in order of preference. -/
def monthChoices (cs : List Char) : List (Nat × List Char) :=
  match cs with
  | [] => []
  | a :: rest =>
    (match rest with
      | [] => []
      | b :: rest =>
        if a = '1' && between '0' '2' b then [(10 + (asciiDigit? b).getD 0, rest)]
        else if a = '0' && between '1' '9' b then [((asciiDigit? b).getD 0, rest)]
        else []) ++
      if between '1' '9' a then [((asciiDigit? a).getD 0, rest)] else []

/-- The days that the front of a text can be read as, in order of preference. -/
def dayChoices (cs : List Char) : List (Nat × List Char) :=
  match cs with
  | [] => []
  | a :: rest =>
    (match rest with
      | [] => []
      | b :: rest =>
        if a = '3' && between '0' '1' b then [(30 + (asciiDigit? b).getD 0, rest)]
        else if between '1' '2' a && isDigit b then
          [(10 * (asciiDigit? a).getD 0 + (digitValue? b).getD 0, rest)]
        else if a = '0' && between '1' '9' b then [((asciiDigit? b).getD 0, rest)]
        else []) ++
      if between '1' '9' a then [((asciiDigit? a).getD 0, rest)] else []

/-- The year that two digits stand for. -/
def fullYear (yy : Nat) : Int := if 69 ≤ yy then 1900 + yy else 2000 + yy

/-- The day that a text is read as, with nothing left over; it need not exist. -/
def readDay? (cs : List Char) : Option Date :=
  match cs with
  | a :: b :: rest =>
    match digitValue? a, digitValue? b with
    | some tens, some ones =>
      let choices := (monthChoices rest).flatMap fun (month, rest) ↦
        (dayChoices rest).map fun (day, rest) ↦ (month, day, rest)
      match choices with
      | (month, day, []) :: _ => some ⟨fullYear (10 * tens + ones), month, day⟩
      | _ => none
    | _, _ => none
  | _ => none

/-- The store key of a day that a person typed. -/
def ofText (s : String) : Except Failure String :=
  if !isDigits 6 s.toList then .error (.refused .malformedDay)
  else
    match readDay? s.toList with
    | some d =>
      if d.isReal then .ok (Store.dayPrefix ++ s) else .error (.refused (.unrealDay s))
    | none => .error (.refused (.unrealDay s))

/-- A day as it is shown, cut from its digits. -/
def pretty (s : String) : String :=
  let cs := s.toList
  "20" ++ String.ofList (cs.take 2) ++ "-" ++ String.ofList ((cs.drop 2).take 2) ++ "-" ++
    String.ofList ((cs.drop 4).take 2)

/-- Can a text stand after the prefix of a day in a calendar file? -/
def isDigitsKey (key : String) : Bool :=
  Store.isDayKey key && isDigits 6 (key.toList.drop Store.dayPrefix.toList.length)

end Organizer.DayKey
