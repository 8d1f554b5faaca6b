import Organizer.Text.Blank

/-!
# Splitting a command line into words

A word is either the inside of a pair of double quotes, which must not be empty, or a run of
characters that are neither blank nor quotes. A quote that opens no such pair sticks to the run that
follows it, and disappears if no run follows; nothing is an error. Words may touch each other.
-/

namespace Organizer.CommandLine

open Text

/-- Can the character stand in a word without quotes? -/
def isBare (c : Char) : Bool := c != '"' && !isBlank c

/-- The words of a line, as lists of characters. -/
def splitWords (cs : List Char) : List (List Char) :=
  match cs with
  | [] => []
  | c :: rest =>
    if c = '"' then
      let inside := rest.takeWhile (· != '"')
      if inside ≠ [] ∧ inside.length < rest.length then
        inside :: splitWords (rest.drop (inside.length + 1))
      else
        let run := rest.takeWhile isBare
        if run = [] then splitWords rest
        else ('"' :: run) :: splitWords (rest.drop run.length)
    else if isBlank c then splitWords rest
    else
      let run := rest.takeWhile isBare
      (c :: run) :: splitWords (rest.drop run.length)
termination_by cs.length
decreasing_by all_goals simp only [List.length_cons, List.length_drop]; omega

/-- The words of a line. -/
def words (line : String) : List String := (splitWords line.toList).map String.ofList

end Organizer.CommandLine
