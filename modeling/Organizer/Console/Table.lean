import Organizer.Console.Layout

/-!
# Tables of two columns

A table has a title above it, a head, and a row for each pair of cells, which may have several
lines. The first column is centred and the second starts at the left; both are as wide as their
widest line, with a blank on either side.
-/

namespace Organizer.Console

/-- A table of two columns. -/
structure Table where
  title : List Line
  head : List Line × List Line
  rows : List (List Line × List Line)

namespace Table

/-- The widths of the two columns, without the blanks on either side. -/
def widths (t : Table) : Nat × Nat :=
  let rows := t.head :: t.rows
  (widest (rows.flatMap (·.1)), widest (rows.flatMap (·.2)))

/-- A horizontal rule. -/
def rule (left bar middle right : Char) (widths : Nat × Nat) : Line :=
  left :: List.replicate (widths.1 + 2) bar ++ middle :: List.replicate (widths.2 + 2) bar ++
    [right]

/-- The lines of a row between vertical rules. -/
def rowLines (border : Char) (widths : Nat × Nat) (row : List Line × List Line) : List Line :=
  (List.range (max row.1.length row.2.length)).map fun i ↦
    border :: ' ' :: centred widths.1 ((row.1[i]?).getD []) ++ ' ' :: border ::
      ' ' :: leftAligned widths.2 ((row.2[i]?).getD []) ++ [' ', border]

/-- The lines of a table. -/
def lines (t : Table) : List Line :=
  let ws := t.widths
  t.title.map (centred (ws.1 + ws.2 + 7)) ++
    rule '┏' '━' '┳' '┓' ws :: rowLines '┃' ws t.head ++
    rule '┡' '━' '╇' '┩' ws :: t.rows.flatMap (rowLines '│' ws) ++
    [rule '└' '─' '┴' '┘' ws]

end Table

end Organizer.Console
