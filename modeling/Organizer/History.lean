/-!
# Command history

The lines that were entered, oldest first, and a cursor for recalling them. The cursor stands on an
entry or, when nothing is being recalled, just past the last one. A line that repeats the newest
entry is not stored twice, and no empty line is stored.
-/

namespace Organizer

/-- The lines entered so far and the place of recall. -/
structure History where
  entries : List String := []
  cursor : Nat := 0
  deriving DecidableEq, Repr

namespace History

/-- Is the line new enough to be stored? -/
def accepts (h : History) (line : String) : Bool :=
  !line.isEmpty && h.entries.getLast? != some line

/-- Stores a line and ends any recall. -/
def record (h : History) (line : String) : History :=
  let entries := if h.accepts line then h.entries ++ [line] else h.entries
  { entries, cursor := entries.length }

/-- Recalls the entry before the current one; the oldest entry is recalled again and again. -/
def back (h : History) : Option String × History :=
  if h.entries.isEmpty then (none, h)
  else
    let h := { h with cursor := h.cursor - 1 }
    (h.entries[h.cursor]?, h)

/-- Recalls the entry after the current one; past the newest entry stands the empty line. -/
def forward (h : History) : String × History :=
  if h.cursor + 1 < h.entries.length then
    let h := { h with cursor := h.cursor + 1 }
    ((h.entries[h.cursor]?).getD "", h)
  else ("", { h with cursor := h.entries.length })

end History

end Organizer
