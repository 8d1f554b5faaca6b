/-!
# Classes of characters as ranges of code points

The character classes of this library that hold more than a handful of characters are lists of
ranges in code point order. Both ends of a range belong to it.
-/

namespace Organizer.Text

/-- A class of characters, as ranges of code points with both ends included. -/
abbrev Ranges := List (Nat × Nat)

/-- Does the class hold the character? -/
def Ranges.holds (rs : Ranges) (c : Char) : Bool :=
  rs.any fun r ↦ r.1 ≤ c.toNat && c.toNat ≤ r.2

end Organizer.Text
