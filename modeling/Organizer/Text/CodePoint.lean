/-!
# Code points

A text from a JSON file can hold what no character stands for: an escape may spell one half of a
surrogate pair without the other. Such a text is a list of code points, each a character or a lone
half. It can be kept, searched and compared, but it has no encoding, so it can never be written.
-/

namespace Organizer.Text

/-- What a text is made of. -/
inductive CodePoint
  | char (c : Char)
  /-- A lone half of a surrogate pair, counted from U+D800. -/
  | half (n : Fin 2048)
  deriving DecidableEq, Repr

namespace CodePoint

/-- The number of a code point. -/
def toNat : CodePoint → Nat
  | .char c => c.toNat
  | .half n => 0xD800 + n

/-- The character, if the code point is one. -/
def char? : CodePoint → Option Char
  | .char c => some c
  | .half _ => none

/-- The character that is shown for a code point: a lone half is replaced. -/
def shown : CodePoint → Char
  | .char c => c
  | .half _ => '\uFFFD'

/-- Does one list of code points come before another? The first difference decides. -/
def before : List CodePoint → List CodePoint → Bool
  | _, [] => false
  | [], _ :: _ => true
  | p :: ps, q :: qs => if p = q then before ps qs else p.toNat < q.toNat

/-- The runs of characters between lone halves. -/
def runs : List CodePoint → List (List Char)
  | [] => [[]]
  | .half _ :: ps => [] :: runs ps
  | .char c :: ps =>
    match runs ps with
    | [] => [[c]]
    | r :: rs => (c :: r) :: rs

theorem mapM_char?_map_char (cs : List Char) : (cs.map char).mapM char? = some cs := by
  induction cs with
  | nil => rfl
  | cons c cs ih => simp [char?, ih]

end CodePoint

end Organizer.Text
