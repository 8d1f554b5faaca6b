import Organizer.Text.Blank
import Organizer.Text.Case.Tables

/-!
# Lower and upper case

The full case mappings: one character can become several, and the lower case of a capital sigma
depends on its place in the word. `lower` therefore works on a whole text and keeps what stands
before the current character.
-/

namespace Organizer.Text

/-- Looks a character up in a table of runs and one of expansions. -/
def mapCase (runs : List CaseRun) (expansions : List (Nat × List Nat)) (c : Char) : List Char :=
  let n := c.toNat
  match expansions.lookup n with
  | some ns => ns.map Char.ofNat
  | none =>
    match runs.find? fun (first, last, step, _) ↦
        first ≤ n && n ≤ last && (n - first) % step == 0 with
    | some (_, _, _, shift) => [Char.ofNat (n + shift).toNat]
    | none => [c]

/-- The lower case of one character, away from any context. -/
def lowerChar (c : Char) : List Char :=
  if c.toNat < 0x80 then [c.toLower] else mapCase lowerRuns lowerExpansions c

/-- The upper case of one character. -/
def upperChar (c : Char) : List Char :=
  if c.toNat < 0x80 then [c.toUpper] else mapCase upperRuns upperExpansions c

/-- Does a text begin, after characters that are passed over, with a cased one? -/
def startsCased (cs : List Char) : Bool :=
  ((cs.dropWhile caseIgnorable.holds).head?.map cased.holds).getD false

/-- Lower case with the characters before the current one at hand, nearest first. A capital sigma
that ends a word becomes the final form. -/
def lowerAfter : List Char → List Char → List Char
  | _, [] => []
  | before, c :: cs =>
    (if c = 'Σ' then
      if startsCased before && !startsCased cs then ['ς'] else ['σ']
    else lowerChar c) ++ lowerAfter (c :: before) cs

/-- The text in lower case. -/
def lower (s : String) : String := String.ofList (lowerAfter [] s.toList)

/-- The text in upper case. -/
def upper (s : String) : String := String.ofList (s.toList.flatMap upperChar)

/-- Does a text occur in another as one contiguous piece? -/
def occursIn (piece : List Char) : List Char → Bool
  | [] => piece.isEmpty
  | c :: cs => piece.isPrefixOf (c :: cs) || occursIn piece cs

/-- Does the second text occur in the first, letter case aside? -/
def containsIgnoringCase (text piece : String) : Bool :=
  occursIn (lower piece).toList (lower text).toList

/-! ### Small facts -/

theorem occursIn_iff_infix (piece text : List Char) :
    occursIn piece text = true ↔ piece <:+: text := by
  induction text with
  | nil => simp [occursIn]
  | cons c cs ih => simp [occursIn, ih, List.infix_cons_iff]

@[simp] theorem lowerAfter_nil (before : List Char) : lowerAfter before [] = [] := rfl

end Organizer.Text
