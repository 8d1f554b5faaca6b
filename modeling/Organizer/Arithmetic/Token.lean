import Organizer.Number.Double
import Organizer.Text.Blank

/-!
# Tokens of an arithmetic expression

Numbers and operators are read by longest match. A number with a point is a double; one without a
point is a whole number, which must not begin with a zero unless it is all zeros, and may have at
most 4300 digits. Between tokens may stand spaces, tabs and form feeds, and line breaks where a
parenthesis is open. At most 200 parentheses may be open at once, and none may close that was not
opened; whether all are closed at the end is left to the grammar.

Three dots are a token because the grammar has a place for them; no value ever comes of them.
-/

namespace Organizer.Arithmetic

open Text

/-- A token of an arithmetic expression. -/
inductive Token
  | whole (n : Nat)
  | double (x : Float)
  | plus
  | minus
  | star
  | slash
  | percent
  | power
  | doubleSlash
  | opening
  | closing
  | ellipsis
  deriving DecidableEq

/-- The values of the leading ASCII digits. -/
def leadingDigits (cs : List Char) : List Nat :=
  match cs with
  | [] => []
  | c :: cs =>
    match asciiDigit? c with
    | some d => d :: leadingDigits cs
    | none => []

/-- The longest whole number may have this many digits. -/
def maxWholeDigits : Nat := 4300

/-- A whole number from its digits; none if they are not a way to write one. -/
def wholeNumber? (ds : List Nat) : Option Nat :=
  if ds.all (· == 0) then some 0
  else if ds.head? = some 0 ∨ maxWholeDigits < ds.length then none
  else some (ofDigits ds)

/-- The number at the front of a text that begins with a digit, or with a point and a digit, and
how many characters it takes. -/
def number? (cs : List Char) : Option (Token × Nat) :=
  let whole := leadingDigits cs
  match cs.drop whole.length with
  | '.' :: rest =>
    let places := leadingDigits rest
    some (.double (Double.ofDecimal false (ofDigits (whole ++ places)) (-places.length)),
      whole.length + 1 + places.length)
  | _ => (wholeNumber? whole).map fun n ↦ (.whole n, whole.length)

/-- The token at the front of a text, and how many characters it takes. -/
def token? (cs : List Char) : Option (Token × Nat) :=
  match cs with
  | [] => none
  | c :: rest =>
    if c = '+' then some (.plus, 1)
    else if c = '-' then some (.minus, 1)
    else if c = '*' then if rest.head? = some '*' then some (.power, 2) else some (.star, 1)
    else if c = '/' then if rest.head? = some '/' then some (.doubleSlash, 2) else some (.slash, 1)
    else if c = '%' then some (.percent, 1)
    else if c = '(' then some (.opening, 1)
    else if c = ')' then some (.closing, 1)
    else if c = '.' then
      if ((rest.head?.bind asciiDigit?).isSome) then number? cs
      else if rest.take 2 = ['.', '.'] then some (.ellipsis, 3)
      else none
    else if (asciiDigit? c).isSome then number? cs
    else none

/-- The most parentheses that may be open at once. -/
def maxOpen : Nat := 200

/-- The number of open parentheses after a token. -/
def depthAfter? (depth : Nat) : Token → Option Nat
  | .opening => if depth < maxOpen then some (depth + 1) else none
  | .closing => if depth = 0 then none else some (depth - 1)
  | _ => some depth

/-- Can the character stand between tokens when `depth` parentheses are open? -/
def isGap (depth : Nat) (c : Char) : Bool :=
  c == ' ' || c == '\t' || c == '\x0c' || (depth != 0 && (c == '\n' || c == '\r'))

/-- The tokens of a text up to the first place where it has none, and whether this is its end.
Before the text, `depth` parentheses are open. -/
def tokensFrom (depth : Nat) (cs : List Char) : List Token × Bool :=
  match cs with
  | [] => ([], true)
  | c :: rest =>
    if isGap depth c then tokensFrom depth rest
    else
      match token? (c :: rest) with
      | none => ([], false)
      | some (t, n) =>
        match depthAfter? depth t with
        | none => ([], false)
        | some depth =>
          let (ts, isWhole) := tokensFrom depth (rest.drop (n - 1))
          (t :: ts, isWhole)
termination_by cs.length
decreasing_by
  · simp
  · simp only [List.length_cons, List.length_drop]; omega

end Organizer.Arithmetic
