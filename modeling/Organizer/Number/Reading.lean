import Organizer.Number.Double
import Organizer.Text.Blank

/-!
# Reading a number that a person typed

`readDouble?` accepts an optional sign, digits of any script with at most one point among them, and
an optional exponent; one underscore may stand between two digits. The words `inf`, `infinity` and
`nan` are accepted in any case. Blanks around the number are ignored, except the four information
separators, which are refused here although they count as blank elsewhere.
-/

namespace Organizer.Number

open Text Double

/-- The blanks that may surround a number. -/
def isNumberBlank (c : Char) : Bool := isBlank c && !(0x1C ≤ c.toNat && c.toNat ≤ 0x1F)

/-- Cuts the blanks off both ends of a number. -/
def trimNumber (cs : List Char) : List Char :=
  ((cs.dropWhile isNumberBlank).reverse.dropWhile isNumberBlank).reverse

/-- Takes an optional sign off the front: whether it is negative, and the rest. -/
def takeSign : List Char → Bool × List Char
  | '-' :: cs => (true, cs)
  | '+' :: cs => (false, cs)
  | cs => (false, cs)

/-- Does every underscore stand between two digits? The flag tells whether a digit stands just
before the text. -/
def underscoresFit : Bool → List Char → Bool
  | _, [] => true
  | afterDigit, '_' :: cs =>
    afterDigit && (cs.head?.map isDigit).getD false && underscoresFit false cs
  | _, c :: cs => underscoresFit (isDigit c) cs

/-- The leading digits of a text, as values, and what follows them. -/
def takeDigits : List Char → List Nat × List Char
  | [] => ([], [])
  | c :: cs =>
    match digitValue? c with
    | some d => let (ds, rest) := takeDigits cs; (d :: ds, rest)
    | none => ([], c :: cs)

/-- The exponent at the end of a number: zero if there is none. -/
def readExponent? : List Char → Option Int
  | [] => some 0
  | c :: cs =>
    if c = 'e' ∨ c = 'E' then
      let (negative, cs) := takeSign cs
      match takeDigits cs with
      | (d :: ds, []) =>
        let n : Int := ofDigits (d :: ds)
        some (if negative then -n else n)
      | _ => none
    else none

/-- Reads digits, point and exponent, without sign, blanks or underscores. -/
def readUnsigned? (negative : Bool) (cs : List Char) : Option Float :=
  let (whole, rest) := takeDigits cs
  let (places, rest) :=
    match rest with
    | '.' :: rest => takeDigits rest
    | _ => ([], rest)
  if whole.isEmpty && places.isEmpty then none
  else do
    let exponent ← readExponent? rest
    return ofDecimal negative (ofDigits (whole ++ places)) (exponent - places.length)

/-- Reads a double from a text; none if the text does not spell one. -/
def readDouble? (s : String) : Option Float :=
  let (negative, cs) := takeSign (trimNumber s.toList)
  let word := String.ofList (cs.map Char.toLower)
  if word = "inf" ∨ word = "infinity" then some (infinity negative)
  else if word = "nan" then some notANumber
  else if underscoresFit false cs then readUnsigned? negative (cs.filter (· != '_'))
  else none

end Organizer.Number
