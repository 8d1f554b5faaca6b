import Organizer.Number.Double

/-!
# Decimal digits of a double, and their layout

Two ways to choose decimal digits for a positive quotient: `roundTo` gives a fixed number of
significant digits, `shortest` the fewest digits that read back as the same double. Both answer with
a `Scientific`, digits and a power of ten, without trailing zeros.

How such a number is written is a separate decision, held in a `Layout`: between which powers of
ten it is written positionally, whether a whole number shows its point, and the words for the values
that have no digits. Exponents always have a sign and at least two digits. The layouts in use are
`fullLayout` for exact results and files and `briefLayout` for durations in messages.
-/

namespace Organizer.Number

open Text Double

/-- Significant digits and the power of ten of the first of them. -/
structure Scientific where
  significand : Nat
  exponent : Int
  deriving DecidableEq, Repr

/-- Cuts trailing zeros off a number other than zero. -/
def dropZeros (n : Nat) : Nat :=
  if h : n ≠ 0 ∧ n % 10 = 0 then dropZeros (n / 10) else n
termination_by n
decreasing_by omega

/-- The exponent of the largest power of ten that is at most the quotient of two positive
numbers. -/
def floorLog10 (num den : Nat) : Int :=
  let guess : Int := (digits num).length - (digits den).length
  if den * Nat.pow 10 guess.toNat ≤ num * Nat.pow 10 (-guess).toNat then guess else guess - 1

/-- A positive quotient rounded to a number of significant digits, a half to the even side. -/
def roundTo (places num den : Nat) : Scientific :=
  let exponent := floorLog10 num den
  let shift : Int := places - 1 - exponent
  let n := roundDiv (num * Nat.pow 10 shift.toNat) (den * Nat.pow 10 (-shift).toNat)
  if n = Nat.pow 10 places then ⟨1, exponent + 1⟩ else ⟨dropZeros n, exponent⟩

/-! ### The fewest digits that read back -/

/-- The numbers that round to a double, counted in quarters of the distance to its upper
neighbour: the double itself, the two ends, and whether the ends belong to it. -/
structure Neighbourhood where
  centre : Nat
  low : Nat
  high : Nat
  closed : Bool

/-- The neighbourhood of the double with this mantissa and exponent. Below a power of two the
lower neighbour is twice as near, and ties go to even mantissas. -/
def neighbourhood (mantissa : Nat) (exponent : Int) : Neighbourhood where
  centre := 4 * mantissa
  low := if mantissa = Nat.pow 2 52 ∧ -1074 < exponent then 4 * mantissa - 1 else 4 * mantissa - 2
  high := 4 * mantissa + 2
  closed := mantissa % 2 == 0

/-- Does a point lie in a neighbourhood, when one unit of the neighbourhood is `unit` steps and one
unit of the point is `step`? -/
def Neighbourhood.holds (r : Neighbourhood) (unit step point : Nat) : Bool :=
  let low := r.low * unit
  let high := r.high * unit
  let p := point * step
  if r.closed then low ≤ p && p ≤ high else low < p && p < high

/-- Of the two points of a decimal grid next to a double, the nearer one that reads back. On a tie
the even one is taken. -/
def gridPoint? (r : Neighbourhood) (unit step : Nat) : Option Nat :=
  let below := r.centre * unit / step
  let nearer := roundDiv (r.centre * unit) step
  let farther := if nearer = below then below + 1 else below
  if r.holds unit step nearer then some nearer
  else if r.holds unit step farther then some farther
  else none

/-- Tries the grids of `places`, `places + 1`, … significant digits, `fuel` of them. -/
def shortestFrom (r : Neighbourhood) (q exponent : Int) : Nat → Nat → Nat
  | 0, _ => 0
  | fuel + 1, places =>
    let power : Int := exponent - (places - 1)
    let unit := Nat.pow 2 (q - 2).toNat * Nat.pow 10 (-power).toNat
    let step := Nat.pow 2 (2 - q).toNat * Nat.pow 10 power.toNat
    match gridPoint? r unit step with
    | some n => n * Nat.pow 10 (17 - places)
    | none => shortestFrom r q exponent fuel (places + 1)

/-- The fewest digits that read back as the double with this positive mantissa and exponent.
Seventeen digits always do. -/
def shortest (mantissa : Nat) (q : Int) : Scientific :=
  let exponent := floorLog10 (mantissa * Nat.pow 2 q.toNat) (Nat.pow 2 (-q).toNat)
  let n := shortestFrom (neighbourhood mantissa q) q exponent 17 1
  if n = Nat.pow 10 17 then ⟨1, exponent + 1⟩ else ⟨dropZeros n, exponent⟩

/-! ### Layout -/

/-- How a decimal number is written. -/
structure Layout where
  /-- Numbers of at least this power of ten carry an exponent. -/
  positionalBelow : Int
  /-- Does a whole number end in a point and a zero? -/
  showsPoint : Bool
  /-- The word for infinity. -/
  infinite : String
  /-- The word for what is no number. -/
  undefined : String

/-- Exact results: positional below 10^16, and always recognisable as a double. -/
def fullLayout : Layout := ⟨16, true, "inf", "nan"⟩

/-- Durations in messages: positional below 10^6, and no point where none is needed. -/
def briefLayout : Layout := ⟨6, false, "inf", "nan"⟩

/-- An exponent with its sign and at least two digits. -/
def writeExponent (e : Int) : List Char :=
  let n := writeNat e.natAbs
  (if e < 0 then '-' else '+') :: (if n.length < 2 then '0' :: n else n)

/-- Writes digits with a power of ten. Below 10^-4 there is always an exponent. -/
def Scientific.write (l : Layout) (x : Scientific) : List Char :=
  let ds := writeNat x.significand
  if -4 ≤ x.exponent ∧ x.exponent < l.positionalBelow then
    if x.exponent < 0 then
      '0' :: '.' :: (List.replicate (-x.exponent - 1).toNat '0' ++ ds)
    else
      let whole := x.exponent.toNat + 1
      if ds.length ≤ whole then
        ds ++ List.replicate (whole - ds.length) '0' ++ (if l.showsPoint then ['.', '0'] else [])
      else ds.take whole ++ '.' :: ds.drop whole
  else
    (match ds with
      | [d] => [d]
      | d :: r => d :: '.' :: r
      | [] => []) ++ 'e' :: writeExponent x.exponent

/-- Writes a double with digits chosen by `choose`, which gets the mantissa and the exponent. -/
def writeDoubleWith (l : Layout) (choose : Nat → Int → Scientific) (x : Float) : List Char :=
  match decode x with
  | .notANumber => l.undefined.toList
  | .infinite negative => (if negative then ['-'] else []) ++ l.infinite.toList
  | .finite negative m q =>
    (if negative then ['-'] else []) ++
      if m = 0 then (Scientific.mk 0 0).write l else (choose m q).write l

/-- The text of a double: the fewest digits that read back. -/
def showDouble (x : Float) : String :=
  String.ofList (writeDoubleWith fullLayout shortest x)

/-- The text of a double to six significant digits. -/
def showBrief (x : Float) : String :=
  String.ofList (writeDoubleWith briefLayout
    (fun m q ↦ roundTo 6 (m * Nat.pow 2 q.toNat) (Nat.pow 2 (-q).toNat)) x)

end Organizer.Number
