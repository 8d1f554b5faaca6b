import Organizer.Number.Decimal

/-!
# Doubles as exact numbers

A finite double is a sign, a whole mantissa below 2^53 and a power of two. `decode` reads these
parts off the bit pattern and `nearest` goes back: it gives the double that lies closest to a
quotient of natural numbers, a tie going to the even mantissa, and infinity past the range. All
conversions in the library (whole numbers, decimal texts, quotients) are instances of `nearest`, so
each rounds exactly once.

Sums, products and quotients of doubles are the machine's own; the remainder is computed here.
-/

namespace Organizer.Double

open Number

/-- What a double stands for. A finite one is the mantissa times two to the exponent. -/
inductive Value
  | finite (negative : Bool) (mantissa : Nat) (exponent : Int)
  | infinite (negative : Bool)
  | notANumber
  deriving DecidableEq, Repr

/-- The value that the bit pattern of a double encodes. -/
def decode (x : Float) : Value :=
  let bits : Nat := x.toBits.toNat
  let negative := bits / Nat.pow 2 63 == 1
  let biased : Nat := bits / Nat.pow 2 52 % Nat.pow 2 11
  let fraction : Nat := bits % Nat.pow 2 52
  if biased = 2047 then
    if fraction = 0 then .infinite negative else .notANumber
  else if biased = 0 then .finite negative fraction (-1074)
  else .finite negative (Nat.pow 2 52 + fraction) ((biased : Int) - 1075)

/-- Two to a power, as a numerator. -/
def scaleUp (e : Int) : Nat := Nat.pow 2 e.toNat

/-- Two to a power, as a denominator. -/
def scaleDown (e : Int) : Nat := Nat.pow 2 (-e).toNat

/-- The exponent of the largest power of two that is at most the quotient of two positive
numbers. -/
def floorLog2 (num den : Nat) : Int :=
  let guess : Int := num.log2 - den.log2
  if den * scaleUp guess ≤ num * scaleDown guess then guess else guess - 1

/-- The bit pattern of the double nearest to a quotient, for a positive denominator. The mantissa
and the exponent are added, not joined, so that a mantissa rounded up to 2^53 carries into the
exponent, and past the largest exponent into infinity. -/
def nearestBits (num den : Nat) : Nat :=
  if num = 0 then 0
  else
    let exponent := max (floorLog2 num den - 52) (-1074)
    let mantissa := roundDiv (num * scaleDown exponent) (den * scaleUp exponent)
    min (2047 * Nat.pow 2 52) ((exponent + 1074).toNat * Nat.pow 2 52 + mantissa)

/-- The bit that marks a negative double. -/
def signBit (negative : Bool) : Nat := if negative then Nat.pow 2 63 else 0

/-- An infinite double. -/
def infinity (negative : Bool) : Float :=
  Float.ofBits (UInt64.ofNat (2047 * Nat.pow 2 52 + signBit negative))

/-- The double that stands for no number. -/
def notANumber : Float := Float.ofBits (UInt64.ofNat (2047 * Nat.pow 2 52 + Nat.pow 2 51))

/-- The double nearest to a quotient with the given sign. -/
def nearest (negative : Bool) (num den : Nat) : Float :=
  Float.ofBits (UInt64.ofNat (nearestBits num den + signBit negative))

/-- The double nearest to an integer; infinite if the integer is out of range. -/
def ofInt (n : Int) : Float := nearest (decide (n < 0)) n.natAbs 1

/-- The double nearest to a whole number times a power of ten. Exponents that put the value
certainly out of range are answered at once. -/
def ofDecimal (negative : Bool) (n : Nat) (exponent : Int) : Float :=
  let top := exponent + (digits n).length
  if n = 0 ∨ top < -330 then nearest negative 0 1
  else if 310 < top then infinity negative
  else nearest negative (n * Nat.pow 10 exponent.toNat) (Nat.pow 10 (-exponent).toNat)

/-- Is the double neither infinite nor undefined? -/
def isFinite (x : Float) : Bool :=
  match decode x with
  | .finite .. => true
  | _ => false

/-- The integer that a double is equal to, if there is one. -/
def toInt? (x : Float) : Option Int :=
  match decode x with
  | .finite negative m e =>
    if m * scaleUp e % scaleDown e = 0 then
      let n : Int := (m * scaleUp e / scaleDown e : Nat)
      some (if negative then -n else n)
    else none
  | _ => none

/-- The remainder of a division of doubles, with the sign of the divisor. The divisor is not
zero. -/
def floorMod (x y : Float) : Float :=
  match decode x, decode y with
  | .finite xneg m e, .finite yneg n f =>
    let low := min e f
    let r := m * scaleUp (e - low) % (n * scaleUp (f - low))
    if r = 0 then nearest yneg 0 1
    else
      let part := nearest xneg (r * scaleUp low) (scaleDown low)
      if xneg = yneg then part else part + y
  | .finite xneg m _, .infinite yneg =>
    if m = 0 then nearest yneg 0 1 else if xneg = yneg then x else y
  | _, _ => notANumber

end Organizer.Double
