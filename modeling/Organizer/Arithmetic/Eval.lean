import Organizer.Arithmetic.Nesting
import Organizer.Number.Scientific

/-!
# Values of arithmetic expressions

Whole numbers are exact and doubles are IEEE doubles; where the two kinds meet, the whole number is
converted first, and a whole number out of the range of doubles is then a fault. A quotient is
always a double, and the quotient of two whole numbers is rounded once. The remainder takes the sign
of the divisor.

Two limits keep every expression cheap. A power is refused before it is computed if its exponent or
its estimated size is too large, and no whole number of more than `maxBits` bits is ever the value
of a subexpression. A third one refuses to write an integer of more than `maxWholeDigits` digits,
and the second keeps such an integer from coming up. All are reported as `Fault.tooLarge`; every
other fault is `Fault.invalid`.

An expression that is nested too deep comes to no end at all (`Halt.tooDeep`), which is not the same
as a fault: how deep is too deep is not a question of arithmetic.
-/

namespace Organizer.Arithmetic

open Number

/-- Why there is no result. -/
inductive Fault
  | empty
  | characters
  | invalid
  | tooLarge
  deriving DecidableEq, Repr

/-- The value of an expression. -/
inductive Value
  | whole (n : Int)
  | double (x : Float)
  deriving DecidableEq

/-- The most bits of a whole number. -/
def maxBits : Nat := 10000

/-- The largest exponent. -/
def maxExponent : Nat := 1000

namespace Value

/-- Is a whole number within the limit? Doubles always are. -/
def fits : Value → Bool
  | .whole n => n.natAbs < Nat.pow 2 maxBits
  | .double _ => true

/-- Lets a value pass if it is within the limit. -/
def bounded (v : Value) : Except Fault Value := if v.fits then .ok v else .error .tooLarge

/-- A double, unless it is infinite: then a conversion has left the range of doubles. -/
def inRange (x : Float) : Except Fault Float :=
  if Double.isFinite x then .ok x else .error .invalid

/-- The value as a double. -/
def toDouble : Value → Except Fault Float
  | .whole n => inRange (Double.ofInt n)
  | .double x => .ok x

/-- The opposite number. -/
def negate : Value → Value
  | .whole n => .whole (-n)
  | .double x => .double (-x)

/-- Combines two whole numbers exactly, and anything else as doubles. -/
def combine (whole : Int → Int → Int) (double : Float → Float → Float) (a b : Value) :
    Except Fault Value :=
  match a, b with
  | .whole m, .whole n => .ok (.whole (whole m n))
  | a, b => do return .double (double (← a.toDouble) (← b.toDouble))

/-- The quotient, always a double. -/
def quotient (a b : Value) : Except Fault Value :=
  match a, b with
  | .whole m, .whole n =>
    if n = 0 then .error .invalid
    else do
      return .double (← inRange
        (Double.nearest (decide (m < 0) != decide (n < 0)) m.natAbs n.natAbs))
  | a, b => do
    let x ← a.toDouble
    let y ← b.toDouble
    if y == 0.0 then .error .invalid else return .double (x / y)

/-- The remainder, with the sign of the divisor. -/
def remainder (a b : Value) : Except Fault Value :=
  match a, b with
  | .whole m, .whole n => if n = 0 then .error .invalid else .ok (.whole (m.fmod n))
  | a, b => do
    let x ← a.toDouble
    let y ← b.toDouble
    if y == 0.0 then .error .invalid else return .double (Double.floorMod x y)

/-! ### Powers -/

/-- Is the magnitude above a small whole number? A double that is no number is not. -/
def exceeds (v : Value) (bound : Nat) : Bool :=
  match v with
  | .whole n => bound < n.natAbs
  | .double x => Double.ofInt bound < x.abs

/-- The binary logarithm of the magnitude of a value. A whole number out of the range of doubles is
split into a fraction and a power of two. -/
def log2 : Value → Float
  | .whole n =>
    let x := Double.ofInt n.natAbs
    if Double.isFinite x then x.log2
    else
      let bits := n.natAbs.log2 + 1
      (Double.nearest false n.natAbs (Nat.pow 2 bits)).log2 + Double.ofInt bits
  | .double x => x.abs.log2

/-- The exponent as a factor of an estimate. -/
def factor : Value → Float
  | .whole n => Double.ofInt n
  | .double x => x

/-- Is a power too large to be worth computing? -/
def powerTooLarge (base exponent : Value) : Bool :=
  exponent.exceeds maxExponent ||
    base.exceeds 1 && Double.ofInt maxBits < exponent.factor * base.log2

/-- A power of doubles. Zero has no negative power, a negative number no fractional one, and a power
of finite numbers is finite. -/
def powerOfDoubles (x y : Float) : Except Fault Value :=
  if x == 0.0 && y < 0.0 then .error .invalid
  else if x < 0.0 && Double.isFinite x && Double.isFinite y && (Double.toInt? y).isNone then
    .error .invalid
  else
    let r := x.pow y
    if Double.isFinite x && Double.isFinite y && !Double.isFinite r then .error .invalid
    else .ok (.double r)

/-- A power. Whole numbers with a negative exponent are computed as doubles. -/
def power (a b : Value) : Except Fault Value :=
  if powerTooLarge a b then .error .tooLarge
  else
    match a, b with
    | .whole m, .whole (.ofNat n) => .ok (.whole (Int.pow m n))
    | a, b => do
      let x ← a.toDouble
      let y ← b.toDouble
      powerOfDoubles x y

/-- The text of a value. A double that is equal to a whole number is written as that number. -/
def text : Value → String
  | .whole n => showInt n
  | .double x =>
    match Double.toInt? x with
    | some n => showInt n
    | none => showDouble x

/-- The integer that a value is equal to, if there is one. -/
def toInt? : Value → Option Int
  | .whole n => some n
  | .double x => Double.toInt? x

/-- The text of a value, unless it would be an integer of too many digits. -/
def write (v : Value) : Except Fault String :=
  if v.toInt?.any fun n ↦ maxWholeDigits < (digits n.natAbs).length then .error .tooLarge
  else .ok v.text

end Value

/-- Applies an operator; whole division has no value. -/
def Op.apply : Op → Value → Value → Except Fault Value
  | .add => Value.combine (· + ·) (· + ·)
  | .sub => Value.combine (· - ·) (· - ·)
  | .mul => Value.combine (· * ·) (· * ·)
  | .div => Value.quotient
  | .mod => Value.remainder
  | .pow => Value.power
  | .wholeDiv => fun _ _ ↦ .error .invalid

/-! ### Expressions -/

/-- Why an evaluation stops without a result. -/
inductive Halt
  | fault (reason : Fault)
  | tooDeep
  deriving DecidableEq, Repr

/-- Stops at a fault. -/
def Halt.ofFault {α : Type} (r : Except Fault α) : Except Halt α := r.mapError .fault

/-- The most subexpressions that are evaluated inside each other. -/
def maxDepth : Nat := 990

/-- The value of an expression, when there is room for some levels of subexpressions. The left
operand comes first, and the operands of whole division are not looked at. -/
def Expr.evalWithin (room : Nat) (e : Expr) : Except Halt Value :=
  match room with
  | 0 => .error .tooDeep
  | room + 1 =>
    match e with
    | .whole n => Halt.ofFault (Value.bounded (.whole n))
    | .double x => .ok (.double x)
    | .positive e => do Halt.ofFault (Value.bounded (← e.evalWithin room))
    | .negative e => do Halt.ofFault (Value.bounded (← e.evalWithin room).negate)
    | .binary .wholeDiv _ _ => .error (.fault .invalid)
    | .binary op left right => do
      let a ← left.evalWithin room
      let b ← right.evalWithin room
      Halt.ofFault (do Value.bounded (← op.apply a b))
    | .meaningless => .error (.fault .invalid)

/-- The value of an expression. -/
def Expr.eval (e : Expr) : Except Halt Value :=
  if maxHeight < e.height then .error .tooDeep else e.evalWithin maxDepth

/-- Can the character stand in an expression at all? -/
def isAllowed (c : Char) : Bool :=
  (Text.asciiDigit? c).isSome || "+-*/%().".toList.contains c || Text.isBlank c

/-- The value of an expression as text. -/
def calculate (text : String) : Except Halt String :=
  if Text.allBlank text then .error (.fault .empty)
  else if !text.toList.all isAllowed then .error (.fault .characters)
  else
    let (ts, isWhole) := tokensFrom 0 (Text.trim text.toList)
    if overflows ts isWhole then .error .tooDeep
    else
      match if isWhole then Expr.ofTokens? ts else none with
      | none => .error (.fault .invalid)
      | some e => do Halt.ofFault (← e.eval).write

end Organizer.Arithmetic
