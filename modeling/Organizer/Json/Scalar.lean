import Organizer.Number.Scientific
import Organizer.Text.CodePoint

/-!
# Scalars

The JSON values without parts: null, truth values, numbers and texts. They are also what can name a
field of an object. Names are nearly always texts, but an object that is made from pairs may have
other names, and keeps them apart until it is written.

Two scalars are `alike` if they are equal by value: numbers are compared whatever their kind, true
counting as one and false as zero. For this comparison the double that is no number is like itself.
-/

namespace Organizer

open Number Text

/-- A value without parts. Whole numbers and doubles are kept apart, since they are written
differently. -/
inductive Scalar
  | null
  | bool (b : Bool)
  | int (n : Int)
  | double (x : Float)
  | text (s : String)
  /-- A text that holds lone halves of surrogate pairs. -/
  | torn (points : List CodePoint)
  deriving DecidableEq, Inhabited

instance : Coe String Scalar := ⟨.text⟩

/-- The longest whole number that is read or turned into text may have this many digits. -/
def Json.maxDigits : Nat := 4300

namespace Scalar

/-! ### Texts -/

/-- The text of code points. -/
def ofPoints (ps : List CodePoint) : Scalar :=
  match ps.mapM CodePoint.char? with
  | some cs => .text (String.ofList cs)
  | none => .torn ps

@[simp] theorem ofPoints_map_char (cs : List Char) :
    ofPoints (cs.map .char) = .text (String.ofList cs) := by
  rw [ofPoints, CodePoint.mapM_char?_map_char]

/-- The code points, if the scalar is a text. -/
def points? : Scalar → Option (List CodePoint)
  | .text s => some (s.toList.map .char)
  | .torn ps => some ps
  | _ => none

/-- Is the scalar a text? -/
def isText : Scalar → Bool
  | .text _ | .torn _ => true
  | _ => false

/-- Is the scalar a text that cannot be written? -/
def isTorn : Scalar → Bool
  | .torn _ => true
  | _ => false

/-- Can the scalar be turned into text? A whole number of too many digits cannot. -/
def isShowable : Scalar → Bool
  | .int n => (digits n.natAbs).length ≤ Json.maxDigits
  | _ => true

/-- Can the scalar be written to a file? A torn text has no encoding, and a whole number of too many
digits is not turned into text. -/
def isWritable : Scalar → Bool
  | .torn _ => false
  | .int n => (digits n.natAbs).length ≤ Json.maxDigits
  | _ => true

/-- The text as it is shown, if the scalar is one. -/
def shown? : Scalar → Option String
  | .text s => some s
  | .torn ps => some (String.ofList (ps.map CodePoint.shown))
  | _ => none

/-- Is the scalar nothing: null, false, zero or the empty text? -/
def isNothing : Scalar → Bool
  | .null => true
  | .bool b => !b
  | .int n => n == 0
  | .double x => x == 0.0
  | .text s => s.isEmpty
  | .torn ps => ps.isEmpty

/-! ### Numbers -/

/-- Compares an integer with a double by value; undefined if the double is no number. -/
def compareIntDouble (n : Int) (x : Float) : Option Ordering :=
  match Double.decode x with
  | .notANumber => none
  | .infinite negative => some (if negative then .gt else .lt)
  | .finite negative m e =>
    let v : Int := m * Nat.pow 2 e.toNat
    some (compare (n * Nat.pow 2 (-e).toNat) (if negative then -v else v))

/-- Compares two doubles by value; undefined if one is no number. -/
def compareDoubles (x y : Float) : Option Ordering :=
  if x < y then some .lt else if y < x then some .gt else if x == y then some .eq else none

/-- The number that a scalar is: true is one and false is zero. -/
inductive Numeric
  | whole (n : Int)
  | double (x : Float)

/-- The number that a scalar is, if it is one. -/
def number? : Scalar → Option Numeric
  | .bool b => some (.whole (if b then 1 else 0))
  | .int n => some (.whole n)
  | .double x => some (.double x)
  | _ => none

/-- Compares two numbers by value; undefined if one is a double that is no number. -/
def Numeric.compare : Numeric → Numeric → Option Ordering
  | .whole m, .whole n => some (Ord.compare m n)
  | .whole m, .double y => compareIntDouble m y
  | .double x, .whole n => (compareIntDouble n x).map Ordering.swap
  | .double x, .double y => compareDoubles x y

/-- Is the scalar the double that is no number? -/
def isUndefined : Scalar → Bool
  | .double x => Double.decode x == .notANumber
  | _ => false

/-! ### Comparison by value -/

/-- Are two scalars equal by value? -/
def alike (a b : Scalar) : Bool :=
  match a.number?, b.number? with
  | some x, some y => x.compare y == some .eq || a.isUndefined && b.isUndefined
  | _, _ => a == b

/-- Does one scalar come before another? Texts are ordered by code points and numbers by value;
other scalars have no order. The double that is no number comes before nothing. -/
def before? (a b : Scalar) : Option Bool :=
  match a, b with
  | .text s, .text t => some (decide (s < t))
  | _, _ =>
    match a.points?, b.points?, a.number?, b.number? with
    | some ps, some qs, _, _ => some (CodePoint.before ps qs)
    | _, _, some x, some y => some (x.compare y == some .lt)
    | _, _, _, _ => none

end Scalar

end Organizer
